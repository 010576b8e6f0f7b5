import ParkFusion.Proofs.Retries
import ParkFusion.Proofs.Sessions

namespace ParkFusion

open Quota

namespace Session

variable {service : Service} {α : Type} {g : Governor} {t t₁ t₂ t₃ : Session service} {f : Failure}
variable {request? : Option Http.Request} {decode : Document → Option α} {x : Exchange}
variable {result : Except Failure α} {log tries tries' : List Exchange}

def violate (g : Governor) (t : Session service) : Session service :=
  { t with memory := { t.memory with store := g.recordViolation t.now t.store } }

/-- No exchange follows one that exceeds the quota, and such a one leaves the source blocked. -/
structure Halts (g : Governor) (t' : Session service) (log : List Exchange) : Prop where
  last : log.Pairwise fun x _ ↦ x.exceedsQuota = false
  lease : ∀ x ∈ log, x.exceedsQuota → g.lease t'.store = some ⟨"429", t'.now + g.block⟩

/-- What comes of tries to get a value under a governor. -/
structure Tries (g : Governor) (request? : Option Http.Request) (decode : Document → Option α)
    (t : Session service) (result : Except Failure α) (t' : Session service)
    (tries : List Exchange) : Prop extends Halts g t' tries where
  log : t'.log = t.log ++ tries
  sent : ∀ x ∈ tries, request? = some x.request
  value : result.toOption = tries.findSome? (·.value? g.source decode)
  exceeded : ∀ x ∈ tries, x.exceedsQuota → result = .error (.quotaExceeded g.source g.block)
  asked : g.Ready t.now t.store → request?.isSome → tries ≠ []
  ready : g.Ready t.now t.store → (∀ x ∈ tries, x.exceedsQuota = false) → g.Ready t'.now t'.store

/-- So many tries at most are made, from any state. -/
def Asks (g : Governor) (request? : Option Http.Request) (decode : Document → Option α)
    (count : Nat) (action : Call service α) : Prop :=
  ∀ t, ∃ tries : List Exchange, tries.length ≤ count ∧
    Tries g request? decode t (action.run t).1 (action.run t).2 tries

theorem Halts.append (h : Halts g t₁ log) (hnone : ∀ x ∈ log, x.exceedsQuota = false)
    (h' : Halts g t₂ tries) : Halts g t₂ (log ++ tries) := by
  refine ⟨List.pairwise_append.mpr ⟨h.last, h'.last, fun x hx _ _ ↦ hnone x hx⟩, ?_⟩
  intro x hx hexceeds
  rcases List.mem_append.mp hx with hx | hx
  · exact absurd hexceeds (Bool.eq_false_iff.mp (hnone x hx))
  · exact h'.lease x hx hexceeds

theorem Tries.none (hlog : t₁.log = t.log)
    (hready : g.Ready t.now t.store → request? = none ∧ g.Ready t₁.now t₁.store) :
    Tries g request? decode t (.error f) t₁ [] where
  last := .nil
  lease := nofun
  log := by rw [hlog, List.append_nil]
  sent := nofun
  value := rfl
  exceeded := nofun
  asked h hsome := by
    rw [(hready h).1] at hsome
    cases hsome
  ready h _ := (hready h).2

theorem Tries.one (hlog : t₁.log = t.log ++ [x]) (hsent : request? = some x.request)
    (hvalue : result.toOption = x.value? g.source decode)
    (hexceeded : x.exceedsQuota → result = .error (.quotaExceeded g.source g.block) ∧
      g.lease t₁.store = some ⟨"429", t₁.now + g.block⟩)
    (hready : g.Ready t.now t.store → x.exceedsQuota = false → g.Ready t₁.now t₁.store) :
    Tries g request? decode t result t₁ [x] where
  last := List.pairwise_singleton ..
  lease := List.forall_mem_singleton.mpr fun h ↦ (hexceeded h).2
  log := hlog
  sent := List.forall_mem_singleton.mpr hsent
  value := by rw [List.findSome?_singleton, hvalue]
  exceeded := List.forall_mem_singleton.mpr fun h ↦ (hexceeded h).1
  asked _ _ := List.cons_ne_nil x []
  ready h hnone := hready h (hnone x List.mem_cons_self)

theorem Tries.not_exceeded {a : α} (h : Tries g request? decode t (.ok a) t₁ tries) :
    ∀ x ∈ tries, x.exceedsQuota = false := fun x hx ↦
  Bool.eq_false_iff.mpr fun hexceeds ↦ nomatch h.exceeded x hx hexceeds

/-- What comes of tries after a failure that may pass. -/
theorem Tries.append (h : Tries g request? decode t (.error f) t₁ tries) (hf : f.isTransient)
    {delay : Nat} (h' : Tries g request? decode (t₁.wait delay) result t₂ tries') :
    Tries g request? decode t result t₂ (tries ++ tries') := by
  have hnone : ∀ x ∈ tries, x.exceedsQuota = false := by
    intro x hx
    by_contra hexceeds
    obtain rfl := Except.error.inj (h.exceeded x hx (Bool.eq_true_of_not_eq_false hexceeds))
    cases hf
  refine ⟨h.toHalts.append hnone h'.toHalts, ?_, ?_, ?_, ?_, ?_, ?_⟩
  · have hlog : t₂.log = t₁.log ++ tries' := h'.log
    rw [hlog, h.log, List.append_assoc]
  · exact List.forall_mem_append.mpr ⟨h.sent, h'.sent⟩
  · rw [List.findSome?_append, ← h.value, ← h'.value]
    rfl
  · intro x hx hexceeds
    rcases List.mem_append.mp hx with hx | hx
    · exact absurd hexceeds (Bool.eq_false_iff.mp (hnone x hx))
    · exact h'.exceeded x hx hexceeds
  · exact fun hready hsome ↦ List.append_ne_nil_of_left_ne_nil (h.asked hready hsome) tries'
  · intro hready hnone'
    have hwaited : g.Ready (t₁.wait delay).now (t₁.wait delay).store :=
      (h.ready hready hnone).mono (Nat.le_add_right _ delay)
    exact h'.ready hwaited (List.forall_mem_append.mp hnone').2

/-- Tries that follow, and do nothing while the source is blocked. -/
theorem Halts.append_tries (hblock : 0 < g.block) (h : Halts g t₁ log)
    (h' : Tries g request? decode t₁ result t₂ tries)
    (hidle : ¬ g.IsOpen t₁.now t₁.store → t₂ = t₁) : Halts g t₂ (log ++ tries) := by
  by_cases hexceeded : ∃ x ∈ log, x.exceedsQuota
  · obtain ⟨x, hx, hexceeds⟩ := hexceeded
    have hlease := h.lease x hx hexceeds
    obtain rfl : t₂ = t₁ := hidle fun hopen ↦ by
      have hexpired := hopen _ hlease
      dsimp only at hexpired
      omega
    obtain rfl : tries = [] := List.self_eq_append_right.mp h'.log
    rw [List.append_nil]
    exact h
  · exact h.append (fun x hx ↦ Bool.eq_false_iff.mpr fun hexceeds ↦
      hexceeded ⟨x, hx, hexceeds⟩) h'.toHalts

theorem lease_violate (h : g.IsOpen t.now t.store) :
    g.lease (t.violate g).store = some ⟨"429", t.now + g.block⟩ := by
  change g.lease (g.recordViolation t.now t.store) = _
  rw [Governor.recordViolation_of_isOpen h, Governor.lease, Store.lookup_insert, if_pos rfl]

theorem call_asks {c : Http.Client} (hsource : c.source = g.source) (path : String)
    (headers : List (String × String)) (decode : Document → Option α) :
    Asks g (c.request? path headers) decode 1
      (g.call (c.get decode path headers) : Call service α) := by
  intro t
  obtain ⟨acquired, now, memory, hacquire, hopen, hready⟩ := g.acquire_ends t
  let t₁ : Session service := { t with now, memory }
  cases acquired with
  | error f =>
    rw [Governor.call_of_refused hacquire]
    exact ⟨[], Nat.zero_le 1, .none rfl fun h ↦ absurd (hready h).1 nofun⟩
  | ok _ =>
    cases hrequest : c.request? path headers with
    | none =>
      obtain ⟨reason, hget⟩ := Http.Client.session_get_of_none hrequest decode t₁
      rw [Governor.call_of_unblocked hacquire hget fun f hf ↦ by cases hf; rfl]
      exact ⟨[], Nat.zero_le 1, .none rfl fun h ↦ ⟨rfl, (hready h).2⟩⟩
    | some request =>
      have hget := Http.Client.session_get_of_some hrequest decode t₁
      rw [hsource] at hget
      have hlate : now ≤ (t₁.after request).now := Nat.le_add_right now _
      refine ⟨[t₁.exchange request], Nat.le_refl 1, ?_⟩
      cases hexceeds : (t₁.exchange request).exceedsQuota with
      | false =>
        rw [Governor.call_of_unblocked hacquire hget fun f hf ↦
          (Exchange.isBlocked_of_result hf).trans hexceeds]
        exact .one rfl rfl rfl (fun h ↦ absurd (hexceeds.symm.trans h) nofun)
          fun h _ ↦ (hready h).2.mono hlate
      | true =>
        obtain ⟨f, hf⟩ := Exchange.result_of_exceedsQuota hexceeds g.source decode
        rw [hf] at hget
        have hblocked : f.isBlocked := (Exchange.isBlocked_of_result hf).trans hexceeds
        -- A lease that had expired before the request was sent has expired when the reply is there.
        have hopen' : g.IsOpen (t₁.after request).now (t₁.after request).store := fun e he ↦
          (hopen rfl e he).trans hlate
        rw [Governor.call_of_blocked hacquire hget hblocked]
        exact .one rfl rfl (by rw [Exchange.value?, hf]; rfl)
          (fun _ ↦ ⟨rfl, lease_violate hopen'⟩)
          fun _ h ↦ absurd (hexceeds.symm.trans h) nofun

theorem persist_asks {attempt : Call service α} (h : Asks g request? decode 1 attempt)
    (left delay : Nat) : Asks g request? decode (left + 1) (Backoff.persist attempt left delay) := by
  induction left generalizing delay with
  | zero => exact h
  | succ left ih =>
    intro t
    obtain ⟨tries, hlength, htries⟩ := h t
    rcases hattempt : attempt.run t with ⟨result, t₁⟩
    rw [hattempt] at htries
    dsimp only at htries
    cases hpasses : Backoff.mayPass result with
    | true =>
      obtain ⟨f, rfl, hf⟩ := Backoff.exists_of_mayPass hpasses
      rw [Backoff.persist_of_transient hattempt hf]
      obtain ⟨tries', hlength', htries'⟩ := ih (2 * delay) (t₁.wait delay)
      refine ⟨tries ++ tries', ?_, htries.append hf htries'⟩
      rw [List.length_append]
      omega
    | false =>
      rw [Backoff.persist_of_final hattempt hpasses]
      exact ⟨tries, by omega, htries⟩

end Session

end ParkFusion
