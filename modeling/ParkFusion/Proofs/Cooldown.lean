import Mathlib.Data.List.Induction
import ParkFusion.Proofs.Breaker

namespace ParkFusion.Quota

theorem Governor.access_of_lease {g : Governor} {store : Store} {e : Entry}
    (he : g.lease store = some e) (now : Nat) :
    g.access now store = if now < e.expiry then .blocked (e.expiry - now) else .unblocked := by
  have hlookup : store.entries.lookup g.leaseKey = some e := he
  unfold access Store.ttl Store.live? Store.isLive
  rw [hlookup]
  by_cases hlive : now < e.expiry <;> simp [hlive, Option.filter]

namespace Fleet

variable {ι α : Type} [DecidableEq ι] {g : ι → Governor} {s s' : Fleet ι α} {i j : ι}
variable {a : Action ι α} {actions : List (Action ι α)} {e : Entry} {source : String} {block : Nat}

/-- A governor of the source, with its block, learns by the action that the quota was exceeded. -/
def Exceeds (g : ι → Governor) (s : Fleet ι α) (source : String) (a : Action ι α) (block : Nat) :
    Prop :=
  s.Enabled a ∧ ∃ i, a.violator? = some i ∧ (g i).source = source ∧ (g i).block = block

/-- No governor of the source learns from the time on that the quota was exceeded. -/
def QuietSince (g : ι → Governor) (time : Nat) (source : String) (s : Fleet ι α)
    (actions : List (Action ι α)) : Prop :=
  ∀ before a after block, actions = before ++ a :: after →
    (s.run g before).Exceeds g source a block → (s.run g before).now < time

theorem Exceeds.store_step (h : s.Exceeds g source a block) :
    ∃ j, (g j).source = source ∧ (g j).block = block ∧
      (s.step g a).store = (g j).recordViolation s.now s.store := by
  obtain ⟨henabled, j, hj, hsource, hblock⟩ := h
  refine ⟨j, hsource, hblock, ?_⟩
  cases a with
  | advance duration => cases hj
  | act i => cases hj
  | violate i =>
    obtain rfl : i = j := Option.some.inj hj
    rfl
  | finish i result =>
    have hrunning : s.phase i = .running := henabled
    cases result with
    | ok a => cases hj
    | error f =>
      by_cases hf : f.isBlocked
      · have hi : (Action.finish (α := α) i (.error f)).violator? = some i := if_pos hf
        obtain rfl : i = j := Option.some.inj (hi.symm.trans hj)
        rw [step, hrunning]
        dsimp only
        rw [finish, if_pos hf]
        rfl
      · have hi : (Action.finish (α := α) i (.error f)).violator? = none := if_neg hf
        cases hi.symm.trans hj

theorem Exceeds.lease_step (h : s.Exceeds g (g i).source a block)
    (ho : (g i).IsOpen s.now s.store) :
    (g i).lease (s.step g a).store = some ⟨"429", s.now + block⟩ := by
  obtain ⟨j, hsource, rfl, hstore⟩ := h.store_step
  have hj : (g j).IsOpen s.now s.store := fun e he ↦
    ho e ((Governor.lease_congr hsource s.store).symm.trans he)
  rw [hstore, Governor.recordViolation_of_isOpen hj, ← Governor.lease_congr hsource]
  unfold Governor.lease
  rw [Store.lookup_insert, if_pos rfl]

theorem Exceeds.store_of_lease (h : s.Exceeds g (g i).source a block)
    (he : (g i).lease s.store = some e) (hlive : s.now < e.expiry) :
    (s.step g a).store = s.store := by
  obtain ⟨j, hsource, -, hstore⟩ := h.store_step
  have hj : (g j).lease s.store = some e := (Governor.lease_congr hsource s.store).trans he
  rw [hstore, Governor.recordViolation_of_lease hj hlive]

/-- All but the news of an exceeded quota leaves the lease of a source alone. -/
theorem lease_step_of_not_exceeds (h : ∀ block, ¬ s.Exceeds g (g i).source a block) :
    (g i).lease (s.step g a).store = (g i).lease s.store := by
  have hviolate : ∀ j, s.Enabled a → a.violator? = some j →
      (g i).lease ((g j).recordViolation s.now s.store) = (g i).lease s.store := by
    intro j henabled hj
    apply Governor.lease_recordViolation
    intro hsource
    exact h (g j).block ⟨henabled, j, hj, hsource, rfl⟩
  have hstep := step_is g s a
  generalize s.step g a = s' at hstep ⊢
  cases hstep with
  | @compete j _ => exact Governor.lease_contend ..
  | @exceed j f hrunning hf => exact hviolate j hrunning (if_pos hf)
  | violate j => exact hviolate j trivial rfl
  | _ => rfl

theorem QuietSince.tail {time : Nat} (h : QuietSince g time source s (a :: actions)) :
    QuietSince g time source (s.step g a) actions := by
  intro before b after block hactions
  exact h (a :: before) b after block (by rw [hactions, List.cons_append])

/-- A lease stays until the quota is exceeded at its expiry or later. -/
theorem QuietSince.lease_run (h : QuietSince g e.expiry (g i).source s actions)
    (he : (g i).lease s.store = some e) : (g i).lease (s.run g actions).store = some e := by
  induction actions generalizing s with
  | nil => exact he
  | cons a actions ih =>
    refine ih h.tail ?_
    by_cases hlive : s.now < e.expiry
    · exact Fleet.lease_step he hlive a
    · rw [lease_step_of_not_exceeds, he]
      intro block hexceeds
      exact hlive (h [] a actions block rfl hexceeds)

/-- A lease goes back to the first action, since the lease before it was over, by which a governor
learnt that the quota was exceeded. -/
theorem exists_begin (g : ι → Governor) (start : Nat) (history : List (Action ι α))
    (he : (g i).lease (run g { now := start } history).store = some e) :
    ∃ before a after block, history = before ++ a :: after ∧
      (run g { now := start } before).Exceeds g (g i).source a block ∧
      (g i).IsOpen (run g { now := start } before).now (run g { now := start } before).store ∧
      e = ⟨"429", (run g { now := start } before).now + block⟩ ∧
      ∀ between rest, after = between ++ rest →
        (g i).lease (run g { now := start } (before ++ a :: between)).store = some e := by
  induction history using List.reverseRecOn with
  | nil => cases he
  | append_singleton history b ih =>
    let s : Fleet ι α := run g { now := start } history
    have hrun : run g { now := start } (history ++ [b]) = s.step g b := run_append ..
    have hend : (g i).lease (s.step g b).store = some e := hrun ▸ he
    by_cases hsame : (g i).lease s.store = some e
    · obtain ⟨before, a, after, block, hhistory, hexceeds, hopen, hentry, hstays⟩ := ih hsame
      refine ⟨before, a, after ++ [b], block, by simp [hhistory], hexceeds, hopen, hentry, ?_⟩
      intro between rest hafter
      rcases List.eq_nil_or_concat rest with rfl | ⟨rest, c, rfl⟩
      · obtain rfl : after ++ [b] = between := by simpa using hafter
        rw [← List.cons_append, ← List.append_assoc, ← hhistory]
        exact he
      · have hinit : after ++ [b] = (between ++ rest) ++ [c] := by simpa using hafter
        exact hstays between rest (List.append_inj_left' hinit rfl)
    · have hnew : ∃ block, s.Exceeds g (g i).source b block := by
        by_contra hnone
        exact hsame ((lease_step_of_not_exceeds (not_exists.mp hnone)).symm.trans hend)
      obtain ⟨block, hexceeds⟩ := hnew
      have hopen : (g i).IsOpen s.now s.store := by
        intro e' he'
        by_contra hlive
        have hkept := Fleet.lease_step he' (Nat.lt_of_not_le hlive) b
        exact hsame (he'.trans (hkept.symm.trans hend))
      refine ⟨history, b, [], block, rfl, hexceeds, hopen, ?_, ?_⟩
      · exact Option.some.inj (hend.symm.trans (hexceeds.lease_step hopen))
      · intro between rest hafter
        obtain ⟨rfl, rfl⟩ : between = [] ∧ rest = [] := List.append_eq_nil_iff.mp hafter.symm
        exact he

/-- A lease is the one that the first violation since the lease before began, and every governor of
its source is blocked until it expires, whatever else is reported meanwhile. -/
structure Cooldown (g : ι → Governor) (start : Nat) (history : List (Action ι α)) (i : ι)
    (e : Entry) : Prop where
  begun : ∃ before a after block, history = before ++ a :: after ∧
    (run g { now := start } before).Exceeds g (g i).source a block ∧
    (g i).IsOpen (run g { now := start } before).now (run g { now := start } before).store ∧
    e = ⟨"429", (run g { now := start } before).now + block⟩ ∧
    ∀ between rest, after = between ++ rest →
      (g i).lease (run g { now := start } (before ++ a :: between)).store = some e
  unmoved (later : List (Action ι α)) :
    let t := run g { now := start } (history ++ later)
    t.now < e.expiry → (g i).lease t.store = some e ∧
      ∀ a block, t.Exceeds g (g i).source a block → (t.step g a).store = t.store
  reported (later : List (Action ι α)) :
    QuietSince g e.expiry (g i).source (run g { now := start } history) later →
      let t := run g { now := start } (history ++ later)
      ∀ j, (g j).source = (g i).source → (g j).access t.now t.store =
        if t.now < e.expiry then .blocked (e.expiry - t.now) else .unblocked

theorem lease_neverExtended (g : ι → Governor) (start : Nat) (history : List (Action ι α)) (i : ι) :
    let s : Fleet ι α := run g { now := start } history
    (∀ e, (g i).lease s.store = some e → Cooldown g start history i e) ∧
    (∀ a, (∀ block, ¬ s.Exceeds g (g i).source a block) →
      (g i).lease (s.step g a).store = (g i).lease s.store) ∧
    (∀ a block, s.Exceeds g (g i).source a block → (g i).IsOpen s.now s.store →
      (g i).lease (s.step g a).store = some ⟨"429", s.now + block⟩) := by
  intro s
  refine ⟨fun e he ↦ ⟨exists_begin g start history he, ?_, ?_⟩, ?_, ?_⟩
  · intro later t hlive
    have hlater : t = s.run g later := run_append ..
    rw [hlater] at hlive ⊢
    have hkept := lease_run he hlive
    exact ⟨hkept, fun a block h ↦ h.store_of_lease hkept hlive⟩
  · intro later hquiet t j hsource
    have hlater : t = s.run g later := run_append ..
    have hkept : (g i).lease t.store = some e := hlater ▸ hquiet.lease_run he
    exact Governor.access_of_lease ((Governor.lease_congr hsource t.store).trans hkept) t.now
  · exact fun a h ↦ lease_step_of_not_exceeds h
  · exact fun a block h ho ↦ h.lease_step ho

section Rivals

/-- Governors of one source, each with a longer block than the one before. -/
def rivals (i : Nat) : Governor :=
  .ofQuota "wartezeiten" 5 (60000 * (i + 1)) i

/-- Two requests are on their way when one of them is answered that the quota was exceeded. -/
def overrun : List (Action Nat Unit) :=
  [.act 0, .act 0, .act 1, .act 1, .finish 1 (.error (.quotaExceeded "wartezeiten" 0))]

theorem lease_neverExtended_rivals :
    let e : Entry := ⟨"429", 120000⟩
    let t := run rivals { now := 0 } (overrun ++ [.advance 30000])
    let u := run rivals { now := 0 } (overrun ++ [.advance 120000])
    let late : Action Nat Unit := .finish 0 (.error (.quotaExceeded "wartezeiten" 7000))
    Cooldown rivals 0 overrun 1 e ∧
    (t.now < e.expiry ∧ t.Exceeds rivals "wartezeiten" late 60000 ∧
      (t.step rivals late).store = t.store) ∧
    (e.expiry ≤ u.now ∧ (rivals 4).access u.now u.store = .unblocked) ∧
    (u.Exceeds rivals "wartezeiten" (.violate 4) 300000 ∧
      (rivals 1).lease (u.step rivals (.violate 4)).store = some ⟨"429", 420000⟩) := by
  intro e t u late
  obtain ⟨hheld, -, -⟩ := lease_neverExtended rivals 0 overrun 1
  obtain ⟨-, -, hbegins⟩ := lease_neverExtended rivals 0 (overrun ++ [.advance 120000]) 1
  have hcooldown : Cooldown rivals 0 overrun 1 e := hheld e (by decide +kernel)
  have hlive : t.now < e.expiry := by decide +kernel
  have hlate : t.Exceeds rivals "wartezeiten" late 60000 := ⟨rfl, 0, rfl, rfl, rfl⟩
  have hover : e.expiry ≤ u.now := by decide +kernel
  have hviolate : u.Exceeds rivals "wartezeiten" (.violate 4) 300000 :=
    ⟨trivial, 4, rfl, rfl, rfl⟩
  have hquiet : QuietSince rivals e.expiry "wartezeiten" (run rivals { now := 0 } overrun)
      [.advance 120000] := by
    rintro before a after block hactions ⟨-, j, hj, -⟩
    have ha : a ∈ [(.advance 120000 : Action Nat Unit)] := hactions ▸ by simp
    obtain rfl := List.mem_singleton.mp ha
    cases hj
  have hopen : (rivals 4).access u.now u.store = .unblocked :=
    (hcooldown.reported _ hquiet 4 rfl).trans (if_neg (Nat.not_lt.mpr hover))
  have hfree : (rivals 1).IsOpen u.now u.store := by
    have he : (rivals 1).lease u.store = some e := by decide +kernel
    intro e' he'
    obtain rfl := Option.some.inj (he.symm.trans he')
    exact hover
  exact ⟨hcooldown, ⟨hlive, hlate, ((hcooldown.unmoved _) hlive).2 late 60000 hlate⟩,
    ⟨hover, hopen⟩, hviolate, hbegins _ _ hviolate hfree⟩

end Rivals

end Fleet

end ParkFusion.Quota
