import ParkFusion.Proofs.GovernorSteps

namespace ParkFusion.Quota

namespace Governor

variable {g : Governor} {now : Nat} {mem mem' : Memory}

/-- Whoever calls gets its slot, at the latest after a sleep. -/
structure Ready (g : Governor) (now : Nat) (s : Store) : Prop where
  isOpen : g.IsOpen now s
  readable : g.Readable s

theorem Ready.mono {s : Store} {later : Nat} (h : g.Ready now s) (hle : now ≤ later) :
    g.Ready later s :=
  ⟨fun e he ↦ (h.isOpen e he).trans hle, h.readable⟩

theorem contend_of_ready {turn : Turn} (h : g.Ready now mem.store)
    (hturn : g.contend now mem = (turn, mem')) (hawake : ∀ delay, turn ≠ .asleep delay) :
    turn = .released ∧ g.Ready now mem'.store := by
  cases hclaim : (mem.window g.seat).claim g.limit now with
  | error delay =>
    rw [contend_of_spent hclaim] at hturn
    exact absurd (congrArg Prod.fst hturn).symm (hawake delay)
  | ok w =>
    obtain ⟨store, hcontend⟩ := contend_of_isOpen hclaim h.isOpen h.readable
    have hcounts := g.contend_counts now mem
    rw [hturn] at hcounts
    refine ⟨congrArg Prod.fst (hturn.symm.trans hcontend), fun e he ↦ h.isOpen e ?_,
      hcounts.readable h.readable⟩
    exact (hcounts.lease g).symm.trans he

/-- When a caller gets its slot that has no rival: at once, or at the end of the window. -/
def slotTime (g : Governor) (now : Nat) (mem : Memory) : Nat :=
  match (mem.window g.seat).claim g.limit now with
  | .ok _ => now
  | .error delay => now + delay

theorem le_slotTime (g : Governor) (now : Nat) (mem : Memory) : now ≤ g.slotTime now mem := by
  unfold slotTime
  split
  · exact Nat.le_refl now
  · exact Nat.le_add_right now _

theorem claim_slotTime (g : Governor) (now : Nat) (mem : Memory) :
    ∃ w, (mem.window g.seat).claim g.limit (g.slotTime now mem) = .ok w := by
  unfold slotTime
  cases hclaim : (mem.window g.seat).claim g.limit now with
  | ok w => exact ⟨w, hclaim⟩
  | error delay => exact ⟨_, Window.claim_after_sleep hclaim⟩

theorem isOpen_of_ensureOpen {s : Store} (h : g.ensureOpen now s = .ok ()) : g.IsOpen now s := by
  intro e he
  by_contra hlive
  rw [ensureOpen_of_lease he (Nat.lt_of_not_le hlive)] at h
  cases h

theorem isOpen_of_depart (h : g.depart now mem = (.released, mem')) : g.IsOpen now mem'.store := by
  have hcounts := g.depart_counts now mem
  rw [h] at hcounts
  unfold depart at h
  split at h
  · cases h
  · rename_i hopen
    exact fun e he ↦ isOpen_of_ensureOpen hopen e ((hcounts.lease g).symm.trans he)

theorem isOpen_of_contend (h : g.contend now mem = (.released, mem')) :
    g.IsOpen now mem'.store := by
  unfold contend at h
  split at h
  · cases h
  · exact isOpen_of_depart h

end Governor

/-- A state of which a governor sees no more than the time and a memory. -/
class Surroundings (σ : Type) [Clock (StateM σ)] [MonadStateOf Memory (StateM σ)] where
  now : σ → Nat
  memory : σ → Memory
  become : σ → Nat → Memory → σ
  now_become (w : σ) (n : Nat) (mem : Memory) : now (become w n mem) = n
  memory_become (w : σ) (n : Nat) (mem : Memory) : memory (become w n mem) = mem
  become_self (w : σ) : become w (now w) (memory w) = w
  become_become (w : σ) (n n' : Nat) (mem mem' : Memory) :
    become (become w n mem) n' mem' = become w n' mem'
  now_run (w : σ) : (Clock.now : StateM σ Nat).run w = (now w, w)
  pause_run (delay : Nat) (w : σ) :
    (Clock.pause delay : StateM σ PUnit).run w = (⟨⟩, become w (now w + delay) (memory w))
  modifyGet_run {α : Type} (f : Memory → α × Memory) (w : σ) :
    (modifyGet f : StateM σ α).run w = ((f (memory w)).1, become w (now w) (f (memory w)).2)

namespace Governor

open Surroundings

variable {σ α : Type} [Clock (StateM σ)] [MonadStateOf Memory (StateM σ)]
variable {g : Governor} {w w₁ w₂ : σ} {mem : Memory} {f : Failure}
variable {request : StateM σ (Except Failure α)}

theorem call_of_refused (h : (g.acquire : StateM σ (Except Failure Unit)).run w = (.error f, w₁))
    (request : StateM σ (Except Failure α)) : (g.call request).run w = (.error f, w₁) := by
  unfold call
  rw [StateT.run_bind, h]
  rfl

theorem call_of_unblocked {result : Except Failure α}
    (h : (g.acquire : StateM σ (Except Failure Unit)).run w = (.ok (), w₁))
    (hreply : request.run w₁ = (result, w₂))
    (hresult : ∀ f, result = .error f → f.isBlocked = false) :
    (g.call request).run w = (result, w₂) := by
  unfold call
  rw [StateT.run_bind, h]
  change StateT.run (request >>= _) w₁ = _
  rw [StateT.run_bind, hreply]
  cases result with
  | ok a => rfl
  | error f =>
    change StateT.run (if f.isBlocked then _ else _) w₂ = _
    rw [hresult f rfl]
    rfl

variable [Surroundings σ]

theorem step_run {β : Type} (f : Nat → Memory → β × Memory) (w : σ) :
    (Atomic.step f : StateM σ β).run w =
      ((f (now w) (memory w)).1, become w (now w) (f (now w) (memory w)).2) := by
  change StateT.run (Clock.now >>= _) w = _
  rw [StateT.run_bind, now_run]
  exact modifyGet_run ..

theorem call_of_blocked (h : (g.acquire : StateM σ (Except Failure Unit)).run w = (.ok (), w₁))
    (hreply : request.run w₁ = (.error f, w₂)) (hf : f.isBlocked) :
    (g.call request).run w = (.error (.quotaExceeded g.source g.block), become w₂ (now w₂)
      { memory w₂ with store := g.recordViolation (now w₂) (memory w₂).store }) := by
  unfold call
  rw [StateT.run_bind, h]
  change StateT.run (request >>= _) w₁ = _
  rw [StateT.run_bind, hreply]
  change StateT.run (if f.isBlocked then _ else _) w₂ = _
  rw [if_pos hf, StateT.run_bind, step_run]
  rfl

theorem checkOpen_run (g : Governor) (w : σ) :
    (g.checkOpen : StateM σ (Except Failure Unit)).run w =
      (g.ensureOpen (now w) (memory w).store, w) := by
  unfold checkOpen
  rw [step_run, become_self]

/-- One round of the loop. -/
theorem await_run (g : Governor) (w : σ) : (g.await : StateM σ (Except Failure Unit)).run w =
    match g.contend (now w) (memory w) with
    | (.asleep delay, mem) =>
      (g.await : StateM σ (Except Failure Unit)).run (become w (now w + delay) mem)
    | (turn, mem) => (turn.toResult, become w (now w) mem) := by
  have : Nonempty σ := ⟨w⟩
  rcases hturn : g.contend (now w) (memory w) with ⟨turn, mem⟩
  conv_lhs =>
    unfold await
    rw [repeatM_eq_of_monadTail]
    unfold repeatM.body
  rw [StateT.run_bind, StateT.run_bind, step_run, hturn]
  cases turn with
  | released => rfl
  | refused f => rfl
  | asleep delay =>
    change StateT.run (repeatM _ ()) (((Clock.pause delay >>= _ : StateM σ _).run
      (become w (now w) mem)).2) = _
    rw [StateT.run_bind, pause_run, now_become, memory_become, become_become]
    rfl

theorem await_run_of_claim {window : Window}
    (hw : ((memory w).window g.seat).claim g.limit (now w) = .ok window) :
    (g.await : StateM σ (Except Failure Unit)).run w =
      ((g.contend (now w) (memory w)).1.toResult,
        become w (now w) (g.contend (now w) (memory w)).2) := by
  rw [await_run]
  rcases hturn : g.contend (now w) (memory w) with ⟨turn, mem⟩
  cases turn with
  | asleep delay => exact absurd rfl (contend_ne_asleep hw hturn delay)
  | _ => rfl

/-- One sleep is enough for a caller that has no rival: when it wakes up, its window is over. -/
theorem await_run_once (g : Governor) (w : σ) :
    let n := g.slotTime (now w) (memory w)
    (g.await : StateM σ (Except Failure Unit)).run w =
      ((g.contend n (memory w)).1.toResult, become w n (g.contend n (memory w)).2) := by
  unfold slotTime
  cases hclaim : ((memory w).window g.seat).claim g.limit (now w) with
  | ok window => exact await_run_of_claim hclaim
  | error delay =>
    have hclaim' := Window.claim_after_sleep hclaim
    have hwake := await_run_of_claim (w := become w (now w + delay) (memory w))
      (by rw [now_become, memory_become]; exact hclaim')
    rw [now_become, memory_become, become_become] at hwake
    rw [await_run, contend_of_spent hclaim]
    exact hwake

theorem acquire_run (g : Governor) (w : σ) :
    (g.acquire : StateM σ (Except Failure Unit)).run w =
      match g.ensureOpen (now w) (memory w).store with
      | .error f => (.error f, w)
      | .ok () => (g.await : StateM σ (Except Failure Unit)).run w := by
  unfold acquire
  rw [StateT.run_bind, checkOpen_run]
  cases g.ensureOpen (now w) (memory w).store with
  | error f => rfl
  | ok _ => rfl

/-- The whole of what a caller without rivals does until it has its slot. -/
theorem acquire_eq (g : Governor) : (g.acquire : StateM σ (Except Failure Unit)) = fun w ↦
    match g.ensureOpen (now w) (memory w).store with
    | .error f => (.error f, w)
    | .ok () =>
      let n := g.slotTime (now w) (memory w)
      ((g.contend n (memory w)).1.toResult, become w n (g.contend n (memory w)).2) := by
  funext w
  refine (g.acquire_run w).trans ?_
  cases g.ensureOpen (now w) (memory w).store with
  | error f => rfl
  | ok _ => exact g.await_run_once w

theorem acquire_of_lease {e : Entry} (he : g.lease (memory w).store = some e)
    (h : now w < e.expiry) :
    (g.acquire : StateM σ (Except Failure Unit)).run w =
      (.error (.quotaExceeded g.source (e.expiry - now w)), w) := by
  rw [acquire_run, ensureOpen_of_lease he h]

theorem acquire_ends (g : Governor) (w : σ) : ∃ result n mem,
    (g.acquire : StateM σ (Except Failure Unit)).run w = (result, become w n mem) ∧
      (result = .ok () → g.IsOpen n mem.store) ∧
        (g.Ready (now w) (memory w).store → result = .ok () ∧ g.Ready n mem.store) := by
  have hrun := g.acquire_run w
  cases hopen : g.ensureOpen (now w) (memory w).store with
  | error f =>
    rw [hopen] at hrun
    refine ⟨_, _, _, hrun.trans (congrArg _ (become_self w).symm), nofun, fun h ↦ ?_⟩
    rw [ensureOpen_of_isOpen h.isOpen] at hopen
    cases hopen
  | ok _ =>
    have hawait := g.await_run_once w
    obtain ⟨window, hclaim⟩ := g.claim_slotTime (now w) (memory w)
    rcases hturn : g.contend (g.slotTime (now w) (memory w)) (memory w) with ⟨turn, mem⟩
    have hawake := contend_ne_asleep hclaim hturn
    rw [hopen] at hrun
    dsimp only at hawait
    rw [hturn] at hawait
    refine ⟨_, _, mem, hrun.trans hawait, fun hresult ↦ ?_, fun h ↦ ?_⟩
    · cases turn with
      | released => exact isOpen_of_contend hturn
      | refused f => cases hresult
      | asleep delay => exact absurd rfl (hawake delay)
    · obtain ⟨rfl, hready⟩ := contend_of_ready (h.mono (g.le_slotTime ..)) hturn hawake
      exact ⟨rfl, hready⟩

end Governor

end ParkFusion.Quota
