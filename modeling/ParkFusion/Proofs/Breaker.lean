import ParkFusion.Proofs.Fleet

namespace ParkFusion.Quota.Fleet

variable {ι α : Type} [DecidableEq ι] {g : ι → Governor} {s : Fleet ι α} {i : ι} {a : Action ι α}
variable {actions : List (Action ι α)} {e : Entry}

/-- The caller tries for a slot, and its window has one. -/
def TakesSlot (g : ι → Governor) (s : Fleet ι α) (i : ι) : Prop :=
  s.Competes i ∧ ∃ w, (s.memory.window (g i).seat).claim (g i).limit s.now = .ok w

theorem lease_step (he : (g i).lease s.store = some e) (hlive : s.now < e.expiry)
    (a : Action ι α) : (g i).lease (s.step g a).store = some e := by
  rcases (step_is g s a).store_cases with hs | ⟨j, hs⟩ | ⟨j, -, hs⟩
  · rw [hs, he]
  · rw [hs, Governor.lease_contend]
    exact he
  · rw [hs]
    by_cases hkey : (g j).source = (g i).source
    · have hj : (g j).lease s.store = some e := (Governor.lease_congr hkey s.store).trans he
      rw [Governor.recordViolation_of_lease hj hlive, he]
    · rw [Governor.lease_recordViolation hkey, he]

theorem lease_run (he : (g i).lease s.store = some e)
    (hlive : (s.run g actions).now < e.expiry) : (g i).lease (s.run g actions).store = some e := by
  induction actions generalizing s with
  | nil => exact he
  | cons a actions ih =>
    have hrest : (s.step g a).now ≤ (s.run g (a :: actions)).now := now_le_run g _ actions
    have hfirst := (step_is g s a).now_le
    have hnow : s.now < e.expiry := by omega
    exact ih (lease_step he hnow a) hlive

theorem isOpen_step (ho : (g i).IsOpen s.now s.store)
    (ha : ∀ j, a.violator? = some j → (g j).source ≠ (g i).source) :
    (g i).IsOpen (s.step g a).now (s.step g a).store := by
  have hlease : (g i).lease (s.step g a).store = (g i).lease s.store := by
    rcases (step_is g s a).store_cases with hs | ⟨j, hs⟩ | ⟨j, hj, hs⟩
    · rw [hs]
    · rw [hs, Governor.lease_contend]
      rfl
    · rw [hs, Governor.lease_recordViolation (ha j hj)]
  intro e he
  rw [hlease] at he
  exact (ho e he).trans (step_is g s a).now_le

theorem isOpen_run (ho : (g i).IsOpen s.now s.store)
    (hactions : ∀ a ∈ actions, ∀ j, a.violator? = some j → (g j).source ≠ (g i).source) :
    (g i).IsOpen (s.run g actions).now (s.run g actions).store := by
  induction actions generalizing s with
  | nil => exact ho
  | cons a actions ih =>
    have hstep := isOpen_step ho (hactions a List.mem_cons_self)
    exact ih hstep fun b hb ↦ hactions b (List.mem_cons_of_mem a hb)

theorem readable_run (g' : Governor) (hr : g'.Readable s.store) (g : ι → Governor)
    (actions : List (Action ι α)) : g'.Readable (s.run g actions).store := by
  induction actions generalizing s with
  | nil => exact hr
  | cons a actions ih =>
    refine ih ?_
    rcases (step_is g s a).store_cases with hs | ⟨j, hs⟩ | ⟨j, -, hs⟩
    · rw [hs]
      exact hr
    · rw [hs]
      exact hr.contend (g j) s.now
    · rw [hs]
      exact hr.recordViolation (g j) s.now

theorem step_of_lease_idle (hp : s.phase i = .idle) (he : (g i).lease s.store = some e)
    (hlive : s.now < e.expiry) :
    s.step g (.act i) =
      s.setPhase i (.returned (.error (.quotaExceeded (g i).source (e.expiry - s.now)))) := by
  have hopen := Governor.ensureOpen_of_lease he hlive
  rw [step_of_idle hp]
  exact enter_of_error hopen i

theorem step_of_lease_takesSlot (ht : s.TakesSlot g i) (he : (g i).lease s.store = some e)
    (hlive : s.now < e.expiry) :
    (s.step g (.act i)).phase i =
      .returned (.error (.quotaExceeded (g i).source (e.expiry - s.now))) := by
  obtain ⟨w, hw⟩ := ht.2
  have hcontend := Governor.contend_of_lease hw he hlive
  rw [step_of_competes ht.1, contend, hcontend]
  exact setPhase_self ..

theorem step_of_isOpen_takesSlot (ht : s.TakesSlot g i) (ho : (g i).IsOpen s.now s.store)
    (hr : (g i).Readable s.store) : (s.step g (.act i)).phase i = .running := by
  obtain ⟨w, hw⟩ := ht.2
  obtain ⟨store, hcontend⟩ := Governor.contend_of_isOpen hw ho hr
  rw [step_of_competes ht.1, contend, hcontend]
  exact setPhase_self ..

end ParkFusion.Quota.Fleet
