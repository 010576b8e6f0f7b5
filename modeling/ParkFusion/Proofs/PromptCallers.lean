import Mathlib.Algebra.BigOperators.Fin
import Mathlib.Algebra.Order.BigOperators.Group.Finset
import ParkFusion.Proofs.SlotSchedule

namespace ParkFusion.Quota.Fleet.Journal

open scoped BigOperators

variable {ι α : Type} {g : Governor} {w w' : Journal ι α} {i : ι}
variable {a : Action ι α} {actions : List (Action ι α)} {start : Nat}

theorem OnSchedule.initial {s : Fleet ι α} (hwindow : s.memory.window g.seat = {})
    (hready : g.Ready s.now s.memory.store) (hidle : ∀ i, s.phase i = .idle) :
    OnSchedule g s.now { toFleet := s } where
  ready := hready
  window := hwindow
  started := Nat.le_refl _
  last _ hk := nomatch hk
  punctual _ _ := Window.start_le_due ..
  inTurn i := by
    rw [hidle i]
    exact ⟨rfl, rfl⟩
  times := rfl
  once := List.nodup_nil
  released_iff i := by simp [hidle i]
  slept _ _ hi := nomatch hi

theorem OnSchedule.offsets (h : OnSchedule g start w) :
    w.releases.map (fun r ↦ r.2 - start) =
      (List.range w.releases.length).map fun k ↦ k / g.limit * Window.length := by
  have hoffset : ∀ k, Window.due g.limit start k - start = k / g.limit * Window.length :=
    fun k ↦ Nat.add_sub_cancel_left ..
  calc w.releases.map (fun r ↦ r.2 - start)
    _ = (w.releases.map Prod.snd).map (· - start) := by rw [List.map_map]; rfl
    _ = _ := by
      rw [h.times, List.map_map]
      exact List.map_congr_left fun k _ ↦ hoffset k

/-- As long as someone waits, something can happen. -/
theorem OnSchedule.exists_moves (h : OnSchedule g start w) (hi : w.phase i ≠ .running) :
    ∃ a, w.Moves a := by
  by_cases hact : ∃ j, w.Enabled (.act j)
  · obtain ⟨j, hj⟩ := hact
    exact ⟨.act j, .act hj⟩
  · have hnone := not_exists.mp hact
    obtain ⟨hp, hlate⟩ := h.asleep_of_stuck hnone hi
    refine ⟨.advance (w.next g start - w.now), .advance (by omega) hnone hp ?_⟩
    intro j wake hj
    have hwake := (h.asleep_of_stuck hnone (fun hr ↦ nomatch hj.symm.trans hr)).1
    obtain rfl : wake = w.next g start := Phase.asleep.inj (hj.symm.trans hwake)
    omega

section Debt

/-- The moves of a caller at most, from where it stands. -/
def owed (rounds sleeps : Nat) : Phase α → Nat
  | .idle => rounds + 2
  | .contending | .asleep _ => rounds + 1 - sleeps
  | .running | .returned _ => 0

theorem owed_of_competes (hcompetes : w.Competes i) (rounds : Nat) :
    owed rounds (w.sleeps i) (w.phase i) = rounds + 1 - w.sleeps i := by
  rcases hcompetes with hp | ⟨wake, -, hp⟩ <;> rw [hp] <;> rfl

variable [Fintype ι]

/-- How often the last of the callers sleeps. -/
def rounds (g : Governor) (ι : Type) [Fintype ι] : Nat :=
  (Fintype.card ι - 1) / g.limit

/-- A bound on the moves to come: what the callers owe, and the time to the last slot. -/
def debt (g : Governor) (start : Nat) (w : Journal ι α) : Nat :=
  ∑ i, owed (rounds g ι) (w.sleeps i) (w.phase i) +
    (start + rounds g ι * Window.length - w.now)

theorem OnSchedule.next_le (h : OnSchedule g start w) (hi : w.phase i ≠ .running) :
    w.next g start ≤ start + rounds g ι * Window.length := by
  have hnew : i ∉ w.releases.map Prod.fst := fun hmem ↦ hi ((h.released_iff i).mpr hmem)
  have hcard := (List.nodup_cons.mpr ⟨hnew, h.once⟩).length_le_card
  rw [List.length_cons, List.length_map] at hcard
  exact Window.due_mono g.limit start (by omega)

theorem OnSchedule.sleeps_le (h : OnSchedule g start w) (hcompetes : w.Competes i) :
    w.sleeps i ≤ rounds g ι := by
  have hnext := h.next_le hcompetes.ne_running
  have hpunctual := h.punctual i hcompetes.ne_running
  have hnow := h.now_eq hcompetes
  have hlength : Window.length = 60000 := rfl
  rw [hlength] at hnext hnow
  omega

theorem OnSchedule.sleeps_lt (h : OnSchedule g start w) (hcompetes : w.Competes i)
    (hearly : w.now < w.next g start) : w.sleeps i < rounds g ι := by
  have hnext := h.next_le hcompetes.ne_running
  have hnow := h.now_eq hcompetes
  have hlength : Window.length = 60000 := rfl
  rw [hlength] at hnext hnow
  omega

theorem debt_lt (hnow : w'.now = w.now)
    (hi : owed (rounds g ι) (w'.sleeps i) (w'.phase i) <
      owed (rounds g ι) (w.sleeps i) (w.phase i))
    (hne : ∀ j, j ≠ i → w'.sleeps j = w.sleeps j ∧ w'.phase j = w.phase j) :
    w'.debt g start < w.debt g start := by
  unfold debt
  rw [hnow]
  refine Nat.add_lt_add_right (Finset.sum_lt_sum (fun j _ ↦ ?_) ⟨i, Finset.mem_univ i, hi⟩) _
  by_cases hji : j = i
  · exact hji ▸ hi.le
  · rw [(hne j hji).1, (hne j hji).2]

end Debt

variable [DecidableEq ι]

theorem OnSchedule.enter (h : OnSchedule g start w) (hidle : w.phase i = .idle) :
    OnSchedule g start { w with phase := Function.update w.phase i .contending } where
  ready := h.ready
  window := h.window
  started := h.started
  last := h.last
  punctual j hj := by
    by_cases hji : j = i
    · exact h.punctual i (hidle ▸ nofun)
    · exact h.punctual j (by simpa [hji] using hj)
  inTurn j := by
    have hturn := h.inTurn j
    by_cases hji : j = i
    · subst hji
      rw [hidle] at hturn
      simpa [Phase.InTurn] using hturn
    · simpa [hji, next] using hturn
  times := h.times
  once := h.once
  released_iff j := by
    by_cases hji : j = i
    · subst hji
      simp [← h.released_iff, hidle]
    · simp [← h.released_iff, hji]
  slept := h.slept

theorem OnSchedule.sleep (h : OnSchedule g start w) (hcompetes : w.Competes i)
    (hearly : w.now < w.next g start) :
    OnSchedule g start { w with
      phase := Function.update w.phase i (.asleep (w.next g start))
      sleeps := Function.update w.sleeps i (w.sleeps i + 1) } where
  ready := h.ready
  window := h.window
  started := h.started
  last := h.last
  punctual j _ := hearly.le
  inTurn j := by
    have hturn := h.inTurn j
    by_cases hji : j = i
    · subst hji
      simpa [Phase.InTurn] using ⟨h.next_eq hcompetes hearly, hearly.le, fun _ ↦ rfl⟩
    · simpa [hji, next] using hturn
  times := h.times
  once := h.once
  released_iff j := by
    by_cases hji : j = i
    · subst hji
      simp [← h.released_iff, hcompetes.ne_running]
    · simp [← h.released_iff, hji]
  slept j t hj := by
    have hrunning := (h.released_iff j).mpr (List.mem_map_of_mem hj)
    have hji : j ≠ i := by
      rintro rfl
      exact hcompetes.ne_running hrunning
    simpa [hji] using h.slept j t hj

theorem OnSchedule.release {memory : Memory} (h : OnSchedule g start w)
    (hcompetes : w.Competes i) (hdue : w.now = w.next g start)
    (hwindow : memory.window g.seat = .filled g.limit start (w.releases.length + 1))
    (hready : g.Ready w.now memory.store) :
    OnSchedule g start { w with
      memory
      phase := Function.update w.phase i .running
      releases := w.releases ++ [(i, w.now)] } where
  ready := hready
  window := by simpa using hwindow
  started := h.started
  last k hk := by
    obtain rfl : w.releases.length = k := by simpa using hk
    exact hdue.ge
  punctual j _ := by
    have hlater := Window.due_mono g.limit start (Nat.le_succ w.releases.length)
    simpa [next] using hdue.le.trans hlater
  inTurn j := by
    have hturn := h.inTurn j
    by_cases hji : j = i
    · subst hji
      simp [Phase.InTurn]
    · have hkept : (w.phase j).InTurn start w.now w.now (w.sleeps j) := by
        rw [← hdue] at hturn
        exact hturn
      simpa [hji] using hkept.of_due _
  times := by
    simp [h.times, List.range_succ, hdue, next]
  once := by
    have hnew : i ∉ w.releases.map Prod.fst := fun hi ↦
      hcompetes.ne_running ((h.released_iff i).mpr hi)
    simpa [List.nodup_append] using ⟨h.once, fun j t hj hji ↦ hnew (hji ▸ List.mem_map_of_mem hj)⟩
  released_iff j := by
    by_cases hji : j = i
    · subst hji
      simp
    · simp [hji, h.released_iff]
  slept j t hj := by
    rcases List.mem_append.mp hj with hold | hnew
    · exact h.slept j t hold
    · obtain ⟨rfl, rfl⟩ : j = i ∧ t = w.now := by simpa using hnew
      exact h.now_eq hcompetes

theorem OnSchedule.step (h : OnSchedule g start w) (hm : w.Moves a) :
    OnSchedule g start (w.step g a) := by
  have hstep := h.step_cases hm
  generalize w.step g a = w' at hstep ⊢
  cases hstep with
  | enter hidle => exact h.enter hidle
  | sleep hcompetes hearly => exact h.sleep hcompetes hearly
  | release hcompetes hdue hwindow hready => exact h.release hcompetes hdue hwindow hready
  | advance _ hnone _ hbefore => exact h.advance hnone hbefore

theorem step_toFleet (g : Governor) (w : Journal ι α) (a : Action ι α) :
    (w.step g a).toFleet = w.toFleet.step (fun _ ↦ g) a := by
  unfold Journal.step
  dsimp only
  split
  · split <;> rfl
  · rfl

variable [Fintype ι]

/-- Every move pays off some of the debt. -/
theorem OnSchedule.debt_step (h : OnSchedule g start w) (hm : w.Moves a) :
    (w.step g a).debt g start < w.debt g start := by
  have hstep := h.step_cases hm
  generalize w.step g a = w' at hstep ⊢
  cases hstep with
  | @enter i hidle =>
    refine debt_lt (i := i) rfl ?_ fun j hji ↦ ⟨rfl, Function.update_of_ne hji ..⟩
    have hzero := (hidle ▸ h.inTurn i : (Phase.idle : Phase α).InTurn ..).2
    simp [owed, hidle]
    omega
  | @sleep i hcompetes hearly =>
    have hlt := h.sleeps_lt hcompetes hearly
    refine debt_lt (i := i) rfl ?_ fun j hji ↦
      ⟨Function.update_of_ne hji .., Function.update_of_ne hji ..⟩
    rw [owed_of_competes hcompetes]
    simp [owed]
    omega
  | @release i memory hcompetes hdue hwindow hready =>
    have hle := h.sleeps_le hcompetes
    refine debt_lt (i := i) rfl ?_ fun j hji ↦ ⟨rfl, Function.update_of_ne hji ..⟩
    rw [owed_of_competes hcompetes]
    simp [owed]
    omega
  | @advance duration wake i hpos hnone hp hbefore =>
    have hwaiting : w.phase i ≠ .running := by simp [hp]
    have hnext := h.next_le hwaiting
    have hlate := (h.asleep_of_stuck hnone hwaiting).2
    unfold debt
    dsimp only
    omega

theorem OnSchedule.run (h : OnSchedule g start w) (hp : w.Prompt g actions) :
    OnSchedule g start (w.run g actions) ∧
      actions.length + (w.run g actions).debt g start ≤ w.debt g start := by
  induction actions generalizing w with
  | nil => exact ⟨h, (Nat.zero_add _).le⟩
  | cons a actions ih =>
    obtain ⟨hm, hrest⟩ := hp
    rw [← step_toFleet] at hrest
    obtain ⟨hend, hlength⟩ := ih (h.step hm) hrest
    have hdebt := h.debt_step hm
    refine ⟨hend, ?_⟩
    rw [List.length_cons]
    change _ + ((w.step g a).run g actions).debt g start ≤ _
    omega

theorem OnSchedule.releases_length (h : OnSchedule g start w)
    (hall : ∀ i, w.phase i = .running) : w.releases.length = Fintype.card ι := by
  have huniv : (w.releases.map Prod.fst).toFinset = Finset.univ :=
    Finset.eq_univ_iff_forall.mpr fun i ↦ List.mem_toFinset.mpr ((h.released_iff i).mp (hall i))
  rw [Fintype.card, ← huniv, List.toFinset_card_of_nodup h.once, List.length_map]

/-- What becomes of callers that all came at the start. -/
structure InOrder (g : Governor) (start : Nat) (actions : List (Action ι α)) (w : Journal ι α) :
    Prop where
  bounded : actions.length ≤
    Fintype.card ι * (rounds g ι + 2) + rounds g ι * Window.length
  unfinished : ∀ i, w.phase i ≠ .running → ∃ a, w.Moves a
  slept : ∀ i t, (i, t) ∈ w.releases → t = start + w.sleeps i * Window.length
  finished : (∀ a, ¬ w.Moves a) →
    (w.releases.map Prod.fst).Nodup ∧ (∀ i, i ∈ w.releases.map Prod.fst) ∧
    w.releases.map (fun r ↦ r.2 - start) =
      (List.range (Fintype.card ι)).map fun k ↦ k / g.limit * Window.length

theorem inOrder (g : Governor) (s : Fleet ι α) (hwindow : s.memory.window g.seat = {})
    (hready : g.Ready s.now s.memory.store) (hidle : ∀ i, s.phase i = .idle)
    (hp : s.Prompt g actions) :
    InOrder g s.now actions (run g { toFleet := s } actions) := by
  let w : Journal ι α := { toFleet := s }
  have hstart : OnSchedule g s.now w := .initial hwindow hready hidle
  obtain ⟨hend, hlength⟩ := hstart.run hp
  refine ⟨?_, fun i ↦ hend.exists_moves, hend.slept, fun hstuck ↦ ?_⟩
  · have hdebt : w.debt g s.now = Fintype.card ι * (rounds g ι + 2) + rounds g ι * Window.length := by
      have howed : ∀ i, owed (rounds g ι) (w.sleeps i) (w.phase i) = rounds g ι + 2 := by
        intro i
        rw [hidle i]
        rfl
      unfold debt
      rw [Finset.sum_congr rfl fun i _ ↦ howed i, Finset.sum_const, Finset.card_univ, smul_eq_mul,
        Nat.add_sub_cancel_left]
    omega
  · have hall : ∀ i, (run g w actions).phase i = .running := by
      intro i
      by_contra hi
      obtain ⟨a, ha⟩ := hend.exists_moves hi
      exact hstuck a ha
    refine ⟨hend.once, fun i ↦ (hend.released_iff i).mp (hall i), ?_⟩
    rw [← hend.releases_length hall]
    exact hend.offsets

end ParkFusion.Quota.Fleet.Journal
