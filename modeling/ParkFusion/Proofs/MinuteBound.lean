import ParkFusion.Proofs.Fleet

namespace ParkFusion.Quota

section Counts

variable {a b t now start count limit : Nat} {log : List Nat}

def since (a : Nat) (log : List Nat) : Nat :=
  log.countP fun t ↦ a ≤ t

def between (a b : Nat) (log : List Nat) : Nat :=
  log.countP fun t ↦ a ≤ t ∧ t < b

theorem since_cons (a t : Nat) (log : List Nat) :
    since a (t :: log) = since a log + if a ≤ t then 1 else 0 := by
  unfold since
  rw [List.countP_cons]
  simp only [decide_eq_true_eq]

theorem between_cons (a b t : Nat) (log : List Nat) :
    between a b (t :: log) = between a b log + if a ≤ t ∧ t < b then 1 else 0 := by
  unfold between
  rw [List.countP_cons]
  simp only [decide_eq_true_eq]

theorem between_le_since (a b : Nat) (log : List Nat) : between a b log ≤ since a log := by
  refine List.countP_mono_left fun t _ h ↦ ?_
  simp only [decide_eq_true_eq] at h ⊢
  exact h.1

theorem between_le_add (a b start : Nat) (log : List Nat) :
    between a b log ≤ between a start log + since start log := by
  induction log with
  | nil => exact Nat.le_refl 0
  | cons t log ih =>
    rw [between_cons, between_cons, since_cons]
    split <;> split <;> split <;> omega

theorem since_eq_zero (h : ∀ t ∈ log, t < a) : since a log = 0 := by
  refine List.countP_eq_zero.mpr fun t ht ↦ ?_
  have hlt := h t ht
  simp only [decide_eq_true_eq]
  omega

end Counts

/-- The slots that were taken so far, latest first: so many since the start of the present window, one
of them at its start, and less than a full window just before. -/
structure Spaced (limit start count : Nat) (log : List Nat) : Prop where
  count_le : count ≤ limit
  inside : ∀ t ∈ log, t < start + Window.length
  present : since start log ≤ count
  later : ∀ a, start < a → since a log < count
  earlier : ∀ a, start < a + Window.length → between a start log < limit
  minute : ∀ a, between a (a + Window.length) log < 2 * limit

namespace Spaced

variable {now start count limit : Nat} {log : List Nat}

theorem first (hlimit : 0 < limit) (now : Nat) : Spaced limit now 1 [now] where
  count_le := hlimit
  inside t ht := by
    obtain rfl := List.mem_singleton.mp ht
    exact Nat.lt_add_of_pos_right (by decide)
  present := by simp [since]
  later a ha := by
    have hlt : ¬ a ≤ now := by omega
    simp [since, hlt]
  earlier a _ := by
    simpa [between] using hlimit
  minute a := by
    have h : between a (a + Window.length) [now] ≤ 1 := List.countP_le_length
    omega

theorem take (h : Spaced limit start count log) (hstart : start ≤ now)
    (hnow : now < start + Window.length) (hcount : count < limit) :
    Spaced limit start (count + 1) (now :: log) where
  count_le := hcount
  inside t ht := by
    rcases List.mem_cons.mp ht with rfl | ht
    · exact hnow
    · exact h.inside t ht
  present := by
    have hp := h.present
    rw [since_cons]
    split <;> omega
  later a ha := by
    have hl := h.later a ha
    rw [since_cons]
    split <;> omega
  earlier a ha := by
    have he := h.earlier a ha
    rw [between_cons, if_neg (by omega)]
    exact he
  minute a := by
    rw [between_cons]
    split
    · rename_i hin
      -- the minute may reach back into the window before, but not to its first slot
      by_cases ha : a ≤ start
      · have hsplit := between_le_add a (a + Window.length) start log
        have he := h.earlier a (by omega)
        have hp := h.present
        omega
      · have hsince := between_le_since a (a + Window.length) log
        have hl := h.later a (by omega)
        omega
    · exact h.minute a

theorem restart (h : Spaced limit start count log) (hover : start + Window.length ≤ now) :
    Spaced limit now 1 (now :: log) := by
  have hlength : 0 < Window.length := by decide
  have hcount := h.count_le
  have hold : ∀ t ∈ log, t < now := fun t ht ↦ (h.inside t ht).trans_le hover
  -- the first slot of the window before is more than a minute ago
  have hrecent : ∀ a, now < a + Window.length → since a log < limit := by
    intro a ha
    have hl := h.later a (by omega)
    omega
  have hpositive := hrecent now (by omega)
  refine ⟨by omega, ?_, ?_, ?_, ?_, ?_⟩
  · intro t ht
    rcases List.mem_cons.mp ht with rfl | ht
    · omega
    · have hlt := hold t ht
      omega
  · rw [since_cons, since_eq_zero hold, if_pos (Nat.le_refl now)]
  · intro a ha
    have hbefore : ∀ t ∈ log, t < a := fun t ht ↦ (hold t ht).trans ha
    rw [since_cons, since_eq_zero hbefore, if_neg (by omega)]
    decide
  · intro a ha
    have hb := between_le_since a now log
    have hr := hrecent a ha
    rw [between_cons, if_neg (by omega)]
    omega
  · intro a
    rw [between_cons]
    split
    · rename_i hin
      have hb := between_le_since a (a + Window.length) log
      have hr := hrecent a hin.2
      omega
    · exact h.minute a

end Spaced

/-- What a window stands for at a time: the slots that were taken so far. -/
def Window.Logs (w : Window) (limit now : Nat) (log : List Nat) : Prop :=
  match w.started with
  | none => log = []
  | some start => start ≤ now ∧ Spaced limit start w.count log

namespace Window

variable {w w' : Window} {now later limit : Nat} {log : List Nat}

theorem Logs.mono (h : w.Logs limit now log) (hle : now ≤ later) : w.Logs limit later log := by
  unfold Logs at h ⊢
  cases hw : w.started with
  | none =>
    rw [hw] at h
    exact h
  | some start =>
    rw [hw] at h
    exact ⟨h.1.trans hle, h.2⟩

theorem Logs.minute (h : w.Logs limit now log) (hlimit : 0 < limit) (a : Nat) :
    between a (a + length) log < 2 * limit := by
  unfold Logs at h
  cases hw : w.started with
  | none =>
    rw [hw] at h
    have hzero : between a (a + length) log = 0 := by rw [h]; rfl
    omega
  | some start =>
    rw [hw] at h
    exact h.2.minute a

theorem Logs.claim (h : w.Logs limit now log) (hlimit : 0 < limit)
    (hw : w.claim limit now = .ok w') : w'.Logs limit now (now :: log) := by
  unfold Window.claim at hw
  split at hw
  · cases hw
  rename_i hfree
  have htake : w.takeSlot now = w' := Except.ok.inj hw
  rw [← htake]
  unfold takeSlot
  by_cases hr : w.isRunning now
  · obtain ⟨start, hstarted, hover⟩ := isRunning_iff.mp hr
    have hcount : w.count < limit := by
      rw [hr, Bool.true_and, decide_eq_true_iff] at hfree
      omega
    rw [if_pos hr]
    unfold Logs at h ⊢
    rw [hstarted] at h
    rw [hstarted]
    exact ⟨h.1, h.2.take h.1 hover hcount⟩
  · rw [if_neg hr]
    unfold Logs at h
    refine ⟨Nat.le_refl now, ?_⟩
    cases hstarted : w.started with
    | none =>
      rw [hstarted] at h
      rw [h]
      exact Spaced.first hlimit now
    | some start =>
      rw [hstarted] at h
      have hover : start + length ≤ now := by
        by_contra hlt
        exact hr (isRunning_iff.mpr ⟨start, hstarted, by omega⟩)
      exact h.2.restart hover

end Window

theorem Memory.window_setWindow (mem : Memory) (seat : Nat) (w : Window) :
    (mem.setWindow seat w).window seat = w := by
  unfold window setWindow
  rw [List.lookup_cons_self]
  rfl

namespace Governor

variable {g : Governor} {now : Nat} {mem : Memory} {w : Window}

theorem depart_windows (g : Governor) (now : Nat) (mem : Memory) :
    (g.depart now mem).2.windows = mem.windows := by
  unfold depart
  split
  · rfl
  · split <;> rfl

theorem contend_window (hw : (mem.window g.seat).claim g.limit now = .ok w) :
    (g.contend now mem).2.window g.seat = w := by
  have hwindows : (g.contend now mem).2.windows = (mem.setWindow g.seat w).windows := by
    unfold contend
    rw [hw]
    exact g.depart_windows now _
  calc (g.contend now mem).2.window g.seat
    _ = (mem.setWindow g.seat w).window g.seat := by
      unfold Memory.window
      rw [hwindows]
    _ = w := mem.window_setWindow g.seat w

end Governor

def Phase.isRunning {α : Type} : Phase α → Bool
  | running => true
  | _ => false

namespace Fleet

variable {ι α : Type} [DecidableEq ι] {g : Governor} {s : Fleet ι α} {log : List Nat}

def grantedBy (s : Fleet ι α) (a : Action ι α) (s' : Fleet ι α) : Bool :=
  match a with
  | .act i => !(s.phase i).isRunning && (s'.phase i).isRunning
  | _ => false

def grants (g : Governor) (s : Fleet ι α) : List (Action ι α) → List Nat
  | [] => []
  | a :: actions =>
    let s' := s.step (fun _ ↦ g) a
    if s.grantedBy a s' then s.now :: s'.grants g actions else s'.grants g actions

theorem contend_cases (g : Governor) (s : Fleet ι α) (i : ι) :
    ((s.contend g i).memory = s.memory ∧ ((s.contend g i).phase i).isRunning = false) ∨
      ∃ w, (s.memory.window g.seat).claim g.limit s.now = .ok w ∧
        (s.contend g i).memory.window g.seat = w := by
  cases hclaim : (s.memory.window g.seat).claim g.limit s.now with
  | error delay =>
    have hspent := Governor.contend_of_spent hclaim
    refine Or.inl ?_
    unfold contend
    rw [hspent]
    refine ⟨rfl, ?_⟩
    rw [setPhase_self]
    rfl
  | ok w => exact Or.inr ⟨w, rfl, Governor.contend_window hclaim⟩

/-- A step takes a slot of the window, or leaves the window alone and lets nobody go. -/
theorem Step.window_cases {s' : Fleet ι α} {a : Action ι α} (h : Step (fun _ ↦ g) s a s') :
    (s'.memory.window g.seat = s.memory.window g.seat ∧ s.grantedBy a s' = false) ∨
      ∃ w, (s.memory.window g.seat).claim g.limit s.now = .ok w ∧ s'.memory.window g.seat = w := by
  cases h with
  | stay => exact Or.inl ⟨rfl, by cases a <;> simp [grantedBy]⟩
  | advance => exact Or.inl ⟨rfl, rfl⟩
  | violate => exact Or.inl ⟨rfl, rfl⟩
  | answer => exact Or.inl ⟨rfl, rfl⟩
  | exceed => exact Or.inl ⟨rfl, rfl⟩
  | @refuse i f hp _ =>
    refine Or.inl ⟨rfl, ?_⟩
    rw [grantedBy, setPhase_self]
    exact Bool.and_false _
  | @enter i hp _ =>
    refine Or.inl ⟨rfl, ?_⟩
    rw [grantedBy, setPhase_self]
    exact Bool.and_false _
  | @compete i _ =>
    rcases contend_cases g s i with ⟨hmem, hphase⟩ | htaken
    · rw [hmem, grantedBy, hphase]
      exact Or.inl ⟨rfl, Bool.and_false _⟩
    · exact Or.inr htaken

/-- The log of the slots that are taken in a run has every grant. -/
theorem exists_log (g : Governor) (s : Fleet ι α) (actions : List (Action ι α))
    (h : (s.memory.window g.seat).Logs g.limit s.now log) :
    ∃ log', ((s.run (fun _ ↦ g) actions).memory.window g.seat).Logs g.limit
        (s.run (fun _ ↦ g) actions).now log' ∧
      ((s.grants g actions).reverse ++ log).Sublist log' := by
  induction actions generalizing s log with
  | nil => exact ⟨log, h, List.Sublist.refl log⟩
  | cons a actions ih =>
    have hstep := step_is (fun _ ↦ g) s a
    have hnow := hstep.now_le
    rcases hstep.window_cases with ⟨hwindow, hgranted⟩ | ⟨w, hclaim, hwindow⟩
    · obtain ⟨log', hlogs, hsub⟩ := ih (s.step (fun _ ↦ g) a) (hwindow ▸ h.mono hnow)
      refine ⟨log', hlogs, ?_⟩
      rw [grants, hgranted]
      exact hsub
    · have hlog := hwindow ▸ (h.claim g.limit_pos hclaim).mono hnow
      obtain ⟨log', hlogs, hsub⟩ := ih (s.step (fun _ ↦ g) a) hlog
      refine ⟨log', hlogs, ?_⟩
      rw [grants]
      split
      · rw [List.reverse_cons, List.append_assoc]
        exact hsub
      · refine List.Sublist.trans ?_ hsub
        exact (List.sublist_cons_self s.now log).append_left _

/-- In no minute does a governor let more callers go than two windows hold, less one. -/
theorem grants_minute (g : Governor) (start : Nat) (actions : List (Action ι α)) (a : Nat) :
    between a (a + Window.length) (grants g { now := start } actions) ≤ 2 * g.limit - 1 := by
  let s : Fleet ι α := { now := start }
  have hfresh : (s.memory.window g.seat).Logs g.limit s.now [] := rfl
  obtain ⟨log, hlogs, hsub⟩ := exists_log g s actions hfresh
  have hcount : between a (a + Window.length) (grants g { now := start } actions) ≤
      between a (a + Window.length) log := by
    rw [List.append_nil] at hsub
    unfold between
    rw [← List.countP_reverse]
    exact hsub.countP_le
  have hminute := hlogs.minute g.limit_pos a
  omega

def straddling : List (Action Nat Unit) :=
  [.act 0, .act 0, .advance 59000, .act 1, .act 1, .advance 1000, .act 2, .act 2, .act 3, .act 3]

/-- Three callers are let go within a minute, which spans two windows of two slots each. -/
theorem minute_over_limit :
    let g := Governor.ofQuota "wartezeiten" 2 900000 0
    g.limit < between 59000 (59000 + Window.length) (grants g { now := 0 } straddling) := by
  decide +kernel

end Fleet

end ParkFusion.Quota
