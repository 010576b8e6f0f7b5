import ParkFusion.Proofs.GovernorRuns
import ParkFusion.Proofs.MinuteBound

namespace ParkFusion.Quota

namespace Window

variable {limit start taken now : Nat}

/-- When the window has the next slot for callers that all came at the start, after so many. -/
def due (limit start taken : Nat) : Nat :=
  start + taken / limit * length

/-- The window after so many slots, each taken when it was due. -/
def filled (limit start : Nat) : Nat → Window
  | 0 => {}
  | taken + 1 => ⟨some (due limit start taken), taken % limit + 1⟩

theorem start_le_due (limit start taken : Nat) : start ≤ due limit start taken :=
  Nat.le_add_right start _

theorem due_mono (limit start : Nat) {taken taken' : Nat} (h : taken ≤ taken') :
    due limit start taken ≤ due limit start taken' :=
  Nat.add_le_add_left (Nat.mul_le_mul_right length (Nat.div_le_div_right h)) start

/-- Either the window has a further slot, or the next one comes a minute later. -/
theorem due_succ (hlimit : 0 < limit) (start taken : Nat) :
    (taken % limit + 1 < limit ∧ (taken + 1) % limit = taken % limit + 1 ∧
      due limit start (taken + 1) = due limit start taken) ∨
    (taken % limit + 1 = limit ∧ (taken + 1) % limit = 0 ∧
      due limit start (taken + 1) = due limit start taken + length) := by
  have hmod := Nat.mod_lt taken hlimit
  have hsplit := Nat.div_add_mod taken limit
  unfold due
  by_cases h : taken % limit + 1 < limit
  · have hnext : (taken + 1) / limit = taken / limit ∧ (taken + 1) % limit = taken % limit + 1 := by
      rw [Nat.div_mod_unique hlimit]
      exact ⟨by omega, h⟩
    rw [hnext.1, hnext.2]
    exact Or.inl ⟨h, rfl, rfl⟩
  · have hnext : (taken + 1) / limit = taken / limit + 1 ∧ (taken + 1) % limit = 0 := by
      rw [Nat.div_mod_unique hlimit, Nat.mul_succ]
      exact ⟨by omega, hlimit⟩
    rw [hnext.1, hnext.2, Nat.succ_mul]
    exact Or.inr ⟨by omega, rfl, by omega⟩

theorem claim_filled_due (hlimit : 0 < limit) (start taken : Nat) :
    (filled limit start taken).claim limit (due limit start taken) =
      .ok (filled limit start (taken + 1)) := by
  have hlength : 0 < length := by decide
  cases taken with
  | zero => simp [filled, claim, takeSlot, isRunning, due]
  | succ k =>
    rcases due_succ hlimit start k with ⟨hfree, hmod, hdue⟩ | ⟨-, hmod, hdue⟩
    · have hspent : ¬ limit ≤ k % limit + 1 := by omega
      simp [filled, claim, takeSlot, isRunning, hdue, hmod, hspent, hlength]
    · simp [filled, claim, takeSlot, isRunning, hdue, hmod]

theorem claim_filled_early (hlimit : 0 < limit) (hstart : start ≤ now)
    (hlast : ∀ k, taken = k + 1 → due limit start k ≤ now) (hnow : now < due limit start taken) :
    (filled limit start taken).claim limit now = .error (due limit start taken - now) := by
  cases taken with
  | zero =>
    have hzero : due limit start 0 = start := by simp [due]
    omega
  | succ k =>
    have hlate := hlast k rfl
    rcases due_succ hlimit start k with ⟨-, -, hdue⟩ | ⟨hspent, -, hdue⟩
    · omega
    · have hrunning : now < due limit start k + length := hdue ▸ hnow
      have hcount : limit ≤ k % limit + 1 := hspent.ge
      simp [filled, claim, isRunning, finish, hdue, hrunning, hcount]

end Window

/-- Who tries for a slot that is due gets it. -/
theorem Governor.contend_due {g : Governor} {mem : Memory} {start taken now : Nat}
    (hwindow : mem.window g.seat = .filled g.limit start taken)
    (hdue : now = Window.due g.limit start taken) (hready : g.Ready now mem.store) :
    ∃ mem', g.contend now mem = (.released, mem') ∧
      mem'.window g.seat = .filled g.limit start (taken + 1) ∧ g.Ready now mem'.store := by
  have hclaim : (mem.window g.seat).claim g.limit now =
      .ok (.filled g.limit start (taken + 1)) := by
    rw [hwindow, hdue]
    exact Window.claim_filled_due g.limit_pos start taken
  obtain ⟨store, hcontend⟩ := contend_of_isOpen hclaim hready.isOpen hready.readable
  have hfilled := contend_window hclaim
  have hlease := g.lease_contend g now mem
  have hreadable := hready.readable.contend g now
  rw [hcontend] at hfilled hlease hreadable
  exact ⟨_, hcontend, hfilled, fun e he ↦ hready.isOpen e (hlease.symm.trans he), hreadable⟩

/-- Where a caller may stand that has slept so often, while the next slot is due. -/
def Phase.InTurn {α : Type} (p : Phase α) (start now next sleeps : Nat) : Prop :=
  match p with
  | .idle | .contending => now = start ∧ sleeps = 0
  | .asleep wake => wake = start + sleeps * Window.length ∧ now ≤ wake ∧ (now < wake → wake = next)
  | .running => True
  | .returned _ => False

/-- Nobody who is in turn sleeps beyond a slot that is due. -/
theorem Phase.InTurn.of_due {α : Type} {p : Phase α} {start now sleeps : Nat}
    (h : p.InTurn start now now sleeps) (next : Nat) : p.InTurn start now next sleeps := by
  cases p with
  | asleep wake => exact ⟨h.1, h.2.1, fun hlate ↦ absurd (h.2.2 hlate) hlate.ne'⟩
  | _ => exact h

namespace Fleet

variable {ι α : Type} {s : Fleet ι α} {i j : ι} {a : Action ι α}

/-- Callers act whenever they can, and the clock moves only where none of them can, to the end of a
sleep at most. -/
inductive Moves (s : Fleet ι α) : Action ι α → Prop
  | act {i : ι} : s.Enabled (.act i) → Moves s (.act i)
  | advance {duration wake : Nat} {i : ι} : 0 < duration → (∀ j, ¬ s.Enabled (.act j)) →
      s.phase i = .asleep wake →
      (∀ j wake, s.phase j = .asleep wake → s.now + duration ≤ wake) →
      Moves s (.advance duration)

theorem Competes.ne_running (h : s.Competes i) : s.phase i ≠ .running := by
  rcases h with hp | ⟨wake, -, hp⟩
  · exact hp ▸ nofun
  · exact hp ▸ nofun

/-- The callers with the slots that they got so far, and how often each of them slept. -/
structure Journal (ι α : Type) extends Fleet ι α where
  releases : List (ι × Nat) := []
  sleeps : ι → Nat := fun _ ↦ 0

namespace Journal

variable {g : Governor} {w w' : Journal ι α} {start : Nat}

def next (g : Governor) (start : Nat) (w : Journal ι α) : Nat :=
  Window.due g.limit start w.releases.length

/-- Every slot was taken when it was due. -/
structure OnSchedule (g : Governor) (start : Nat) (w : Journal ι α) : Prop where
  ready : g.Ready w.now w.memory.store
  window : w.memory.window g.seat = .filled g.limit start w.releases.length
  started : start ≤ w.now
  last : ∀ k, w.releases.length = k + 1 → Window.due g.limit start k ≤ w.now
  punctual : ∀ i, w.phase i ≠ .running → w.now ≤ w.next g start
  inTurn : ∀ i, (w.phase i).InTurn start w.now (w.next g start) (w.sleeps i)
  times : w.releases.map Prod.snd =
    (List.range w.releases.length).map (Window.due g.limit start)
  once : (w.releases.map Prod.fst).Nodup
  released_iff : ∀ i, w.phase i = .running ↔ i ∈ w.releases.map Prod.fst
  slept : ∀ i t, (i, t) ∈ w.releases → t = start + w.sleeps i * Window.length

theorem OnSchedule.now_eq (h : OnSchedule g start w) (hcompetes : w.Competes i) :
    w.now = start + w.sleeps i * Window.length := by
  have hturn := h.inTurn i
  rcases hcompetes with hp | ⟨wake, hwake, hp⟩
  · rw [hp] at hturn
    rw [hturn.2, Nat.zero_mul]
    exact hturn.1
  · rw [hp] at hturn
    exact (Nat.le_antisymm hturn.2.1 hwake).trans hturn.1

/-- Who comes too early for a slot sleeps for a minute. -/
theorem OnSchedule.next_eq (h : OnSchedule g start w) (hcompetes : w.Competes i)
    (hearly : w.now < w.next g start) :
    w.next g start = start + (w.sleeps i + 1) * Window.length := by
  have hnow := h.now_eq hcompetes
  have hlast := h.last
  have hlength : Window.length = 60000 := rfl
  unfold next at hearly ⊢
  cases hr : w.releases.length with
  | zero =>
    rw [hr] at hearly
    have hstart := h.started
    simp [Window.due] at hearly
    omega
  | succ k =>
    rw [hr] at hearly
    have hbefore := hlast k hr
    rcases Window.due_succ g.limit_pos start k with ⟨-, -, hdue⟩ | ⟨-, -, hdue⟩
    · omega
    · rw [hdue] at hearly ⊢
      unfold Window.due at hearly hbefore ⊢
      rw [hlength] at hnow hearly hbefore ⊢
      omega

theorem OnSchedule.asleep_of_stuck (h : OnSchedule g start w)
    (hnone : ∀ j, ¬ w.Enabled (.act j)) (hi : w.phase i ≠ .running) :
    w.phase i = .asleep (w.next g start) ∧ w.now < w.next g start := by
  have hturn := h.inTurn i
  cases hp : w.phase i with
  | idle => exact absurd (Or.inl hp) (hnone i)
  | contending => exact absurd (Or.inr (Or.inl hp)) (hnone i)
  | running => exact absurd hp hi
  | returned result =>
    rw [hp] at hturn
    exact hturn.elim
  | asleep wake =>
    rw [hp] at hturn
    have hlate : w.now < wake := by
      by_contra hwake
      exact hnone i (Or.inr (Or.inr ⟨wake, Nat.not_lt.mp hwake, hp⟩))
    obtain rfl : wake = w.next g start := hturn.2.2 hlate
    exact ⟨rfl, hlate⟩

theorem OnSchedule.advance {duration : Nat} (h : OnSchedule g start w)
    (hnone : ∀ j, ¬ w.Enabled (.act j))
    (hbefore : ∀ j wake, w.phase j = .asleep wake → w.now + duration ≤ wake) :
    OnSchedule g start { w with now := w.now + duration } where
  ready := h.ready.mono (Nat.le_add_right w.now duration)
  window := h.window
  started := h.started.trans (Nat.le_add_right w.now duration)
  last k hk := (h.last k hk).trans (Nat.le_add_right w.now duration)
  punctual j hj := hbefore j _ (h.asleep_of_stuck hnone hj).1
  inTurn j := by
    by_cases hj : w.phase j = .running
    · simp [hj, Phase.InTurn]
    · have hturn := h.inTurn j
      obtain ⟨hp, -⟩ := h.asleep_of_stuck hnone hj
      rw [hp] at hturn
      simpa [hp, Phase.InTurn] using ⟨hturn.1, hbefore j _ hp, fun _ ↦ rfl⟩
  times := h.times
  once := h.once
  released_iff := h.released_iff
  slept := h.slept

end Journal

variable [DecidableEq ι]

/-- A run of the callers of one governor, in any order in which they take its window and wake up. -/
def Prompt (g : Governor) (s : Fleet ι α) : List (Action ι α) → Prop
  | [] => True
  | a :: actions => s.Moves a ∧ (s.step (fun _ ↦ g) a).Prompt g actions

namespace Journal

variable {g : Governor} {w w' : Journal ι α} {start : Nat}

/-- A move, entered in the journal. -/
def step (g : Governor) (w : Journal ι α) (a : Action ι α) : Journal ι α :=
  let fleet := w.toFleet.step (fun _ ↦ g) a
  match a with
  | .act i =>
    match fleet.phase i with
    | .running => { w with toFleet := fleet, releases := w.releases ++ [(i, fleet.now)] }
    | .asleep _ => { w with
        toFleet := fleet, sleeps := Function.update w.sleeps i (w.sleeps i + 1) }
    | _ => { w with toFleet := fleet }
  | _ => { w with toFleet := fleet }

def run (g : Governor) (w : Journal ι α) (actions : List (Action ι α)) : Journal ι α :=
  actions.foldl (step g) w

/-- All that a move can be. -/
inductive Progress (g : Governor) (start : Nat) (w : Journal ι α) :
    Action ι α → Journal ι α → Prop
  | enter {i : ι} : w.phase i = .idle →
      Progress g start w (.act i) { w with phase := Function.update w.phase i .contending }
  | sleep {i : ι} : w.Competes i → w.now < w.next g start →
      Progress g start w (.act i) { w with
        phase := Function.update w.phase i (.asleep (w.next g start))
        sleeps := Function.update w.sleeps i (w.sleeps i + 1) }
  | release {i : ι} {memory : Memory} : w.Competes i → w.now = w.next g start →
      memory.window g.seat = .filled g.limit start (w.releases.length + 1) →
      g.Ready w.now memory.store →
      Progress g start w (.act i) { w with
        memory
        phase := Function.update w.phase i .running
        releases := w.releases ++ [(i, w.now)] }
  | advance {duration wake : Nat} {i : ι} : 0 < duration → (∀ j, ¬ w.Enabled (.act j)) →
      w.phase i = .asleep wake → (∀ j wake, w.phase j = .asleep wake → w.now + duration ≤ wake) →
      Progress g start w (.advance duration) { w with now := w.now + duration }

theorem OnSchedule.step_enter (h : OnSchedule g start w) (hidle : w.phase i = .idle) :
    w.step g (.act i) = { w with phase := Function.update w.phase i .contending } := by
  have hfleet : w.toFleet.step (fun _ ↦ g) (.act i) = w.toFleet.setPhase i .contending := by
    rw [step_of_idle hidle]
    exact enter_of_ok (Governor.ensureOpen_of_isOpen h.ready.isOpen) i
  unfold step
  simp only [hfleet, setPhase_self]
  rfl

theorem OnSchedule.step_sleep (h : OnSchedule g start w) (hcompetes : w.Competes i)
    (hearly : w.now < w.next g start) :
    w.step g (.act i) = { w with
      phase := Function.update w.phase i (.asleep (w.next g start))
      sleeps := Function.update w.sleeps i (w.sleeps i + 1) } := by
  have hclaim : (w.memory.window g.seat).claim g.limit w.now =
      .error (w.next g start - w.now) := by
    rw [h.window]
    exact Window.claim_filled_early g.limit_pos h.started h.last hearly
  have hwake : w.now + (w.next g start - w.now) = w.next g start := by omega
  have hfleet : w.toFleet.step (fun _ ↦ g) (.act i) =
      w.toFleet.setPhase i (.asleep (w.next g start)) := by
    rw [step_of_competes hcompetes, contend, Governor.contend_of_spent hclaim]
    dsimp only [Phase.ofTurn]
    rw [hwake]
  unfold step
  simp only [hfleet, setPhase_self]
  rfl

theorem OnSchedule.step_release (h : OnSchedule g start w) (hcompetes : w.Competes i)
    (hdue : w.now = w.next g start) : ∃ memory : Memory,
      memory.window g.seat = .filled g.limit start (w.releases.length + 1) ∧
      g.Ready w.now memory.store ∧
      w.step g (.act i) = { w with
        memory
        phase := Function.update w.phase i .running
        releases := w.releases ++ [(i, w.now)] } := by
  obtain ⟨memory, hcontend, hwindow, hready⟩ := Governor.contend_due h.window hdue h.ready
  refine ⟨memory, hwindow, hready, ?_⟩
  unfold step
  simp only [step_of_competes hcompetes, contend, hcontend, Phase.ofTurn, setPhase_self]
  rfl

theorem OnSchedule.step_cases (h : OnSchedule g start w) (hm : w.toFleet.Moves a) :
    Progress g start w a (w.step g a) := by
  cases hm with
  | advance hpos hnone hasleep hbefore => exact .advance hpos hnone hasleep hbefore
  | @act i henabled =>
    rcases henabled with hidle | hcompetes
    · rw [h.step_enter hidle]
      exact .enter hidle
    · rcases (h.punctual i hcompetes.ne_running).lt_or_eq with hearly | hdue
      · rw [h.step_sleep hcompetes hearly]
        exact .sleep hcompetes hearly
      · obtain ⟨memory, hwindow, hready, hstep⟩ := h.step_release hcompetes hdue
        rw [hstep]
        exact .release hcompetes hdue hwindow hready

end Journal

end Fleet

end ParkFusion.Quota
