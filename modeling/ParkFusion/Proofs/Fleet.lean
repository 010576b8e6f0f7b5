import Mathlib.Logic.Function.Basic
import ParkFusion.Proofs.GovernorSteps

namespace ParkFusion.Quota

/-- Where a caller stands that makes a request under a governor. -/
inductive Phase (α : Type)
  | idle
  | contending
  | asleep (wake : Nat)
  | running
  | returned (result : Except Failure α)

/-- Any number of callers, each with its governor, that share one memory and one clock. -/
structure Fleet (ι α : Type) where
  now : Nat
  memory : Memory := {}
  phase : ι → Phase α := fun _ ↦ .idle

inductive Action (ι α : Type)
  | advance (duration : Nat)
  /-- A caller enters, or tries for a slot and, if it gets one, looks once more for a block. -/
  | act (i : ι)
  | finish (i : ι) (result : Except Failure α)
  /-- The governor of a caller is told that the quota was exceeded. -/
  | violate (i : ι)

variable {ι α : Type}

def Phase.ofTurn (now : Nat) : Turn → Phase α
  | .released => running
  | .refused f => returned (.error f)
  | .asleep duration => asleep (now + duration)

/-- The caller whose governor learns by the action that the quota was exceeded. -/
def Action.violator? : Action ι α → Option ι
  | .violate i => some i
  | .finish i (.error f) => if f.isBlocked then some i else none
  | _ => none

namespace Fleet

variable [DecidableEq ι]

def store (s : Fleet ι α) : Store :=
  s.memory.store

def setPhase (s : Fleet ι α) (i : ι) (p : Phase α) : Fleet ι α :=
  { s with phase := Function.update s.phase i p }

def setStore (s : Fleet ι α) (store : Store) : Fleet ι α :=
  { s with memory := { s.memory with store } }

def enter (g : Governor) (i : ι) (s : Fleet ι α) : Fleet ι α :=
  match g.ensureOpen s.now s.store with
  | .error f => s.setPhase i (.returned (.error f))
  | .ok () => s.setPhase i .contending

def contend (g : Governor) (i : ι) (s : Fleet ι α) : Fleet ι α :=
  let (turn, memory) := g.contend s.now s.memory
  { s with memory }.setPhase i (.ofTurn s.now turn)

def violate (g : Governor) (s : Fleet ι α) : Fleet ι α :=
  s.setStore (g.recordViolation s.now s.store)

def finish (g : Governor) (i : ι) (s : Fleet ι α) : Except Failure α → Fleet ι α
  | .ok a => s.setPhase i (.returned (.ok a))
  | .error f =>
    if f.isBlocked then
      (s.violate g).setPhase i (.returned (.error (.quotaExceeded g.source g.block)))
    else s.setPhase i (.returned (.error f))

/-- What is not possible, such as to act before the end of a sleep, does nothing. -/
def step (g : ι → Governor) (s : Fleet ι α) : Action ι α → Fleet ι α
  | .advance duration => { s with now := s.now + duration }
  | .act i =>
    match s.phase i with
    | .idle => s.enter (g i) i
    | .contending => s.contend (g i) i
    | .asleep wake => if wake ≤ s.now then s.contend (g i) i else s
    | .running | .returned _ => s
  | .finish i result =>
    match s.phase i with
    | .running => s.finish (g i) i result
    | _ => s
  | .violate i => s.violate (g i)

def run (g : ι → Governor) (s : Fleet ι α) (actions : List (Action ι α)) : Fleet ι α :=
  actions.foldl (step g) s

theorem run_append (g : ι → Governor) (s : Fleet ι α) (actions later : List (Action ι α)) :
    s.run g (actions ++ later) = (s.run g actions).run g later :=
  List.foldl_append ..

def Competes (s : Fleet ι α) (i : ι) : Prop :=
  s.phase i = .contending ∨ ∃ wake ≤ s.now, s.phase i = .asleep wake

def Enabled (s : Fleet ι α) : Action ι α → Prop
  | .act i => s.phase i = .idle ∨ s.Competes i
  | .finish i _ => s.phase i = .running
  | _ => True

/-- All that a step can be. -/
inductive Step (g : ι → Governor) (s : Fleet ι α) : Action ι α → Fleet ι α → Prop
  | stay {a : Action ι α} : ¬ s.Enabled a → Step g s a s
  | advance (duration : Nat) : Step g s (.advance duration) { s with now := s.now + duration }
  | refuse {i : ι} {f : Failure} : s.phase i = .idle → (g i).ensureOpen s.now s.store = .error f →
      Step g s (.act i) (s.setPhase i (.returned (.error f)))
  | enter {i : ι} : s.phase i = .idle → (g i).ensureOpen s.now s.store = .ok () →
      Step g s (.act i) (s.setPhase i .contending)
  | compete {i : ι} : s.Competes i → Step g s (.act i) (s.contend (g i) i)
  | answer {i : ι} {result : Except Failure α} : s.phase i = .running →
      (Action.finish i result).violator? = none →
      Step g s (.finish i result) (s.setPhase i (.returned result))
  | exceed {i : ι} {f : Failure} : s.phase i = .running → f.isBlocked →
      Step g s (.finish i (.error f)) ((s.violate (g i)).setPhase i
        (.returned (.error (.quotaExceeded (g i).source (g i).block))))
  | violate (i : ι) : Step g s (.violate i) (s.violate (g i))

variable {g : ι → Governor} {s s' : Fleet ι α} {i j : ι} {a : Action ι α}

theorem setPhase_self (s : Fleet ι α) (i : ι) (p : Phase α) : (s.setPhase i p).phase i = p :=
  Function.update_self ..

theorem setPhase_of_ne (h : j ≠ i) (s : Fleet ι α) (p : Phase α) :
    (s.setPhase i p).phase j = s.phase j :=
  Function.update_of_ne h ..

theorem enter_of_error {g : Governor} {f : Failure} (h : g.ensureOpen s.now s.store = .error f)
    (i : ι) : s.enter g i = s.setPhase i (.returned (.error f)) := by
  unfold enter
  rw [h]

theorem enter_of_ok {g : Governor} (h : g.ensureOpen s.now s.store = .ok ()) (i : ι) :
    s.enter g i = s.setPhase i .contending := by
  unfold enter
  rw [h]

theorem step_of_idle (h : s.phase i = .idle) : s.step g (.act i) = s.enter (g i) i := by
  rw [step, h]

theorem step_of_competes (h : s.Competes i) : s.step g (.act i) = s.contend (g i) i := by
  rcases h with hp | ⟨wake, hwake, hp⟩
  · rw [step, hp]
  · rw [step, hp]
    exact if_pos hwake

theorem step_finish (h : s.phase i = .running) (g : ι → Governor) (result : Except Failure α) :
    Step g s (.finish i result) (s.step g (.finish i result)) := by
  rw [step, h]
  cases result with
  | ok a => exact .answer h rfl
  | error f =>
    dsimp only
    rw [finish]
    split
    · rename_i hf
      exact .exceed h hf
    · rename_i hf
      exact .answer h (if_neg hf)

theorem step_is (g : ι → Governor) (s : Fleet ι α) (a : Action ι α) : Step g s a (s.step g a) := by
  cases a with
  | advance duration => exact .advance duration
  | violate i => exact .violate i
  | act i =>
    cases hp : s.phase i with
    | idle =>
      rw [step_of_idle hp]
      cases hopen : (g i).ensureOpen s.now s.store with
      | error f =>
        rw [enter_of_error hopen]
        exact .refuse hp hopen
      | ok _ =>
        rw [enter_of_ok hopen]
        exact .enter hp hopen
    | contending =>
      rw [step_of_competes (Or.inl hp)]
      exact .compete (Or.inl hp)
    | asleep wake =>
      by_cases hwake : wake ≤ s.now
      · rw [step_of_competes (Or.inr ⟨wake, hwake, hp⟩)]
        exact .compete (Or.inr ⟨wake, hwake, hp⟩)
      · have hstays : s.step g (.act i) = s := by
          rw [step, hp]
          exact if_neg hwake
        rw [hstays]
        refine .stay ?_
        rintro (h | h | ⟨wake', hwake', h⟩)
        · cases hp.symm.trans h
        · cases hp.symm.trans h
        · cases hp.symm.trans h
          exact hwake hwake'
    | running =>
      rw [step, hp]
      refine .stay ?_
      rintro (h | h | ⟨wake, -, h⟩) <;> cases hp.symm.trans h
    | returned result =>
      rw [step, hp]
      refine .stay ?_
      rintro (h | h | ⟨wake, -, h⟩) <;> cases hp.symm.trans h
  | finish i result =>
    by_cases hp : s.phase i = .running
    · exact step_finish hp g result
    · rw [step]
      split
      · rename_i hrunning
        exact absurd hrunning hp
      · exact .stay hp

theorem Step.now_le (h : Step g s a s') : s.now ≤ s'.now := by
  cases h with
  | advance duration => exact Nat.le_add_right s.now duration
  | _ => exact Nat.le_refl s.now

/-- The store changes only where a caller competes for a slot, or learns of a violation. -/
theorem Step.store_cases (h : Step g s a s') :
    s'.store = s.store ∨ (∃ i, s'.store = ((g i).contend s.now s.memory).2.store) ∨
      ∃ i, a.violator? = some i ∧ s'.store = (g i).recordViolation s.now s.store := by
  cases h with
  | @compete i _ => exact Or.inr (Or.inl ⟨i, rfl⟩)
  | @exceed i f _ hf => exact Or.inr (Or.inr ⟨i, if_pos hf, rfl⟩)
  | violate i => exact Or.inr (Or.inr ⟨i, rfl, rfl⟩)
  | _ => exact Or.inl rfl

theorem now_le_run (g : ι → Governor) (s : Fleet ι α) (actions : List (Action ι α)) :
    s.now ≤ (s.run g actions).now := by
  induction actions generalizing s with
  | nil => exact Nat.le_refl s.now
  | cons a actions ih => exact (step_is g s a).now_le.trans (ih (s.step g a))

end Fleet

end ParkFusion.Quota
