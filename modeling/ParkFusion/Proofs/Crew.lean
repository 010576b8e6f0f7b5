import ParkFusion.Proofs.Replay

namespace ParkFusion.Quota

/-- Any number of callers, each with a program and a governor, that share one memory and one clock.
What a caller has heard takes its program to the next move. -/
structure Crew (ι α β : Type) where
  governor : ι → Governor
  program : ι → Replay (Except Failure α) β
  now : Nat
  memory : Memory := {}
  heard : ι → List (Notice (Except Failure α)) := fun _ ↦ []
  /-- The end of the last sleep. -/
  awake : ι → Nat := fun _ ↦ 0

namespace Crew

variable {ι α β : Type}

def position (c : Crew ι α β) (i : ι) : Except Move (β × List (Notice (Except Failure α))) :=
  (c.program i).run (c.heard i)

def Waits (c : Crew ι α β) (i : ι) : Prop :=
  ∃ change, c.position i = .error (.step change)

def CanAct (c : Crew ι α β) (i : ι) : Prop :=
  c.awake i ≤ c.now ∧ c.Waits i

def Requests (c : Crew ι α β) (i : ι) : Prop :=
  c.position i = .error .request

def Returned (c : Crew ι α β) (i : ι) (result : β) : Prop :=
  c.position i = .ok (result, [])

/-- The caller makes its request, or made it before. -/
def Requested (c : Crew ι α β) (i : ι) : Prop :=
  ∃ notices, notices <+: c.heard i ∧ (c.program i).run notices = .error .request

/-- Nothing is left to do but to make a request, or nothing at all. -/
def Idles (c : Crew ι α β) (i : ι) : Prop :=
  c.Requests i ∨ ∃ result, c.Returned i result

theorem Idles.not_waits {c : Crew ι α β} {i : ι} (h : c.Idles i) : ¬ c.Waits i := by
  rintro ⟨change, hwaits⟩
  rcases h with h | ⟨result, h⟩
  · cases hwaits.symm.trans h
  · cases hwaits.symm.trans h

/-- Two crews that differ in nothing that a caller, or who follows it, can tell. -/
structure Agrees (c d : Crew ι α β) (j : ι) : Prop where
  governor : d.governor = c.governor
  program : d.program = c.program
  heard : d.heard j = c.heard j
  awake : d.awake j = c.awake j
  now : c.now ≤ d.now

namespace Agrees

variable {c d e : Crew ι α β} {j : ι}

theorem refl (c : Crew ι α β) (j : ι) : Agrees c c j :=
  ⟨rfl, rfl, rfl, rfl, Nat.le_refl _⟩

theorem trans (h : Agrees c d j) (h' : Agrees d e j) : Agrees c e j :=
  ⟨h'.governor.trans h.governor, h'.program.trans h.program, h'.heard.trans h.heard,
    h'.awake.trans h.awake, h.now.trans h'.now⟩

theorem position (h : Agrees c d j) : d.position j = c.position j := by
  unfold Crew.position
  rw [h.program, h.heard]

theorem requested_iff (h : Agrees c d j) : d.Requested j ↔ c.Requested j := by
  unfold Requested
  rw [h.program, h.heard]

end Agrees

variable [DecidableEq ι]

def hear (c : Crew ι α β) (i : ι) (notice : Notice (Except Failure α)) : Crew ι α β :=
  { c with heard := Function.update c.heard i (c.heard i ++ [notice]) }

def setMemory (c : Crew ι α β) (memory : Memory) : Crew ι α β :=
  { c with memory }

def sleep (c : Crew ι α β) (i : ι) (duration : Nat) : Crew ι α β :=
  { c.hear i .rested with awake := Function.update c.awake i (c.now + duration) }

/-- Who comes to a pause is asleep at once. -/
def rest (c : Crew ι α β) (i : ι) : Crew ι α β :=
  match c.position i with
  | .error (.pause duration) => c.sleep i duration
  | _ => c

def move (c : Crew ι α β) (i : ι) : Crew ι α β :=
  match c.position i with
  | .error (.step change) =>
    ((c.hear i (.seen c.now c.memory)).setMemory (change c.now c.memory)).rest i
  | _ => c.rest i

/-- What is not possible, such as to act before the end of a sleep, does nothing. -/
def step (c : Crew ι α β) : Action ι α → Crew ι α β
  | .advance duration => { c with now := c.now + duration }
  | .act i => if c.awake i ≤ c.now then c.move i else c
  | .finish i reply =>
    match c.position i with
    | .error .request => (c.hear i (.replied reply)).move i
    | _ => c
  | .violate i =>
    c.setMemory { c.memory with store := (c.governor i).recordViolation c.now c.memory.store }

def run (c : Crew ι α β) (actions : List (Action ι α)) : Crew ι α β :=
  actions.foldl step c

variable {c : Crew ι α β} {i j : ι} {memory : Memory} {duration : Nat} {result : β}
variable {change : Nat → Memory → Memory} {notice : Notice (Except Failure α)}

@[simp]
theorem heard_hear (c : Crew ι α β) (i : ι) (notice : Notice (Except Failure α)) :
    (c.hear i notice).heard i = c.heard i ++ [notice] :=
  Function.update_self ..

@[simp]
theorem heard_sleep (c : Crew ι α β) (i : ι) (duration : Nat) :
    (c.sleep i duration).heard i = c.heard i ++ [.rested] :=
  Function.update_self ..

theorem move_of_step (h : c.position i = .error (.step change)) :
    c.move i = ((c.hear i (.seen c.now c.memory)).setMemory (change c.now c.memory)).rest i := by
  unfold move
  rw [h]

theorem rest_of_pause (h : c.position i = .error (.pause duration)) :
    c.rest i = c.sleep i duration := by
  unfold rest
  rw [h]

theorem Idles.rest (h : c.Idles i) : c.rest i = c := by
  unfold Crew.rest
  rcases h with h | ⟨result, h⟩
  · rw [h]
  · rw [h]

theorem Idles.move (h : c.Idles i) : c.move i = c := by
  have hrest := h.rest
  unfold Crew.move
  rcases h with h | ⟨result, h⟩
  · rw [h]
    exact hrest
  · rw [h]
    exact hrest

theorem Waits.rest (h : c.Waits i) : c.rest i = c := by
  obtain ⟨change, h⟩ := h
  unfold Crew.rest
  rw [h]

theorem agrees_hear (h : j ≠ i) (c : Crew ι α β) (notice : Notice (Except Failure α))
    (memory : Memory) : Agrees c ((c.hear i notice).setMemory memory) j :=
  ⟨rfl, rfl, Function.update_of_ne h .., rfl, Nat.le_refl _⟩

theorem agrees_rest (h : j ≠ i) (c : Crew ι α β) : Agrees c (c.rest i) j := by
  unfold rest
  split
  · exact ⟨rfl, rfl, Function.update_of_ne h .., Function.update_of_ne h .., Nat.le_refl _⟩
  · exact .refl c j

theorem agrees_move (h : j ≠ i) (c : Crew ι α β) : Agrees c (c.move i) j := by
  unfold move
  split
  · exact (agrees_hear h c ..).trans (agrees_rest h _)
  · exact agrees_rest h c

/-- The caller by whom an action is. -/
def mover? : Action ι α → Option ι
  | .act i | .finish i _ => some i
  | _ => none

theorem agrees_step {a : Action ι α} (h : mover? a ≠ some j) : Agrees c (c.step a) j := by
  cases a with
  | advance duration => exact ⟨rfl, rfl, rfl, rfl, Nat.le_add_right c.now duration⟩
  | violate i => exact ⟨rfl, rfl, rfl, rfl, Nat.le_refl _⟩
  | act i =>
    have hji : j ≠ i := fun hji ↦ h (congrArg some hji.symm)
    unfold step
    dsimp only
    split
    · exact agrees_move hji c
    · exact .refl c j
  | finish i reply =>
    have hji : j ≠ i := fun hji ↦ h (congrArg some hji.symm)
    unfold step
    dsimp only
    split
    · exact (agrees_hear hji c _ c.memory).trans (agrees_move hji _)
    · exact .refl c j

/-- Who returned takes no further part. -/
theorem Returned.agrees_step (h : c.Returned i result) (a : Action ι α) :
    Agrees c (c.step a) i := by
  have hidles : c.Idles i := Or.inr ⟨result, h⟩
  have hposition : c.position i = .ok (result, []) := h
  by_cases hmover : mover? a = some i
  · have hstays : c.step a = c := by
      cases a with
      | act j =>
        obtain rfl := Option.some.inj hmover
        rw [Crew.step, hidles.move, ite_self]
      | finish j reply =>
        obtain rfl := Option.some.inj hmover
        rw [Crew.step, hposition]
      | _ => cases hmover
    rw [hstays]
    exact .refl c i
  · exact Crew.agrees_step hmover

theorem Returned.agrees_run (h : c.Returned i result) (actions : List (Action ι α)) :
    Agrees c (c.run actions) i := by
  induction actions generalizing c with
  | nil => exact .refl c i
  | cons a actions ih =>
    have hstep := h.agrees_step a
    exact hstep.trans (ih (hstep.position.trans h))

end Crew

end ParkFusion.Quota
