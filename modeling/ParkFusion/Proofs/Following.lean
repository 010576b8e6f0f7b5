import ParkFusion.Proofs.Crew

namespace ParkFusion.Quota

/-- What a caller does once it has its slot or is refused. -/
structure Plan (α β : Type) where
  next : Governor → Except Failure Unit → Replay (Except Failure α) β
  done : Except Failure α → β
  next_error (g : Governor) (f : Failure) : next g (.error f) = pure (done (.error f))
  next_ok (g : Governor) : (next g (.ok ())).run [] = .error .request ∨
    ∃ result, (next g (.ok ())).run [] = .ok (result, [])

variable {ι α β : Type} {plan : Plan α β}

def Plan.program (plan : Plan α β) (g : Governor) : Replay (Except Failure α) β :=
  g.acquire >>= plan.next g

namespace Plan

/-- A caller that makes its request, and is done when it is answered. -/
def call : Plan α (Except Failure α) where
  next g
    | .error f => pure (.error f)
    | .ok () => Replay.request >>= g.settle
  done := id
  next_error _ _ := rfl
  next_ok _ := Or.inl rfl

/-- A caller that is done once it has its slot. -/
def acquire : Plan α (Except Failure Unit) where
  next _ := pure
  done result := result.map fun _ ↦ ()
  next_error _ _ := rfl
  next_ok _ := Or.inr ⟨.ok (), rfl⟩

theorem call_program (g : Governor) :
    (call : Plan α (Except Failure α)).program g = g.call Replay.request := by
  refine bind_congr fun opened ↦ ?_
  cases opened with
  | error f => rfl
  | ok _ => rfl

theorem acquire_program (g : Governor) :
    (acquire : Plan α (Except Failure Unit)).program g = g.acquire :=
  bind_pure _

end Plan

namespace Phase

/-- What is left of the program of a caller. -/
def remainder (plan : Plan α β) (g : Governor) : Phase α → Replay (Except Failure α) β
  | .idle => plan.program g
  | .contending | .asleep _ => g.await >>= plan.next g
  | .running => plan.next g (.ok ())
  | .returned result => pure (plan.done result)

def Waits : Phase α → Prop
  | .idle | .contending | .asleep _ => True
  | _ => False

def Competes (p : Phase α) : Prop :=
  p = .contending ∨ ∃ wake, p = .asleep wake

/-- The caller is up once it has slept so long. -/
def UpAt (now awake : Nat) : Phase α → Prop
  | .asleep wake => awake = wake
  | _ => awake ≤ now

theorem Competes.waits {p : Phase α} (hp : p.Competes) : p.Waits := by
  rcases hp with rfl | ⟨wake, rfl⟩ <;> trivial

theorem Competes.remainder {p : Phase α} (hp : p.Competes) (plan : Plan α β) (g : Governor) :
    p.remainder plan g = g.await >>= plan.next g := by
  rcases hp with rfl | ⟨wake, rfl⟩ <;> rfl

def ofOpening : Except Failure Unit → Phase α
  | .ok () => contending
  | .error f => returned (.error f)

/-- What a caller that comes so far has heard of a sleep. -/
def slept {ρ : Type} : Phase α → List (Notice ρ)
  | .asleep _ => [.rested]
  | _ => []

end Phase

namespace Crew

def Left (c : Crew ι α β) (i : ι) (m : Replay (Except Failure α) β) : Prop :=
  ∀ later, (c.program i).run (c.heard i ++ later) = m.run later

/-- A caller of a crew stands where the caller of a fleet does. -/
structure Stands (plan : Plan α β) (c : Crew ι α β) (i : ι) (p : Phase α) : Prop where
  left : c.Left i (p.remainder plan (c.governor i))
  up : p.UpAt c.now (c.awake i)
  fresh_iff : c.heard i = [] ↔ p = .idle
  unasked : p.Waits → ¬ c.Requested i

variable {c d : Crew ι α β} {i j : ι} {p q : Phase α} {memory : Memory}
variable {m m' : Replay (Except Failure α) β} {notice : Notice (Except Failure α)}

theorem Left.position (h : c.Left i m) : c.position i = m.run [] := by
  have hleft := h []
  rw [List.append_nil] at hleft
  exact hleft

namespace Stands

theorem congr (h : Stands plan c j p) (hagrees : Agrees c d j) : Stands plan d j p where
  left := by
    unfold Left
    rw [hagrees.program, hagrees.heard, hagrees.governor]
    exact h.left
  up := by
    have hup := h.up
    rw [hagrees.awake]
    cases p with
    | asleep wake => exact hup
    | _ => exact hup.trans hagrees.now
  fresh_iff := by
    rw [hagrees.heard]
    exact h.fresh_iff
  unasked hp := by
    unfold Requested
    rw [hagrees.program, hagrees.heard]
    exact h.unasked hp

/-- A caller that has its slot, or is done, waits for nothing. -/
theorem of_not_waits (hleft : c.Left i (p.remainder plan (c.governor i)))
    (hup : c.awake i ≤ c.now) (hheard : c.heard i ≠ []) (hp : ¬ p.Waits) : Stands plan c i p where
  left := hleft
  up := by
    cases p with
    | asleep wake => exact absurd trivial hp
    | _ => exact hup
  fresh_iff := by
    refine iff_of_false hheard ?_
    rintro rfl
    exact hp trivial
  unasked hwaits := absurd hwaits hp

theorem waits (h : Stands plan c i p) (hp : p.Waits) : c.Waits i := by
  unfold Crew.Waits
  rw [h.left.position]
  cases p with
  | idle => exact ⟨_, (c.governor i).acquire_run_nil (plan.next (c.governor i))⟩
  | contending => exact ⟨_, (c.governor i).await_run_nil (plan.next (c.governor i))⟩
  | asleep wake => exact ⟨_, (c.governor i).await_run_nil (plan.next (c.governor i))⟩
  | running => exact hp.elim
  | returned result => exact hp.elim

theorem idles (h : Stands plan c i p) (hp : ¬ p.Waits) : c.Idles i := by
  have hposition := h.left.position
  cases p with
  | running =>
    rcases plan.next_ok (c.governor i) with hnext | ⟨result, hnext⟩
    · exact Or.inl (hposition.trans hnext)
    · exact Or.inr ⟨result, hposition.trans hnext⟩
  | returned result => exact Or.inr ⟨plan.done result, hposition⟩
  | _ => exact absurd trivial hp

end Stands

variable [DecidableEq ι]

theorem Stands.rest (h : Stands plan c i p) : c.rest i = c := by
  by_cases hp : p.Waits
  · exact (h.waits hp).rest
  · exact (h.idles hp).rest

theorem Left.hear (h : c.Left i m)
    (hnext : ∀ later, m.run (notice :: later) = m'.run later) :
    (c.hear i notice).Left i m' := by
  intro later
  rw [heard_hear, List.append_assoc, List.singleton_append]
  exact (h _).trans (hnext later)

omit [DecidableEq ι] in
theorem not_requested_of_heard (h : ¬ c.Requested i) (hprogram : d.program = c.program)
    (hheard : d.heard i = c.heard i ++ [notice]) (hnew : ¬ d.Requests i) : ¬ d.Requested i := by
  rintro ⟨notices, hprefix, hrequest⟩
  rw [hheard, List.prefix_concat_iff] at hprefix
  rcases hprefix with rfl | hprefix
  · rw [← hheard] at hrequest
    exact hnew hrequest
  · rw [hprogram] at hrequest
    exact h ⟨notices, hprefix, hrequest⟩

theorem not_requested_hear (h : ¬ c.Requested i) (hnew : ¬ (c.hear i notice).Requests i) :
    ¬ (c.hear i notice).Requested i :=
  not_requested_of_heard h rfl (heard_hear ..) hnew

theorem Stands.hear (h : Stands plan c i p)
    (hleft : (c.hear i notice).Left i (q.remainder plan (c.governor i)))
    (hup : q.UpAt c.now (c.awake i)) (hq : q ≠ .idle) (hasked : q.Waits → p.Waits) :
    Stands plan (c.hear i notice) i q where
  left := hleft
  up := hup
  fresh_iff := by
    rw [heard_hear]
    exact iff_of_false (by simp) hq
  unasked hwaits := by
    refine not_requested_hear (h.unasked (hasked hwaits)) fun hrequest ↦ ?_
    have hcompetes : q.Competes := by
      cases q with
      | idle => exact absurd rfl hq
      | contending => exact Or.inl rfl
      | asleep wake => exact Or.inr ⟨wake, rfl⟩
      | running => exact hwaits.elim
      | returned result => exact hwaits.elim
    rw [hcompetes.remainder] at hleft
    cases (hleft.position.trans (Governor.await_run_nil ..)).symm.trans hrequest

/-- Who comes looks for a block. -/
theorem Stands.enter (h : Stands plan c i .idle) :
    c.step (.act i) = c.hear i (.seen c.now c.memory) ∧ Stands plan (c.step (.act i)) i
      (.ofOpening ((c.governor i).ensureOpen c.now c.memory.store)) := by
  have hposition := h.left.position.trans
    ((c.governor i).acquire_run_nil (plan.next (c.governor i)))
  have hrun := (c.governor i).acquire_run_seen (plan.next (c.governor i)) c.now c.memory
  have hstands : Stands plan (c.hear i (.seen c.now c.memory)) i
      (.ofOpening ((c.governor i).ensureOpen c.now c.memory.store)) := by
    cases hopen : (c.governor i).ensureOpen c.now c.memory.store with
    | error f =>
      simp only [hopen, plan.next_error] at hrun
      exact h.hear (h.left.hear hrun) h.up nofun nofun
    | ok _ =>
      rw [hopen] at hrun
      exact h.hear (h.left.hear hrun) h.up nofun fun _ ↦ trivial
  have hstep : c.step (.act i) = c.hear i (.seen c.now c.memory) := by
    have hup : c.awake i ≤ c.now := h.up
    rw [Crew.step, if_pos hup, move_of_step hposition]
    exact hstands.rest
  rw [hstep]
  exact ⟨rfl, hstands⟩

/-- Who pauses before the next try is asleep. -/
theorem Stands.pause {delay : Nat} (hunasked : ¬ c.Requested i)
    (hleft : c.Left i
      (Clock.pause delay >>= fun _ ↦ (c.governor i).await >>= plan.next (c.governor i))) :
    c.rest i = c.sleep i delay ∧ Stands plan (c.rest i) i (.asleep (c.now + delay)) := by
  have hposition : c.position i = .error (.pause delay) := hleft.position
  have hrested : (c.hear i .rested).Left i
      ((c.governor i).await >>= plan.next (c.governor i)) := hleft.hear fun later ↦ rfl
  rw [rest_of_pause hposition]
  refine ⟨rfl, hrested, Function.update_self .., iff_of_false ?_ ?_, fun _ ↦ ?_⟩
  · simp
  · rintro ⟨⟩
  · refine not_requested_hear hunasked fun hrequest ↦ ?_
    cases (hrested.position.trans (Governor.await_run_nil ..)).symm.trans hrequest

/-- Who competes for a slot gets it, is refused, or goes to sleep. -/
theorem Stands.compete {turn : Turn} (h : Stands plan c i p) (hp : p.Competes)
    (hup : c.awake i ≤ c.now)
    (hturn : (c.governor i).contend c.now c.memory = (turn, memory)) :
    (c.step (.act i)).memory = memory ∧
      (c.step (.act i)).heard i = c.heard i ++
        .seen c.now c.memory :: (Phase.ofTurn c.now turn : Phase α).slept ∧
        Stands plan (c.step (.act i)) i (.ofTurn c.now turn) := by
  let seen : Crew ι α β := (c.hear i (.seen c.now c.memory)).setMemory memory
  have hleft : c.Left i ((c.governor i).await >>= plan.next (c.governor i)) := by
    rw [← hp.remainder]
    exact h.left
  have hposition := hleft.position.trans (Governor.await_run_nil ..)
  have hstep : c.step (.act i) = seen.rest i := by
    rw [Crew.step, if_pos hup, move_of_step hposition, hturn]
  have hheard : seen.heard i = c.heard i ++ [.seen c.now c.memory] := heard_hear ..
  have hfresh : seen.heard i ≠ [] := by simp [hheard]
  have hrun := (c.governor i).await_run_seen (plan.next (c.governor i)) c.now c.memory
  rw [hturn] at hrun
  rw [hstep]
  cases turn with
  | released =>
    have hstands : Stands plan seen i .running := .of_not_waits (hleft.hear hrun) hup hfresh id
    rw [hstands.rest]
    exact ⟨rfl, hheard, hstands⟩
  | refused f =>
    simp only [plan.next_error] at hrun
    have hstands : Stands plan seen i (.returned (.error f)) :=
      .of_not_waits (hleft.hear hrun) hup hfresh id
    rw [hstands.rest]
    exact ⟨rfl, hheard, hstands⟩
  | asleep delay =>
    have htired := hleft.hear hrun
    have hunasked : ¬ seen.Requested i := by
      refine not_requested_hear (h.unasked hp.waits) fun hrequest ↦ ?_
      cases htired.position.symm.trans hrequest
    obtain ⟨hsleep, hstands⟩ := Stands.pause (c := seen) hunasked htired
    refine ⟨congrArg Crew.memory hsleep, ?_, hstands⟩
    rw [hsleep, heard_sleep, hheard, List.append_assoc, List.singleton_append]
    rfl

theorem kept_rest (c : Crew ι α β) (i : ι) : (c.rest i).governor = c.governor ∧
    (c.rest i).program = c.program ∧ (c.rest i).now = c.now := by
  unfold Crew.rest
  split <;> exact ⟨rfl, rfl, rfl⟩

theorem kept_move (c : Crew ι α β) (i : ι) : (c.move i).governor = c.governor ∧
    (c.move i).program = c.program ∧ (c.move i).now = c.now := by
  unfold move
  split <;> exact kept_rest ..

theorem kept_act (c : Crew ι α β) (i : ι) : (c.step (.act i)).governor = c.governor ∧
    (c.step (.act i)).program = c.program ∧ (c.step (.act i)).now = c.now := by
  unfold step
  dsimp only
  split
  · exact kept_move c i
  · exact ⟨rfl, rfl, rfl⟩

/-- The callers of a crew do with their programs what those of a fleet do. -/
structure Follows (plan : Plan α β) (g : ι → Governor) (s : Fleet ι α) (c : Crew ι α β) :
    Prop where
  governor : c.governor = g
  now : c.now = s.now
  memory : c.memory = s.memory
  stands : ∀ i, Stands plan c i (s.phase i)

namespace Follows

variable {g : ι → Governor} {s : Fleet ι α}

omit [DecidableEq ι] in
theorem start {program : ι → Replay (Except Failure α) β} (now : Nat) (memory : Memory)
    (hprogram : ∀ i, program i = plan.program (g i)) :
    Follows plan g { now, memory } { governor := g, program, now, memory } where
  governor := rfl
  now := rfl
  memory := rfl
  stands i := by
    refine ⟨fun later ↦ congrArg (·.run later) (hprogram i), Nat.zero_le now,
      iff_of_true rfl rfl, ?_⟩
    rintro - ⟨notices, hprefix, hrequest⟩
    obtain rfl := List.prefix_nil.mp hprefix
    have hrun := congrArg (·.run []) (hprogram i)
    cases (hrun.trans (Governor.acquire_run_nil ..)).symm.trans hrequest

theorem advance (h : Follows plan g s c) (duration : Nat) :
    Follows plan g (s.step g (.advance duration)) (c.step (.advance duration)) where
  governor := h.governor
  now := congrArg (· + duration) h.now
  memory := h.memory
  stands j := (h.stands j).congr (agrees_step nofun)

theorem violate (h : Follows plan g s c) (i : ι) :
    Follows plan g (s.step g (.violate i)) (c.step (.violate i)) where
  governor := h.governor
  now := h.now
  memory := by
    change { c.memory with store := (c.governor i).recordViolation c.now c.memory.store } = _
    rw [h.governor, h.now, h.memory]
    rfl
  stands j := (h.stands j).congr (agrees_step nofun)

/-- It is enough to look at the caller that moves. -/
theorem setPhase (h : Follows plan g s c) {a : Action ι α} (memory : Memory)
    (hmover : mover? a = some i) (hgovernor : (c.step a).governor = c.governor)
    (hnow : (c.step a).now = c.now) (hmemory : (c.step a).memory = memory)
    (hstands : Stands plan (c.step a) i p) :
    Follows plan g ({ s with memory }.setPhase i p) (c.step a) where
  governor := hgovernor.trans h.governor
  now := hnow.trans h.now
  memory := hmemory
  stands j := by
    by_cases hji : j = i
    · rw [hji, Fleet.setPhase_self]
      exact hstands
    · have hother : mover? a ≠ some j := fun hj ↦ hji (Option.some.inj (hj.symm.trans hmover))
      rw [Fleet.setPhase_of_ne hji]
      exact (h.stands j).congr (agrees_step hother)

theorem enter (h : Follows plan g s c) (hp : s.phase i = .idle) :
    Follows plan g (s.setPhase i (.ofOpening ((g i).ensureOpen s.now s.store)))
      (c.step (.act i)) := by
  obtain ⟨hgovernor, -, hnow⟩ := c.kept_act i
  have hidle := h.stands i
  rw [hp] at hidle
  obtain ⟨hstep, hstands⟩ := hidle.enter
  rw [h.governor, h.now, h.memory] at hstands
  have hmemory : (c.step (.act i)).memory = s.memory := by
    rw [hstep]
    exact h.memory
  exact h.setPhase _ rfl hgovernor hnow hmemory hstands

omit [DecidableEq ι] in
theorem competes (h : Follows plan g s c) (hcompetes : s.Competes i) :
    (s.phase i).Competes ∧ c.awake i ≤ c.now := by
  have hup := (h.stands i).up
  rcases hcompetes with hp | ⟨wake, hwake, hp⟩
  · rw [hp] at hup
    exact ⟨Or.inl hp, hup⟩
  · rw [hp] at hup
    exact ⟨Or.inr ⟨wake, hp⟩, (Nat.le_of_eq hup).trans (h.now ▸ hwake)⟩

theorem compete (h : Follows plan g s c) (hcompetes : s.Competes i) :
    Follows plan g (s.contend (g i) i) (c.step (.act i)) := by
  obtain ⟨hgovernor, -, hnow⟩ := c.kept_act i
  obtain ⟨hp, hup⟩ := h.competes hcompetes
  rcases hturn : (g i).contend s.now s.memory with ⟨turn, memory⟩
  have hcontend : (c.governor i).contend c.now c.memory = (turn, memory) := by
    rw [h.governor, h.now, h.memory, hturn]
  obtain ⟨hmemory, -, hstands⟩ := (h.stands i).compete hp hup hcontend
  rw [h.now] at hstands
  unfold Fleet.contend
  rw [hturn]
  exact h.setPhase _ rfl hgovernor hnow hmemory hstands

omit [DecidableEq ι] in
theorem canAct_iff (h : Follows plan g s c) (i : ι) : c.CanAct i ↔ s.Enabled (.act i) := by
  have hstands := h.stands i
  unfold CanAct Fleet.Enabled Fleet.Competes
  dsimp only
  have hup := hstands.up
  rw [h.now] at hup ⊢
  generalize s.phase i = p at hstands hup ⊢
  cases p with
  | idle => exact iff_of_true ⟨hup, hstands.waits trivial⟩ (Or.inl rfl)
  | contending => exact iff_of_true ⟨hup, hstands.waits trivial⟩ (Or.inr (Or.inl rfl))
  | asleep wake =>
    have hawake : c.awake i = wake := hup
    have hwaits := hstands.waits trivial
    simp [hawake, hwaits]
  | running =>
    have hwaits := (hstands.idles id).not_waits
    simp [hwaits]
  | returned result =>
    have hwaits := (hstands.idles id).not_waits
    simp [hwaits]

theorem act (h : Follows plan g s c) (i : ι) :
    Follows plan g (s.step g (.act i)) (c.step (.act i)) := by
  have hstep := Fleet.step_is g s (.act i)
  generalize s.step g (.act i) = s' at hstep ⊢
  cases hstep with
  | refuse hp hopen =>
    have henter := h.enter hp
    rw [hopen] at henter
    exact henter
  | enter hp hopen =>
    have henter := h.enter hp
    rw [hopen] at henter
    exact henter
  | compete hcompetes => exact h.compete hcompetes
  | stay hdisabled =>
    have hstands := h.stands i
    have hstays : c.step (.act i) = c := by
      rw [← h.canAct_iff] at hdisabled
      by_cases hwaits : (s.phase i).Waits
      · exact if_neg fun hup ↦ hdisabled ⟨hup, hstands.waits hwaits⟩
      · rw [Crew.step, (hstands.idles hwaits).move, ite_self]
    rw [hstays]
    exact h

theorem heard_act (h : Follows plan g s c) (henabled : s.Enabled (.act i)) :
    (c.step (.act i)).heard i =
      c.heard i ++ .seen c.now c.memory :: ((s.step g (.act i)).phase i).slept := by
  rcases henabled with hidle | hcompetes
  · have hstands := h.stands i
    rw [hidle] at hstands
    have hslept : (((s.enter (g i) i).phase i).slept : List (Notice (Except Failure α))) = [] := by
      unfold Fleet.enter
      split
      · rw [Fleet.setPhase_self]
        rfl
      · rw [Fleet.setPhase_self]
        rfl
    rw [hstands.enter.1, Fleet.step_of_idle hidle, hslept]
    exact heard_hear ..
  · obtain ⟨hp, hup⟩ := h.competes hcompetes
    rcases hturn : (g i).contend s.now s.memory with ⟨turn, memory⟩
    have hcontend : (c.governor i).contend c.now c.memory = (turn, memory) := by
      rw [h.governor, h.now, h.memory, hturn]
    rw [((h.stands i).compete hp hup hcontend).2.1, Fleet.step_of_competes hcompetes,
      Fleet.contend, hturn, h.now, Fleet.setPhase_self]

end Follows

end Crew

end ParkFusion.Quota
