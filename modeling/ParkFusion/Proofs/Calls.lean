import ParkFusion.Proofs.Breaker
import ParkFusion.Proofs.Following

namespace ParkFusion.Quota.Crew

variable {ι α : Type} [DecidableEq ι] {c : Crew ι α (Except Failure α)} {g : ι → Governor}
variable {s : Fleet ι α} {i : ι}

namespace Follows

omit [DecidableEq ι] in
theorem requests_iff (h : Follows .call g s c) : c.Requests i ↔ s.phase i = .running := by
  have hstands := h.stands i
  constructor
  · intro hrequest
    by_cases hwaits : (s.phase i).Waits
    · obtain ⟨change, hposition⟩ := hstands.waits hwaits
      cases hposition.symm.trans hrequest
    · have hposition := hstands.left.position
      cases hp : s.phase i with
      | running => rfl
      | returned result =>
        rw [hp] at hposition
        cases hposition.symm.trans hrequest
      | _ =>
        rw [hp] at hwaits
        exact absurd trivial hwaits
  · intro hp
    rw [hp] at hstands
    exact hstands.left.position

theorem hear_replied (h : Follows .call g s c) (hp : s.phase i = .running)
    (reply : Except Failure α) :
    c.position i = .error .request ∧
      (c.hear i (.replied reply)).Left i ((c.governor i).settle reply) := by
  have hleft := (h.stands i).left
  rw [hp] at hleft
  exact ⟨hleft.position, hleft.hear fun later ↦ rfl⟩

theorem answer {result : Except Failure α} (h : Follows .call g s c) (hp : s.phase i = .running)
    (hresult : (Action.finish i result).violator? = none) :
    Follows .call g (s.setPhase i (.returned result)) (c.step (.finish i result)) := by
  obtain ⟨hposition, hleft⟩ := h.hear_replied hp result
  have hup := (h.stands i).up
  rw [hp] at hup
  have hsettle : (c.governor i).settle result =
      (pure result : Replay (Except Failure α) (Except Failure α)) := by
    cases result with
    | ok a => rfl
    | error f =>
      refine if_neg fun hf ↦ ?_
      cases (if_pos hf).symm.trans hresult
  rw [hsettle] at hleft
  have hstands : Stands .call (c.hear i (.replied result)) i (.returned result) :=
    .of_not_waits hleft hup (by simp) id
  have hstep : c.step (.finish i result) = c.hear i (.replied result) := by
    rw [Crew.step, hposition]
    exact (hstands.idles id).move
  have hend := h.setPhase (a := .finish i result) (p := .returned result) s.memory rfl
  rw [hstep] at hend ⊢
  exact hend rfl rfl h.memory hstands

theorem exceed {f : Failure} (h : Follows .call g s c) (hp : s.phase i = .running)
    (hf : f.isBlocked) :
    Follows .call g ((s.violate (g i)).setPhase i
        (.returned (.error (.quotaExceeded (g i).source (g i).block))))
      (c.step (.finish i (.error f))) := by
  obtain ⟨hposition, hleft⟩ := h.hear_replied hp (.error f)
  have hup := (h.stands i).up
  rw [hp] at hup
  obtain rfl := h.governor
  let told := c.hear i (.replied (.error f))
  let memory : Memory :=
    { s.memory with store := (c.governor i).recordViolation s.now s.memory.store }
  let refused : Except Failure α :=
    .error (.quotaExceeded (c.governor i).source (c.governor i).block)
  have hsettle : (c.governor i).settle (.error f) =
      ((Atomic.step fun now mem ↦
        ((), { mem with store := (c.governor i).recordViolation now mem.store })) >>=
          fun _ ↦ pure refused : Replay (Except Failure α) (Except Failure α)) := if_pos hf
  rw [hsettle] at hleft
  have hstands : Stands .call ((told.hear i (.seen c.now c.memory)).setMemory memory) i
      (.returned refused) :=
    .of_not_waits (hleft.hear fun later ↦ rfl) hup (by simp [setMemory]) id
  have hstep : c.step (.finish i (.error f)) =
      (told.hear i (.seen c.now c.memory)).setMemory memory := by
    have hmove := move_of_step hleft.position
    have hmemory : { c.memory with
        store := (c.governor i).recordViolation c.now c.memory.store } = memory := by
      rw [h.memory, h.now]
    rw [Crew.step, hposition]
    refine hmove.trans ?_
    change ((told.hear i (.seen c.now c.memory)).setMemory { c.memory with
      store := (c.governor i).recordViolation c.now c.memory.store }).rest i = _
    rw [hmemory]
    exact hstands.rest
  have hend := h.setPhase (a := .finish i (.error f)) (p := .returned refused) memory rfl
  rw [hstep] at hend ⊢
  exact hend rfl rfl rfl hstands

theorem finish (h : Follows .call g s c) (i : ι) (result : Except Failure α) :
    Follows .call g (s.step g (.finish i result)) (c.step (.finish i result)) := by
  have hstep := Fleet.step_is g s (.finish i result)
  generalize s.step g (.finish i result) = s' at hstep ⊢
  cases hstep with
  | answer hp hresult => exact h.answer hp hresult
  | exceed hp hf => exact h.exceed hp hf
  | stay hdisabled =>
    have hstays : c.step (.finish i result) = c := by
      unfold Crew.step
      dsimp only
      split
      · rename_i hrequest
        exact absurd (h.requests_iff.mp hrequest) hdisabled
      · rfl
    rw [hstays]
    exact h

theorem step (h : Follows .call g s c) (a : Action ι α) :
    Follows .call g (s.step g a) (c.step a) := by
  cases a with
  | advance duration => exact h.advance duration
  | act i => exact h.act i
  | finish i result => exact h.finish i result
  | violate i => exact h.violate i

theorem run (h : Follows .call g s c) (actions : List (Action ι α)) :
    Follows .call g (s.run g actions) (c.run actions) := by
  induction actions generalizing s c with
  | nil => exact h
  | cons a actions ih => exact ih (h.step a)

end Follows

/-- Callers that all make a call, none of which has begun. -/
def calls (g : ι → Governor) (start : Nat) : Crew ι α (Except Failure α) where
  governor := g
  program i := (g i).call Replay.request
  now := start

/-- The caller tries for a slot, and its window has one. -/
def TakesSlot (c : Crew ι α (Except Failure α)) (i : ι) : Prop :=
  c.heard i ≠ [] ∧ c.CanAct i ∧
    ∃ w, (c.memory.window (c.governor i).seat).claim (c.governor i).limit c.now = .ok w

theorem calls_follow (g : ι → Governor) (start : Nat) (history : List (Action ι α)) :
    Follows .call g (Fleet.run g { now := start } history) ((calls g start).run history) := by
  have hstart : Follows .call g ({ now := start } : Fleet ι α) (calls g start) :=
    .start start {} fun i ↦ (Plan.call_program (g i)).symm
  exact hstart.run history

omit [DecidableEq ι] in
theorem Follows.takesSlot_iff (h : Follows .call g s c) : c.TakesSlot i ↔ s.TakesSlot g i := by
  have hcompetes : c.heard i ≠ [] ∧ c.CanAct i ↔ s.Competes i := by
    rw [h.canAct_iff, ne_eq, (h.stands i).fresh_iff]
    refine ⟨fun ⟨hidle, henabled⟩ ↦ henabled.resolve_left hidle, fun hcompetes ↦
      ⟨fun hidle ↦ ?_, Or.inr hcompetes⟩⟩
    rcases hcompetes with hp | ⟨wake, -, hp⟩
    · cases hp.symm.trans hidle
    · cases hp.symm.trans hidle
  unfold TakesSlot Fleet.TakesSlot
  rw [← and_assoc, hcompetes, h.governor, h.now, h.memory]

omit [DecidableEq ι] in
theorem Follows.returned {result : Except Failure α} (h : Follows .call g s c)
    (hp : s.phase i = .returned result) : c.Returned i result := by
  have hleft := (h.stands i).left
  rw [hp] at hleft
  exact hleft.position

/-- Whom a notice tells to return never makes its request. -/
theorem Returned.forever {d : Crew ι α (Except Failure α)} {result : Except Failure α}
    {notice : Notice (Except Failure α)} (h : d.Returned i result) (hunasked : ¬ c.Requested i)
    (hprogram : d.program = c.program) (hheard : d.heard i = c.heard i ++ [notice])
    (later : List (Action ι α)) :
    (d.run later).Returned i result ∧ ¬ (d.run later).Requested i := by
  have hagrees := h.agrees_run later
  refine ⟨hagrees.position.trans h, ?_⟩
  rw [hagrees.requested_iff]
  exact not_requested_of_heard hunasked hprogram hheard fun hrequest ↦
    nomatch hrequest.symm.trans h

namespace Follows

variable {e : Entry}

theorem refuses_idle (h : Follows .call g s c) (he : (g i).lease c.memory.store = some e)
    (hlive : c.now < e.expiry) (hfresh : c.heard i = []) (later : List (Action ι α)) :
    ((c.step (.act i)).run later).Returned i
        (.error (.quotaExceeded (g i).source (e.expiry - c.now))) ∧
      ¬ ((c.step (.act i)).run later).Requested i := by
  have hidle := h.stands i
  rw [hidle.fresh_iff.mp hfresh] at hidle
  have hphase : (s.step g (.act i)).phase i =
      .returned (.error (.quotaExceeded (g i).source (e.expiry - c.now))) := by
    rw [h.memory] at he
    rw [h.now] at hlive ⊢
    rw [Fleet.step_of_lease_idle ((h.stands i).fresh_iff.mp hfresh) he hlive]
    exact Fleet.setPhase_self ..
  have hheard : (c.step (.act i)).heard i = c.heard i ++ [.seen c.now c.memory] := by
    rw [hidle.enter.1]
    exact heard_hear ..
  exact ((h.act i).returned hphase).forever (hidle.unasked trivial) (c.kept_act i).2.1 hheard later

theorem refuses_takesSlot (h : Follows .call g s c) (he : (g i).lease c.memory.store = some e)
    (hlive : c.now < e.expiry) (ht : c.TakesSlot i) (later : List (Action ι α)) :
    ((c.step (.act i)).run later).Returned i
        (.error (.quotaExceeded (g i).source (e.expiry - c.now))) ∧
      ¬ ((c.step (.act i)).run later).Requested i := by
  obtain ⟨hcompetes, w, hw⟩ := h.takesSlot_iff.mp ht
  have hphase : (s.step g (.act i)).phase i =
      .returned (.error (.quotaExceeded (g i).source (e.expiry - c.now))) := by
    rw [h.memory] at he
    rw [h.now] at hlive ⊢
    exact Fleet.step_of_lease_takesSlot ⟨hcompetes, w, hw⟩ he hlive
  have hheard : (c.step (.act i)).heard i = c.heard i ++ [.seen c.now c.memory] := by
    obtain ⟨hp, hup⟩ := h.competes hcompetes
    rw [← h.memory, ← h.now, ← h.governor] at hw
    rw [← h.governor] at he
    exact ((h.stands i).compete hp hup (Governor.contend_of_lease hw he hlive)).2.1
  have hunasked := (h.stands i).unasked (h.competes hcompetes).1.waits
  exact ((h.act i).returned hphase).forever hunasked (c.kept_act i).2.1 hheard later

theorem releases_takesSlot (h : Follows .call g s c) (ho : (g i).IsOpen c.now c.memory.store)
    (hreadable : (g i).Readable c.memory.store) (ht : c.TakesSlot i) :
    (c.step (.act i)).Requests i := by
  rw [h.memory] at ho hreadable
  rw [h.now] at ho
  exact (h.act i).requests_iff.mpr
    (Fleet.step_of_isOpen_takesSlot (h.takesSlot_iff.mp ht) ho hreadable)

/-- A lease that still holds after a while is the same. -/
theorem lease_run (h : Follows .call g s c) (he : (g i).lease c.memory.store = some e)
    {between : List (Action ι α)} (hlive : (c.run between).now < e.expiry) :
    (g i).lease (c.run between).memory.store = some e := by
  have hlater := h.run between
  rw [h.memory] at he
  rw [hlater.memory]
  exact Fleet.lease_run he (hlater.now ▸ hlive)

theorem isOpen_run (h : Follows .call g s c) (ho : (g i).IsOpen c.now c.memory.store)
    {between : List (Action ι α)}
    (hbetween : ∀ a ∈ between, ∀ j, a.violator? = some j → (g j).source ≠ (g i).source) :
    (g i).IsOpen (c.run between).now (c.run between).memory.store := by
  have hlater := h.run between
  rw [h.now, h.memory] at ho
  rw [hlater.now, hlater.memory]
  exact Fleet.isOpen_run ho hbetween

theorem readable_run (h : Follows .call g s c) (hreadable : (g i).Readable c.memory.store)
    (between : List (Action ι α)) : (g i).Readable (c.run between).memory.store := by
  rw [h.memory] at hreadable
  rw [(h.run between).memory]
  exact Fleet.readable_run (g i) hreadable g between

end Follows

theorem calls_readable (g : ι → Governor) (start : Nat) (history : List (Action ι α)) (i : ι) :
    (g i).Readable ((calls g start).run history).memory.store := by
  refine (calls_follow g start []).readable_run ?_ history
  rintro e he
  cases he

/-- While a lease holds, calls that begin or get their slot are refused with the time that it still
lasts, and their requests are never made. From its expiry on, a call makes its request as soon as it
has a slot, unless a new lease comes first. -/
theorem call_stopsAtLease (g : ι → Governor) (start : Nat) (history : List (Action ι α)) (i : ι) :
    let c : Crew ι α (Except Failure α) := (calls g start).run history
    (∀ e, (g i).lease c.memory.store = some e → c.now < e.expiry → c.heard i = [] →
      c.step (.act i) = c.hear i (.seen c.now c.memory) ∧ ∀ later,
        let d := (c.step (.act i)).run later
        d.Returned i (.error (.quotaExceeded (g i).source (e.expiry - c.now))) ∧
          ¬ d.Requested i) ∧
    (∀ e, (g i).lease c.memory.store = some e → ∀ between,
      let t := c.run between
      t.now < e.expiry → t.TakesSlot i → ∀ later,
        let d := (t.step (.act i)).run later
        d.Returned i (.error (.quotaExceeded (g i).source (e.expiry - t.now))) ∧
          ¬ d.Requested i) ∧
    ((g i).IsOpen c.now c.memory.store → c.heard i = [] →
      c.step (.act i) = c.hear i (.seen c.now c.memory) ∧ (c.step (.act i)).Waits i ∧ ∀ between,
        (∀ a ∈ between, ∀ j, a.violator? = some j → (g j).source ≠ (g i).source) →
        let t := (c.step (.act i)).run between
        t.TakesSlot i → (t.step (.act i)).Requests i) := by
  intro c
  have hc := calls_follow g start history
  have hfresh (hheard : c.heard i = []) : Stands .call c i .idle :=
    (hc.stands i).fresh_iff.mp hheard ▸ hc.stands i
  refine ⟨fun e he hlive hheard ↦ ?_, ?_, fun ho hheard ↦ ?_⟩
  · exact ⟨(hfresh hheard).enter.1, hc.refuses_idle he hlive hheard⟩
  · intro e he between t hlive ht
    exact (hc.run between).refuses_takesSlot (hc.lease_run he hlive) hlive ht
  · obtain ⟨hstep, hstands⟩ := (hfresh hheard).enter
    have hwaits : (c.step (.act i)).Waits i := by
      rw [hc.governor, Governor.ensureOpen_of_isOpen ho] at hstands
      exact hstands.waits trivial
    refine ⟨hstep, hwaits, ?_⟩
    intro between hbetween t ht
    -- to begin does not change what is stored
    have hopen : (g i).IsOpen (c.step (.act i)).now (c.step (.act i)).memory.store := hstep ▸ ho
    have hreadable : (g i).Readable (c.step (.act i)).memory.store :=
      hstep ▸ calls_readable g start history i
    have hbegun := hc.act i
    exact (hbegun.run between).releases_takesSlot (hbegun.isOpen_run hopen hbetween)
      (hbegun.readable_run hreadable between) ht

section Twins

/-- Two governors of one source, each with some of the callers and one slot in a minute. -/
def twins (i : Nat) : Governor :=
  .ofQuota "wartezeiten" 1 120000 (i % 2)

/-- One caller of the first governor has the slot, one sleeps until the next, and the second governor
learns that the quota was exceeded. -/
def exceeded : List (Action Nat Unit) :=
  [.act 0, .act 0, .act 2, .act 2, .violate 1]

theorem call_stopsAtLease_twins :
    let c : Crew Nat Unit (Except Failure Unit) := (calls twins 0).run exceeded
    let t := c.run [.advance 60000]
    let u : Crew Nat Unit (Except Failure Unit) :=
      (calls twins 0).run (exceeded ++ [.advance 120000])
    let v := (u.step (.act 5)).run [.act 3]
    let e : Entry := ⟨"429", 120000⟩
    ((twins 4).lease c.memory.store = some e ∧ c.now < e.expiry ∧ c.heard 4 = [] ∧
      c.step (.act 4) = c.hear 4 (.seen c.now c.memory) ∧
      (c.step (.act 4)).Returned 4 (.error (.quotaExceeded "wartezeiten" 120000))) ∧
    (t.now < e.expiry ∧ t.TakesSlot 2 ∧ ∀ later,
      ((t.step (.act 2)).run later).Returned 2 (.error (.quotaExceeded "wartezeiten" 60000)) ∧
        ¬ ((t.step (.act 2)).run later).Requested 2) ∧
    (twins 5).IsOpen u.now u.memory.store ∧ u.heard 5 = [] ∧ v.TakesSlot 5 ∧
      (v.step (.act 5)).Requests 5 := by
  intro c t u v e
  let s : Fleet Nat Unit := Fleet.run twins { now := 0 } exceeded
  let s' : Fleet Nat Unit := Fleet.run twins { now := 0 } (exceeded ++ [.advance 120000])
  have hc : Follows .call twins s c := calls_follow twins 0 exceeded
  have ht : Follows .call twins (s.run twins [.advance 60000]) t := hc.run [.advance 60000]
  have hu : Follows .call twins s' u := calls_follow twins 0 (exceeded ++ [.advance 120000])
  have hv : Follows .call twins ((s'.step twins (.act 5)).run twins [.act 3]) v :=
    (hu.act 5).run [.act 3]
  have hlease : (twins 4).lease c.memory.store = some e := by
    rw [hc.memory]
    decide +kernel
  have hnow : c.now = 0 := hc.now.trans (by decide +kernel)
  have hfresh : c.heard 4 = [] := (hc.stands 4).fresh_iff.mpr rfl
  have hthen : t.now = 60000 := ht.now.trans (by decide +kernel)
  have hrested : t.TakesSlot 2 := ht.takesSlot_iff.mpr
    ⟨Or.inr ⟨60000, by decide +kernel, rfl⟩, ⟨some 60000, 1⟩, by decide +kernel⟩
  have hopen : (twins 5).IsOpen u.now u.memory.store := by
    have he : (twins 5).lease u.memory.store = some e := by
      rw [hu.memory]
      decide +kernel
    have hover : e.expiry ≤ u.now := by
      rw [hu.now]
      decide +kernel
    intro e' he'
    obtain rfl := Option.some.inj (he.symm.trans he')
    exact hover
  have hlate : u.heard 5 = [] := (hu.stands 5).fresh_iff.mpr rfl
  have hslot : v.TakesSlot 5 := hv.takesSlot_iff.mpr
    ⟨Or.inl rfl, ⟨some 120000, 1⟩, by decide +kernel⟩
  have hnew : ∀ a ∈ [(.act 3 : Action Nat Unit)], ∀ j, a.violator? = some j →
      (twins j).source ≠ (twins 5).source := by
    intro a ha j hj
    obtain rfl := List.mem_singleton.mp ha
    cases hj
  obtain ⟨hbegins, -, -⟩ := call_stopsAtLease twins 0 exceeded 4
  obtain ⟨-, hsleeper, -⟩ := call_stopsAtLease twins 0 exceeded 2
  obtain ⟨-, -, hlets⟩ := call_stopsAtLease twins 0 (exceeded ++ [.advance 120000]) 5
  refine ⟨?_, ?_, hopen, hlate, hslot, (hlets hopen hlate).2.2 [.act 3] hnew hslot⟩
  · have hlive : c.now < e.expiry := hnow ▸ (by decide)
    obtain ⟨hstep, hrefused⟩ := hbegins e hlease hlive hfresh
    rw [hnow] at hrefused
    exact ⟨hlease, hlive, hfresh, hstep, (hrefused []).1⟩
  · have hlive : t.now < e.expiry := hthen ▸ (by decide)
    have hrefused := hsleeper e hlease [.advance 60000] hlive hrested
    have hleft : e.expiry - 60000 = 60000 := by decide
    rw [hthen, hleft] at hrefused
    exact ⟨hlive, hrested, hrefused⟩

end Twins

end ParkFusion.Quota.Crew
