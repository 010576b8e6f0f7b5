import ParkFusion.Proofs.Following
import ParkFusion.Proofs.PromptCallers

namespace ParkFusion.Quota

def Notice.isRest {ρ : Type} : Notice ρ → Bool
  | .rested => true
  | _ => false

namespace Crew

section Prompt

variable {ι α β : Type}

/-- Callers act whenever they can, and the clock moves only where none of them can, to the end of a
sleep at most. -/
inductive Moves (c : Crew ι α β) : Action ι α → Prop
  | act {i : ι} : c.CanAct i → Moves c (.act i)
  | advance {duration : Nat} {i : ι} : 0 < duration → (∀ j, ¬ c.CanAct j) → c.now < c.awake i →
      (∀ j, c.now < c.awake j → c.now + duration ≤ c.awake j) → Moves c (.advance duration)

variable [DecidableEq ι]

/-- A run of callers in any order in which they come to their moves and wake up. -/
def Prompt (c : Crew ι α β) : List (Action ι α) → Prop
  | [] => True
  | a :: actions => c.Moves a ∧ (c.step a).Prompt actions

end Prompt

variable {ι α : Type} {c : Crew ι α (Except Failure Unit)} {i j : ι} {a : Action ι α}
variable {actions : List (Action ι α)} {g : Governor} {w : Fleet.Journal ι α} {start : Nat}

/-- How often the caller slept. -/
def sleeps (c : Crew ι α (Except Failure Unit)) (i : ι) : Nat :=
  (c.heard i).countP Notice.isRest

/-- The caller got its slot, at the time of its last look at the memory. -/
def ReleasedAt (c : Crew ι α (Except Failure Unit)) (i : ι) (time : Nat) : Prop :=
  c.Returned i (.ok ()) ∧ ∃ memory, (c.heard i).getLast? = some (.seen time memory)

theorem Agrees.sleeps {d : Crew ι α (Except Failure Unit)} (h : Agrees c d i) :
    d.sleeps i = c.sleeps i := by
  unfold Crew.sleeps
  rw [h.heard]

theorem Agrees.releasedAt {d : Crew ι α (Except Failure Unit)} {time : Nat} (h : Agrees c d i)
    (hreleased : c.ReleasedAt i time) : d.ReleasedAt i time := by
  unfold ReleasedAt Returned at *
  rw [h.heard, h.position]
  exact hreleased

namespace Follows

variable {s : Fleet ι α}

theorem awake_eq {wake : Nat} (h : Follows .acquire (fun _ ↦ g) s c)
    (hp : s.phase i = .asleep wake) : c.awake i = wake := by
  have hup := (h.stands i).up
  rw [hp] at hup
  exact hup

theorem asleep_iff (h : Follows .acquire (fun _ ↦ g) s c) (i : ι) :
    c.now < c.awake i ↔ ∃ wake, s.phase i = .asleep wake ∧ s.now < wake := by
  have hup := (h.stands i).up
  rw [h.now] at hup ⊢
  cases hp : s.phase i with
  | asleep wake => simp [h.awake_eq hp]
  | _ =>
    rw [hp] at hup
    have hawake : c.awake i ≤ s.now := hup
    simpa using hawake

theorem moves_iff (h : Follows .acquire (fun _ ↦ g) s c) (a : Action ι α) :
    c.Moves a ↔ s.Moves a := by
  constructor
  · intro hm
    cases hm with
    | act hact => exact .act ((h.canAct_iff _).mp hact)
    | advance hpos hnone hasleep hbefore =>
      obtain ⟨wake, hp, -⟩ := (h.asleep_iff _).mp hasleep
      have hdisabled : ∀ j, ¬ s.Enabled (.act j) := fun j hj ↦ hnone j ((h.canAct_iff j).mpr hj)
      refine .advance hpos hdisabled hp fun j wake hj ↦ ?_
      have hlate : s.now < wake := by
        by_contra hwake
        exact hdisabled j (Or.inr (Or.inr ⟨wake, Nat.not_lt.mp hwake, hj⟩))
      have hend := hbefore j ((h.asleep_iff j).mpr ⟨wake, hj, hlate⟩)
      rw [h.now, h.awake_eq hj] at hend
      exact hend
  · intro hm
    cases hm with
    | act henabled => exact .act ((h.canAct_iff _).mpr henabled)
    | @advance duration wake i hpos hnone hp hbefore =>
      have hdisabled : ∀ j, ¬ c.CanAct j := fun j hj ↦ hnone j ((h.canAct_iff j).mp hj)
      have hlate : s.now < wake := by
        by_contra hwake
        exact hnone i (Or.inr (Or.inr ⟨wake, Nat.not_lt.mp hwake, hp⟩))
      refine .advance hpos hdisabled ((h.asleep_iff i).mpr ⟨wake, hp, hlate⟩) fun j hj ↦ ?_
      obtain ⟨wake', hj, -⟩ := (h.asleep_iff j).mp hj
      rw [h.now, h.awake_eq hj]
      exact hbefore j wake' hj

theorem returned_of_running (h : Follows .acquire (fun _ ↦ g) s c) (hp : s.phase i = .running) :
    c.Returned i (.ok ()) := by
  have hleft := (h.stands i).left
  rw [hp] at hleft
  exact hleft.position

theorem returned_iff (h : Follows .acquire (fun _ ↦ g) s c)
    (hp : ∀ result, s.phase i ≠ .returned result) :
    c.Returned i (.ok ()) ↔ s.phase i = .running := by
  refine ⟨fun hreturned ↦ ?_, h.returned_of_running⟩
  have hidles : ¬ (s.phase i).Waits := fun hwaits ↦ by
    obtain ⟨change, hposition⟩ := (h.stands i).waits hwaits
    cases hposition.symm.trans hreturned
  cases hphase : s.phase i with
  | running => rfl
  | returned result => exact absurd hphase (hp result)
  | _ =>
    rw [hphase] at hidles
    exact absurd trivial hidles

variable [DecidableEq ι]

theorem step_of_moves (h : Follows .acquire (fun _ ↦ g) s c) (hm : s.Moves a) :
    Follows .acquire (fun _ ↦ g) (s.step (fun _ ↦ g) a) (c.step a) := by
  cases hm with
  | act => exact h.act _
  | advance => exact h.advance _

theorem prompt_iff (h : Follows .acquire (fun _ ↦ g) s c) :
    c.Prompt actions ↔ s.Prompt g actions := by
  induction actions generalizing s c with
  | nil => exact Iff.rfl
  | cons a actions ih =>
    unfold Crew.Prompt Fleet.Prompt
    rw [h.moves_iff]
    exact and_congr_right fun hm ↦ ih (h.step_of_moves hm)

end Follows

variable [DecidableEq ι]

/-- A journal tells how often each caller of the crew slept and when it got its slot. -/
structure Recounts (g : Governor) (w : Fleet.Journal ι α) (c : Crew ι α (Except Failure Unit)) :
    Prop where
  follows : Follows .acquire (fun _ ↦ g) w.toFleet c
  slept : ∀ i, c.sleeps i = w.sleeps i
  released : ∀ i t, (i, t) ∈ w.releases → c.ReleasedAt i t

theorem Recounts.heard_act (h : Recounts g w c) (henabled : w.Enabled (.act i)) :
    (c.step (.act i)).heard i =
      c.heard i ++ .seen c.now c.memory :: ((w.step g (.act i)).phase i).slept := by
  rw [Fleet.Journal.step_toFleet]
  exact h.follows.heard_act henabled

/-- A move only adds to what its caller has to tell. -/
theorem Recounts.of_mover {w' : Fleet.Journal ι α} (h : Recounts g w c)
    (hfollows : Follows .acquire (fun _ ↦ g) w'.toFleet (c.step (.act i)))
    (hothers : ∀ j, j ≠ i → w'.sleeps j = w.sleeps j ∧
      ∀ t, (j, t) ∈ w'.releases → (j, t) ∈ w.releases)
    (hslept : (c.step (.act i)).sleeps i = w'.sleeps i)
    (hreleased : ∀ t, (i, t) ∈ w'.releases → (c.step (.act i)).ReleasedAt i t) :
    Recounts g w' (c.step (.act i)) := by
  have hagrees : ∀ j, j ≠ i → Agrees c (c.step (.act i)) j := fun j hji ↦
    agrees_step fun hj ↦ hji (Option.some.inj hj).symm
  refine ⟨hfollows, fun j ↦ ?_, fun j t hj ↦ ?_⟩
  · by_cases hji : j = i
    · exact hji ▸ hslept
    · rw [(hagrees j hji).sleeps, (hothers j hji).1, h.slept j]
  · by_cases hji : j = i
    · subst hji
      exact hreleased t hj
    · exact (hagrees j hji).releasedAt (h.released j t ((hothers j hji).2 t hj))

theorem Recounts.step (h : Recounts g w c) (hs : w.OnSchedule g start) (hm : w.Moves a) :
    Recounts g (w.step g a) (c.step a) := by
  have hfollows := h.follows.step_of_moves hm
  rw [← Fleet.Journal.step_toFleet] at hfollows
  have hheard : ∀ i, a = .act i → (c.step a).heard i =
      c.heard i ++ .seen c.now c.memory :: ((w.step g a).phase i).slept := by
    rintro i rfl
    cases hm with
    | act henabled => exact h.heard_act henabled
  have hnew : ∀ i, w.phase i ≠ .running → ∀ t, (i, t) ∉ w.releases := fun i hi t ht ↦
    hi ((hs.released_iff i).mpr (List.mem_map_of_mem ht))
  have hstep := hs.step_cases hm
  generalize w.step g a = w' at hstep hfollows hheard ⊢
  cases hstep with
  | @enter i hidle =>
    refine h.of_mover hfollows (fun j hji ↦ ⟨rfl, fun t ↦ id⟩) ?_ fun t ht ↦ ?_
    · rw [sleeps, hheard i rfl, ← h.slept i]
      simp [sleeps, Phase.slept, Notice.isRest]
    · exact absurd ht (hnew i (hidle ▸ nofun) t)
  | @sleep i hcompetes hearly =>
    refine h.of_mover hfollows (fun j hji ↦ ⟨Function.update_of_ne hji .., fun t ↦ id⟩) ?_
      fun t ht ↦ ?_
    · rw [sleeps, hheard i rfl, ← h.slept i]
      simp [sleeps, Phase.slept, Notice.isRest]
    · exact absurd ht (hnew i hcompetes.ne_running t)
  | @release i memory hcompetes hdue hwindow hready =>
    have hlast := hheard i rfl
    refine h.of_mover hfollows (fun j hji ↦ ⟨rfl, fun t ht ↦ ?_⟩) ?_ fun t ht ↦ ⟨?_, ?_⟩
    · exact (List.mem_append.mp ht).resolve_right fun hnew ↦
        hji (congrArg Prod.fst (List.mem_singleton.mp hnew))
    · rw [sleeps, hlast, ← h.slept i]
      simp [sleeps, Phase.slept, Notice.isRest]
    · exact hfollows.returned_of_running (Function.update_self ..)
    · have ht := (List.mem_append.mp ht).resolve_left (hnew i hcompetes.ne_running t)
      obtain rfl : t = w.now := congrArg Prod.snd (List.mem_singleton.mp ht)
      refine ⟨c.memory, ?_⟩
      rw [hlast, h.follows.now]
      simp [Phase.slept]
  | @advance duration _ _ _ _ _ _ =>
    have hagrees : ∀ j, Agrees c (c.step (.advance duration)) j := fun j ↦ agrees_step nofun
    refine ⟨hfollows, fun j ↦ ?_, fun j t hj ↦ (hagrees j).releasedAt (h.released j t hj)⟩
    rw [(hagrees j).sleeps, h.slept j]

theorem Recounts.run (h : Recounts g w c) (hs : w.OnSchedule g start)
    (hp : w.toFleet.Prompt g actions) : Recounts g (w.run g actions) (c.run actions) := by
  induction actions generalizing w c with
  | nil => exact h
  | cons a actions ih =>
    obtain ⟨hm, hrest⟩ := hp
    rw [← Fleet.Journal.step_toFleet] at hrest
    exact ih (h.step hs hm) (hs.step hm) hrest

/-- Callers that come at once to a governor, none of which has begun. -/
def crowd (ι α : Type) (g : Governor) (now : Nat) (memory : Memory) :
    Crew ι α (Except Failure Unit) where
  governor _ := g
  program _ := g.acquire
  now := now
  memory := memory

variable [Fintype ι]

/-- What becomes of callers that all came at the start. -/
structure ServedInOrder (g : Governor) (start : Nat) (actions : List (Action ι α))
    (c : Crew ι α (Except Failure Unit)) : Prop where
  bounded : actions.length ≤ Fintype.card ι * (Fleet.Journal.rounds g ι + 2) +
    Fleet.Journal.rounds g ι * Window.length
  unfinished : ∀ i, ¬ c.Returned i (.ok ()) → ∃ a, c.Moves a
  slept : ∀ i, c.Returned i (.ok ()) → c.ReleasedAt i (start + c.sleeps i * Window.length)
  finished : (∀ a, ¬ c.Moves a) → ∃ releases : List (ι × Nat),
    (releases.map Prod.fst).Nodup ∧ (∀ i, i ∈ releases.map Prod.fst) ∧
    (∀ i t, (i, t) ∈ releases → c.ReleasedAt i t) ∧
    releases.map (fun r ↦ r.2 - start) =
      (List.range (Fintype.card ι)).map fun k ↦ k / g.limit * Window.length

omit [DecidableEq ι] [Fintype ι] in
theorem crowd_recounts (g : Governor) (now : Nat) (memory : Memory) :
    Recounts g ({ toFleet := { now, memory } } : Fleet.Journal ι α) (crowd ι α g now memory) where
  follows := .start now memory fun _ ↦ (Plan.acquire_program g).symm
  slept _ := rfl
  released _ _ := nofun

/-- Callers that come at once get as many slots a minute as the quota has, whoever is first to take
the window. -/
theorem crowd_servedInOrder (g : Governor) (now : Nat) (memory : Memory)
    (hwindow : memory.window g.seat = {}) (hready : g.Ready now memory.store)
    (actions : List (Action ι α)) (hp : (crowd ι α g now memory).Prompt actions) :
    ServedInOrder g now actions ((crowd ι α g now memory).run actions) := by
  let s : Fleet ι α := { now, memory }
  let w : Fleet.Journal ι α := { toFleet := s }
  have hstart : w.OnSchedule g s.now := .initial hwindow hready fun _ ↦ rfl
  have hprompt : s.Prompt g actions := (crowd_recounts g now memory).follows.prompt_iff.mp hp
  have hend := (crowd_recounts g now memory).run hstart hprompt
  have horder : Fleet.Journal.InOrder g now actions (w.run g actions) :=
    Fleet.Journal.inOrder g s hwindow hready (fun _ ↦ rfl) hprompt
  have hreturned : ∀ i, ((crowd ι α g now memory).run actions).Returned i (.ok ()) ↔
      (w.run g actions).phase i = .running := by
    refine fun i ↦ hend.follows.returned_iff fun result hp ↦ ?_
    have hturn := (hstart.run hprompt).1.inTurn i
    rw [hp] at hturn
    exact hturn
  refine ⟨horder.bounded, fun i hi ↦ ?_, fun i hi ↦ ?_, fun hstuck ↦ ?_⟩
  · obtain ⟨a, ha⟩ := horder.unfinished i ((hreturned i).not.mp hi)
    exact ⟨a, (hend.follows.moves_iff a).mpr ha⟩
  · have hreleased : i ∈ (w.run g actions).releases.map Prod.fst :=
      ((hstart.run hprompt).1.released_iff i).mp ((hreturned i).mp hi)
    obtain ⟨⟨_, time⟩, hrelease, rfl⟩ := List.mem_map.mp hreleased
    rw [hend.slept, ← horder.slept _ time hrelease]
    exact hend.released _ time hrelease
  · obtain ⟨hnodup, hall, htimes⟩ :=
      horder.finished fun a ha ↦ hstuck a ((hend.follows.moves_iff a).mpr ha)
    exact ⟨_, hnodup, hall, hend.released, htimes⟩

section Trio

def pairwise : Governor :=
  .ofQuota "wartezeiten" 2 900000 0

/-- Three callers, of whom the first to enter comes last to the window. -/
def jostle : List (Action (Fin 3) Unit) :=
  [.act 0, .act 1, .act 2, .act 2, .act 1, .act 0, .advance 60000, .act 0]

omit [Fintype ι] in
theorem moves_of_last {s : Fleet ι α} {wake : Nat} (hi : s.phase i = .asleep wake)
    (hlate : s.now < wake) (hne : ∀ j, j ≠ i → s.phase j = .running) :
    s.Moves (.advance (wake - s.now)) := by
  refine .advance (by omega) (fun j ↦ ?_) hi (fun j wake' hj ↦ ?_)
  · by_cases hji : j = i
    · subst hji
      rintro (h | h | ⟨wake', hwake, h⟩)
      · cases hi.symm.trans h
      · cases hi.symm.trans h
      · cases hi.symm.trans h
        omega
    · have hj := hne j hji
      exact fun h ↦ h.elim (nomatch hj.symm.trans ·) (·.ne_running hj)
  · by_cases hji : j = i
    · subst hji
      cases hi.symm.trans hj
      omega
    · cases (hne j hji).symm.trans hj

theorem jostle_prompt : ({ now := 0 } : Fleet (Fin 3) Unit).Prompt pairwise jostle := by
  have hrest : (({ now := 0 } : Fleet (Fin 3) Unit).run (fun _ ↦ pairwise) (jostle.take 6)).Moves
      (.advance (60000 - 0)) := by
    refine moves_of_last (i := 0) rfl (by decide +kernel) fun j hj ↦ ?_
    match j with
    | 0 => exact absurd rfl hj
    | 1 => rfl
    | 2 => rfl
  exact ⟨.act (Or.inl rfl), .act (Or.inl rfl), .act (Or.inl rfl), .act (Or.inr (Or.inl rfl)),
    .act (Or.inr (Or.inl rfl)), .act (Or.inr (Or.inl rfl)), hrest,
    .act (Or.inr (Or.inr ⟨60000, Nat.le_refl _, rfl⟩)), trivial⟩

theorem crowd_servedInOrder_trio :
    let c := (crowd (Fin 3) Unit pairwise 0 {}).run jostle
    ({} : Memory).window pairwise.seat = {} ∧ pairwise.Ready 0 {} ∧
    (crowd (Fin 3) Unit pairwise 0 {}).Prompt jostle ∧ ServedInOrder pairwise 0 jostle c ∧
    c.ReleasedAt 2 0 ∧ c.ReleasedAt 1 0 ∧ c.ReleasedAt 0 60000 := by
  intro c
  have hready : pairwise.Ready 0 {} := ⟨fun _ he ↦ (nomatch he), fun _ he ↦ (nomatch he)⟩
  have hstart := crowd_recounts (ι := Fin 3) (α := Unit) pairwise 0 {}
  have hprompt := hstart.follows.prompt_iff.mpr jostle_prompt
  have hend := hstart.run (.initial rfl hready fun _ ↦ rfl) jostle_prompt
  refine ⟨rfl, hready, hprompt, crowd_servedInOrder pairwise 0 {} rfl hready jostle hprompt,
    hend.released 2 0 ?_, hend.released 1 0 ?_, hend.released 0 60000 ?_⟩
  · decide +kernel
  · decide +kernel
  · decide +kernel

end Trio

end Crew

end ParkFusion.Quota
