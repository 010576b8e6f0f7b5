import Mathlib.Tactic.Ring
import ParkFusion.Backoff

namespace ParkFusion.Backoff

variable {σ α : Type} [Clock (StateM σ)] {attempt : StateM σ (Except Failure α)}
variable {outcome : Except Failure α} {w w' : σ} {f : Failure}

/-- Whether another attempt may mend it. -/
def mayPass : Except Failure α → Bool
  | .error f => f.isTransient
  | .ok _ => false

theorem exists_of_mayPass (h : mayPass outcome) : ∃ f, outcome = .error f ∧ f.isTransient := by
  cases outcome with
  | ok a => cases h
  | error f => exact ⟨f, rfl, h⟩

def sleep (duration : ℕ) (w : σ) : σ :=
  ((Clock.pause duration : StateM σ PUnit).run w).2

/-- The world before each attempt, as long as attempts go on. -/
def before (attempt : StateM σ (Except Failure α)) (delay : ℕ) (w : σ) : ℕ → σ
  | 0 => w
  | n + 1 => sleep (delay * 2 ^ n) (attempt.run (before attempt delay w n)).2

/-- The last attempt, counted from zero, if no more than so many may follow the first one: what it
comes to is final, or all attempts are used up. -/
structure IsLast (left : ℕ) (outcomes : ℕ → Except Failure α) (n : ℕ) : Prop where
  le : n ≤ left
  earlier : ∀ i < n, mayPass (outcomes i)
  final : n < left → mayPass (outcomes n) = false

section Last

variable {left n n' : ℕ} {outcomes : ℕ → Except Failure α}

theorem IsLast.unique (h : IsLast left outcomes n) (h' : IsLast left outcomes n') : n = n' := by
  have key : ∀ {i j}, IsLast left outcomes i → IsLast left outcomes j → ¬ i < j := by
    intro i j hi hj hlt
    have hpasses := hj.earlier i hlt
    rw [hi.final (hlt.trans_le hj.le)] at hpasses
    cases hpasses
  have hlt := key h h'
  have hgt := key h' h
  omega

theorem IsLast.zero (h : left = 0 ∨ mayPass (outcomes 0) = false) : IsLast left outcomes 0 where
  le := left.zero_le
  earlier i hi := absurd hi i.not_lt_zero
  final hpos := h.resolve_left hpos.ne'

theorem IsLast.succ (h : IsLast left (fun i ↦ outcomes (i + 1)) n) (hfirst : mayPass (outcomes 0)) :
    IsLast (left + 1) outcomes (n + 1) := by
  refine ⟨Nat.succ_le_succ h.le, ?_, ?_⟩
  · intro i hi
    cases i with
    | zero => exact hfirst
    | succ i => exact h.earlier i (Nat.lt_of_succ_lt_succ hi)
  · intro hlt
    exact h.final (Nat.lt_of_succ_lt_succ hlt)

end Last

section Run

theorem before_succ (attempt : StateM σ (Except Failure α)) (delay : ℕ) (w : σ) (n : ℕ) :
    before attempt delay w (n + 1) =
      before attempt (2 * delay) (sleep delay (attempt.run w).2) n := by
  induction n with
  | zero => simp [before]
  | succ n ih =>
    rw [before, ih, before]
    congr 1
    ring

theorem persist_of_final (h : attempt.run w = (outcome, w')) (hfinal : mayPass outcome = false)
    (left delay : ℕ) : (persist attempt left delay).run w = (outcome, w') := by
  cases left with
  | zero => exact h
  | succ left =>
    rw [persist, StateT.run_bind, h]
    cases outcome with
    | ok a => rfl
    | error f =>
      have hf : f.isTransient = false := hfinal
      change StateT.run (if f.isTransient then _ else _) w' = _
      rw [hf]
      rfl

theorem persist_of_transient (h : attempt.run w = (.error f, w')) (hf : f.isTransient)
    (left delay : ℕ) : (persist attempt (left + 1) delay).run w =
      (persist attempt left (2 * delay)).run (sleep delay w') := by
  rw [persist, StateT.run_bind, h]
  change StateT.run (if f.isTransient then _ else _) w' = _
  rw [if_pos hf]
  rfl

/-- Attempts with growing sleeps between them, and nothing after the last one. -/
theorem persist_run (attempt : StateM σ (Except Failure α)) (left delay : ℕ) (w : σ) :
    ∃ n, IsLast left (fun i ↦ (attempt.run (before attempt delay w i)).1) n ∧
      (persist attempt left delay).run w = attempt.run (before attempt delay w n) := by
  induction left generalizing delay w with
  | zero => exact ⟨0, .zero (.inl rfl), rfl⟩
  | succ left ih =>
    rcases hrun : attempt.run w with ⟨outcome, w'⟩
    cases hpasses : mayPass outcome with
    | false =>
      refine ⟨0, .zero (.inr ?_), ?_⟩
      · rwa [before, hrun]
      · rw [persist_of_final hrun hpasses, before, hrun]
    | true =>
      obtain ⟨f, rfl, hf⟩ := exists_of_mayPass hpasses
      obtain ⟨n, hlast, heq⟩ := ih (2 * delay) (sleep delay w')
      have hw' : (attempt.run w).2 = w' := congrArg Prod.snd hrun
      simp only [← hw', ← before_succ] at hlast heq
      refine ⟨n + 1, hlast.succ ?_, ?_⟩
      · rwa [before, hrun]
      · rw [persist_of_transient hrun hf, ← hw', heq]

end Run

/-- What happens while attempts are made. -/
inductive Event (α : Type)
  | tried (outcome : Except Failure α)
  | slept (duration : ℕ)

namespace Event

def isTried : Event α → Bool
  | tried _ => true
  | slept _ => false

def duration : Event α → ℕ
  | tried _ => 0
  | slept duration => duration

@[simp] theorem isTried_tried (outcome : Except Failure α) : (tried outcome).isTried = true := rfl

@[simp] theorem isTried_slept (duration : ℕ) : (slept duration : Event α).isTried = false := rfl

@[simp] theorem duration_tried (outcome : Except Failure α) : (tried outcome).duration = 0 := rfl

@[simp] theorem duration_slept (duration : ℕ) :
    (slept duration : Event α).duration = duration := rfl

end Event

/-- A world in which all that happens is written down. -/
structure Diary (α : Type) where
  events : List (Event α) := []

def Diary.add (event : Event α) (d : Diary α) : Diary α := ⟨d.events ++ [event]⟩

def Diary.tries (d : Diary α) : ℕ := d.events.countP (·.isTried)

/-- The time that was slept. -/
def Diary.slept (d : Diary α) : ℕ := (d.events.map (·.duration)).sum

instance : Clock (StateM (Diary α)) where
  now := return (← get).slept
  pause duration := modify (Diary.add (.slept duration))

/-- An operation whose attempts come to what is given, one after the other. -/
def scripted (outcomes : ℕ → Except Failure α) : StateM (Diary α) (Except Failure α) := do
  let outcome := outcomes (← get).tries
  modify (Diary.add (.tried outcome))
  return outcome

/-- So many failed attempts, each with its sleep. -/
def failures (outcomes : ℕ → Except Failure α) (delay n : ℕ) : List (Event α) :=
  (List.range n).flatMap fun i ↦ [.tried (outcomes i), .slept (delay * 2 ^ i)]

section Scripted

variable (outcomes : ℕ → Except Failure α) (delay n : ℕ)

theorem failures_succ : failures outcomes delay (n + 1) =
    failures outcomes delay n ++ [.tried (outcomes n)] ++ [.slept (delay * 2 ^ n)] := by
  simp [failures, List.range_succ]

theorem failures_tries : (failures outcomes delay n).countP (·.isTried) = n := by
  induction n with
  | zero => rfl
  | succ n ih => simp [failures_succ, List.countP_cons, ih]

theorem failures_slept :
    ((failures outcomes delay n).map (·.duration)).sum = delay * (2 ^ n - 1) := by
  induction n with
  | zero => simp [failures]
  | succ n ih =>
    have hpos : 1 ≤ 2 ^ n := Nat.one_le_two_pow
    have hdouble : 2 ^ (n + 1) - 1 = 2 ^ n - 1 + 2 ^ n := by omega
    simp [failures_succ, ih, hdouble, Nat.mul_add]

theorem before_scripted :
    before (scripted outcomes) delay {} n = ⟨failures outcomes delay n⟩ := by
  induction n with
  | zero => rfl
  | succ n ih =>
    rw [before, ih, failures_succ]
    change Diary.mk (_ ++ [.tried (outcomes (Diary.tries ⟨failures outcomes delay n⟩))] ++ _) = _
    rw [Diary.tries, failures_tries]

theorem scripted_run : (scripted outcomes).run ⟨failures outcomes delay n⟩ =
    (outcomes n, ⟨failures outcomes delay n ++ [.tried (outcomes n)]⟩) := by
  change (outcomes (Diary.tries ⟨failures outcomes delay n⟩),
    Diary.mk (_ ++ [.tried (outcomes (Diary.tries ⟨failures outcomes delay n⟩))])) = _
  rw [Diary.tries, failures_tries]

end Scripted

/-- Whatever the attempts come to, they end with the first outcome that is no failure that may pass,
or with the last attempt that is allowed. The sleeps between them double. -/
theorem run_retries (b : Backoff) (outcomes : ℕ → Except Failure α) :
    ∃ n, (∀ i, IsLast (max b.attempts 1 - 1) outcomes i ↔ i = n) ∧ ∃ d : Diary α,
      (b.run (scripted outcomes)).run {} = (outcomes n, d) ∧
        d.events = failures outcomes b.delay n ++ [.tried (outcomes n)] ∧
        d.tries = n + 1 ∧ d.slept = b.delay * (2 ^ n - 1) := by
  have hleft : max b.attempts 1 - 1 = b.attempts - 1 := by omega
  obtain ⟨n, hlast, hrun⟩ := persist_run (scripted outcomes) (b.attempts - 1) b.delay {}
  simp only [before_scripted, scripted_run] at hlast hrun
  refine ⟨n, ?_, _, hrun, rfl, ?_, ?_⟩
  · rw [hleft]
    exact fun i ↦ ⟨fun hi ↦ hi.unique hlast, fun hi ↦ hi ▸ hlast⟩
  · simp [Diary.tries, failures_tries]
  · simp [Diary.slept, failures_slept]

example : ((run { attempts := 3, delay := 100 } (scripted fun n ↦
    if n < 2 then .error (.unavailable "src" "connection reset") else .ok n)).run {}).2.slept =
      300 := rfl

end ParkFusion.Backoff
