namespace ParkFusion

namespace Matching

inductive Method
  | manualOverride | fuzzy
  deriving DecidableEq, Repr

/-- An accepted pair. -/
structure Match (α σ : Type) where
  left : α
  right : α
  confidence : σ
  method : Method
  deriving DecidableEq, Repr

/-- The pairs between two lists, and the records of either list that are in none. -/
structure Outcome (α σ : Type) where
  matched : List (Match α σ) := []
  leftOnly : List α := []
  rightOnly : List α := []
  deriving DecidableEq, Repr

/-- By what two records are paired: those that are declared identical always, with the score
`certain`; others only if they score above the threshold. -/
structure Rule (α σ : Type) where
  compatible : α → α → Bool
  declared : α → α → Bool
  score : α → α → σ
  threshold : σ
  certain : σ

variable {α σ : Type} [LT σ] [DecidableLT σ]

namespace Rule

/-- The first candidate, with its position, that is declared identical with the record. -/
def firstDeclared? (rule : Rule α σ) (a : α) (candidates : List α) : Option (α × Nat) :=
  candidates.zipIdx.find? fun (b, _) ↦ rule.compatible a b && rule.declared a b

/-- Replaces the best candidate so far by a compatible one that scores higher. -/
def improve (rule : Rule α σ) (a : α) (best : Option (α × Nat × σ)) (candidate : α × Nat) :
    Option (α × Nat × σ) :=
  let (b, position) := candidate
  if rule.compatible a b then
    match best with
    | none => some (b, position, rule.score a b)
    | some (_, _, top) =>
      if top < rule.score a b then some (b, position, rule.score a b) else best
  else best

/-- The compatible candidate of highest score; of equals the first. -/
def best? (rule : Rule α σ) (a : α) (candidates : List α) : Option (α × Nat × σ) :=
  candidates.zipIdx.foldl (rule.improve a) none

/-- The pair that the record enters, and the position of its partner among the candidates. -/
def choose? (rule : Rule α σ) (a : α) (candidates : List α) : Option (Match α σ × Nat) :=
  match rule.firstDeclared? a candidates with
  | some (b, position) => some (⟨a, b, rule.certain, .manualOverride⟩, position)
  | none =>
    match rule.best? a candidates with
    | some (b, position, score) =>
      if rule.threshold < score then some (⟨a, b, score, .fuzzy⟩, position) else none
    | none => none

/-- Pairs the records of the left list one after the other, each with a candidate that is still
free. -/
def pairOff (rule : Rule α σ) : List α → List α → Outcome α σ
  | [], candidates => { rightOnly := candidates }
  | a :: rest, candidates =>
    match rule.choose? a candidates with
    | some (found, position) =>
      let outcome := rule.pairOff rest (candidates.eraseIdx position)
      { outcome with matched := found :: outcome.matched }
    | none =>
      let outcome := rule.pairOff rest candidates
      { outcome with leftOnly := a :: outcome.leftOnly }

end Rule

end Matching

end ParkFusion
