import Mathlib.Data.List.Perm.Basic
import ParkFusion.Matching.Rules

namespace ParkFusion.Matching

/-- An empty table is no special case. -/
theorem declared_eq_contains (overrides : Overrides) (a b : String) :
    declared overrides a b = overrides.contains a b := by
  obtain ⟨entries⟩ := overrides
  cases entries with
  | nil => rfl
  | cons entry entries => exact Bool.true_and _

namespace Rule

variable {α σ : Type} {rule : Rule α σ} {a b : α} {position : Nat} {candidates : List α}

theorem firstDeclared?_eq_some (h : rule.firstDeclared? a candidates = some (b, position)) :
    candidates[position]? = some b ∧ rule.compatible a b ∧ rule.declared a b := by
  have hp := List.find?_some h
  simp only [Bool.and_eq_true] at hp
  exact ⟨List.mem_zipIdx_iff_getElem?.mp (List.mem_of_find?_eq_some h), hp⟩

def IsCandidate (rule : Rule α σ) (a : α) (candidates : List α) (best : α × Nat × σ) : Prop :=
  candidates[best.2.1]? = some best.1 ∧ rule.compatible a best.1 ∧ best.2.2 = rule.score a best.1

variable [LT σ] [DecidableLT σ]

/-- The two ways in which a pair can come about. -/
inductive Accepts (rule : Rule α σ) : Match α σ → Prop
  | declared {a b : α} : rule.compatible a b → rule.declared a b →
      Accepts rule ⟨a, b, rule.certain, .manualOverride⟩
  | scored {a b : α} : rule.compatible a b → rule.threshold < rule.score a b →
      Accepts rule ⟨a, b, rule.score a b, .fuzzy⟩

theorem improve_isCandidate {best : Option (α × Nat × σ)} {candidate : α × Nat}
    (hbest : ∀ x ∈ best, rule.IsCandidate a candidates x)
    (hc : candidates[candidate.2]? = some candidate.1) :
    ∀ x ∈ rule.improve a best candidate, rule.IsCandidate a candidates x := by
  rcases candidate with ⟨b, position⟩
  unfold improve
  by_cases hb : rule.compatible a b
  · have hnew : rule.IsCandidate a candidates (b, position, rule.score a b) := ⟨hc, hb, rfl⟩
    simp only [hb, if_true]
    cases best with
    | none => simpa using hnew
    | some top =>
      by_cases ht : top.2.2 < rule.score a b
      · simpa [ht] using hnew
      · simpa [ht] using hbest
  · simpa [hb] using hbest

theorem best?_eq_some {score : σ} (h : rule.best? a candidates = some (b, position, score)) :
    candidates[position]? = some b ∧ rule.compatible a b ∧ score = rule.score a b := by
  have hfold : ∀ (looked : List (α × Nat)) (best : Option (α × Nat × σ)),
      (∀ c ∈ looked, candidates[c.2]? = some c.1) →
      (∀ x ∈ best, rule.IsCandidate a candidates x) →
      ∀ x ∈ looked.foldl (rule.improve a) best, rule.IsCandidate a candidates x := by
    intro looked
    induction looked with
    | nil => exact fun best _ hbest ↦ hbest
    | cons c rest ih =>
      intro best hlooked hbest
      exact ih _ (fun d hd ↦ hlooked d (List.mem_cons_of_mem c hd))
        (improve_isCandidate hbest (hlooked c List.mem_cons_self))
  exact hfold candidates.zipIdx none (fun c hc ↦ List.mem_zipIdx_iff_getElem?.mp hc) (by simp) _ h

theorem choose?_eq_some {found : Match α σ} (h : rule.choose? a candidates = some (found, position)) :
    candidates[position]? = some found.right ∧ found.left = a ∧ rule.Accepts found := by
  unfold choose? at h
  split at h
  · rename_i b p hd
    obtain ⟨hb, hc, hdecl⟩ := firstDeclared?_eq_some hd
    cases h
    exact ⟨hb, rfl, .declared hc hdecl⟩
  · split at h
    · rename_i b p score hbest
      obtain ⟨hb, hc, rfl⟩ := best?_eq_some hbest
      split at h
      · rename_i ht
        cases h
        exact ⟨hb, rfl, .scored hc ht⟩
      · cases h
    · cases h

theorem accepts_of_mem_matched {left right : List α} {pair : Match α σ}
    (h : pair ∈ (rule.pairOff left right).matched) : rule.Accepts pair := by
  induction left generalizing right with
  | nil => simp [pairOff] at h
  | cons a rest ih =>
    rw [pairOff] at h
    split at h
    · rename_i found position hc
      rcases List.mem_cons.mp h with rfl | h
      · exact (choose?_eq_some hc).2.2
      · exact ih h
    · exact ih h

theorem matched_left_sublist (rule : Rule α σ) (left right : List α) :
    ((rule.pairOff left right).matched.map (·.left)).Sublist left := by
  induction left generalizing right with
  | nil => simp [pairOff]
  | cons a rest ih =>
    rw [pairOff]
    split
    · rename_i found position hc
      simpa [(choose?_eq_some hc).2.1] using ih (right.eraseIdx position)
    · exact (ih right).cons a

/-- Every record of the right list is in exactly one pair or in none. -/
theorem right_perm (rule : Rule α σ) (left right : List α) :
    ((rule.pairOff left right).matched.map (·.right) ++
      (rule.pairOff left right).rightOnly).Perm right := by
  induction left generalizing right with
  | nil => simp [pairOff]
  | cons a rest ih =>
    rw [pairOff]
    split
    · rename_i found position hc
      obtain ⟨hp, he⟩ := List.getElem?_eq_some_iff.mp (choose?_eq_some hc).1
      rw [List.map_cons, List.cons_append, ← he]
      exact ((ih _).cons _).trans (List.getElem_cons_eraseIdx_perm hp)
    · exact ih right

/-- The same for one list paired with several. -/
theorem rights_perm {ι : Type} (rule : Rule α σ) (left : List α) (right : ι → List α)
    (indices : List ι) :
    ((indices.flatMap fun i ↦ (rule.pairOff left (right i)).matched).map (·.right) ++
      indices.flatMap fun i ↦ (rule.pairOff left (right i)).rightOnly).Perm
      (indices.flatMap right) := by
  induction indices with
  | nil => simp
  | cons i indices ih =>
    simp only [List.flatMap_cons, List.map_append]
    refine List.Perm.trans ?_ ((rule.right_perm left (right i)).append ih)
    simp only [List.append_assoc]
    exact (List.perm_append_comm_assoc _ _ _).append_left _

theorem rightOnly_subset (rule : Rule α σ) (left right : List α) :
    (rule.pairOff left right).rightOnly ⊆ right :=
  fun _ hb ↦ (rule.right_perm left right).subset (List.mem_append_right _ hb)

end Rule

end ParkFusion.Matching
