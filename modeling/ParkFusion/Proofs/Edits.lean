import Mathlib.Order.Bounds.Basic
import ParkFusion.Name

namespace ParkFusion.Name

/-- So many insertions, deletions and replacements lead from the first text to the second. -/
inductive Edits : List Char → List Char → ℕ → Prop
  | nil : Edits [] [] 0
  | keep (c : Char) {a b : List Char} {n : ℕ} : Edits a b n → Edits (c :: a) (c :: b) n
  | replace (c d : Char) {a b : List Char} {n : ℕ} :
      Edits a b n → Edits (c :: a) (d :: b) (n + 1)
  | delete (c : Char) {a b : List Char} {n : ℕ} : Edits a b n → Edits (c :: a) b (n + 1)
  | insert (d : Char) {a b : List Char} {n : ℕ} : Edits a b n → Edits a (d :: b) (n + 1)

namespace Edits

variable {a b : List Char} {n : ℕ}

theorem symm (h : Edits a b n) : Edits b a n := by
  induction h with
  | nil => exact .nil
  | keep c _ ih => exact .keep c ih
  | replace c d _ ih => exact .replace d c ih
  | delete c _ ih => exact .insert c ih
  | insert d _ ih => exact .delete d ih

/-- Whatever can be done at the front can be done at the end. -/
theorem append {a' b' : List Char} {n' : ℕ} (h : Edits a b n) (h' : Edits a' b' n') :
    Edits (a ++ a') (b ++ b') (n' + n) := by
  induction h with
  | nil => exact h'
  | keep c _ ih => exact .keep c ih
  | replace c d _ ih => exact .replace c d ih
  | delete c _ ih => exact .delete c ih
  | insert d _ ih => exact .insert d ih

theorem reverse (h : Edits a b n) : Edits a.reverse b.reverse n := by
  induction h with
  | nil => exact .nil
  | keep c _ ih => simpa using ih.append (.keep c .nil)
  | replace c d _ ih => simpa [Nat.add_comm] using ih.append (.replace c d .nil)
  | delete c _ ih => simpa [Nat.add_comm] using ih.append (.delete c .nil)
  | insert d _ ih => simpa [Nat.add_comm] using ih.append (.insert d .nil)

theorem min {m : ℕ} (hm : Edits a b m) (hn : Edits a b n) : Edits a b (Min.min m n) := by
  rcases Nat.le_total m n with hle | hle
  · rwa [Nat.min_eq_left hle]
  · rwa [Nat.min_eq_right hle]

end Edits

/-- The least number of edits, by what becomes of the first characters. -/
def fewestEdits : List Char → List Char → ℕ
  | [], b => b.length
  | c :: a, [] => (c :: a).length
  | c :: a, d :: b =>
    min (min (fewestEdits (c :: a) b) (fewestEdits a (d :: b)) + 1)
      (if c = d then fewestEdits a b else fewestEdits a b + 1)
termination_by a b => a.length + b.length

section Fewest

variable {a b : List Char} {n : ℕ}

theorem fewestEdits_nil (a : List Char) : fewestEdits a [] = a.length := by
  cases a <;> rw [fewestEdits]

theorem fewestEdits_delete_le (c : Char) (a b : List Char) :
    fewestEdits (c :: a) b ≤ fewestEdits a b + 1 := by
  cases b with
  | nil => simp [fewestEdits_nil]
  | cons d b =>
    rw [fewestEdits]
    omega

theorem fewestEdits_insert_le (d : Char) (a b : List Char) :
    fewestEdits a (d :: b) ≤ fewestEdits a b + 1 := by
  cases a with
  | nil => simp [fewestEdits]
  | cons c a =>
    rw [fewestEdits]
    omega

theorem fewestEdits_le (h : Edits a b n) : fewestEdits a b ≤ n := by
  induction h with
  | nil => simp [fewestEdits]
  | @keep c a b n _ ih =>
    rw [fewestEdits, if_pos rfl]
    omega
  | @replace c d a b n _ ih =>
    rw [fewestEdits]
    split <;> omega
  | @delete c a b n _ ih => exact (fewestEdits_delete_le c a b).trans (Nat.succ_le_succ ih)
  | @insert d a b n _ ih => exact (fewestEdits_insert_le d a b).trans (Nat.succ_le_succ ih)

theorem edits_fewest (a b : List Char) : Edits a b (fewestEdits a b) := by
  induction a, b using fewestEdits.induct with
  | case1 b =>
    rw [fewestEdits]
    induction b with
    | nil => exact .nil
    | cons d b ih => exact .insert d ih
  | case2 c a =>
    rw [fewestEdits]
    induction a generalizing c with
    | nil => exact .delete c .nil
    | cons d a ih => exact .delete c (ih d)
  | case3 c a d b ihInsert ihDelete ih =>
    have hlast : Edits (c :: a) (d :: b)
        (if c = d then fewestEdits a b else fewestEdits a b + 1) := by
      split
      · rename_i heq
        exact heq ▸ .keep c ih
      · exact .replace c d ih
    rw [fewestEdits, ← Nat.add_min_add_right]
    exact ((ihInsert.insert d).min (ihDelete.delete c)).min hlast

end Fewest

/-- A row of the table of edit distances, for a text and the beginnings of another one, all of them
from their last character to the first. -/
def distanceRow (a : List Char) : List Char → List Char → List ℕ
  | b, [] => [fewestEdits a b]
  | b, d :: rest => fewestEdits a b :: distanceRow a (d :: b) rest

section Table

theorem exists_distanceRow (a b rest : List Char) :
    ∃ row, distanceRow a b rest = fewestEdits a b :: row := by
  cases rest with
  | nil => exact ⟨[], rfl⟩
  | cons d rest => exact ⟨_, rfl⟩

theorem distanceRow_nil (b rest : List Char) :
    distanceRow [] b rest = List.range' b.length (rest.length + 1) := by
  induction rest generalizing b with
  | nil => simp [distanceRow, fewestEdits]
  | cons d rest ih =>
    rw [distanceRow, ih, List.length_cons, List.length_cons, fewestEdits]
    rfl

theorem distanceRow_getLastD (a b rest : List Char) :
    (distanceRow a b rest).getLastD 0 = fewestEdits a (rest.reverse ++ b) := by
  induction rest generalizing b with
  | nil => rfl
  | cons d rest ih =>
    obtain ⟨row, hrow⟩ := exists_distanceRow a (d :: b) rest
    have hlast := ih (d :: b)
    rw [hrow] at hlast
    rw [distanceRow, hrow, List.reverse_cons, List.append_assoc]
    exact hlast

theorem editRow_distances (c : Char) (a b rest : List Char) :
    fewestEdits (c :: a) b :: editRow c (fewestEdits (c :: a) b) rest (distanceRow a b rest) =
      distanceRow (c :: a) b rest := by
  induction rest generalizing b with
  | nil => rfl
  | cons d rest ih =>
    obtain ⟨row, hrow⟩ := exists_distanceRow a (d :: b) rest
    have hcell : Min.min (Min.min (fewestEdits (c :: a) b) (fewestEdits a (d :: b)) + 1)
        (if c = d then fewestEdits a b else fewestEdits a b + 1) =
        fewestEdits (c :: a) (d :: b) := by
      rw [fewestEdits]
    rw [distanceRow, hrow, editRow, hcell, ← hrow, ih, distanceRow]

theorem editRows_distances (b a cs : List Char) :
    editRows b cs (distanceRow a [] b) = distanceRow (cs.reverse ++ a) [] b := by
  induction cs generalizing a with
  | nil => rfl
  | cons c cs ih =>
    have hfirst : (distanceRow a [] b).headD 0 + 1 = fewestEdits (c :: a) [] := by
      obtain ⟨row, hrow⟩ := exists_distanceRow a [] b
      rw [hrow, List.headD_cons, fewestEdits_nil, fewestEdits_nil, List.length_cons]
    rw [editRows, hfirst, editRow_distances, ih, List.reverse_cons, List.append_assoc]
    rfl

theorem editDistance_eq (a b : List Char) :
    editDistance a b = fewestEdits a.reverse b.reverse := by
  have hstart : List.range (b.length + 1) = distanceRow [] [] b := by
    rw [distanceRow_nil, List.range_eq_range']
    rfl
  rw [editDistance, hstart, editRows_distances, distanceRow_getLastD, List.append_nil,
    List.append_nil]

/-- The table ends with the least number of edits between the two texts. -/
theorem editDistance_isLeast (a b : List Char) : IsLeast {n | Edits a b n} (editDistance a b) := by
  rw [editDistance_eq]
  constructor
  · have hedits := (edits_fewest a.reverse b.reverse).reverse
    rwa [List.reverse_reverse, List.reverse_reverse] at hedits
  · intro n hn
    exact fewestEdits_le hn.reverse

theorem editDistance_comm (a b : List Char) : editDistance a b = editDistance b a := by
  have hswap : {n | Edits a b n} = {n | Edits b a n} := Set.ext fun _ ↦ ⟨.symm, .symm⟩
  exact (hswap ▸ editDistance_isLeast a b).unique (editDistance_isLeast b a)

end Table

end ParkFusion.Name
