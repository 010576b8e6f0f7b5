import Mathlib.Data.List.Infix
import ParkFusion.Proofs.Edits

namespace ParkFusion.Name

variable {a b : List Char}

theorem occursIn_iff (part text : List Char) : occursIn part text ↔ part <:+: text := by
  induction text with
  | nil => simp [occursIn]
  | cons c rest ih => simp [occursIn, ih, List.infix_cons_iff]

/-- A text of the same length contains only itself. -/
theorem not_occursIn (hlength : a.length = b.length) (hne : a ≠ b) : occursIn a b = false := by
  refine Bool.eq_false_iff.mpr fun h ↦ hne ?_
  exact ((occursIn_iff a b).mp h).eq_of_length hlength

theorem editSimilarity_comm (a b : List Char) : editSimilarity a b = editSimilarity b a := by
  rw [editSimilarity, editSimilarity, editDistance_comm, Nat.max_comm]

/-- What the similarity of two texts is raised to if the one occurs in the other. -/
def raised (short long : List Char) (base : Float) : Float :=
  if containmentLength < short.length && occursIn short long && base < containmentFloor then
    containmentFloor
  else base

theorem keySimilarity_eq (ha : a ≠ []) (hb : b ≠ []) (hne : a ≠ b) : keySimilarity a b =
    if a.length ≤ b.length then raised a b (editSimilarity a b)
    else raised b a (editSimilarity a b) := by
  rw [keySimilarity, if_neg (by simp [ha, hb]), if_neg hne]
  by_cases hle : a.length ≤ b.length
  · rw [if_pos hle, if_pos hle]
    rfl
  · rw [if_neg hle, if_neg hle]
    rfl

theorem raised_of_not_occursIn (h : occursIn a b = false) (base : Float) :
    raised a b base = base := by
  rw [raised, h, Bool.and_false, Bool.false_and]
  rfl

theorem keySimilarity_comm (a b : List Char) : keySimilarity a b = keySimilarity b a := by
  by_cases hempty : a = [] ∨ b = []
  · have hnone : (a.isEmpty || b.isEmpty) = true := by simpa using hempty
    have hnone' : (b.isEmpty || a.isEmpty) = true := by rwa [Bool.or_comm]
    rw [keySimilarity, if_pos hnone, keySimilarity, if_pos hnone']
  · obtain ⟨ha, hb⟩ := not_or.mp hempty
    by_cases heq : a = b
    · rw [heq]
    · rw [keySimilarity_eq ha hb heq, keySimilarity_eq hb ha (Ne.symm heq), editSimilarity_comm b a]
      rcases Nat.lt_trichotomy a.length b.length with hlt | hlength | hgt
      · rw [if_pos hlt.le, if_neg hlt.not_ge]
      · -- each would be the short one in its turn, but then it does not matter
        rw [if_pos hlength.le, if_pos hlength.ge, raised_of_not_occursIn (not_occursIn hlength heq),
          raised_of_not_occursIn (not_occursIn hlength.symm (Ne.symm heq))]
      · rw [if_neg hgt.not_ge, if_pos hgt.le]

theorem similarity_comm (a b : String) : similarity a b = similarity b a :=
  keySimilarity_comm (keyChars a.toList) (keyChars b.toList)

/-- Names of one key are wholly alike, unless nothing is left of them. -/
theorem similarity_of_key_eq {a b : String} (h : key a = key b) :
    similarity a b = if key a = "" then 0 else 1 := by
  have hchars : keyChars a.toList = keyChars b.toList := String.ofList_injective h
  have hempty : key a = "" ↔ keyChars a.toList = [] := String.ofList_eq_empty_iff
  rw [similarity, ← hchars, keySimilarity]
  by_cases hnone : keyChars a.toList = []
  · rw [if_pos (hempty.mpr hnone), if_pos (by simp [hnone])]
  · rw [if_neg (mt hempty.mp hnone), if_neg (by simp [hnone]), if_pos rfl]

end ParkFusion.Name
