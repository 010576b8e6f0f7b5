import Mathlib.Algebra.Group.Nat.Defs
import Mathlib.Tactic.SplitIfs
import ParkFusion.Unicode.Decomposition
import ParkFusion.Unicode.Table

namespace ParkFusion.Unicode

/-- The set of the code points in some ranges, as the bits of a number. -/
def bits : List (Nat × Nat) → Nat
  | [] => 0
  | (first, last) :: rest => bits rest ||| ((2 ^ (last + 1 - first) - 1) <<< first)

theorem testBit_bits (ranges : List (Nat × Nat)) (n : Nat) :
    (bits ranges).testBit n = within ranges n := by
  induction ranges with
  | nil => simp [bits, within]
  | cons range rest ih =>
    obtain ⟨first, last⟩ := range
    have hrange : ((2 ^ (last + 1 - first) - 1) <<< first).testBit n =
        (decide (first ≤ n) && decide (n ≤ last)) := by
      rw [Nat.testBit_shiftLeft, Nat.testBit_two_pow_sub_one, Bool.eq_iff_iff]
      simp only [Bool.and_eq_true, decide_eq_true_eq, ge_iff_le]
      omega
    rw [bits, Nat.testBit_or, ih, hrange, Bool.or_comm]
    rfl

theorem within_of_disjoint {r r' : List (Nat × Nat)} (h : bits r &&& bits r' = 0) {n : Nat}
    (hn : within r n) : within r' n = false := by
  have hbit := congrArg (Nat.testBit · n) h
  simpa [testBit_bits, hn] using hbit

theorem within_of_mem {ranges : List (Nat × Nat)} {first last n : Nat}
    (h : (first, last) ∈ ranges) (hf : first ≤ n) (hl : n ≤ last) : within ranges n :=
  List.any_eq_true.mpr ⟨(first, last), h, by simp [hf, hl]⟩

theorem not_of_within_eq_false {ranges : List (Nat × Nat)} {first last n : Nat}
    (h : within ranges n = false) (hm : (first, last) ∈ ranges) : ¬ (first ≤ n ∧ n ≤ last) :=
  fun hn ↦ absurd (within_of_mem hm hn.1 hn.2) (by simp [h])

/-- Runs of code points, and sequences. -/
abbrev Table : Type := List (Nat × Nat × Nat) × List (Nat × List Nat)

namespace Table

/-- The code points that a table takes apart. -/
def taken (t : Table) : List (Nat × Nat) :=
  t.1.map (fun (first, last, _) ↦ (first, last)) ++ t.2.map fun (n, _) ↦ (n, n)

/-- The parts that a table gives. -/
def given (t : Table) : List (Nat × Nat) :=
  t.1.map (fun (first, last, target) ↦ (target, target + (last - first))) ++
    (t.2.flatMap (·.2)).map fun n ↦ (n, n)

end Table

variable {t : Table} {n p : Nat}

theorem lookupParts_cases (t : Table) (n : Nat) :
    (∃ first last target, (first, last, target) ∈ t.1 ∧ (first ≤ n ∧ n ≤ last) ∧
      lookupParts t.1 t.2 n = [target + (n - first)]) ∨
    (∃ parts, (n, parts) ∈ t.2 ∧ lookupParts t.1 t.2 n = parts) ∨
    (within t.taken n = false ∧ lookupParts t.1 t.2 n = [n]) := by
  unfold lookupParts
  split
  · rename_i first last target hfind
    have hn := List.find?_some hfind
    simp only [Bool.and_eq_true, decide_eq_true_eq] at hn
    exact Or.inl ⟨first, last, target, List.mem_of_find?_eq_some hfind, hn, rfl⟩
  · rename_i hfind
    cases hlookup : t.2.lookup n with
    | some parts =>
      obtain ⟨before, after, hsplit, -⟩ := List.lookup_eq_some_iff.mp hlookup
      exact Or.inr (Or.inl ⟨parts, by simp [hsplit], rfl⟩)
    | none =>
      refine Or.inr (Or.inr ⟨?_, rfl⟩)
      rw [List.find?_eq_none] at hfind
      rw [List.lookup_eq_none_iff] at hlookup
      rw [within, Table.taken, List.any_append, Bool.or_eq_false_iff, List.any_map, List.any_map,
        List.any_eq_false, List.any_eq_false]
      refine ⟨hfind, fun entry he hn ↦ ?_⟩
      have hother := hlookup entry he
      simp only [Function.comp_apply, Bool.and_eq_true, decide_eq_true_eq] at hn
      rw [Nat.le_antisymm hn.1 hn.2] at hother
      exact absurd hother (by simp)

theorem lookupParts_of_not_taken (h : within t.taken n = false) : lookupParts t.1 t.2 n = [n] := by
  rcases lookupParts_cases t n with ⟨first, last, target, hrun, hn, -⟩ | ⟨parts, hs, -⟩ | ⟨-, he⟩
  · have hm : (first, last) ∈ t.taken := List.mem_append_left _ (List.mem_map_of_mem hrun)
    exact absurd hn (not_of_within_eq_false h hm)
  · have hm : (n, n) ∈ t.taken := List.mem_append_right _ (List.mem_map_of_mem hs)
    exact absurd ⟨Nat.le_refl n, Nat.le_refl n⟩ (not_of_within_eq_false h hm)
  · exact he

theorem mem_lookupParts (h : p ∈ lookupParts t.1 t.2 n) :
    within t.given p ∨ within t.taken n = false ∧ p = n := by
  rcases lookupParts_cases t n with ⟨first, last, target, hrun, hn, he⟩ | ⟨parts, hs, he⟩ | ⟨hn, he⟩
  · have hm : (target, target + (last - first)) ∈ t.given :=
      List.mem_append_left _ (List.mem_map_of_mem hrun)
    rw [he, List.mem_singleton] at h
    exact Or.inl (within_of_mem hm (by omega) (by omega))
  · have hm : (p, p) ∈ t.given := List.mem_append_right _
      (List.mem_map_of_mem (List.mem_flatMap.mpr ⟨_, hs, he ▸ h⟩))
    exact Or.inl (within_of_mem hm (Nat.le_refl p) (Nat.le_refl p))
  · rw [he, List.mem_singleton] at h
    exact Or.inr ⟨hn, h⟩

open Decomposition in
/-- A function of the tables of the region of a code point. -/
def byRegion {α : Type} (f : Table → α) (n : Nat) : α :=
  if n < 0xA0 then f ([], [])
  else if n < 0x2000 then f (Alphabet.runs, Alphabet.sequences)
  else if n < 0x3400 then f (Sign.runs, Sign.sequences)
  else if n < 0xFB00 then f (Ideograph.runs, [])
  else if n < 0x10000 then f (Presentation.runs, Presentation.sequences)
  else f (Plane.runs, Plane.sequences)

def table (n : Nat) : Table := byRegion id n

theorem byRegion_eq {α : Type} (f : Table → α) (n : Nat) : byRegion f n = f (table n) := by
  unfold table byRegion
  split_ifs <;> rfl

open Decomposition in
def tables : List Table := [
  ([], []), (Alphabet.runs, Alphabet.sequences), (Sign.runs, Sign.sequences), (Ideograph.runs, []),
  (Presentation.runs, Presentation.sequences), (Plane.runs, Plane.sequences)]

theorem table_mem (n : Nat) : table n ∈ tables := by
  unfold table byRegion tables
  split_ifs <;> simp only [id, List.mem_cons, true_or, or_true]

def hangul : List (Nat × Nat) := [(0xAC00, 0xD7A3)]

theorem decompositionParts_of_not_hangul (h : within hangul n = false) :
    decompositionParts n = lookupParts (table n).1 (table n).2 n := by
  have hn : ¬ (decide (0xAC00 ≤ n) && decide (n ≤ 0xD7A3)) = true := by
    simpa using not_of_within_eq_false h List.mem_cons_self
  rw [← byRegion_eq fun t ↦ lookupParts t.1 t.2 n]
  unfold decompositionParts byRegion
  by_cases hascii : n < 0xA0
  · rw [if_pos hascii, if_pos hascii]
    rfl
  rw [if_neg hascii, if_neg hascii]
  by_cases halphabet : n < 0x2000
  · rw [if_pos halphabet, if_pos halphabet]
  rw [if_neg halphabet, if_neg halphabet]
  by_cases hsign : n < 0x3400
  · rw [if_pos hsign, if_pos hsign]
  rw [if_neg hsign, if_neg hsign, if_neg hn]

theorem decompositionParts_of_hangul (h : within hangul n) :
    decompositionParts n = hangulParts (n - 0xAC00) := by
  have hn : 0xAC00 ≤ n ∧ n ≤ 0xD7A3 := by simpa [within, hangul] using h
  unfold decompositionParts
  rw [if_neg (by omega), if_neg (by omega), if_neg (by omega), if_pos (by simpa using hn)]

/-- Whether a code point is taken apart by the tables of its region, or as a Hangul syllable. -/
def isComposed (n : Nat) : Bool :=
  within hangul n || within (table n).taken n

def hangulLetters : List (Nat × Nat) := [(0x1100, 0x1112), (0x1161, 0x1175), (0x11A8, 0x11C2)]

theorem mem_hangulParts (h : within hangul n) (hp : p ∈ hangulParts (n - 0xAC00)) :
    within hangulLetters p := by
  have hn : 0xAC00 ≤ n ∧ n ≤ 0xD7A3 := by simpa [within, hangul] using h
  have hp : (0x1100 ≤ p ∧ p ≤ 0x1112) ∨ (0x1161 ≤ p ∧ p ≤ 0x1175) ∨ (0x11A8 ≤ p ∧ p ≤ 0x11C2) := by
    unfold hangulParts at hp
    dsimp only at hp
    split at hp <;> simp only [List.mem_cons, List.not_mem_nil, or_false] at hp <;> omega
  simpa [within, hangulLetters] using hp

/-- The parts of all that is taken apart. -/
def givenSets : List (List (Nat × Nat)) :=
  hangulLetters :: tables.map Table.given

theorem given_disjoint_taken : ∀ taken ∈ hangul :: tables.map Table.taken, ∀ given ∈ givenSets,
    bits given &&& bits taken = 0 := by
  decide +kernel

theorem isComposed_of_given {given : List (Nat × Nat)} (hg : given ∈ givenSets)
    (h : within given p) : isComposed p = false := by
  have hdisjoint := fun taken ht ↦ within_of_disjoint (given_disjoint_taken taken ht given hg) h
  rw [isComposed, hdisjoint hangul List.mem_cons_self, Bool.false_or]
  exact hdisjoint _ (List.mem_cons_of_mem _ (List.mem_map_of_mem (table_mem p)))

theorem decompositionParts_of_not_composed (h : isComposed n = false) :
    decompositionParts n = [n] := by
  rw [isComposed, Bool.or_eq_false_iff] at h
  rw [decompositionParts_of_not_hangul h.1, lookupParts_of_not_taken h.2]

theorem mem_decompositionParts (h : p ∈ decompositionParts n) :
    (∃ given ∈ givenSets, within given p) ∨ isComposed n = false ∧ p = n := by
  by_cases hn : within hangul n
  · rw [decompositionParts_of_hangul hn] at h
    exact Or.inl ⟨hangulLetters, List.mem_cons_self, mem_hangulParts hn h⟩
  · have hn := Bool.eq_false_iff.mpr hn
    rw [decompositionParts_of_not_hangul hn] at h
    rcases mem_lookupParts h with hg | ⟨ht, he⟩
    · exact Or.inl ⟨_, List.mem_cons_of_mem _ (List.mem_map_of_mem (table_mem n)), hg⟩
    · exact Or.inr ⟨by rw [isComposed, hn, ht, Bool.or_self], he⟩

/-- Nothing in a full decomposition is taken apart again. -/
theorem isComposed_of_mem_parts (h : p ∈ decompositionParts n) : isComposed p = false := by
  rcases mem_decompositionParts h with ⟨given, hg, hp⟩ | ⟨hn, rfl⟩
  · exact isComposed_of_given hg hp
  · exact hn

theorem toNat_ofNat (p : Nat) : (Char.ofNat p).toNat = p ∨ (Char.ofNat p).toNat = 0 := by
  by_cases hp : p.isValidChar
  · left
    rw [Char.ofNat, dif_pos hp]
    rfl
  · right
    rw [Char.ofNat, dif_neg hp]
    rfl

theorem decompose_of_not_composed {c : Char} (h : isComposed c.toNat = false) :
    decompose c = [c] := by
  rw [decompose, decompositionParts_of_not_composed h, List.map_singleton, Char.ofNat_toNat]

theorem isComposed_of_mem_decompose {c d : Char} (h : d ∈ decompose c) :
    isComposed d.toNat = false := by
  obtain ⟨p, hp, rfl⟩ := List.mem_map.mp h
  rcases toNat_ofNat p with he | he
  · rw [he]
    exact isComposed_of_mem_parts hp
  · rw [he]
    rfl

end ParkFusion.Unicode
