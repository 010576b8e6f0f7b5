import ParkFusion.Proofs.Decompositions
import ParkFusion.Unicode.Letter
import ParkFusion.Unicode.Lowercase
import ParkFusion.Unicode.Mark

namespace ParkFusion.Unicode

/-- The capitals one by one, each with its small form. -/
def capitals : List (Nat × Nat) :=
  capitalRuns.flatMap fun (first, last, step, small) ↦
    ((List.range (last + 1 - first)).filter (· % step = 0)).map fun k ↦ (first + k, small + k)

theorem mem_capitals {n m : Nat} : (n, m) ∈ capitals ↔
    ∃ first last step small, (first, last, step, small) ∈ capitalRuns ∧
      ((first ≤ n ∧ n ≤ last) ∧ (n - first) % step = 0) ∧ m = small + (n - first) := by
  constructor
  · intro h
    obtain ⟨⟨first, last, step, small⟩, hrun, hm⟩ := List.mem_flatMap.mp h
    obtain ⟨k, hk, he⟩ := List.mem_map.mp hm
    rw [List.mem_filter, List.mem_range, decide_eq_true_eq] at hk
    obtain ⟨rfl, rfl⟩ := Prod.mk.inj he
    refine ⟨first, last, step, small, hrun, ⟨by omega, ?_⟩, ?_⟩
    · rw [Nat.add_sub_cancel_left]
      exact hk.2
    · rw [Nat.add_sub_cancel_left]
  · rintro ⟨first, last, step, small, hrun, ⟨hn, hstep⟩, rfl⟩
    refine List.mem_flatMap.mpr ⟨_, hrun, List.mem_map.mpr ⟨n - first, ?_, ?_⟩⟩
    · rw [List.mem_filter, List.mem_range]
      exact ⟨by omega, decide_eq_true hstep⟩
    · rw [Nat.add_sub_cancel' hn.1]

theorem lowercase_cases {c : Char} (hc : c ≠ '\u0130') :
    (∃ m, (c.toNat, m) ∈ capitals ∧ lowercase c = [Char.ofNat m]) ∨
      (∀ m, (c.toNat, m) ∉ capitals) ∧ lowercase c = [c] := by
  rw [lowercase, if_neg hc]
  split
  · rename_i first last step small hfind
    have hrun := List.mem_of_find?_eq_some hfind
    have hn := List.find?_some hfind
    simp only [Bool.and_eq_true, decide_eq_true_eq] at hn
    exact Or.inl ⟨_, mem_capitals.mpr ⟨first, last, step, small, hrun, hn, rfl⟩, rfl⟩
  · rename_i hfind
    refine Or.inr ⟨fun m hm ↦ ?_, rfl⟩
    obtain ⟨first, last, step, small, hrun, hn, -⟩ := mem_capitals.mp hm
    refine List.find?_eq_none.mp hfind _ hrun ?_
    simpa only [Bool.and_eq_true, decide_eq_true_eq] using hn

/-- A letter or number without a mark, a decomposition and a small form. -/
structure IsPlain (c : Char) : Prop where
  letter : isLetterOrNumber c
  unmarked : isMark c = false
  whole : isComposed c.toNat = false
  small : ∀ m, (c.toNat, m) ∉ capitals

theorem ne_dottedCapital {c : Char} (h : isComposed c.toNat = false) : c ≠ '\u0130' := by
  rintro rfl
  revert h
  decide +kernel

variable {c : Char}

theorem IsPlain.decompose (h : IsPlain c) : decompose c = [c] :=
  decompose_of_not_composed h.whole

theorem IsPlain.lowercase (h : IsPlain c) : lowercase c = [c] := by
  rcases lowercase_cases (ne_dottedCapital h.whole) with ⟨m, hm, -⟩ | ⟨-, he⟩
  · exact absurd hm (h.small m)
  · exact he

def capitalPoints : List (Nat × Nat) :=
  capitals.map fun (n, _) ↦ (n, n)

/-- What `IsPlain` says of a code point, looked up in sets. -/
def isPlainPoint (n : Nat) : Bool :=
  (bits letterRanges).testBit n && !(bits markRanges).testBit n && !(bits hangul).testBit n &&
    !(byRegion (bits ·.taken) n).testBit n && !(bits capitalPoints).testBit n

theorem isPlain_of_point (h : isPlainPoint c.toNat) : IsPlain c := by
  simp only [isPlainPoint, byRegion_eq, testBit_bits, Bool.and_eq_true, Bool.not_eq_true'] at h
  obtain ⟨⟨⟨⟨hletter, hmark⟩, hhangul⟩, htaken⟩, hcapital⟩ := h
  refine ⟨hletter, by rw [isMark, hmark, Bool.and_false], ?_, fun m hm ↦ ?_⟩
  · rw [isComposed, hhangul, htaken, Bool.or_self]
  · exact not_of_within_eq_false hcapital (List.mem_map_of_mem hm) ⟨Nat.le_refl _, Nat.le_refl _⟩

/-- The letters that names spell otherwise, ß, æ and ø with the capitals of the last two, and the
ampersand. -/
def respelled : List Nat := [0xDF, 0xE6, 0xC6, 0xF8, 0xD8, 0x26]

/-- Of these letters each one with a capital is the small form of that capital only. -/
theorem capitals_checked : capitals.all fun (n, m) ↦
    (bits hangul).testBit n || (byRegion (bits ·.taken) n).testBit n ||
      (Char.ofNat m).toNat == m && isPlainPoint m &&
        (!respelled.contains m || [0xC6, 0xD8, 0x1E9E].contains n) := by
  decide +kernel

theorem isPlain_small {n m : Nat} (h : (n, m) ∈ capitals) (hn : isComposed n = false) :
    (Char.ofNat m).toNat = m ∧ IsPlain (Char.ofNat m) ∧
      (m ∈ respelled → n = 0xC6 ∨ n = 0xD8 ∨ n = 0x1E9E) := by
  have hcheck := List.all_eq_true.mp capitals_checked _ h
  rw [isComposed, Bool.or_eq_false_iff] at hn
  simp only [byRegion_eq, testBit_bits, hn, Bool.false_or, Bool.and_eq_true, beq_iff_eq] at hcheck
  obtain ⟨⟨hvalid, hplain⟩, hother⟩ := hcheck
  refine ⟨hvalid, isPlain_of_point (by rwa [hvalid]), fun hm ↦ ?_⟩
  simpa [hm] using hother

end ParkFusion.Unicode
