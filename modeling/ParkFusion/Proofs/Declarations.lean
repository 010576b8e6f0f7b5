import Mathlib.Data.Finset.Card
import Mathlib.Data.List.Induction
import Mathlib.Data.Sym.Sym2
import ParkFusion.Matching.Overrides

namespace ParkFusion.Matching

/-- The pairs of names, whichever way round each of them is given. -/
def unordered (pairs : List (String × String)) : List (Sym2 String) :=
  pairs.map fun (a, b) ↦ s(a, b)

/-- What the pairs declare identical: two keys each, unless nothing is left of one of the names. -/
def declarations (pairs : List (String × String)) : Finset (Sym2 String) :=
  ((unordered pairs).map (Sym2.map Name.key)).toFinset.filter ("" ∉ ·)

section Declarations

variable {pairs others : List (String × String)} {keys : Sym2 String} {a b : String}

theorem mem_declarations :
    keys ∈ declarations pairs ↔ ∃ pair ∈ pairs, Name.key pair.1 ≠ "" ∧ Name.key pair.2 ≠ "" ∧
      s(Name.key pair.1, Name.key pair.2) = keys := by
  simp only [declarations, unordered, List.map_map, Finset.mem_filter, List.mem_toFinset,
    List.mem_map, Function.comp_apply, Sym2.map_mk]
  constructor
  · rintro ⟨⟨pair, hpair, rfl⟩, hblank⟩
    rw [Sym2.mem_iff, not_or] at hblank
    exact ⟨pair, hpair, Ne.symm hblank.1, Ne.symm hblank.2, rfl⟩
  · rintro ⟨pair, hpair, hleft, hright, rfl⟩
    rw [Sym2.mem_iff, not_or]
    exact ⟨⟨pair, hpair, rfl⟩, Ne.symm hleft, Ne.symm hright⟩

theorem declarations_congr (h : ∀ names, names ∈ unordered others ↔ names ∈ unordered pairs) :
    declarations others = declarations pairs := by
  ext keys
  simp only [declarations, Finset.mem_filter, List.mem_toFinset, List.mem_map, h]

theorem declarations_concat (pairs : List (String × String)) (a b : String) :
    declarations (pairs ++ [(a, b)]) =
      if Name.key a = "" ∨ Name.key b = "" then declarations pairs
      else insert s(Name.key a, Name.key b) (declarations pairs) := by
  ext keys
  simp only [mem_declarations, List.mem_append, List.mem_singleton, or_and_right, exists_or,
    exists_eq_left]
  split
  · rename_i hblank
    simp only [mem_declarations, or_iff_left_iff_imp]
    rintro ⟨ha, hb, -⟩
    exact absurd hblank (not_or.mpr ⟨ha, hb⟩)
  · rename_i hkeys
    obtain ⟨ha, hb⟩ := not_or.mp hkeys
    simp only [Finset.mem_insert, mem_declarations, ha, hb, ne_eq, not_false_eq_true, true_and,
      eq_comm (a := keys), or_comm]

end Declarations

/-- The table has what was declared: each two keys in both directions, and a key that is declared
identical with itself in the only one there is. -/
structure Records (o : Overrides) (declared : Finset (Sym2 String)) : Prop where
  mem_iff : ∀ a b, (a, b) ∈ o.entries ↔ s(a, b) ∈ declared
  length : o.entries.length + (declared.filter Sym2.IsDiag).card = 2 * declared.card

section Table

variable {o : Overrides} {entry other : String × String} {declared : Finset (Sym2 String)}

theorem Overrides.add_of_mem (h : entry ∈ o.entries) : o.add entry = o :=
  if_pos (List.contains_iff_mem.mpr h)

theorem Overrides.add_of_not_mem (h : entry ∉ o.entries) : o.add entry = ⟨o.entries ++ [entry]⟩ :=
  if_neg (mt List.contains_iff_mem.mp h)

theorem Overrides.mem_add : other ∈ (o.add entry).entries ↔ other ∈ o.entries ∨ other = entry := by
  by_cases h : entry ∈ o.entries
  · rw [add_of_mem h, or_iff_left_of_imp]
    rintro rfl
    exact h
  · rw [add_of_not_mem h, List.mem_append, List.mem_singleton]

theorem Overrides.length_addBoth {a b : String} (hab : (a, b) ∉ o.entries)
    (hba : (b, a) ∉ o.entries) :
    ((o.add (a, b)).add (b, a)).entries.length = o.entries.length + if a = b then 1 else 2 := by
  rw [add_of_not_mem hab]
  by_cases h : a = b
  · subst h
    rw [add_of_mem (by simp), if_pos rfl, List.length_append, List.length_singleton]
  · have hnew : (b, a) ∉ o.entries ++ [(a, b)] := by simp [hba, Ne.symm h]
    rw [add_of_not_mem hnew, if_neg h, List.length_append, List.length_append]
    rfl

theorem card_diag_insert {a b : String} (h : s(a, b) ∉ declared) :
    ((insert s(a, b) declared).filter Sym2.IsDiag).card =
      (declared.filter Sym2.IsDiag).card + if a = b then 1 else 0 := by
  have hnew : s(a, b) ∉ declared.filter Sym2.IsDiag := fun hm ↦ h (Finset.mem_filter.mp hm).1
  rw [Finset.filter_insert]
  simp only [Sym2.mk_isDiag_iff]
  split
  · exact Finset.card_insert_of_notMem hnew
  · rfl

theorem Records.addBoth (h : Records o declared) (a b : String) :
    Records ((o.add (a, b)).add (b, a)) (insert s(a, b) declared) := by
  refine ⟨fun c d ↦ ?_, ?_⟩
  · rw [Overrides.mem_add, Overrides.mem_add, h.mem_iff, Finset.mem_insert, Sym2.eq_iff,
      Prod.mk.injEq, Prod.mk.injEq]
    tauto
  have hlength := h.length
  have hab := h.mem_iff a b
  have hba := h.mem_iff b a
  rw [Sym2.eq_swap] at hba
  -- the pair is in both directions or in none, so that either nothing is added or all of it
  by_cases hdeclared : s(a, b) ∈ declared
  · rwa [Overrides.add_of_mem (hab.mpr hdeclared), Overrides.add_of_mem (hba.mpr hdeclared),
      Finset.insert_eq_of_mem hdeclared]
  · rw [Overrides.length_addBoth (mt hab.mp hdeclared) (mt hba.mp hdeclared),
      card_diag_insert hdeclared, Finset.card_insert_of_notMem hdeclared]
    split <;> omega

theorem Overrides.ofPairs_concat (pairs : List (String × String)) (a b : String) :
    ofPairs (pairs ++ [(a, b)]) = (ofPairs pairs).insert a b := by
  simp only [ofPairs, List.foldl_append, List.foldl_cons, List.foldl_nil]

theorem Overrides.ofPairs_records (pairs : List (String × String)) :
    Records (.ofPairs pairs) (declarations pairs) := by
  -- on the last pair, since the table is filled from the first one on
  induction pairs using List.reverseRecOn with
  | nil => exact ⟨fun a b ↦ by simp [Overrides.ofPairs, mem_declarations], rfl⟩
  | append_singleton pairs pair ih =>
    obtain ⟨a, b⟩ := pair
    rw [ofPairs_concat, declarations_concat, Overrides.insert]
    simp only [Bool.or_eq_true, String.isEmpty_iff]
    split
    · exact ih
    · exact ih.addBoth (Name.key a) (Name.key b)

theorem Records.contains_iff (h : Records o declared) (a b : String) :
    o.contains a b ↔ s(Name.key a, Name.key b) ∈ declared :=
  List.contains_iff_mem.trans (h.mem_iff _ _)

theorem Records.isEmpty_iff (h : Records o declared) : o.isEmpty ↔ declared = ∅ := by
  have hdiag := Finset.card_filter_le declared Sym2.IsDiag
  have hlength := h.length
  rw [Overrides.isEmpty, List.isEmpty_iff_length_eq_zero, ← Finset.card_eq_zero]
  omega

/-- Of keys that are declared identical with themselves it takes two to count as one. -/
theorem Records.size_eq (h : Records o declared) :
    o.size = (declared.filter (¬ ·.IsDiag)).card + (declared.filter Sym2.IsDiag).card / 2 := by
  have hsplit := Finset.card_filter_add_card_filter_not (s := declared) Sym2.IsDiag
  have hlength := h.length
  unfold Overrides.size
  omega

theorem Records.size_eq_card_iff (h : Records o declared) :
    o.size = declared.card ↔ ∀ keys ∈ declared, ¬ keys.IsDiag := by
  have hsplit := Finset.card_filter_add_card_filter_not (s := declared) Sym2.IsDiag
  rw [h.size_eq, ← Finset.filter_eq_empty_iff, ← Finset.card_eq_zero]
  omega

theorem Records.isEmpty_of_size (h : Records o declared) :
    (o.isEmpty ↔ o.size = 0) ↔ ∀ key, declared ≠ {s(key, key)} := by
  have hsplit := Finset.card_filter_add_card_filter_not (s := declared) Sym2.IsDiag
  rw [h.isEmpty_iff, h.size_eq]
  constructor
  · rintro hzero key rfl
    rw [Finset.filter_singleton, Finset.filter_singleton] at hzero
    simp at hzero
  · intro hne
    refine ⟨fun hempty ↦ by simp [hempty], fun hzero ↦ ?_⟩
    by_contra hsome
    have hcard := Finset.card_ne_zero.mpr (Finset.nonempty_iff_ne_empty.mpr hsome)
    -- one pair is left, and it is on the diagonal
    obtain ⟨keys, hkeys⟩ := Finset.card_eq_one.mp (show declared.card = 1 by omega)
    have hnone : declared.filter (¬ ·.IsDiag) = ∅ := Finset.card_eq_zero.mp (by omega)
    rw [hkeys, Finset.filter_eq_empty_iff] at hnone
    have hdiag := not_not.mp (hnone (Finset.mem_singleton_self keys))
    induction keys with
    | _ a b =>
      obtain rfl := Sym2.mk_isDiag_iff.mp hdiag
      exact hne a hkeys

end Table

namespace Overrides

/-- Two names are declared identical if some pair of them was declared, either way round. It does
not matter how often, in which order and which way round the pairs were declared. -/
theorem contains_ofPairs (pairs : List (String × String)) :
    (∀ a b, (ofPairs pairs).contains a b ↔
      ∃ pair ∈ pairs, Name.key pair.1 ≠ "" ∧ Name.key pair.2 ≠ "" ∧
        s(Name.key pair.1, Name.key pair.2) = s(Name.key a, Name.key b)) ∧
    (∀ a b, (ofPairs pairs).contains a b = (ofPairs pairs).contains b a) ∧
    ∀ others, (∀ names, names ∈ unordered others ↔ names ∈ unordered pairs) →
      ∀ a b, (ofPairs others).contains a b = (ofPairs pairs).contains a b := by
  have hcontains := (ofPairs_records pairs).contains_iff
  refine ⟨fun a b ↦ (hcontains a b).trans mem_declarations, fun a b ↦ ?_, fun others h a b ↦ ?_⟩
  · rw [Bool.eq_iff_iff, hcontains, hcontains, Sym2.eq_swap]
  · rw [Bool.eq_iff_iff, hcontains, (ofPairs_records others).contains_iff, declarations_congr h]

def riverPairs : List (String × String) :=
  [("Taron", "River Quest"), ("Klugheim", "!!!")]

def riverPairsAgain : List (String × String) :=
  [("River Quest", "Taron"), ("Klugheim", "!!!"), ("Taron", "River Quest")]

theorem contains_ofPairs_river :
    (∀ names, names ∈ unordered riverPairsAgain ↔ names ∈ unordered riverPairs) ∧
      (∀ a b, (ofPairs riverPairsAgain).contains a b = (ofPairs riverPairs).contains a b) ∧
      (ofPairs riverPairs).contains "RIVER QUEST" "taron" ∧
      ¬ (ofPairs riverPairs).contains "Klugheim" "!!!" := by
  have hsame : ∀ names, names ∈ unordered riverPairsAgain ↔ names ∈ unordered riverPairs := by
    intro names
    have hswap : s("River Quest", "Taron") = s("Taron", "River Quest") := Sym2.eq_swap
    simp only [unordered, riverPairsAgain, riverPairs, List.map_cons, List.map_nil, hswap,
      List.mem_cons, List.not_mem_nil]
    tauto
  exact ⟨hsame, (contains_ofPairs riverPairs).2.2 riverPairsAgain hsame, by decide +kernel,
    by decide +kernel⟩

/-- The size is the number of declarations if no two names with the same key were declared
identical. Of such declarations only every other one counts, so that a table with one of them alone
has no size and is not empty. -/
theorem size_ofPairs (pairs : List (String × String)) :
    (ofPairs pairs).size = ((declarations pairs).filter (¬ ·.IsDiag)).card +
      ((declarations pairs).filter Sym2.IsDiag).card / 2 ∧
    ((ofPairs pairs).isEmpty ↔ declarations pairs = ∅) ∧
    ((ofPairs pairs).size = (declarations pairs).card ↔
      ∀ keys ∈ declarations pairs, ¬ keys.IsDiag) ∧
    (((ofPairs pairs).isEmpty ↔ (ofPairs pairs).size = 0) ↔
      ∀ key, declarations pairs ≠ {s(key, key)}) := by
  have h := ofPairs_records pairs
  exact ⟨h.size_eq, h.isEmpty_iff, h.size_eq_card_iff, h.isEmpty_of_size⟩

/-- One declaration, of two spellings of one name. -/
theorem size_spellings :
    let pairs := [("Taron", "TARON")]
    (declarations pairs).card = 1 ∧ (ofPairs pairs).size = 0 ∧ ¬ (ofPairs pairs).isEmpty := by
  decide +kernel

end Overrides

end ParkFusion.Matching
