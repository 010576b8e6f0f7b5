import Mathlib.Data.String.Basic
import ParkFusion.Name
import ParkFusion.Proofs.SmallLetters
import ParkFusion.Proofs.Words

namespace ParkFusion.Name

open Unicode

/-- What a character contributes to a key. -/
def expand (c : Char) : List Char :=
  ((decompose c).filter (!isMark ·)).flatMap fold

theorem keyChars_eq (cs : List Char) : keyChars cs = unwords (words (cs.flatMap expand)) := by
  rw [keyChars, List.filter_flatMap, List.flatMap_assoc]
  rfl

variable {c d e : Char} {cs : List Char}

theorem fold_of_not_respelled (hr : d.toNat ∉ respelled) :
    fold d = if isLetterOrNumber d then lowercase d else [' '] := by
  have hne : ∀ c : Char, c.toNat ∈ respelled → d ≠ c := fun c hc he ↦ hr (he ▸ hc)
  have hsharp := hne 'ß' (by decide)
  have hae := hne 'æ' (by decide)
  have hAe := hne 'Æ' (by decide)
  have ho := hne 'ø' (by decide)
  have hO := hne 'Ø' (by decide)
  have hand := hne '&' (by decide)
  simp only [fold, hsharp, hae, hAe, ho, hO, hand, decide_false, Bool.or_self, Bool.false_eq_true,
    if_false]

theorem fold_eq_self (h : IsPlain e) (hr : e.toNat ∉ respelled) : fold e = [e] := by
  rw [fold_of_not_respelled hr, if_pos h.letter, h.lowercase]

theorem expand_eq_self (h : IsPlain e) (hr : e.toNat ∉ respelled) : expand e = [e] := by
  rw [expand, h.decompose, List.filter_cons_of_pos (by simp [h.unmarked]), List.filter_nil,
    List.flatMap_singleton, fold_eq_self h hr]

theorem expand_blank : expand ' ' = [' '] := by
  decide +kernel

theorem expand_capitalSharp : expand 'ẞ' = ['ß'] := by
  decide +kernel

/-- The blank, and the letters in which names spell out others. -/
def spelling : List Char := [' ', 's', 'a', 'e', 'o', 'n', 'd']

theorem spelling_plain (h : e ∈ spelling) : e = ' ' ∨ IsPlain e ∧ e.toNat ∉ respelled := by
  have hpoints : spelling.all fun e ↦
      e == ' ' || isPlainPoint e.toNat && !respelled.contains e.toNat := by decide +kernel
  have he := List.all_eq_true.mp hpoints e h
  simp only [Bool.or_eq_true, beq_iff_eq, Bool.and_eq_true, Bool.not_eq_true',
    List.contains_eq_mem, decide_eq_false_iff_not] at he
  exact he.imp_right fun hplain ↦ ⟨isPlain_of_point hplain.1, hplain.2⟩

theorem fold_respelled (hr : d.toNat ∈ respelled) : fold d ⊆ spelling := by
  have hpoints : ∀ n ∈ respelled, fold (Char.ofNat n) ⊆ spelling := by decide +kernel
  have hd := hpoints d.toNat hr
  rwa [Char.ofNat_toNat] at hd

/-- No decomposition other than its own has the capital sharp s. -/
theorem eq_capitalSharp (h : 'ẞ' ∈ decompose c) : c = 'ẞ' := by
  obtain ⟨p, hp, he⟩ := List.mem_map.mp h
  have hsharp : p = 0x1E9E := by
    rcases toNat_ofNat p with hn | hn
    · rw [← hn, he]
      rfl
    · rw [he] at hn
      exact absurd hn (by decide)
  have hgiven : ∀ given ∈ givenSets, (bits given).testBit 0x1E9E = false := by decide +kernel
  rcases mem_decompositionParts hp with ⟨given, hg, hw⟩ | ⟨-, hpc⟩
  · rw [hsharp, ← testBit_bits, hgiven given hg] at hw
    cases hw
  · apply Char.toNat_inj.mp
    rw [← hpc, hsharp]
    rfl

/-- What a letter or number becomes is plain. Only the capital sharp s becomes a letter that is
spelled otherwise. -/
theorem isPlain_lowercase (hd : isComposed d.toNat = false) (hmark : isMark d = false)
    (hletter : isLetterOrNumber d) (hr : d.toNat ∉ respelled) (he : e ∈ lowercase d) :
    IsPlain e ∧ (e.toNat ∈ respelled → d = 'ẞ') := by
  rcases lowercase_cases (ne_dottedCapital hd) with ⟨m, hm, hlower⟩ | ⟨hsmall, hlower⟩
  · obtain ⟨hvalid, hplain, hcapital⟩ := isPlain_small hm hd
    rw [hlower, List.mem_singleton] at he
    rw [he, hvalid]
    refine ⟨hplain, fun hmr ↦ ?_⟩
    rcases hcapital hmr with hn | hn | hn
    · exact absurd (by rw [hn]; decide) hr
    · exact absurd (by rw [hn]; decide) hr
    · exact Char.toNat_inj.mp hn
  · rw [hlower, List.mem_singleton] at he
    rw [he]
    exact ⟨⟨hletter, hmark, hd, hsmall⟩, fun h ↦ absurd h hr⟩

theorem mem_fold (hd : isComposed d.toNat = false) (hmark : isMark d = false) (he : e ∈ fold d) :
    e = ' ' ∨ IsPlain e ∧ (e.toNat ∈ respelled → d = 'ẞ') := by
  by_cases hr : d.toNat ∈ respelled
  · refine (spelling_plain (fold_respelled hr he)).imp_right fun ⟨hplain, hown⟩ ↦ ⟨hplain, ?_⟩
    exact fun h ↦ absurd h hown
  · rw [fold_of_not_respelled hr] at he
    by_cases hletter : isLetterOrNumber d
    · rw [if_pos hletter] at he
      exact Or.inr (isPlain_lowercase hd hmark hletter hr he)
    · rw [if_neg hletter] at he
      exact Or.inl (List.mem_singleton.mp he)

/-- What a key can hold: blanks, and letters and numbers that keep their spelling unless they come
from a capital sharp s. -/
theorem mem_expand (he : e ∈ expand c) :
    e = ' ' ∨ IsPlain e ∧ (e.toNat ∈ respelled → c = 'ẞ') := by
  obtain ⟨d, hd, hed⟩ := List.mem_flatMap.mp he
  obtain ⟨hdc, hmark⟩ := List.mem_filter.mp hd
  have hmark : isMark d = false := by simpa using hmark
  refine (mem_fold (isComposed_of_mem_decompose hdc) hmark hed).imp_right fun ⟨hplain, hsharp⟩ ↦ ?_
  exact ⟨hplain, fun hr ↦ eq_capitalSharp (hsharp hr ▸ hdc)⟩

theorem mem_keyChars (he : e ∈ keyChars cs) : e = ' ' ∨ ∃ c ∈ cs, e ∈ expand c := by
  rw [keyChars_eq] at he
  rcases mem_unwords he with he | he
  · exact Or.inl he
  · rw [words_flatten, List.mem_filter] at he
    exact Or.inr (List.mem_flatMap.mp he.1)

theorem mem_keyChars_of_expand (hc : c ∈ cs) (he : e ∈ expand c) (hne : e ≠ ' ') :
    e ∈ keyChars cs := by
  rw [keyChars_eq]
  apply flatten_subset_unwords
  rw [words_flatten, List.mem_filter]
  exact ⟨List.mem_flatMap.mpr ⟨c, hc, he⟩, by simpa using hne⟩

theorem keyChars_isSpaced (cs : List Char) : IsSpaced (keyChars cs) := by
  rw [keyChars_eq]
  exact unwords_isSpaced fun _ hw ↦ isWord_of_mem_words hw

theorem keyChars_plain (he : e ∈ keyChars cs) : e = ' ' ∨ IsPlain e := by
  rcases mem_keyChars he with hblank | ⟨c, -, hec⟩
  · exact Or.inl hblank
  · exact (mem_expand hec).imp_right And.left

/-- A key that nothing is left to spell out in is its own key. -/
theorem keyChars_eq_self (h : 'ẞ' ∉ cs) : keyChars (keyChars cs) = keyChars cs := by
  have hself : (keyChars cs).flatMap expand = (keyChars cs).flatMap fun e ↦ [e] := by
    refine List.flatMap_congr fun e he ↦ ?_
    rcases mem_keyChars he with rfl | ⟨c, hc, hec⟩
    · exact expand_blank
    · rcases mem_expand hec with rfl | ⟨hplain, hsharp⟩
      · exact expand_blank
      · exact expand_eq_self hplain fun hr ↦ h (hsharp hr ▸ hc)
  rw [keyChars_eq (keyChars cs), hself, List.flatMap_singleton', keyChars_eq cs,
    words_unwords fun _ hw ↦ isWord_of_mem_words hw]

theorem capitalSharp_not_mem (cs : List Char) : 'ẞ' ∉ keyChars cs := by
  intro h
  rcases keyChars_plain h with hblank | hplain
  · exact absurd hblank (by decide)
  · have hlower := hplain.lowercase
    revert hlower
    decide +kernel

theorem sharp_not_mem (h : 'ẞ' ∉ cs) : 'ß' ∉ keyChars cs := by
  intro hmem
  rcases mem_keyChars hmem with hblank | ⟨c, hc, he⟩
  · exact absurd hblank (by decide)
  · rcases mem_expand he with hblank | ⟨-, hsharp⟩
    · exact absurd hblank (by decide)
    · exact h (hsharp (by decide) ▸ hc)

theorem keyChars_eq_self_iff : keyChars (keyChars cs) = keyChars cs ↔ 'ẞ' ∉ cs := by
  refine ⟨fun he hmem ↦ ?_, keyChars_eq_self⟩
  have hsharp : 'ß' ∈ keyChars cs :=
    mem_keyChars_of_expand hmem (by rw [expand_capitalSharp]; decide) (by decide)
  rw [← he] at hsharp
  exact sharp_not_mem (capitalSharp_not_mem cs) hsharp

theorem key_toList (name : String) : (key name).toList = keyChars name.toList :=
  String.toList_ofList

/-- A key is made of letters and numbers, none of them a mark, and of single blanks between them.
Taking the key once more changes it only if the name has a capital sharp s, and taking it a third
time never does. -/
theorem key_canonical (name : String) :
    (∀ c ∈ (key name).toList, c = ' ' ∨ isLetterOrNumber c ∧ isMark c = false) ∧
      IsSpaced (key name).toList ∧
      (key (key name) = key name ↔ 'ẞ' ∉ name.toList) ∧
      key (key (key name)) = key (key name) := by
  have hagain : ∀ name : String, key (key name) = key name ↔ 'ẞ' ∉ name.toList := by
    intro name
    rw [← String.toList_inj, key_toList, key_toList]
    exact keyChars_eq_self_iff
  refine ⟨fun c hc ↦ ?_, ?_, hagain name, (hagain (key name)).mpr ?_⟩
  · rw [key_toList] at hc
    exact (keyChars_plain hc).imp_right fun hplain ↦ ⟨hplain.letter, hplain.unmarked⟩
  · rw [key_toList]
    exact keyChars_isSpaced _
  · rw [key_toList]
    exact capitalSharp_not_mem _

/-- The small sharp s is spelled out, but not the one that stands for a capital. -/
theorem key_capitalSharp : key "ẞ" = "ß" ∧ key "ß" = "ss" ∧ key (key "ẞ") ≠ key "ẞ" := by
  decide +kernel

end ParkFusion.Name
