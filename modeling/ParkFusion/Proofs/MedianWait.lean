import Mathlib.Data.List.Count
import Mathlib.Data.List.GetD
import Mathlib.Data.List.Perm.Basic
import Mathlib.Data.Nat.Cast.Order.Field
import Mathlib.Tactic.Linarith
import ParkFusion.Proofs.Sorting
import ParkFusion.Proofs.WaitRounding

namespace ParkFusion.Wait

/-- In ascending order, as many values stand before the middle as after it. The middle is one value or,
of an even number, two, and then their mean is the median. -/
inductive IsMedian (values : List ℕ) : ℚ → Prop
  | odd {before after : List ℕ} {m : ℕ} : before.length = after.length →
      (before ++ m :: after).Perm values → (before ++ m :: after).Pairwise (· ≤ ·) →
      IsMedian values m
  | even {before after : List ℕ} {a b : ℕ} : before.length = after.length →
      (before ++ a :: b :: after).Perm values → (before ++ a :: b :: after).Pairwise (· ≤ ·) →
      IsMedian values ((a + b : ℚ) / 2)

section Median

variable {values values' front back : List ℕ} {value value' : ℚ} {m least greatest : ℕ}

theorem IsMedian.perm (h : IsMedian values value) (hp : values.Perm values') :
    IsMedian values' value := by
  cases h with
  | odd hlength hperm hsorted => exact .odd hlength (hperm.trans hp) hsorted
  | even hlength hperm hsorted => exact .even hlength (hperm.trans hp) hsorted

theorem eq_of_sorted_perm (hp : front.Perm values) (hp' : back.Perm values)
    (hs : front.Pairwise (· ≤ ·)) (hs' : back.Pairwise (· ≤ ·)) : front = back :=
  (hp.trans hp'.symm).eq_of_pairwise (fun _ _ _ _ hab hba ↦ Nat.le_antisymm hab hba) hs hs'

theorem IsMedian.unique (h : IsMedian values value) (h' : IsMedian values value') :
    value = value' := by
  cases h with
  | odd hlength hperm hsorted =>
    cases h' with
    | odd hlength' hperm' hsorted' =>
      have heq := eq_of_sorted_perm hperm hperm' hsorted hsorted'
      have hcount := congrArg List.length heq
      simp only [List.length_append, List.length_cons] at hcount
      obtain ⟨-, htail⟩ := List.append_inj heq (by omega)
      exact congrArg Nat.cast (List.cons.inj htail).1
    | even hlength' hperm' hsorted' =>
      have hcount := (hperm.trans hperm'.symm).length_eq
      simp only [List.length_append, List.length_cons] at hcount
      omega
  | even hlength hperm hsorted =>
    cases h' with
    | odd hlength' hperm' hsorted' =>
      have hcount := (hperm.trans hperm'.symm).length_eq
      simp only [List.length_append, List.length_cons] at hcount
      omega
    | even hlength' hperm' hsorted' =>
      have heq := eq_of_sorted_perm hperm hperm' hsorted hsorted'
      have hcount := congrArg List.length heq
      simp only [List.length_append, List.length_cons] at hcount
      obtain ⟨-, htail⟩ := List.append_inj heq (by omega)
      obtain ⟨ha, htail⟩ := List.cons.inj htail
      rw [ha, (List.cons.inj htail).1]

theorem IsMedian.between (h : IsMedian values value)
    (hall : ∀ v ∈ values, least ≤ v ∧ v ≤ greatest) : (least : ℚ) ≤ value ∧ value ≤ greatest := by
  cases h with
  | @odd before after m hlength hperm hsorted =>
    have hm := hall m (hperm.subset (by simp))
    exact ⟨by exact_mod_cast hm.1, by exact_mod_cast hm.2⟩
  | @even before after a b hlength hperm hsorted =>
    have ha := hall a (hperm.subset (by simp))
    have hb := hall b (hperm.subset (by simp))
    have hleast : (least : ℚ) + least ≤ a + b := by exact_mod_cast Nat.add_le_add ha.1 hb.1
    have hgreatest : (a + b : ℚ) ≤ greatest + greatest := by
      exact_mod_cast Nat.add_le_add ha.2 hb.2
    constructor <;> linarith

theorem count_le_front (h : m ∉ back) : (front ++ back).count m ≤ front.length := by
  rw [List.count_append, List.count_eq_zero.mpr h]
  exact List.count_le_length

theorem count_le_back (h : m ∉ front) : (front ++ back).count m ≤ back.length := by
  rw [List.count_append, List.count_eq_zero.mpr h, Nat.zero_add]
  exact List.count_le_length

/-- What more than half of the values in ascending order are stands wherever no more than half of them
come before, nor after. -/
theorem eq_of_majority {v : ℕ} (hs : (front ++ v :: back).Pairwise (· ≤ ·))
    (hfront : 2 * front.length ≤ (front ++ v :: back).length)
    (hback : 2 * back.length ≤ (front ++ v :: back).length)
    (hm : (front ++ v :: back).length < 2 * (front ++ v :: back).count m) : v = m := by
  obtain ⟨-, htail, hbefore⟩ := List.pairwise_append.mp hs
  have hafter := (List.pairwise_cons.mp htail).1
  rcases Nat.lt_trichotomy m v with hlt | heq | hlt
  · have hnot : m ∉ v :: back := by
      rintro (_ | ⟨_, hmem⟩)
      · exact Nat.lt_irrefl _ hlt
      · exact Nat.not_le_of_lt hlt (hafter m hmem)
    have hcount : (front ++ v :: back).count m ≤ front.length := count_le_front hnot
    omega
  · exact heq.symm
  · have hnot : m ∉ front ++ [v] := by
      rw [List.mem_append, List.mem_singleton]
      rintro (hmem | rfl)
      · exact Nat.not_le_of_lt hlt (hbefore m hmem v List.mem_cons_self)
      · exact Nat.lt_irrefl _ hlt
    have hcount : ((front ++ [v]) ++ back).count m ≤ back.length := count_le_back hnot
    rw [List.append_assoc, List.singleton_append] at hcount
    omega

theorem IsMedian.of_majority (h : IsMedian values value)
    (hm : values.length < 2 * values.count m) : value = m := by
  cases h with
  | @odd before after v hlength hperm hsorted =>
    rw [← hperm.length_eq, ← hperm.count_eq] at hm
    have hv := eq_of_majority hsorted (by simp; omega) (by simp; omega) hm
    rw [hv]
  | @even before after a b hlength hperm hsorted =>
    rw [← hperm.length_eq, ← hperm.count_eq] at hm
    have ha := eq_of_majority hsorted (by simp; omega) (by simp; omega) hm
    have hsplit : before ++ a :: b :: after = (before ++ [a]) ++ b :: after := by simp
    rw [hsplit] at hsorted hm
    have hb := eq_of_majority hsorted (by simp; omega) (by simp; omega) hm
    rw [ha, hb]
    ring

theorem sort_perm (values : List ℕ) : (sort values).Perm values :=
  List.mergeSort_perm values _

theorem sort_pairwise (values : List ℕ) : (sort values).Pairwise (· ≤ ·) :=
  mergeSort_ascends (fun _ _ ↦ decide_eq_true_iff) values

theorem isMedian_sort (hne : values ≠ []) : IsMedian values (median (sort values)) := by
  have hperm := sort_perm values
  have hsorted := sort_pairwise values
  have hpos : 0 < (sort values).length := by
    rw [hperm.length_eq]
    exact List.length_pos_of_ne_nil hne
  rcases Nat.even_or_odd' (sort values).length with ⟨k, heven | hodd⟩
  · obtain ⟨n, rfl⟩ : ∃ n, k = n + 1 := Nat.exists_eq_add_one.mpr (by omega)
    have hmid : (sort values).length / 2 = n + 1 := by omega
    have hsplit : sort values = (sort values).take n ++
        (sort values)[n] :: (sort values)[n + 1] :: (sort values).drop (n + 1 + 1) := by
      rw [← List.drop_eq_getElem_cons, ← List.drop_eq_getElem_cons, List.take_append_drop]
    have hvalue : median (sort values) = ((sort values)[n] + (sort values)[n + 1] : ℚ) / 2 := by
      unfold median
      dsimp only
      rw [if_pos (by omega), hmid, Nat.add_sub_cancel, List.getD_eq_getElem _ _ (by omega),
        List.getD_eq_getElem _ _ (by omega), mean]
    rw [hvalue]
    refine .even ?_ (hsplit ▸ hperm) (hsplit ▸ hsorted)
    rw [List.length_take, List.length_drop]
    omega
  · have hmid : (sort values).length / 2 = k := by omega
    have hsplit : sort values = (sort values).take k ++
        (sort values)[k] :: (sort values).drop (k + 1) := by
      rw [← List.drop_eq_getElem_cons, List.take_append_drop]
    have hvalue : median (sort values) = ((sort values)[k] : ℚ) := by
      unfold median
      dsimp only
      rw [if_neg (by omega), hmid, List.getD_eq_getElem _ _ (by omega)]
    rw [hvalue]
    refine .odd ?_ (hsplit ▸ hperm) (hsplit ▸ hsorted)
    rw [List.length_take, List.length_drop]
    omega

theorem isMedian_pair (a b : ℕ) : IsMedian [a, b] (mean a b) := by
  rcases Nat.le_total a b with h | h
  · exact @IsMedian.even [a, b] [] [] a b rfl (.refl _) (by simpa using h)
  · have hcomm : mean a b = ((b + a : ℚ) / 2) := by rw [mean, add_comm]
    rw [hcomm]
    exact @IsMedian.even [a, b] [] [] b a rfl (.swap a b []) (by simpa using h)

theorem isMedian_triple (a b c : ℕ) : IsMedian [a, b, c]
    (if a = b ∨ a = c then a else if b = c then b else ((sort [a, b, c]).getD 1 0 : ℕ)) := by
  have hmedian : IsMedian [a, b, c] (median (sort [a, b, c])) := isMedian_sort (by simp)
  -- two of three are a majority, and a majority is the median
  have hmajority : ∀ m, 3 < 2 * [a, b, c].count m → IsMedian [a, b, c] m := by
    intro m hm
    rwa [hmedian.of_majority hm] at hmedian
  split_ifs with hfirst hlast
  · apply hmajority
    rcases hfirst with rfl | rfl
    · simp only [List.count_cons_self]
      omega
    · rw [List.count_cons_self, List.count_cons, List.count_cons_self]
      omega
  · subst hlast
    apply hmajority
    rw [List.count_cons, List.count_cons_self, List.count_cons_self]
    omega
  · have hlength : (sort [a, b, c]).length = 3 := (sort_perm _).length_eq
    have hvalue : median (sort [a, b, c]) = ((sort [a, b, c]).getD 1 0 : ℕ) := by
      rw [median, hlength]
      rfl
    rwa [hvalue] at hmedian

end Median

variable {waits : List UInt32} {raw : ℚ}

theorem isMedian_of_consensus (h : consensus waits = some raw) :
    IsMedian (waits.map UInt32.toNat) raw := by
  unfold consensus at h
  split at h
  · cases h
  · rename_i a heq
    rw [heq, ← Option.some.inj h]
    exact @IsMedian.odd [a] [] [] a rfl (.refl _) (List.pairwise_singleton _ a)
  · rename_i a b heq
    rw [heq, ← Option.some.inj h]
    exact isMedian_pair a b
  · rename_i a b c heq
    have htriple := isMedian_triple a b c
    rw [heq]
    simp only [Bool.or_eq_true, decide_eq_true_eq] at h
    split_ifs at h htriple
    · rwa [← Option.some.inj h]
    · rwa [← Option.some.inj h]
    · rwa [← Option.some.inj h]
  · rename_i hempty _ _ _
    rw [← Option.some.inj h]
    exact isMedian_sort hempty

theorem consensus_eq_some_iff :
    consensus waits = some raw ↔ IsMedian (waits.map UInt32.toNat) raw := by
  refine ⟨isMedian_of_consensus, fun h ↦ ?_⟩
  have hne : waits ≠ [] := by
    rintro rfl
    cases h with
    | odd _ hperm _ => simpa using hperm.length_eq
    | even _ hperm _ => simpa using hperm.length_eq
  obtain ⟨value, hvalue, -⟩ := exists_consensus hne
  rw [hvalue, (isMedian_of_consensus hvalue).unique h]

/-- A consensus that is the median: it does not look at the order of the waits, it lies among them, and
the majority decides. -/
structure TakesMedian (consensus : List UInt32 → Option ℚ) : Prop where
  none_iff : ∀ waits, consensus waits = none ↔ waits = []
  some_iff : ∀ waits value,
    consensus waits = some value ↔ IsMedian (waits.map UInt32.toNat) value
  perm : ∀ waits waits', waits.Perm waits' → consensus waits = consensus waits'
  between : ∀ waits value least greatest, consensus waits = some value →
    (∀ w ∈ waits, least ≤ w ∧ w ≤ greatest) →
      (least.toNat : ℚ) ≤ value ∧ value ≤ greatest.toNat
  majority : ∀ waits w, waits.length < 2 * waits.count w → consensus waits = some w.toNat

/-- However many waits there are, and whichever of them are equal. -/
theorem consensus_takesMedian : TakesMedian consensus := by
  constructor
  case none_iff => exact fun _ ↦ consensus_eq_none_iff
  case some_iff => exact fun _ _ ↦ consensus_eq_some_iff
  case perm =>
    intro waits waits' hp
    refine Option.ext fun value ↦ ?_
    rw [consensus_eq_some_iff, consensus_eq_some_iff]
    exact ⟨fun h ↦ h.perm (hp.map _), fun h ↦ h.perm (hp.map _).symm⟩
  case between =>
    intro waits value least greatest hvalue hall
    refine (isMedian_of_consensus hvalue).between fun v hv ↦ ?_
    obtain ⟨w, hw, rfl⟩ := List.mem_map.mp hv
    exact ⟨UInt32.le_iff_toNat_le.mp (hall w hw).1, UInt32.le_iff_toNat_le.mp (hall w hw).2⟩
  case majority =>
    intro waits w hw
    have hne : waits ≠ [] := by
      rintro rfl
      simp at hw
    obtain ⟨value, hvalue, -⟩ := exists_consensus hne
    have hcount : (waits.map UInt32.toNat).count w.toNat = waits.count w :=
      List.count_map_of_injective waits UInt32.toNat (fun _ _ ↦ UInt32.toNat_inj.mp) w
    rw [hvalue, (isMedian_of_consensus hvalue).of_majority (by rwa [List.length_map, hcount])]

end ParkFusion.Wait
