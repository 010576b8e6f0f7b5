import Mathlib.Data.List.FinRange
import Mathlib.Data.PEquiv
import ParkFusion.Proofs.Pairing

namespace ParkFusion.Matching

variable {α σ : Type}

/-- A position in the right list, with the terms on which a record gets it. -/
structure Seat (count : ℕ) (σ : Type) where
  position : Fin count
  confidence : σ
  method : Method
  deriving DecidableEq, Repr

def Seat.pair {right : List α} (seat : Seat right.length σ) (a : α) : Match α σ :=
  ⟨a, right[seat.position], seat.confidence, seat.method⟩

/-- The outcome of a pairing of positions: who is paired stands in the order of the left list, and the
others stay in the order of their own list. -/
structure Outcome.PairsAlong (o : Outcome α σ) {left right : List α}
    (f : Fin left.length ≃. Fin right.length) : Prop where
  matched : o.matched.map (fun pair ↦ (pair.left, pair.right)) =
    (List.finRange left.length).filterMap fun i ↦ (f i).map fun j ↦ (left[i], right[j])
  leftOnly : o.leftOnly =
    ((List.finRange left.length).filter fun i ↦ f i = none).map fun i ↦ left[i]
  rightOnly : o.rightOnly =
    ((List.finRange right.length).filter fun j ↦ f.symm j = none).map fun j ↦ right[j]

namespace Rule

variable [LT σ] [DecidableLT σ] {rule : Rule α σ} {left right rest : List α}
variable {free : List (Fin right.length)} {a : α} {seat : Seat right.length σ}

/-- The free position that a record gets. -/
def grant (rule : Rule α σ) (right : List α) (free : List (Fin right.length)) (a : α) :
    Option (Seat right.length σ) :=
  (rule.choose? a (free.map right.get)).bind fun (found, p) ↦
    free[p]?.map fun j ↦ ⟨j, found.confidence, found.method⟩

/-- The positions that a record leaves free. -/
def keep (rule : Rule α σ) (right : List α) (free : List (Fin right.length)) (a : α) :
    List (Fin right.length) :=
  match rule.choose? a (free.map right.get) with
  | some (_, p) => free.eraseIdx p
  | none => free

/-- The positions that are free after some records have had their turn. -/
def freeAfter (rule : Rule α σ) (right left : List α) (free : List (Fin right.length)) :
    List (Fin right.length) :=
  left.foldl (rule.keep right) free

/-- What the record at a position of the left list gets when those before it have had their turn. -/
def placement (rule : Rule α σ) (free : List (Fin right.length)) (left : List α)
    (i : Fin left.length) : Option (Seat right.length σ) :=
  rule.grant right (rule.freeAfter right (left.take i) free) left[i]

section Turns

theorem grant_of_none (h : rule.choose? a (free.map right.get) = none) :
    rule.grant right free a = none := by
  rw [grant, h, Option.bind_none]

theorem grant_of_some {found : Match α σ} {p : ℕ}
    (h : rule.choose? a (free.map right.get) = some (found, p)) :
    ∃ j, free[p]? = some j ∧ right[j] = found.right ∧
      rule.grant right free a = some ⟨j, found.confidence, found.method⟩ := by
  have hp := (choose?_eq_some h).1
  rw [List.getElem?_map, Option.map_eq_some_iff] at hp
  obtain ⟨j, hj, hright⟩ := hp
  refine ⟨j, hj, hright, ?_⟩
  rw [grant, h, Option.bind_some]
  dsimp only
  rw [hj, Option.map_some]

theorem keep_of_none (h : rule.choose? a (free.map right.get) = none) :
    rule.keep right free a = free := by
  rw [keep, h]

theorem keep_of_some {found : Match α σ} {p : ℕ}
    (h : rule.choose? a (free.map right.get) = some (found, p)) :
    rule.keep right free a = free.eraseIdx p := by
  rw [keep, h]

/-- Pairing off the records at some positions of the right list. -/
theorem pairOff_free (rule : Rule α σ) (left : List α) (free : List (Fin right.length)) :
    rule.pairOff left (free.map right.get) =
      { matched := (List.finRange left.length).filterMap fun i ↦
          (rule.placement free left i).map (·.pair left[i])
        leftOnly := ((List.finRange left.length).filter fun i ↦
          (rule.placement free left i).isNone).map fun i ↦ left[i]
        rightOnly := (rule.freeAfter right left free).map right.get } := by
  induction left generalizing free with
  | nil => rfl
  | cons a rest ih =>
    have hfirst : rule.placement free (a :: rest) 0 = rule.grant right free a := rfl
    have hlater : ∀ i : Fin rest.length,
        rule.placement free (a :: rest) i.succ = rule.placement (rule.keep right free a) rest i :=
      fun i ↦ rfl
    have hfree : rule.freeAfter right (a :: rest) free =
        rule.freeAfter right rest (rule.keep right free a) := rfl
    simp only [List.length_cons, List.finRange_succ, List.filterMap_cons, List.filterMap_map,
      List.filter_cons, List.filter_map, Function.comp_def, hfirst, hlater, hfree]
    rw [pairOff]
    cases hc : rule.choose? a (free.map right.get) with
    | none =>
      rw [grant_of_none hc, keep_of_none hc]
      dsimp only
      rw [ih free]
      simp
    | some chosen =>
      obtain ⟨found, p⟩ := chosen
      obtain ⟨j, -, hright, hgrant⟩ := grant_of_some hc
      have hpair : Seat.pair ⟨j, found.confidence, found.method⟩ a = found := by
        rw [Seat.pair, hright, ← (choose?_eq_some hc).2.1]
      rw [hgrant, keep_of_some hc]
      dsimp only
      rw [List.eraseIdx_map, ih (free.eraseIdx p)]
      simp [hpair]

theorem grant_mem (h : rule.grant right free a = some seat) : seat.position ∈ free := by
  cases hc : rule.choose? a (free.map right.get) with
  | none => simp [grant_of_none hc] at h
  | some chosen =>
    obtain ⟨j, hj, -, hgrant⟩ := grant_of_some hc
    obtain rfl := Option.some.inj (hgrant.symm.trans h)
    exact List.mem_of_getElem? hj

theorem keep_sublist (rule : Rule α σ) (right : List α) (free : List (Fin right.length)) (a : α) :
    (rule.keep right free a).Sublist free := by
  unfold keep
  split
  · exact List.eraseIdx_sublist free _
  · exact List.Sublist.refl free

/-- A record takes away the position that it gets, and no other. -/
theorem mem_keep (hd : free.Nodup) {j : Fin right.length} :
    j ∈ rule.keep right free a ↔
      j ∈ free ∧ ∀ seat ∈ rule.grant right free a, seat.position ≠ j := by
  cases hc : rule.choose? a (free.map right.get) with
  | none => simp [keep_of_none hc, grant_of_none hc]
  | some chosen =>
    obtain ⟨found, p⟩ := chosen
    obtain ⟨first, hfirst, -, hgrant⟩ := grant_of_some hc
    obtain ⟨hp, rfl⟩ := List.getElem?_eq_some_iff.mp hfirst
    rw [keep_of_some hc, hgrant, ← hd.erase_getElem p hp, hd.mem_erase_iff]
    simp [and_comm, eq_comm]

theorem freeAfter_sublist (rule : Rule α σ) (right left : List α)
    (free : List (Fin right.length)) : (rule.freeAfter right left free).Sublist free := by
  induction left generalizing free with
  | nil => exact List.Sublist.refl free
  | cons a rest ih => exact (ih _).trans (rule.keep_sublist right free a)

theorem freeAfter_take_succ (rule : Rule α σ) (free : List (Fin right.length)) {n : ℕ}
    (hn : n < left.length) :
    rule.freeAfter right (left.take (n + 1)) free =
      rule.keep right (rule.freeAfter right (left.take n) free) left[n] := by
  unfold freeAfter
  rw [List.take_add_one, List.getElem?_eq_getElem hn, List.foldl_append]
  rfl

/-- Free is what no earlier record got. -/
theorem mem_freeAfter_take (hd : free.Nodup) {n : ℕ} (hn : n ≤ left.length)
    {j : Fin right.length} :
    j ∈ rule.freeAfter right (left.take n) free ↔
      j ∈ free ∧ ∀ k : Fin left.length, k < n →
        ∀ seat ∈ rule.placement free left k, seat.position ≠ j := by
  induction n with
  | zero => simp [freeAfter]
  | succ n ih =>
    have hrest := hd.sublist (rule.freeAfter_sublist right (left.take n) free)
    rw [freeAfter_take_succ rule free hn, mem_keep hrest, ih (Nat.le_of_succ_le hn)]
    constructor
    · rintro ⟨⟨hj, hbefore⟩, hlast⟩
      refine ⟨hj, fun k hk ↦ ?_⟩
      rcases Nat.lt_succ_iff_lt_or_eq.mp hk with hk | hk
      · exact hbefore k hk
      · obtain rfl : k = ⟨n, hn⟩ := Fin.ext hk
        exact hlast
    · rintro ⟨hj, hall⟩
      exact ⟨⟨hj, fun k hk ↦ hall k (Nat.lt_succ_of_lt hk)⟩, hall ⟨n, hn⟩ (Nat.lt_succ_self n)⟩

theorem mem_freeAfter (hd : free.Nodup) {j : Fin right.length} :
    j ∈ rule.freeAfter right left free ↔
      j ∈ free ∧ ∀ k : Fin left.length,
        ∀ seat ∈ rule.placement free left k, seat.position ≠ j := by
  have hall : j ∈ rule.freeAfter right (left.take left.length) free ↔ _ :=
    mem_freeAfter_take hd (Nat.le_refl left.length)
  rw [List.take_length] at hall
  simpa using hall

theorem position_ne_of_lt (hd : free.Nodup) {i k : Fin left.length} (hlt : i < k)
    {first second : Seat right.length σ} (hi : rule.placement free left i = some first)
    (hk : rule.placement free left k = some second) : first.position ≠ second.position := by
  have hmem := grant_mem hk
  rw [mem_freeAfter_take hd k.isLt.le] at hmem
  exact hmem.2 i hlt first hi

/-- No two records get the same position. -/
theorem placement_injective (hd : free.Nodup) {i k : Fin left.length}
    {first second : Seat right.length σ} (hi : rule.placement free left i = some first)
    (hk : rule.placement free left k = some second) (h : first.position = second.position) :
    i = k := by
  rcases lt_trichotomy i k with hlt | heq | hlt
  · exact absurd h (position_ne_of_lt hd hlt hi hk)
  · exact heq
  · exact absurd h.symm (position_ne_of_lt hd hlt hk hi)

end Turns

/-- The partner of each position of the left list, both ways. -/
def partners (rule : Rule α σ) (left right : List α) : Fin left.length ≃. Fin right.length where
  toFun i := (rule.placement (List.finRange right.length) left i).map (·.position)
  invFun j := (List.finRange left.length).find? fun i ↦
    (rule.placement (List.finRange right.length) left i).map (·.position) = some j
  inv i j := by
    constructor
    · intro h
      simpa using List.find?_some h
    · intro h
      obtain ⟨k, hk⟩ : ∃ k, (List.finRange left.length).find? (fun i ↦
          (rule.placement (List.finRange right.length) left i).map (·.position) = some j) =
            some k := by
        rw [← Option.isSome_iff_exists, List.find?_isSome]
        exact ⟨i, List.mem_finRange i, decide_eq_true h⟩
      have hsame : (rule.placement (List.finRange right.length) left k).map (·.position) =
          some j := by
        simpa using List.find?_some hk
      obtain ⟨first, hfirst, hj⟩ := Option.map_eq_some_iff.mp h
      obtain ⟨second, hsecond, hj'⟩ := Option.map_eq_some_iff.mp hsame
      rw [hk, placement_injective (List.nodup_finRange _) hsecond hfirst (hj'.trans hj.symm)]

theorem partners_apply (rule : Rule α σ) (left right : List α) (i : Fin left.length) :
    rule.partners left right i =
      (rule.placement (List.finRange right.length) left i).map (·.position) := rfl

/-- What no earlier record has taken is free. -/
theorem mem_free_iff {i : Fin left.length} {j : Fin right.length} :
    j ∈ rule.freeAfter right (left.take i) (List.finRange right.length) ↔
      ∀ k < i, rule.partners left right k ≠ some j := by
  rw [mem_freeAfter_take (List.nodup_finRange _) i.isLt.le]
  simp [partners_apply]

theorem partners_symm_eq_none {j : Fin right.length} :
    (rule.partners left right).symm j = none ↔
      j ∈ rule.freeAfter right left (List.finRange right.length) := by
  rw [mem_freeAfter (List.nodup_finRange _), Option.eq_none_iff_forall_ne_some]
  simp only [ne_eq, PEquiv.eq_some_iff, partners_apply, Option.map_eq_some_iff, not_exists,
    not_and, List.mem_finRange, true_and, Option.mem_def]

theorem freeAfter_eq_filter (rule : Rule α σ) (left right : List α) :
    rule.freeAfter right left (List.finRange right.length) =
      (List.finRange right.length).filter fun j ↦ (rule.partners left right).symm j = none := by
  have hsub := rule.freeAfter_sublist right left (List.finRange right.length)
  have hnodup := List.nodup_finRange right.length
  have hperm : (rule.freeAfter right left (List.finRange right.length)).Perm
      ((List.finRange right.length).filter fun j ↦ (rule.partners left right).symm j = none) := by
    refine (List.perm_ext_iff_of_nodup (hnodup.sublist hsub) (hnodup.filter _)).mpr fun j ↦ ?_
    simp [partners_symm_eq_none]
  have hsorted := List.pairwise_lt_finRange right.length
  exact hperm.eq_of_pairwise (fun i j _ _ hij hji ↦ absurd hji hij.asymm) (hsorted.sublist hsub)
    (hsorted.filter _)

/-- The pairing in terms of positions: who gets which, and on which terms. -/
theorem pairOff_placed (rule : Rule α σ) (left right : List α) :
    rule.pairOff left right =
      { matched := (List.finRange left.length).filterMap fun i ↦
          (rule.placement (List.finRange right.length) left i).map (·.pair left[i])
        leftOnly := ((List.finRange left.length).filter fun i ↦
          rule.partners left right i = none).map fun i ↦ left[i]
        rightOnly := ((List.finRange right.length).filter fun j ↦
          (rule.partners left right).symm j = none).map fun j ↦ right[j] } := by
  have hall : (List.finRange right.length).map right.get = right := List.map_get_finRange right
  have hpair := rule.pairOff_free left (List.finRange right.length)
  rw [hall, freeAfter_eq_filter] at hpair
  have hpartner : ∀ i, decide (rule.partners left right i = none) =
      (rule.placement (List.finRange right.length) left i).isNone := by
    intro i
    rw [partners_apply]
    cases rule.placement (List.finRange right.length) left i <;> rfl
  rw [hpair]
  simp only [hpartner]
  rfl

theorem pairOff_along_partners (rule : Rule α σ) (left right : List α) :
    (rule.pairOff left right).PairsAlong (rule.partners left right) := by
  rw [pairOff_placed]
  refine ⟨?_, rfl, rfl⟩
  dsimp only
  rw [List.map_filterMap]
  refine List.filterMap_congr fun i _ ↦ ?_
  rw [partners_apply, Option.map_map, Option.map_map]
  rfl

/-- Whatever the rule, it pairs positions one to one, in the order of the left list, and all others
stay as they are. -/
theorem pairOff_isOneToOne (rule : Rule α σ) (left right : List α) :
    ∃ f : Fin left.length ≃. Fin right.length, (rule.pairOff left right).PairsAlong f :=
  ⟨rule.partners left right, rule.pairOff_along_partners left right⟩

end Rule

end ParkFusion.Matching
