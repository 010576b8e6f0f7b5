import Mathlib.Data.List.Induction
import ParkFusion.Proofs.CrossMatching
import ParkFusion.Proofs.Double

namespace ParkFusion

namespace Matching.Rule

variable {α : Type} {rule : Rule α Float} {a b : α} {candidates left right : List α}

/-- The two records would be paired if there were no others. -/
def Pairable (rule : Rule α Float) (a b : α) : Prop :=
  rule.compatible a b ∧ (rule.declared a b ∨ rule.threshold < rule.score a b)

theorem not_declared_of_firstDeclared? (h : rule.firstDeclared? a candidates = none)
    (hb : b ∈ candidates) (hc : rule.compatible a b) : ¬ rule.declared a b := by
  intro hd
  obtain ⟨position, hp⟩ := List.mem_iff_getElem?.mp hb
  have hnone := List.find?_eq_none.mp h (b, position) (List.mem_zipIdx_iff_getElem?.mpr hp)
  simp [hc, hd] at hnone

theorem improve_of_not_compatible {best : Option (α × Nat × Float)} {c : α × Nat}
    (h : ¬ rule.compatible a c.1) : rule.improve a best c = best :=
  if_neg h

theorem improve_none {c : α × Nat} (h : rule.compatible a c.1) :
    rule.improve a none c = some (c.1, c.2, rule.score a c.1) :=
  if_pos h

theorem improve_some {c : α × Nat} (h : rule.compatible a c.1) (top : α × Nat × Float) :
    rule.improve a (some top) c =
      if top.2.2 < rule.score a c.1 then some (c.1, c.2, rule.score a c.1) else some top :=
  if_pos h

/-- Of the candidates that were looked at, the best one scores no lower than any, and higher than
those before it. -/
def Leads (rule : Rule α Float) (a : α) (looked : List (α × Nat)) :
    Option (α × Nat × Float) → Prop
  | none => ∀ c ∈ looked, ¬ rule.compatible a c.1
  | some top => top.2.1 ∈ looked.map (·.2) ∧ ∀ c ∈ looked, rule.compatible a c.1 →
      ¬ top.2.2 < rule.score a c.1 ∧ (c.2 < top.2.1 → rule.score a c.1 < top.2.2)

theorem leads_last (rule : Rule α Float) (a : α) {looked : List (α × Nat)} {last : α × Nat}
    (h : ∀ c ∈ looked, rule.compatible a c.1 → rule.score a c.1 < rule.score a last.1) :
    rule.Leads a (looked ++ [last]) (some (last.1, last.2, rule.score a last.1)) := by
  refine ⟨by simp, fun c hc hcompatible ↦ ?_⟩
  rcases List.mem_append.mp hc with hc | hc
  · have hlt := h c hc hcompatible
    exact ⟨Double.lt_asymm hlt, fun _ ↦ hlt⟩
  · obtain rfl := List.mem_singleton.mp hc
    exact ⟨fun hlt ↦ Double.lt_asymm hlt hlt, fun hlt ↦ absurd hlt (Nat.lt_irrefl _)⟩

/-- A last candidate that does not score higher changes nothing. -/
theorem Leads.keep {looked : List (α × Nat)} {top : α × Nat × Float} {last : α × Nat}
    (h : rule.Leads a looked (some top)) (hlater : ∀ c ∈ looked, c.2 < last.2)
    (hlast : rule.compatible a last.1 → ¬ top.2.2 < rule.score a last.1) :
    rule.Leads a (looked ++ [last]) (some top) := by
  obtain ⟨hposition, hleads⟩ := h
  refine ⟨by simp [hposition], fun c hc hcompatible ↦ ?_⟩
  rcases List.mem_append.mp hc with hc | hc
  · exact hleads c hc hcompatible
  · obtain rfl := List.mem_singleton.mp hc
    obtain ⟨d, hd, hdtop⟩ := List.mem_map.mp hposition
    have hlt := hlater d hd
    exact ⟨hlast hcompatible, fun hbefore ↦ by omega⟩

theorem Leads.improve {looked : List (α × Nat)} {best : Option (α × Nat × Float)}
    {last : α × Nat} (h : rule.Leads a looked best) (hlater : ∀ c ∈ looked, c.2 < last.2)
    (hn : ∀ c ∈ looked, (rule.score a c.1).isNaN = false) :
    rule.Leads a (looked ++ [last]) (rule.improve a best last) := by
  by_cases hlast : rule.compatible a last.1
  · cases best with
    | none =>
      rw [improve_none hlast]
      exact leads_last rule a fun c hc hcompatible ↦ absurd hcompatible (h c hc)
    | some top =>
      rw [improve_some hlast]
      split
      · rename_i hlt
        refine leads_last rule a fun c hc hcompatible ↦ ?_
        exact (Double.lt_or_lt hlt (hn c hc)).resolve_left (h.2 c hc hcompatible).1
      · rename_i hle
        exact h.keep hlater fun _ ↦ hle
  · rw [improve_of_not_compatible hlast]
    cases best with
    | none =>
      intro c hc
      rcases List.mem_append.mp hc with hc | hc
      · exact h c hc
      · exact List.mem_singleton.mp hc ▸ hlast
    | some top => exact h.keep hlater fun hcompatible ↦ absurd hcompatible hlast

theorem best?_leads (hn : ∀ b ∈ candidates, (rule.score a b).isNaN = false) :
    rule.Leads a candidates.zipIdx (rule.best? a candidates) := by
  have hsorted : (candidates.zipIdx.map (·.2)).Pairwise (· < ·) := by
    rw [List.zipIdx_map_snd]
    exact List.pairwise_lt_range'
  have hpositions := List.pairwise_map.mp hsorted
  have hnumbers : ∀ c ∈ candidates.zipIdx, (rule.score a c.1).isNaN = false :=
    fun c hc ↦ hn c.1 (List.mem_of_getElem? (List.mem_zipIdx_iff_getElem?.mp hc))
  unfold best?
  generalize candidates.zipIdx = looked at hpositions hnumbers
  induction looked using List.reverseRecOn with
  | nil => simp [Leads]
  | append_singleton looked last ih =>
    obtain ⟨hlooked, -, hlater⟩ := List.pairwise_append.mp hpositions
    have hbest := ih hlooked fun c hc ↦ hnumbers c (List.mem_append_left _ hc)
    rw [List.foldl_append, List.foldl_cons, List.foldl_nil]
    exact hbest.improve (fun c hc ↦ hlater c hc last List.mem_cons_self)
      fun c hc ↦ hnumbers c (List.mem_append_left _ hc)

/-- No compatible candidate scores higher than the best one. -/
theorem le_best (hn : ∀ b ∈ candidates, (rule.score a b).isNaN = false) (hb : b ∈ candidates)
    (hc : rule.compatible a b) :
    ∃ top, rule.best? a candidates = some top ∧ ¬ top.2.2 < rule.score a b := by
  obtain ⟨position, hp⟩ := List.mem_iff_getElem?.mp hb
  have hmem : (b, position) ∈ candidates.zipIdx := List.mem_zipIdx_iff_getElem?.mpr hp
  have hleads := best?_leads hn
  cases hbest : rule.best? a candidates with
  | none =>
    rw [hbest] at hleads
    exact absurd hc (hleads _ hmem)
  | some top =>
    rw [hbest] at hleads
    exact ⟨top, rfl, (hleads.2 _ hmem hc).1⟩

theorem not_pairable_of_choose? (hn : ∀ b ∈ candidates, (rule.score a b).isNaN = false)
    (h : rule.choose? a candidates = none) (hb : b ∈ candidates) : ¬ rule.Pairable a b := by
  rintro ⟨hc, hpair⟩
  unfold choose? at h
  split at h
  · cases h
  · rename_i hdeclared
    have hnot := not_declared_of_firstDeclared? hdeclared hb hc
    have hscore := hpair.resolve_left hnot
    obtain ⟨⟨c, position, top⟩, hbest, hle⟩ := le_best hn hb hc
    rw [hbest] at h
    obtain ⟨hp, -, rfl⟩ := best?_eq_some hbest
    have hnumber := hn c (List.mem_of_getElem? hp)
    rcases Double.lt_or_lt hscore hnumber with hlt | hlt
    · simp [hlt] at h
    · exact hle hlt

/-- A record that found no partner cannot be paired with a candidate that stayed free. -/
theorem not_pairable_of_leftOnly (hn : ∀ a ∈ left, ∀ b ∈ right, (rule.score a b).isNaN = false)
    (ha : a ∈ (rule.pairOff left right).leftOnly) (hb : b ∈ (rule.pairOff left right).rightOnly) :
    ¬ rule.Pairable a b := by
  induction left generalizing right with
  | nil => simp [pairOff] at ha
  | cons c rest ih =>
    rw [pairOff] at ha hb
    split at ha
    · rename_i found position hc
      rw [hc] at hb
      refine ih (fun x hx y hy ↦ ?_) ha hb
      exact hn x (List.mem_cons_of_mem c hx) y (List.mem_of_mem_eraseIdx hy)
    · rename_i hc
      rw [hc] at hb
      rcases List.mem_cons.mp ha with rfl | ha
      · have hright : b ∈ right := rule.rightOnly_subset rest right hb
        exact not_pairable_of_choose? (hn a List.mem_cons_self) hc hright
      · exact ih (fun x hx ↦ hn x (List.mem_cons_of_mem c hx)) ha hb

theorem left_perm (rule : Rule α Float) (left right : List α) :
    ((rule.pairOff left right).matched.map (·.left) ++ (rule.pairOff left right).leftOnly).Perm
      left := by
  induction left generalizing right with
  | nil => simp [pairOff]
  | cons a rest ih =>
    rw [pairOff]
    split
    · rename_i found position hc
      have hleft := (choose?_eq_some hc).2.1
      simpa [hleft] using ih (right.eraseIdx position)
    · exact List.perm_middle.trans ((ih right).cons a)

theorem not_pairable_of_unmatched (hn : ∀ a ∈ left, ∀ b ∈ right, (rule.score a b).isNaN = false)
    (ha : a ∈ left) (hfree : a ∉ (rule.pairOff left right).matched.map (·.left))
    (hb : b ∈ (rule.pairOff left right).rightOnly) : ¬ rule.Pairable a b := by
  have hside := (rule.left_perm left right).symm.subset ha
  have hleft := (List.mem_append.mp hside).resolve_left hfree
  exact not_pairable_of_leftOnly hn hleft hb

end Matching.Rule

namespace ParkDiscovery

open Matching

variable {rule : ParkRule} {left : List Park} {rights lists : List (List Park)} {count : Nat}
variable {a b : Park}

theorem crossRow_length (rule : ParkRule) (left : List Park) (rights : List (List Park)) :
    (crossRow rule left rights).2.length = rights.length := by
  induction rights with
  | nil => rfl
  | cons right rights ih => rw [crossRow_cons, List.length_cons, ih, List.length_cons]

theorem crossRow_rest_mem (h : b ∈ (crossRow rule left rights).2.flatten) : b ∈ rights.flatten :=
  (crossRow_right_perm rule left rights).subset (List.mem_append_right _ h)

theorem crossPairs_rest_mem (h : b ∈ (crossPairs rule count lists).2.flatten) :
    b ∈ lists.flatten :=
  (crossPairs_right_perm rule count lists).subset (List.mem_append_right _ h)

theorem crossRow_exhausts (hn : ∀ a ∈ left, ∀ b ∈ rights.flatten, (rule.score a b).isNaN = false)
    (ha : a ∈ left) (hfree : a ∉ (crossRow rule left rights).1.map (·.left))
    (hb : b ∈ (crossRow rule left rights).2.flatten) : ¬ rule.Pairable a b := by
  induction rights with
  | nil => simp [crossRow] at hb
  | cons right rights ih =>
    rw [crossRow_cons] at hb hfree
    rw [List.map_append, List.mem_append, not_or] at hfree
    rw [List.flatten_cons] at hb hn
    rcases List.mem_append.mp hb with hb | hb
    · refine Rule.not_pairable_of_unmatched (fun x hx y hy ↦ ?_) ha hfree.1 hb
      exact hn x hx y (List.mem_append_left _ hy)
    · refine ih (fun x hx y hy ↦ ?_) hfree.2 hb
      exact hn x hx y (List.mem_append_right _ hy)

/-- Of the lists that are left, no park without a pair of its own can be paired with one of a later
list. -/
theorem crossPairs_exhausts (hcount : lists.length ≤ count)
    (hn : ∀ a ∈ lists.flatten, ∀ b ∈ lists.flatten, (rule.score a b).isNaN = false) :
    (crossPairs rule count lists).2.Pairwise fun l l' ↦
      ∀ a ∈ l, a ∉ (crossPairs rule count lists).1.map (·.left) →
        ∀ b ∈ l', ¬ rule.Pairable a b := by
  induction count generalizing lists with
  | zero =>
    obtain rfl := List.length_eq_zero_iff.mp (Nat.le_zero.mp hcount)
    exact .nil
  | succ count ih =>
    cases lists with
    | nil => exact .nil
    | cons left rights =>
      rw [List.flatten_cons] at hn
      have hrow : (crossRow rule left rights).2.length ≤ count := by
        rw [crossRow_length]
        exact Nat.le_of_succ_le_succ hcount
      have hrest := ih hrow fun x hx y hy ↦
        hn x (List.mem_append_right _ (crossRow_rest_mem hx))
          y (List.mem_append_right _ (crossRow_rest_mem hy))
      rw [crossPairs_succ_cons]
      dsimp only
      rw [List.map_append]
      refine List.pairwise_cons.mpr ⟨fun l hl x hx hfree y hy ↦ ?_, hrest.imp ?_⟩
      · rw [List.mem_append, not_or] at hfree
        refine crossRow_exhausts (fun u hu v hv ↦ ?_) hx hfree.1 ?_
        · exact hn u (List.mem_append_left _ hu) v (List.mem_append_right _ hv)
        · exact crossPairs_rest_mem (List.mem_flatten.mpr ⟨l, hl, hy⟩)
      · intro l l' hll x hx hfree
        rw [List.mem_append, not_or] at hfree
        exact hll x hx hfree.2

end ParkDiscovery

end ParkFusion
