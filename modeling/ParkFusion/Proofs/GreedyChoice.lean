import ParkFusion.Matching.Rules
import ParkFusion.Proofs.MaximalPairing
import ParkFusion.Proofs.Positions

namespace ParkFusion.Matching

variable {α : Type}

/-- What a record gets of the positions that are available to it: the first that is declared identical
with it, otherwise the best one above the threshold, of equally good ones the first. -/
inductive Chooses (declared : α → α → Prop) (score : α → α → Float) (threshold certain : Float)
    {right : List α} (available : Fin right.length → Prop) (a : α) :
    Option (Seat right.length Float) → Prop
  | declared {j : Fin right.length} : available j → declared a (right.get j) →
      (∀ k < j, available k → ¬ declared a (right.get k)) →
      Chooses declared score threshold certain available a (some ⟨j, certain, .manualOverride⟩)
  | scored {j : Fin right.length} : (∀ k, available k → ¬ declared a (right.get k)) →
      available j → threshold < score a (right.get j) →
      (∀ k, available k → score a (right.get k) ≤ score a (right.get j)) →
      (∀ k < j, available k → score a (right.get k) < score a (right.get j)) →
      Chooses declared score threshold certain available a (some ⟨j, score a (right.get j), .fuzzy⟩)
  | unmatched : (∀ k, available k → ¬ declared a (right.get k)) →
      (∀ k, available k → ¬ threshold < score a (right.get k)) →
      Chooses declared score threshold certain available a none

namespace Rule

variable {rule : Rule α Float} {right candidates : List α} {free : List (Fin right.length)}
variable {a b c : α} {position : ℕ} {score : Float}

theorem not_declared_of_before (h : rule.firstDeclared? a candidates = some (b, position))
    (hc : c ∈ candidates.take position) (hcompatible : rule.compatible a c) :
    ¬ rule.declared a c := by
  obtain ⟨-, n, hn, heq, hbefore⟩ := List.find?_eq_some_iff_getElem.mp h
  rw [List.getElem_zipIdx] at heq
  obtain ⟨q, hq, rfl⟩ := List.mem_take_iff_getElem.mp hc
  have hnot := hbefore q (by simp at heq; omega)
  intro hd
  simp [hcompatible, hd] at hnot

theorem lt_best_of_before (hn : ∀ b ∈ candidates, (rule.score a b).isNaN = false)
    (h : rule.best? a candidates = some (b, position, score)) (hc : c ∈ candidates.take position)
    (hcompatible : rule.compatible a c) : rule.score a c < score := by
  have hleads := best?_leads hn
  rw [h] at hleads
  obtain ⟨q, hq, rfl⟩ := List.mem_take_iff_getElem.mp hc
  have hmem : (candidates[q], q) ∈ candidates.zipIdx :=
    List.mem_zipIdx_iff_getElem?.mpr (List.getElem?_eq_getElem _)
  exact (hleads.2 _ hmem hcompatible).2 (Nat.lt_min.mp hq).1

/-- In an ascending list, what is less than an entry stands before it. -/
theorem mem_take_of_lt {n p : ℕ} {free : List (Fin n)} {j k : Fin n}
    (hsorted : free.Pairwise (· < ·)) (hj : free[p]? = some j) (hk : k ∈ free) (hlt : k < j) :
    k ∈ free.take p := by
  obtain ⟨hp, rfl⟩ := List.getElem?_eq_some_iff.mp hj
  obtain ⟨q, hq, rfl⟩ := List.mem_iff_getElem.mp hk
  apply List.mem_take_iff_getElem.mpr
  refine ⟨q, lt_min ?_ hq, rfl⟩
  by_contra hle
  rcases Nat.eq_or_lt_of_le (Nat.le_of_not_lt hle) with rfl | hpq
  · exact lt_irrefl _ hlt
  · exact hlt.asymm (List.pairwise_iff_getElem.mp hsorted p q hp hq hpq)

theorem choose?_of_declared (h : rule.firstDeclared? a candidates = some (b, position)) :
    rule.choose? a candidates = some (⟨a, b, rule.certain, .manualOverride⟩, position) := by
  rw [choose?, h]

theorem choose?_of_best (hd : rule.firstDeclared? a candidates = none)
    (h : rule.best? a candidates = some (b, position, score)) (ht : rule.threshold < score) :
    rule.choose? a candidates = some (⟨a, b, score, .fuzzy⟩, position) := by
  rw [choose?, hd, h]
  exact if_pos ht

section Grant

/-- What a record gets by the rule while some positions are free. -/
def ChoosesFrom (rule : Rule α Float) (free : List (Fin right.length)) (a : α) :
    Option (Seat right.length Float) → Prop :=
  Chooses (rule.declared · ·) rule.score rule.threshold rule.certain
    (fun j ↦ j ∈ free ∧ rule.compatible a (right.get j)) a

theorem get_mem_take {j k : Fin right.length} (hsorted : free.Pairwise (· < ·))
    (hj : free[position]? = some j) (hk : k ∈ free) (hlt : k < j) :
    right.get k ∈ (free.map right.get).take position := by
  rw [← List.map_take]
  exact List.mem_map_of_mem (mem_take_of_lt hsorted hj hk hlt)

theorem grant_declared (hsorted : free.Pairwise (· < ·))
    (h : rule.firstDeclared? a (free.map right.get) = some (b, position)) :
    rule.ChoosesFrom free a (rule.grant right free a) := by
  obtain ⟨-, hcompatible, hdeclared⟩ := firstDeclared?_eq_some h
  obtain ⟨j, hj, rfl, hgrant⟩ := grant_of_some (choose?_of_declared h)
  rw [hgrant]
  refine Chooses.declared ⟨List.mem_of_getElem? hj, hcompatible⟩ hdeclared ?_
  rintro k hlt ⟨hk, hkc⟩
  exact not_declared_of_before h (get_mem_take hsorted hj hk hlt) hkc

theorem grant_scored (hsorted : free.Pairwise (· < ·))
    (hn : ∀ c ∈ free.map right.get, (rule.score a c).isNaN = false)
    (hnone : rule.firstDeclared? a (free.map right.get) = none)
    (h : rule.best? a (free.map right.get) = some (b, position, score))
    (ht : rule.threshold < score) :
    rule.ChoosesFrom free a (rule.grant right free a) := by
  obtain ⟨-, hcompatible, rfl⟩ := best?_eq_some h
  obtain ⟨j, hj, rfl, hgrant⟩ := grant_of_some (choose?_of_best hnone h ht)
  have hfree := List.mem_of_getElem? hj
  rw [hgrant]
  refine Chooses.scored ?_ ⟨hfree, hcompatible⟩ ht ?_ ?_
  · rintro k ⟨hk, hkc⟩
    exact not_declared_of_firstDeclared? hnone (List.mem_map_of_mem hk) hkc
  · rintro k ⟨hk, hkc⟩
    obtain ⟨top, htop, hle⟩ := le_best hn (List.mem_map_of_mem hk) hkc
    obtain rfl := Option.some.inj (h.symm.trans htop)
    exact Double.le_of_not_lt (hn _ (List.mem_map_of_mem hk)) (hn _ (List.mem_map_of_mem hfree)) hle
  · rintro k hlt ⟨hk, hkc⟩
    exact lt_best_of_before hn h (get_mem_take hsorted hj hk hlt) hkc

theorem grant_unmatched (hn : ∀ c ∈ free.map right.get, (rule.score a c).isNaN = false)
    (h : rule.choose? a (free.map right.get) = none) :
    rule.ChoosesFrom free a (rule.grant right free a) := by
  have hnot : ∀ k ∈ free, ¬ rule.Pairable a (right.get k) :=
    fun k hk ↦ not_pairable_of_choose? hn h (List.mem_map_of_mem hk)
  rw [grant_of_none h]
  apply Chooses.unmatched
  · rintro k ⟨hk, hkc⟩ hdeclared
    exact hnot k hk ⟨hkc, Or.inl hdeclared⟩
  · rintro k ⟨hk, hkc⟩ hscore
    exact hnot k hk ⟨hkc, Or.inr hscore⟩

theorem grant_chooses (hsorted : free.Pairwise (· < ·))
    (hn : ∀ j ∈ free, (rule.score a (right.get j)).isNaN = false) :
    rule.ChoosesFrom free a (rule.grant right free a) := by
  have hnumbers : ∀ c ∈ free.map right.get, (rule.score a c).isNaN = false := by
    intro c hc
    obtain ⟨k, hk, rfl⟩ := List.mem_map.mp hc
    exact hn k hk
  cases hfirst : rule.firstDeclared? a (free.map right.get) with
  | some chosen => exact grant_declared hsorted hfirst
  | none =>
    cases hbest : rule.best? a (free.map right.get) with
    | none =>
      apply grant_unmatched hnumbers
      rw [choose?, hfirst, hbest]
    | some top =>
      obtain ⟨b, position, score⟩ := top
      by_cases ht : rule.threshold < score
      · exact grant_scored hsorted hnumbers hfirst hbest ht
      · apply grant_unmatched hnumbers
        rw [choose?, hfirst, hbest]
        exact if_neg ht

end Grant

end Rule

/-- A pairing in which every record of the left list, one after the other, has its choice among the
compatible records that no earlier one has taken. -/
structure Outcome.IsGreedy (o : Outcome α Float) (compatible : α → α → Bool)
    (declared : α → α → Prop) (score : α → α → Float) (threshold certain : Float)
    {left right : List α} (f : Fin left.length ≃. Fin right.length)
    (placement : Fin left.length → Option (Seat right.length Float)) : Prop where
  along : o.PairsAlong f
  position : ∀ i, f i = (placement i).map (·.position)
  chosen : ∀ i : Fin left.length, Chooses declared score threshold certain
    (fun j ↦ compatible (left.get i) (right.get j) ∧ ∀ k < i, f k ≠ some j)
    (left.get i) (placement i)
  matched : o.matched =
    (List.finRange left.length).filterMap fun i ↦ (placement i).map (·.pair (left.get i))
  fitting : ∀ pair ∈ o.matched, compatible pair.left pair.right
  exhausted : ∀ a ∈ o.leftOnly, ∀ b ∈ o.rightOnly, compatible a b →
    ¬ declared a b ∧ ¬ threshold < score a b

namespace Rule

variable {left right : List α}

theorem placement_chooses (rule : Rule α Float) (left right : List α)
    (hn : ∀ a ∈ left, ∀ b ∈ right, (rule.score a b).isNaN = false) (i : Fin left.length) :
    Chooses (rule.declared · ·) rule.score rule.threshold rule.certain
      (fun j ↦ rule.compatible (left.get i) (right.get j) ∧
        ∀ k < i, rule.partners left right k ≠ some j)
      (left.get i) (rule.placement (List.finRange right.length) left i) := by
  have hsorted := (List.pairwise_lt_finRange right.length).sublist
    (rule.freeAfter_sublist right (left.take i) (List.finRange right.length))
  have hnumbers : ∀ j ∈ rule.freeAfter right (left.take i) (List.finRange right.length),
      (rule.score (left.get i) (right.get j)).isNaN = false :=
    fun j _ ↦ hn _ (List.get_mem left i) _ (List.get_mem right j)
  have hchooses := grant_chooses (a := left.get i) hsorted hnumbers
  simp only [ChoosesFrom, mem_free_iff, and_comm] at hchooses
  exact hchooses

/-- The rule for records that are declared identical by their names. -/
def byName (name : α → String) (compatible : α → α → Bool) (overrides : Overrides)
    (score : α → α → Float) (threshold : Float) : Rule α Float where
  compatible := compatible
  declared a b := Matching.declared overrides (name a) (name b)
  score := score
  threshold := threshold
  certain := 1

theorem parkRule_eq_byName (threshold : Float) (overrides : Overrides) :
    parkRule threshold overrides =
      byName (·.name) (fun _ _ ↦ true) overrides Park.score threshold := rfl

theorem entityRule_eq_byName (threshold : Float) (overrides : Overrides) :
    entityRule threshold overrides =
      byName (·.name) (fun a b ↦ a.entityType = b.entityType) overrides Entity.score threshold :=
  rfl

/-- Whatever is declared identical, and however records score, as long as the scores are numbers: each
record in its turn has its choice among what the others have left. -/
theorem pairOff_isGreedy (name : α → String) (compatible : α → α → Bool) (overrides : Overrides)
    (score : α → α → Float) (threshold : Float) (left right : List α)
    (hn : ∀ a ∈ left, ∀ b ∈ right, (score a b).isNaN = false) :
    ∃ (f : Fin left.length ≃. Fin right.length)
      (placement : Fin left.length → Option (Seat right.length Float)),
      ((byName name compatible overrides score threshold).pairOff left right).IsGreedy compatible
        (fun a b ↦ overrides.contains (name a) (name b)) score threshold 1 f placement := by
  let rule := byName name compatible overrides score threshold
  have hdeclared : (fun a b ↦ overrides.contains (name a) (name b) = true) =
      fun a b ↦ rule.declared a b = true := by
    funext a b
    exact congrArg (· = true) (declared_eq_contains overrides (name a) (name b)).symm
  rw [hdeclared]
  refine ⟨rule.partners left right, rule.placement (List.finRange right.length) left, ?_⟩
  refine ⟨rule.pairOff_along_partners left right, fun i ↦ rfl, ?_, ?_, ?_, ?_⟩
  · exact rule.placement_chooses left right hn
  · exact congrArg Outcome.matched (rule.pairOff_placed left right)
  · intro pair hpair
    cases accepts_of_mem_matched hpair with
    | declared hc _ => exact hc
    | scored hc _ => exact hc
  · intro a ha b hb hc
    have hnot : ¬ rule.Pairable a b := not_pairable_of_leftOnly hn ha hb
    exact ⟨fun hd ↦ hnot ⟨hc, Or.inl hd⟩, fun hs ↦ hnot ⟨hc, Or.inr hs⟩⟩

end Rule

def wikiNamesakes : List Entity := [
  { externalId := "w1", source := "themeparks-wiki", name := "Taron", entityType := .attraction },
  { externalId := "w2", source := "themeparks-wiki", name := "Taron", entityType := .attraction }]

def queueNamesakes : List Entity := [
  { externalId := "q1", source := "queue-times", name := "Taron", entityType := .show },
  { externalId := "q2", source := "queue-times", name := "Taron", entityType := .attraction },
  { externalId := "q3", source := "queue-times", name := "Klugheim", entityType := .attraction }]

def namesakeOverrides : Overrides :=
  .ofPairs [("Taron", "Klugheim")]

/-- The first one has what is declared, the second one the namesake of its own type. -/
theorem Rule.pairOff_isGreedy_namesakes :
    (∀ a ∈ wikiNamesakes, ∀ b ∈ queueNamesakes, (a.score b).isNaN = false) ∧
      ((entityRule 0.8 namesakeOverrides).pairOff wikiNamesakes queueNamesakes).matched.map
        (fun pair ↦ (pair.left.externalId, pair.right.externalId, pair.method)) =
          [("w1", "q3", .manualOverride), ("w2", "q2", .fuzzy)] ∧
      ∃ (f : Fin wikiNamesakes.length ≃. Fin queueNamesakes.length)
        (placement : Fin wikiNamesakes.length → Option (Seat queueNamesakes.length Float)),
        ((entityRule 0.8 namesakeOverrides).pairOff wikiNamesakes queueNamesakes).IsGreedy
          (fun a b ↦ a.entityType = b.entityType)
          (fun a b ↦ namesakeOverrides.contains a.name b.name) Entity.score 0.8 1 f placement := by
  have hn : ∀ a ∈ wikiNamesakes, ∀ b ∈ queueNamesakes, (a.score b).isNaN = false := by
    decide +kernel
  have hmatched : ((entityRule 0.8 namesakeOverrides).pairOff wikiNamesakes queueNamesakes).matched.map
      (fun pair ↦ (pair.left.externalId, pair.right.externalId, pair.method)) =
        [("w1", "q3", .manualOverride), ("w2", "q2", .fuzzy)] := by
    decide +kernel
  have hgreedy := Rule.pairOff_isGreedy Entity.name (fun a b ↦ a.entityType = b.entityType)
    namesakeOverrides Entity.score 0.8 wikiNamesakes queueNamesakes hn
  rw [← Rule.entityRule_eq_byName] at hgreedy
  exact ⟨hn, hmatched, hgreedy⟩

end ParkFusion.Matching
