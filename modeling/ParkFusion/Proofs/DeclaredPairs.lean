import ParkFusion.Proofs.GreedyChoice

namespace ParkFusion.Matching

variable {α : Type}

/-- Who is paired with whom, by their positions, and on which terms. -/
structure Outcome.Seated (o : Outcome α Float) {left right : List α}
    (f : Fin left.length ≃. Fin right.length)
    (placement : Fin left.length → Option (Seat right.length Float)) : Prop where
  along : o.PairsAlong f
  position : ∀ i, f i = (placement i).map (·.position)
  matched : o.matched =
    (List.finRange left.length).filterMap fun i ↦ (placement i).map (·.pair (left.get i))

namespace Rule

variable {rule : Rule α Float} {left right : List α} {free : List (Fin right.length)}
variable {a : α} {i : Fin left.length} {j : Fin right.length} {seat : Seat right.length Float}

theorem pairOff_seated (rule : Rule α Float) (left right : List α) :
    (rule.pairOff left right).Seated (rule.partners left right)
      (rule.placement (List.finRange right.length) left) :=
  ⟨rule.pairOff_along_partners left right, fun _ ↦ rfl,
    congrArg Outcome.matched (rule.pairOff_placed left right)⟩

/-- If only one of the free records is declared identical with a record, the record gets it. -/
theorem grant_of_declared (hj : j ∈ free) (hc : rule.compatible a (right.get j))
    (hd : rule.declared a (right.get j))
    (hother : ∀ k ∈ free, k ≠ j → ¬ rule.declared a (right.get k)) :
    rule.grant right free a = some ⟨j, rule.certain, .manualOverride⟩ := by
  cases hfirst : rule.firstDeclared? a (free.map right.get) with
  | none => exact absurd hd (not_declared_of_firstDeclared? hfirst (List.mem_map_of_mem hj) hc)
  | some chosen =>
    obtain ⟨b, position⟩ := chosen
    obtain ⟨-, -, hdeclared⟩ := firstDeclared?_eq_some hfirst
    obtain ⟨k, hk, rfl, hgrant⟩ := grant_of_some (choose?_of_declared hfirst)
    have hkj : k = j := by
      by_contra hne
      exact hother k (List.mem_of_getElem? hk) hne hdeclared
    rw [hgrant, hkj]

/-- A record gets something that is not declared identical with it by its score only, and only if no
free record is declared so. -/
theorem grant_of_not_declared (h : rule.grant right free a = some seat)
    (hnot : ¬ rule.declared a (right.get seat.position)) :
    rule.compatible a (right.get seat.position) ∧
      rule.threshold < rule.score a (right.get seat.position) ∧
      seat = ⟨seat.position, rule.score a (right.get seat.position), .fuzzy⟩ ∧
      ∀ k ∈ free, rule.compatible a (right.get k) → ¬ rule.declared a (right.get k) := by
  cases hfirst : rule.firstDeclared? a (free.map right.get) with
  | some chosen =>
    obtain ⟨b, position⟩ := chosen
    obtain ⟨-, -, hdeclared⟩ := firstDeclared?_eq_some hfirst
    obtain ⟨k, -, rfl, hgrant⟩ := grant_of_some (choose?_of_declared hfirst)
    obtain rfl := Option.some.inj (hgrant.symm.trans h)
    exact absurd hdeclared hnot
  | none =>
    have hundeclared : ∀ k ∈ free, rule.compatible a (right.get k) →
        ¬ rule.declared a (right.get k) := fun k hk ↦
      not_declared_of_firstDeclared? hfirst (List.mem_map_of_mem hk)
    cases hbest : rule.best? a (free.map right.get) with
    | none =>
      have hchoose : rule.choose? a (free.map right.get) = none := by
        rw [choose?, hfirst, hbest]
      rw [grant_of_none hchoose] at h
      cases h
    | some top =>
      obtain ⟨b, position, score⟩ := top
      obtain ⟨-, hcompatible, rfl⟩ := best?_eq_some hbest
      by_cases ht : rule.threshold < rule.score a b
      · obtain ⟨k, -, rfl, hgrant⟩ := grant_of_some (choose?_of_best hfirst hbest ht)
        obtain rfl := Option.some.inj (hgrant.symm.trans h)
        exact ⟨hcompatible, ht, rfl, hundeclared⟩
      · have hchoose : rule.choose? a (free.map right.get) = none := by
          rw [choose?, hfirst, hbest]
          exact if_neg ht
        rw [grant_of_none hchoose] at h
        cases h

/-- Two records that are declared identical with each other, and with no other record of the two lists,
are a pair, unless an earlier record of the left list takes the right one. This one takes it by its
score, when nothing that is left to it is declared identical with it. -/
theorem pairOff_honoursDeclared (name : α → String) (compatible : α → α → Bool)
    (overrides : Overrides) (score : α → α → Float) (threshold : Float)
    (hc : compatible (left.get i) (right.get j))
    (hd : overrides.contains (name (left.get i)) (name (right.get j)))
    (hleft : ∀ k, k ≠ i → ¬ overrides.contains (name (left.get k)) (name (right.get j)))
    (hright : ∀ k, k ≠ j → ¬ overrides.contains (name (left.get i)) (name (right.get k))) :
    ∃ (f : Fin left.length ≃. Fin right.length)
      (placement : Fin left.length → Option (Seat right.length Float)),
      ((byName name compatible overrides score threshold).pairOff left right).Seated f placement ∧
      ((∀ k < i, f k ≠ some j) → placement i = some ⟨j, 1, .manualOverride⟩) ∧
      ∀ k < i, f k = some j →
        placement k = some ⟨j, score (left.get k) (right.get j), .fuzzy⟩ ∧
        compatible (left.get k) (right.get j) ∧ threshold < score (left.get k) (right.get j) ∧
        ∀ p, compatible (left.get k) (right.get p) → (∀ q < k, f q ≠ some p) →
          ¬ overrides.contains (name (left.get k)) (name (right.get p)) := by
  let rule := byName name compatible overrides score threshold
  have hdeclared : ∀ a b, rule.declared a b = overrides.contains (name a) (name b) :=
    fun a b ↦ declared_eq_contains overrides (name a) (name b)
  refine ⟨rule.partners left right, rule.placement (List.finRange right.length) left,
    rule.pairOff_seated left right, fun hfree ↦ ?_, fun k hk hkj ↦ ?_⟩
  · refine grant_of_declared (mem_free_iff.mpr hfree) hc ((hdeclared _ _).trans hd) ?_
    intro k _ hkj
    rw [hdeclared]
    exact hright k hkj
  · obtain ⟨seat, hseat, rfl⟩ := Option.map_eq_some_iff.mp hkj
    have hnot : ¬ rule.declared (left.get k) (right.get seat.position) := by
      rw [hdeclared]
      exact hleft k hk.ne
    obtain ⟨hcompatible, ht, hterms, hundeclared⟩ := grant_of_not_declared hseat hnot
    refine ⟨hseat.trans (congrArg some hterms), hcompatible, ht, fun p hp hfree ↦ ?_⟩
    rw [← hdeclared]
    exact hundeclared p (mem_free_iff.mpr hfree) hp

def wikiRides : List Entity := [
  { externalId := "w1", source := "themeparks-wiki", name := "Klugheim", entityType := .attraction },
  { externalId := "w2", source := "themeparks-wiki", name := "Taron", entityType := .attraction }]

def queueRides : List Entity := [
  { externalId := "q1", source := "queue-times", name := "Taron", entityType := .attraction },
  { externalId := "q2", source := "queue-times", name := "River Quest", entityType := .attraction }]

def wikiTaron : Fin wikiRides.length :=
  ⟨1, by decide⟩

def queueRiver : Fin queueRides.length :=
  ⟨1, by decide⟩

def riverOverrides : Overrides :=
  .ofPairs [("Taron", "River Quest")]

/-- The second one has what is declared, though the other candidate has its own name. -/
theorem pairOff_honoursDeclared_namesake :
    ((wikiRides.get wikiTaron).entityType = (queueRides.get queueRiver).entityType ∧
      riverOverrides.contains (wikiRides.get wikiTaron).name (queueRides.get queueRiver).name ∧
      (∀ k, k ≠ wikiTaron →
        ¬ riverOverrides.contains (wikiRides.get k).name (queueRides.get queueRiver).name) ∧
      ∀ k, k ≠ queueRiver →
        ¬ riverOverrides.contains (wikiRides.get wikiTaron).name (queueRides.get k).name) ∧
    ((entityRule 0.8 riverOverrides).pairOff wikiRides queueRides).matched =
      [⟨wikiRides.get wikiTaron, queueRides.get queueRiver, 1, .manualOverride⟩] ∧
    ∃ (f : Fin wikiRides.length ≃. Fin queueRides.length)
      (placement : Fin wikiRides.length → Option (Seat queueRides.length Float)),
      ((entityRule 0.8 riverOverrides).pairOff wikiRides queueRides).Seated f placement ∧
      ((∀ k < wikiTaron, f k ≠ some queueRiver) →
        placement wikiTaron = some ⟨queueRiver, 1, .manualOverride⟩) := by
  have hc : (wikiRides.get wikiTaron).entityType = (queueRides.get queueRiver).entityType := by
    decide
  have hd : riverOverrides.contains (wikiRides.get wikiTaron).name
      (queueRides.get queueRiver).name := by
    decide +kernel
  have hleft : ∀ k, k ≠ wikiTaron →
      ¬ riverOverrides.contains (wikiRides.get k).name (queueRides.get queueRiver).name := by
    decide +kernel
  have hright : ∀ k, k ≠ queueRiver →
      ¬ riverOverrides.contains (wikiRides.get wikiTaron).name (queueRides.get k).name := by
    decide +kernel
  have hmatched : ((entityRule 0.8 riverOverrides).pairOff wikiRides queueRides).matched =
      [⟨wikiRides.get wikiTaron, queueRides.get queueRiver, 1, .manualOverride⟩] := by
    decide +kernel
  obtain ⟨f, placement, hseated, hpair, -⟩ := pairOff_honoursDeclared Entity.name
    (fun a b ↦ a.entityType = b.entityType) riverOverrides Entity.score 0.8
    (decide_eq_true hc) hd hleft hright
  rw [← entityRule_eq_byName] at hseated
  exact ⟨⟨hc, hd, hleft, hright⟩, hmatched, f, placement, hseated, hpair⟩

def queueKlugheim : List Entity := [
  { externalId := "q1", source := "queue-times", name := "Klugheim Ride"
    entityType := .attraction }]

/-- What is declared identical with the second record is taken by the first one, whose name is in no
declared pair. -/
theorem declared_pair_missed :
    ¬ ∀ (left right : List Entity) (overrides : Overrides) (threshold : Float)
        (i : Fin left.length) (j : Fin right.length),
      (left.get i).entityType = (right.get j).entityType →
      overrides.contains (left.get i).name (right.get j).name →
      (∀ k, k ≠ i → ¬ overrides.contains (left.get i).name (left.get k).name ∧
        ¬ overrides.contains (left.get k).name (right.get j).name) →
      (∀ k, k ≠ j → ¬ overrides.contains (left.get i).name (right.get k).name ∧
        ¬ overrides.contains (right.get k).name (right.get j).name) →
      ⟨left.get i, right.get j, 1, .manualOverride⟩ ∈
        ((entityRule threshold overrides).pairOff left right).matched := by
  intro h
  have hmem := h wikiRides queueKlugheim (.ofPairs [("Taron", "Klugheim Ride")]) 0.8 wikiTaron
    ⟨0, by decide⟩ (by decide) (by decide +kernel) (by decide +kernel) (by decide +kernel)
  revert hmem
  decide +kernel

end Rule

end ParkFusion.Matching
