import ParkFusion.Merge
import ParkFusion.Proofs.Entries

namespace ParkFusion.Merge

section Order

variable {α : Type} {ids : List String} {entries entries' : List (String × α)}

theorem order_perm (h : (entries.map (·.1)).Nodup) : (order ids entries).Perm entries := by
  induction ids generalizing entries with
  | nil => exact Entries.sort_perm entries
  | cons id ids ih =>
    rw [order]
    cases hl : entries.lookup id with
    | none => exact ih h
    | some value =>
      have hrest : ((entries.filter (·.1 ≠ id)).map (·.1)).Nodup :=
        Entries.filter_keys_nodup h _
      exact ((ih hrest).cons (id, value)).trans (Entries.perm_cons_filter h hl)

/-- The order does not depend on how the entries are enumerated. -/
theorem order_congr (h : (entries.map (·.1)).Nodup) (hp : entries.Perm entries') :
    order ids entries = order ids entries' := by
  induction ids generalizing entries entries' with
  | nil => exact Entries.sort_congr h hp
  | cons id ids ih =>
    rw [order, order, ← Entries.lookup_congr h hp]
    cases entries.lookup id with
    | none => exact ih h hp
    | some value =>
      have hrest : ((entries.filter (·.1 ≠ id)).map (·.1)).Nodup :=
        Entries.filter_keys_nodup h _
      exact congrArg ((id, value) :: ·) (ih hrest (hp.filter _))

/-- Ids without an entry leave no trace in the order. -/
theorem order_filter_append {p : String → Bool} (hp : ∀ entry ∈ entries, p entry.1)
    (ids tail : List String) : order (ids.filter p ++ tail) entries = order (ids ++ tail) entries := by
  induction ids generalizing entries with
  | nil => rfl
  | cons id ids ih =>
    have hrest : ∀ entry ∈ entries.filter (·.1 ≠ id), p entry.1 :=
      fun entry he ↦ hp entry (List.mem_of_mem_filter he)
    rw [List.cons_append, order]
    cases hl : entries.lookup id with
    | none =>
      by_cases hid : p id
      · rw [List.filter_cons_of_pos hid, List.cons_append, order, hl]
        exact ih hp
      · rw [List.filter_cons_of_neg hid]
        exact ih hp
    | some value =>
      have hid : p id := hp (id, value) (Entries.mem_of_lookup hl)
      rw [List.filter_cons_of_pos hid, List.cons_append, order, hl]
      exact congrArg ((id, value) :: ·) (ih hrest)

theorem exists_order_cons (h : (entries.map (·.1)).Nodup) (hne : entries ≠ []) (ids : List String) :
    ∃ first rest, order ids entries = first :: rest := by
  refine List.exists_cons_of_ne_nil fun ho ↦ hne ?_
  have hperm : (order ids entries).Perm entries := order_perm h
  rw [ho] at hperm
  exact hperm.nil_eq.symm

theorem order_nil (ids : List String) : order ids ([] : List (String × α)) = [] := by
  induction ids with
  | nil => exact (Entries.sort_perm []).eq_nil
  | cons id ids ih => exact ih

/-- Entries that stand by the list stay as they are. -/
theorem order_eq_self (hd : ids.Nodup) (h : (entries.map (·.1)).Sublist ids)
    (tail : List String) : order (ids ++ tail) entries = entries := by
  induction ids generalizing entries with
  | nil =>
    obtain rfl := List.map_eq_nil_iff.mp (List.sublist_nil.mp h)
    exact order_nil tail
  | cons id ids ih =>
    obtain ⟨hnew, hids⟩ := List.nodup_cons.mp hd
    rw [List.cons_append, order]
    rcases List.sublist_cons_iff.mp h with hrest | ⟨keys, hkeys, hrest⟩
    · have hlookup : entries.lookup id = none := by
        cases hl : entries.lookup id with
        | none => rfl
        | some value =>
          have hm := List.mem_map_of_mem (f := (·.1)) (Entries.mem_of_lookup hl)
          exact absurd (hrest.subset hm) hnew
      rw [hlookup]
      exact ih hids hrest
    · obtain ⟨first, rest, rfl, rfl, rfl⟩ := List.map_eq_cons_iff.mp hkeys
      have hothers : rest.filter (·.1 ≠ first.1) = rest := by
        refine List.filter_eq_self.mpr fun entry he ↦ decide_eq_true fun hk ↦ hnew ?_
        exact hk ▸ hrest.subset (List.mem_map_of_mem he)
      rw [List.lookup_cons_self, List.filter_cons_of_neg (by simp)]
      dsimp only
      rw [hothers, ih hids hrest]

theorem order_keys (h : (entries.map (·.1)).Nodup) :
    (order ids entries).map (·.1) =
      (ids.filter (· ∈ entries.map (·.1))).eraseDups ++
        ((entries.map (·.1)).filter (· ∉ ids)).mergeSort := by
  induction ids generalizing entries with
  | nil =>
    rw [order, Entries.sort_keys]
    simp
  | cons id ids ih =>
    rw [order]
    cases hl : entries.lookup id with
    | none =>
      have hnew := Entries.lookup_eq_none hl
      have hids : ((id :: ids).filter (· ∈ entries.map (·.1))) =
          ids.filter (· ∈ entries.map (·.1)) := List.filter_cons_of_neg (by simpa using hnew)
      have hrest : (entries.map (·.1)).filter (· ∉ id :: ids) =
          (entries.map (·.1)).filter (· ∉ ids) := by
        refine List.filter_congr fun key hkey ↦ ?_
        have hne : key ≠ id := fun he ↦ hnew (he ▸ hkey)
        simp [hne]
      rw [hids, hrest]
      exact ih h
    | some value =>
      -- the entry is taken out, so that later mentions of the id find nothing
      have hmem : id ∈ entries.map (·.1) := List.mem_map_of_mem (Entries.mem_of_lookup hl)
      have hkeys : (entries.filter (·.1 ≠ id)).map (·.1) =
          (entries.map (·.1)).filter (· ≠ id) := Entries.filter_keys (· ≠ id) entries
      have hnodup : ((entries.filter (·.1 ≠ id)).map (·.1)).Nodup :=
        Entries.filter_keys_nodup h _
      have hids : (ids.filter (· ∈ entries.map (·.1))).filter (fun key ↦ !key == id) =
          ids.filter (· ∈ (entries.map (·.1)).filter (· ≠ id)) := by
        rw [List.filter_filter]
        refine List.filter_congr fun key _ ↦ Bool.eq_iff_iff.mpr ?_
        simp only [Bool.and_eq_true, decide_eq_true_eq, List.mem_filter, Bool.not_eq_true',
          beq_eq_false_iff_ne, and_comm]
      have hrest : (entries.map (·.1)).filter (· ∉ id :: ids) =
          ((entries.map (·.1)).filter (· ≠ id)).filter (· ∉ ids) := by
        rw [List.filter_filter]
        refine List.filter_congr fun key _ ↦ ?_
        simp [Bool.and_comm]
      rw [List.map_cons, ih hnodup, hkeys, List.filter_cons_of_pos (by simpa using hmem),
        List.eraseDups_cons, List.cons_append, hids, hrest]

end Order

/-- The ids of some sources in the order in which these have the first word: those of the ranking,
then the others of the priority, each where it is listed first, then the rest. -/
def effectiveIds (ranking priority ids : List String) : List String :=
  (ranking.filter (· ∈ ids)).eraseDups ++
    (priority.filter fun id ↦ id ∈ ids ∧ id ∉ ranking).eraseDups ++
      (ids.filter fun id ↦ id ∉ ranking ∧ id ∉ priority).mergeSort

example : effectiveIds ["b", "x", "b"] ["c", "b"] ["d", "a", "b", "c"] = ["b", "c", "a", "d"] := by
  cbv

theorem order_effectiveIds {α : Type} {entries : List (String × α)}
    (h : (entries.map (·.1)).Nodup) (ranking priority : List String) :
    (order (ranking ++ priority) entries).map (·.1) =
      effectiveIds ranking priority (entries.map (·.1)) := by
  have hpriority : (priority.filter (· ∈ entries.map (·.1))).removeAll
      (ranking.filter (· ∈ entries.map (·.1))) =
      priority.filter fun id ↦ id ∈ entries.map (·.1) ∧ id ∉ ranking := by
    rw [List.removeAll, List.filter_filter]
    refine List.filter_congr fun id _ ↦ ?_
    by_cases hm : id ∈ entries.map (·.1) <;> simp [hm]
  have hrest : (entries.map (·.1)).filter (· ∉ ranking ++ priority) =
      (entries.map (·.1)).filter fun id ↦ id ∉ ranking ∧ id ∉ priority := by
    refine List.filter_congr fun id _ ↦ ?_
    simp
  rw [order_keys h, List.filter_append, List.eraseDups_append, hpriority, hrest]
  rfl

section Resolve

variable {policy : Policy} {ranking : List String} {reports reports' : List (String × LiveReport)}

theorem resolve_of_order {first : String × LiveReport} {rest : List (String × LiveReport)}
    (ho : order (ranking ++ policy.priority) reports = first :: rest) :
    resolve policy ranking reports = .ok (resolveOrdered policy first.2 (first :: rest)) := by
  rw [resolve, ho]

theorem resolve_ok (h : (reports.map (·.1)).Nodup) (hne : reports ≠ []) :
    ∃ resolution, resolve policy ranking reports = .ok resolution := by
  obtain ⟨first, rest, ho⟩ := exists_order_cons h hne (ranking ++ policy.priority)
  exact ⟨_, resolve_of_order ho⟩

/-- A merge of reports is a merge of the same reports in some order. -/
theorem exists_resolveOrdered (policy : Policy) (ranking : List String)
    (h : (reports.map (·.1)).Nodup) (hne : reports ≠ []) :
    ∃ richest ordered, ordered.Perm reports ∧ (ordered.map (·.1)).Nodup ∧
      ordered.map (·.1) = effectiveIds ranking policy.priority (reports.map (·.1)) ∧
      resolve policy ranking reports = .ok (resolveOrdered policy richest ordered) := by
  obtain ⟨first, rest, ho⟩ := exists_order_cons h hne (ranking ++ policy.priority)
  have hperm : (order (ranking ++ policy.priority) reports).Perm reports := order_perm h
  have hids := order_effectiveIds h ranking policy.priority
  rw [ho] at hperm hids
  exact ⟨first.2, _, hperm, (hperm.map _).nodup_iff.mpr h, hids, resolve_of_order ho⟩

/-- Neither the enumeration of the reports nor ranked sources without a report have a say in the
merge. -/
theorem resolve_filter {p : String → Bool} (h : (reports.map (·.1)).Nodup)
    (hperm : reports'.Perm reports) (hp : ∀ entry ∈ reports, p entry.1) :
    resolve policy (ranking.filter p) reports' = resolve policy ranking reports := by
  have hp' : ∀ entry ∈ reports', p entry.1 := fun entry he ↦ hp entry (hperm.subset he)
  have horder : order (ranking.filter p ++ policy.priority) reports' =
      order (ranking ++ policy.priority) reports := by
    rw [order_filter_append hp', order_congr h hperm.symm]
  rw [resolve, horder, resolve]

end Resolve

/-- However the reports are enumerated, the merge sees each of them once, in the effective order, and
comes to the same resolution. -/
theorem resolve_enumeration (policy : Policy) (ranking : List String)
    {reports reports' : List (String × LiveReport)} (h : (reports.map (·.1)).Nodup)
    (hp : reports'.Perm reports) (hne : reports ≠ []) :
    ∃ first rest, (first :: rest).Perm reports ∧
      (first :: rest).map (·.1) = effectiveIds ranking policy.priority (reports.map (·.1)) ∧
      resolve policy ranking reports = .ok (resolveOrdered policy first.2 (first :: rest)) ∧
      resolve policy ranking reports' = .ok (resolveOrdered policy first.2 (first :: rest)) := by
  obtain ⟨first, rest, ho⟩ := exists_order_cons h hne (ranking ++ policy.priority)
  have hperm : (order (ranking ++ policy.priority) reports).Perm reports := order_perm h
  have hkeys := order_effectiveIds h ranking policy.priority
  have ho' : order (ranking ++ policy.priority) reports' = first :: rest :=
    (order_congr h hp.symm).symm.trans ho
  rw [ho] at hperm hkeys
  exact ⟨first, rest, hperm, hkeys, resolve_of_order ho, resolve_of_order ho'⟩

def reportOf (source park : String) : String × LiveReport :=
  (source, { source := source, parkExternalId := park, fetchedAt := .epoch })

/-- One source that the default priority lists, and two that it does not. -/
def threeReports : List (String × LiveReport) :=
  [reportOf "queue-times" "56", reportOf "beta" "b", reportOf "alpha" "a"]

theorem resolve_enumeration_threeReports :
    (threeReports.map (·.1)).Nodup ∧ threeReports.reverse.Perm threeReports ∧ threeReports ≠ [] ∧
      ∃ first rest, (first :: rest).Perm threeReports ∧
        (first :: rest).map (·.1) =
          effectiveIds ["beta", "gamma", "beta"] ({} : Policy).priority (threeReports.map (·.1)) ∧
        resolve {} ["beta", "gamma", "beta"] threeReports =
          .ok (resolveOrdered {} first.2 (first :: rest)) ∧
        resolve {} ["beta", "gamma", "beta"] threeReports.reverse =
          .ok (resolveOrdered {} first.2 (first :: rest)) := by
  have hids : (threeReports.map (·.1)).Nodup := by decide
  have hperm : threeReports.reverse.Perm threeReports := List.reverse_perm threeReports
  have hne : threeReports ≠ [] := List.cons_ne_nil _ _
  exact ⟨hids, hperm, hne, resolve_enumeration {} ["beta", "gamma", "beta"] hids hperm hne⟩

end ParkFusion.Merge
