import Mathlib.Data.List.Nodup
import Mathlib.Data.List.Perm.Basic
import ParkFusion.Mapping.Store

namespace ParkFusion.Mapping.Store

variable {store : Store} {m row : Mapping} {ms rows : List Mapping} {key : Key} {id : Uuid}

theorem row?_key (h : store.row? key = some row) : row.key = key := by
  simpa using List.find?_some h

theorem find?_put (m : Mapping) (rows : List Mapping) (key : Key) :
    (put m rows).find? (·.key = key) = if m.key = key then some m else rows.find? (·.key = key) := by
  induction rows with
  | nil => by_cases hm : m.key = key <;> simp [put, hm]
  | cons row rows ih =>
    by_cases hr : row.key = m.key
    · by_cases hm : m.key = key <;> simp [put, hr, hm]
    · by_cases hm : m.key = key
      · subst hm
        simp [put, hr, ih]
      · simp [put, hr, hm, List.find?_cons, ih]

theorem put_keys (m : Mapping) (rows : List Mapping) :
    (put m rows).map Mapping.key =
      if m.key ∈ rows.map Mapping.key then rows.map Mapping.key
      else rows.map Mapping.key ++ [m.key] := by
  induction rows with
  | nil => simp [put]
  | cons row rows ih =>
    by_cases hr : row.key = m.key
    · simp [put, hr]
    · simp only [put, hr, if_false, List.map_cons, ih, List.mem_cons, Ne.symm hr, false_or]
      split <;> rfl

theorem put_keys_nodup (h : (rows.map Mapping.key).Nodup) :
    ((put m rows).map Mapping.key).Nodup := by
  rw [put_keys]
  split
  · exact h
  · rename_i hm
    rw [← List.concat_eq_append]
    exact h.concat hm

theorem winner_key (store : Store) (m : Mapping) : (store.winner m).key = m.key := by
  unfold winner
  cases hr : store.row? m.key with
  | none => rfl
  | some row =>
    by_cases hv : (row.verified && !m.verified) = true
    · simpa [hv] using row?_key hr
    · simp [hv]

theorem row?_insert (store : Store) (m : Mapping) (key : Key) :
    (store.insert m).row? key = if m.key = key then some (store.winner m) else store.row? key := by
  rw [← winner_key store m]
  exact find?_put (store.winner m) store.rows key

/-- A store that never fails, with one row at most under each key. -/
structure Sound (store : Store) : Prop where
  faultless : store.faults = {}
  keys_nodup : (store.rows.map Mapping.key).Nodup

theorem Sound.empty : Sound {} := ⟨rfl, List.nodup_nil⟩

theorem Sound.insert (h : Sound store) (m : Mapping) : Sound (store.insert m) :=
  ⟨h.faultless, put_keys_nodup h.keys_nodup⟩

theorem Sound.inserts (h : Sound store) (ms : List Mapping) : Sound (ms.foldl Store.insert store) := by
  induction ms generalizing store with
  | nil => exact h
  | cons m ms ih => exact ih (h.insert m)

theorem Sound.find_eq (h : Sound store) (key : Key) : store.find key = .ok (store.row? key) := by
  simp [find, h.faultless]

theorem Sound.upsert_eq (h : Sound store) (m : Mapping) :
    store.upsert m = .ok (store.winner m, store.insert m) := by
  simp [upsert, h.faultless]

theorem Sound.record (h : Sound store) (ms : List Mapping) :
    store.record ms = (.ok ms.length, ms.foldl Store.insert store) := by
  induction ms generalizing store with
  | nil => rfl
  | cons m ms ih =>
    simp [Store.record, h.upsert_eq, ih (h.insert m), Except.map]

def idOf? (store : Store) (key : Key) : Option Uuid :=
  (store.row? key).map (·.id)

def entityIdOf? (store : Store) (park : Uuid) (key : Key) : Option Uuid :=
  ((store.row? key).filter fun row ↦ row.subject.park = some park).map (·.id)

theorem entityIdOf?_of_row {park : Uuid} (hr : store.row? key = some row)
    (hp : row.subject.park = some park) : store.entityIdOf? park key = some row.id := by
  rw [entityIdOf?, hr, Option.filter_some, if_pos (decide_eq_true hp), Option.map_some]

theorem entityIdOf?_of_other {park : Uuid} (hr : store.row? key = some row)
    (hp : row.subject.park ≠ some park) : store.entityIdOf? park key = none := by
  rw [entityIdOf?, hr, Option.filter_some, if_neg (by simpa using hp), Option.map_none]

theorem Sound.existingId (h : Sound store) (keys : List Key) :
    store.existingId keys = .ok (keys.findSome? store.idOf?) := by
  induction keys with
  | nil => rfl
  | cons key keys ih =>
    rw [Store.existingId, h.find_eq, List.findSome?_cons]
    cases hr : store.row? key with
    | none => exact ih.trans (by simp [idOf?, hr])
    | some row => simp only [idOf?, hr]; rfl

theorem find?_eq_some_iff (h : (rows.map Mapping.key).Nodup) :
    rows.find? (·.key = key) = some row ↔ row ∈ rows ∧ row.key = key := by
  constructor
  · intro hr
    exact ⟨List.mem_of_find?_eq_some hr, by simpa using List.find?_some hr⟩
  · rintro ⟨hm, hk⟩
    cases hr : rows.find? (·.key = key) with
    | none => exact absurd hk (by simpa using List.find?_eq_none.mp hr row hm)
    | some other =>
      have ho : other.key = key := by simpa using List.find?_some hr
      exact congrArg some (List.inj_on_of_nodup_map h (List.mem_of_find?_eq_some hr) hm
        (ho.trans hk.symm))

theorem sorted_perm (rows : List Mapping) : (sorted rows).Perm rows :=
  List.mergeSort_perm _ _

theorem Sound.filter_keys_nodup (h : Sound store) (p : Mapping → Bool) :
    ((store.rows.filter p).map Mapping.key).Nodup :=
  h.keys_nodup.sublist ((List.filter_sublist).map Mapping.key)

theorem Sound.entitiesOf_eq (h : Sound store) (park : Uuid) :
    store.entitiesOf park = .ok (sorted (store.rows.filter (·.subject.park = some park))) := by
  simp [Store.entitiesOf, h.faultless]

theorem Sound.entitiesOf (h : Sound store) (park : Uuid) :
    ∃ rows, store.entitiesOf park = .ok rows ∧
      (fun key ↦ (rows.find? (·.key = key)).map (·.id)) = store.entityIdOf? park := by
  refine ⟨_, h.entitiesOf_eq park,
    funext fun key ↦ congrArg (Option.map Mapping.id) (Option.ext fun row ↦ ?_)⟩
  have hperm := sorted_perm (store.rows.filter (·.subject.park = some park))
  have hkeys := (hperm.map Mapping.key).nodup_iff.mpr (h.filter_keys_nodup _)
  rw [Option.filter_eq_some_iff, row?, find?_eq_some_iff hkeys, find?_eq_some_iff h.keys_nodup,
    hperm.mem_iff, List.mem_filter]
  tauto

section Inserts

def Carries (store : Store) (key : Key) (id : Uuid) : Prop :=
  ∃ row, store.row? key = some row ∧ row.id = id

theorem carries_iff : store.Carries key id ↔ store.idOf? key = some id :=
  Option.map_eq_some_iff.symm

theorem row?_of_inserts (h : (ms.foldl insert store).row? key = some row) :
    store.row? key = some row ∨ row ∈ ms := by
  induction ms generalizing store with
  | nil => exact Or.inl h
  | cons m ms ih =>
    rcases ih h with hr | hm
    · rw [row?_insert] at hr
      split at hr
      · rename_i hk
        obtain rfl := Option.some.inj hr
        unfold winner
        split
        · rename_i old ho
          split
          · exact Or.inl (hk ▸ ho)
          · exact Or.inr List.mem_cons_self
        · exact Or.inr List.mem_cons_self
      · exact Or.inl hr
    · exact Or.inr (List.mem_cons_of_mem m hm)

theorem row?_inserts_of_ne (h : ∀ m ∈ ms, m.key ≠ key) :
    (ms.foldl insert store).row? key = store.row? key := by
  induction ms generalizing store with
  | nil => rfl
  | cons m ms ih =>
    rw [List.foldl_cons, ih fun m' hm' ↦ h m' (List.mem_cons_of_mem m hm'), row?_insert,
      if_neg (h m List.mem_cons_self)]

theorem winner_of_verified (hr : store.row? m.key = some row) (hv : row.verified)
    (hm : m.verified = false) : store.winner m = row := by
  simp [winner, hr, hv, hm]

theorem winner_of_unverified
    (h : ∀ row, store.row? m.key = some row → row.verified → m.verified) : store.winner m = m := by
  unfold winner
  cases hr : store.row? m.key with
  | none => rfl
  | some row =>
    have hv := h row hr
    cases hrow : row.verified <;> simp_all

/-- A verified row outlasts everything that is not verified. -/
theorem row?_inserts_of_verified (hr : store.row? key = some row) (hv : row.verified)
    (h : ∀ m ∈ ms, m.key = key → m.verified = false) :
    (ms.foldl insert store).row? key = some row := by
  induction ms generalizing store with
  | nil => exact hr
  | cons m ms ih =>
    refine ih ?_ fun m' hm' ↦ h m' (List.mem_cons_of_mem m hm')
    rw [row?_insert]
    split
    · rename_i hk
      rw [winner_of_verified (hk ▸ hr) hv (h m List.mem_cons_self hk)]
    · exact hr

theorem inserts_verified (hr : store.row? key = some row) (hv : row.verified)
    (ms : List Mapping) : ∃ row, (ms.foldl insert store).row? key = some row ∧ row.verified := by
  induction ms generalizing store row with
  | nil => exact ⟨row, hr, hv⟩
  | cons m ms ih =>
    by_cases hk : m.key = key
    · have hrow : (store.insert m).row? key = some (store.winner m) := by
        rw [row?_insert, if_pos hk]
      refine ih hrow ?_
      rw [winner, hk, hr]
      cases hm : m.verified <;> simp [hv, hm]
    · exact ih (by rw [row?_insert, if_neg hk, hr]) hv

theorem Carries.insert (h : store.Carries key id) (hm : m.key = key → m.id = id) :
    (store.insert m).Carries key id := by
  obtain ⟨row, hr, hid⟩ := h
  by_cases hk : m.key = key
  · refine ⟨store.winner m, by rw [row?_insert, if_pos hk], ?_⟩
    unfold winner
    rw [hk, hr]
    dsimp only
    split
    · exact hid
    · exact hm hk
  · exact ⟨row, by rw [row?_insert, if_neg hk, hr], hid⟩

theorem Carries.inserts (h : store.Carries key id) (hms : ∀ m ∈ ms, m.key = key → m.id = id) :
    (ms.foldl Store.insert store).Carries key id := by
  induction ms generalizing store with
  | nil => exact h
  | cons m ms ih =>
    exact ih (h.insert (hms m List.mem_cons_self)) fun m' hm' ↦
      hms m' (List.mem_cons_of_mem m hm')

theorem insert_carries (h : ∀ row, store.row? m.key = some row → row.verified → m.verified) :
    (store.insert m).Carries m.key m.id :=
  ⟨m, by rw [row?_insert, if_pos rfl, winner_of_unverified h], rfl⟩

theorem inserts_carry_of_verified (hid : ∀ m ∈ ms, m.key = key → m.id = id) (hm : m ∈ ms)
    (hk : m.key = key) (hv : m.verified) : (ms.foldl insert store).Carries key id := by
  obtain ⟨before, after, rfl⟩ := List.append_of_mem hm
  rw [List.foldl_append, List.foldl_cons]
  have hcarries : ((before.foldl insert store).insert m).Carries key id := by
    rw [← hid m hm hk, ← hk]
    exact insert_carries fun _ _ _ ↦ hv
  exact hcarries.inserts fun m' hm' ↦
    hid m' (List.mem_append_right before (List.mem_cons_of_mem m hm'))

theorem inserts_carry_of_unverified (hid : ∀ m ∈ ms, m.key = key → m.id = id) (hm : m ∈ ms)
    (hk : m.key = key) (hr : ∀ row, store.row? key = some row → row.verified = false) :
    (ms.foldl insert store).Carries key id := by
  -- the first mapping under the key finds the row as it was
  obtain ⟨first, hf⟩ : ∃ first, ms.find? (·.key = key) = some first := by
    rw [← Option.isSome_iff_exists, List.find?_isSome]
    exact ⟨m, hm, by simpa using hk⟩
  obtain ⟨hfk, before, after, rfl, hb⟩ := List.find?_eq_some_iff_append.mp hf
  have hfk : first.key = key := by simpa using hfk
  have hsame : (before.foldl insert store).row? key = store.row? key :=
    row?_inserts_of_ne fun m' hm' ↦ by simpa using hb m' hm'
  rw [List.foldl_append, List.foldl_cons]
  have hcarries : ((before.foldl insert store).insert first).Carries key id := by
    rw [← hid first (by simp) hfk, ← hfk]
    refine insert_carries fun row hrow hv ↦ ?_
    rw [hfk, hsame] at hrow
    rw [hr row hrow] at hv
    cases hv
  exact hcarries.inserts fun m' hm' ↦
    hid m' (List.mem_append_right before (List.mem_cons_of_mem first hm'))

end Inserts

section Settled

variable {before after : Store} {keys confirmed : List Key}

/-- A verified row stands under the key, and the key is not among those now confirmed. -/
def Resists (before : Store) (confirmed : List Key) (key : Key) (row : Mapping) : Prop :=
  before.row? key = some row ∧ row.verified ∧ key ∉ confirmed

structure Proposes (ms : List Mapping) (keys confirmed : List Key) (id : Uuid) : Prop where
  covers : ∀ key ∈ keys, ∃ m ∈ ms, m.key = key
  id_eq : ∀ m ∈ ms, m.key ∈ keys → m.id = id
  verified : ∀ key ∈ keys, key ∈ confirmed ↔ ∃ m ∈ ms, m.key = key ∧ m.verified

/-- What becomes of keys that were to get one id. -/
structure Settled (before after : Store) (keys confirmed : List Key) (id : Uuid) : Prop where
  mapped : ∀ key ∈ keys, (after.row? key).isSome
  kept : ∀ key ∈ keys, ∀ row, before.Resists confirmed key row → after.row? key = some row
  carried : ∀ key ∈ keys, (∀ row, ¬ before.Resists confirmed key row) → after.Carries key id
  agree : (∀ key ∈ keys, after.Carries key id) ↔
    ∀ key ∈ keys, ∀ row, before.Resists confirmed key row → row.id = id

/-- Records that are taken for one got one id, that of the first known of them if there is any, so
far as no verified row resists. -/
def Unified (before after : Store) (known : Key → Option Uuid) (keys confirmed : List Key) : Prop :=
  ∃ id, (∀ first, keys.findSome? known = some first → first = id) ∧
    Settled before after keys confirmed id

theorem Settled.of_kept_carried
    (hkept : ∀ key ∈ keys, ∀ row, before.Resists confirmed key row → after.row? key = some row)
    (hcarried : ∀ key ∈ keys, (∀ row, ¬ before.Resists confirmed key row) →
      after.Carries key id) : Settled before after keys confirmed id := by
  refine ⟨fun key hk ↦ ?_, hkept, hcarried, fun h key hk row hr ↦ ?_, fun h key hk ↦ ?_⟩
  · by_cases hr : ∃ row, before.Resists confirmed key row
    · obtain ⟨row, hr⟩ := hr
      simp [hkept key hk row hr]
    · obtain ⟨row, hrow, -⟩ := hcarried key hk (not_exists.mp hr)
      simp [hrow]
  · obtain ⟨other, ho, hid⟩ := h key hk
    rw [hkept key hk row hr] at ho
    rw [Option.some.inj ho, hid]
  · by_cases hr : ∃ row, before.Resists confirmed key row
    · obtain ⟨row, hr⟩ := hr
      exact ⟨row, hkept key hk row hr, h key hk row hr⟩
    · exact hcarried key hk (not_exists.mp hr)

theorem Proposes.settled (h : Proposes ms keys confirmed id) (store : Store) :
    Settled store (ms.foldl insert store) keys confirmed id := by
  refine .of_kept_carried (fun key hk row hr ↦ ?_) fun key hk hr ↦ ?_
  · obtain ⟨hrow, hv, hc⟩ := hr
    refine row?_inserts_of_verified hrow hv fun m hm hmk ↦ ?_
    by_contra hmv
    exact hc ((h.verified key hk).mpr ⟨m, hm, hmk, by simpa using hmv⟩)
  · have hid : ∀ m ∈ ms, m.key = key → m.id = id := fun m hm hmk ↦ h.id_eq m hm (hmk ▸ hk)
    by_cases hc : key ∈ confirmed
    · obtain ⟨m, hm, hmk, hv⟩ := (h.verified key hk).mp hc
      exact inserts_carry_of_verified hid hm hmk hv
    · obtain ⟨m, hm, hmk⟩ := h.covers key hk
      refine inserts_carry_of_unverified hid hm hmk fun row hrow ↦ ?_
      by_contra hv
      exact hr row ⟨hrow, by simpa using hv, hc⟩

end Settled

end ParkFusion.Mapping.Store
