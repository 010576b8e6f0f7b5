import Mathlib.Data.Finset.Card
import Mathlib.Data.Prod.Lex
import Mathlib.Data.String.Basic
import ParkFusion.Proofs.Sorting
import ParkFusion.Proofs.StoreRows

namespace ParkFusion

namespace Key

/-- By source, then by external id. -/
def rank (k : Key) : String ×ₗ String :=
  toLex (k.source, k.externalId)

theorem rank_injective : Function.Injective rank := by
  rintro ⟨s, x⟩ ⟨s', x'⟩ h
  obtain ⟨rfl, rfl⟩ := Prod.mk.inj (toLex.injective h)
  rfl

theorem isLe_iff {a b : Key} : a.isLe b ↔ a.rank ≤ b.rank := by
  rw [rank, rank, Prod.Lex.toLex_le_toLex, ← not_lt (a := b.externalId)]
  simp [isLe]

end Key

namespace Mapping.Store

variable {store a b : Store} {m m' row : Mapping} {ms rows rows' : List Mapping} {key : Key}

section Sorted

theorem ranks_nodup (h : (rows.map Mapping.key).Nodup) : (rows.map (·.key.rank)).Nodup := by
  have hranks := h.map Key.rank_injective
  rwa [List.map_map] at hranks

theorem sorted_pairwise (h : (rows.map Mapping.key).Nodup) :
    (sorted rows).Pairwise fun row row' ↦ row.key.rank < row'.key.rank :=
  mergeSort_ascends_strictly (fun _ _ ↦ Key.isLe_iff) (ranks_nodup h)

theorem sorted_congr (h : (rows.map Mapping.key).Nodup) (hp : rows.Perm rows') :
    sorted rows = sorted rows' :=
  mergeSort_congr (fun _ _ ↦ Key.isLe_iff) (ranks_nodup h) hp

end Sorted

/-- Two stores that no question tells apart. -/
structure Alike (a b : Store) : Prop where
  find : ∀ key, a.find key = b.find key
  size : a.size = b.size
  toList : a.toList = b.toList
  entitiesOf : ∀ park, a.entitiesOf park = b.entitiesOf park

section Upserts

/-- The upserts of any number of writers, in the order in which the store takes them, with the rows
that it gives back. -/
def upserts (store : Store) : List Mapping → Except StoreError (List Mapping × Store)
  | [] => .ok ([], store)
  | m :: ms => do
    let (row, store) ← store.upsert m
    let (rows, store) ← store.upserts ms
    return (row :: rows, store)

theorem Sound.mem_rows (h : Sound store) : row ∈ store.rows ↔ store.row? row.key = some row := by
  rw [row?, find?_eq_some_iff h.keys_nodup]
  simp

theorem Sound.upserts_cons (h : Sound store)
    (hs : (store.insert m).upserts ms = .ok (rows, a)) :
    store.upserts (m :: ms) = .ok (store.winner m :: rows, a) := by
  rw [upserts, h.upsert_eq]
  simp [bind, Except.bind, hs, pure, Except.pure]

theorem winner_congr (h : a.row? m.key = b.row? m.key) : a.winner m = b.winner m := by
  rw [winner, winner, h]

theorem row?_insert_congr (h : ∀ key, a.row? key = b.row? key) (m : Mapping) (key : Key) :
    (a.insert m).row? key = (b.insert m).row? key := by
  rw [row?_insert, row?_insert, h key, winner_congr (h m.key)]

/-- Rows that are found alike are all that an upsert sees. -/
theorem Sound.upserts_congr (ha : Sound a) (hb : Sound b) (h : ∀ key, a.row? key = b.row? key)
    (ms : List Mapping) : ∃ rows, a.upserts ms = .ok (rows, ms.foldl Store.insert a) ∧
      b.upserts ms = .ok (rows, ms.foldl Store.insert b) ∧
      ∀ key, (ms.foldl Store.insert a).row? key = (ms.foldl Store.insert b).row? key := by
  induction ms generalizing a b with
  | nil => exact ⟨[], rfl, rfl, h⟩
  | cons m ms ih =>
    obtain ⟨rows, hra, hrb, hrows⟩ := ih (ha.insert m) (hb.insert m) (row?_insert_congr h m)
    refine ⟨a.winner m :: rows, ha.upserts_cons hra, ?_, hrows⟩
    rw [winner_congr (h m.key)]
    exact hb.upserts_cons hrb

theorem Sound.exists_upserts (h : Sound store) (ms : List Mapping) :
    ∃ rows, store.upserts ms = .ok (rows, ms.foldl Store.insert store) := by
  obtain ⟨rows, hrows, -⟩ := h.upserts_congr h (fun _ ↦ rfl) ms
  exact ⟨rows, hrows⟩

theorem Sound.alike (ha : Sound a) (hb : Sound b) (h : ∀ key, a.row? key = b.row? key) :
    Alike a b := by
  have hperm : a.rows.Perm b.rows := by
    rw [List.perm_ext_iff_of_nodup (.of_map _ ha.keys_nodup) (.of_map _ hb.keys_nodup)]
    intro row
    rw [ha.mem_rows, hb.mem_rows, h]
  refine ⟨fun key ↦ ?_, hperm.length_eq, sorted_congr ha.keys_nodup hperm, fun park ↦ ?_⟩
  · rw [ha.find_eq, hb.find_eq, h]
  · rw [ha.entitiesOf_eq, hb.entitiesOf_eq, sorted_congr (ha.filter_keys_nodup _) (hperm.filter _)]

theorem winner_insert_of_ne (h : m.key ≠ m'.key) :
    (store.insert m).winner m' = store.winner m' :=
  winner_congr (by rw [row?_insert, if_neg h])

theorem row?_insert_comm (h : m.key ≠ m'.key) (key : Key) :
    ((store.insert m).insert m').row? key = ((store.insert m').insert m).row? key := by
  simp only [row?_insert, winner_insert_of_ne h, winner_insert_of_ne h.symm]
  split
  · rename_i hk'
    rw [if_neg (hk' ▸ h)]
  · rfl

theorem Sound.upserts_comm (hs : Sound store) (h : m.key ≠ m'.key) (later : List Mapping) :
    ∃ row row' rows a b, store.upserts (m :: m' :: later) = .ok (row :: row' :: rows, a) ∧
      store.upserts (m' :: m :: later) = .ok (row' :: row :: rows, b) ∧ Alike a b := by
  have ha := (hs.insert m).insert m'
  have hb := (hs.insert m').insert m
  obtain ⟨rows, hra, hrb, hrows⟩ := ha.upserts_congr hb (row?_insert_comm h) later
  refine ⟨store.winner m, store.winner m', rows, _, _, ?_, ?_,
    (ha.inserts later).alike (hb.inserts later) hrows⟩
  · rw [← winner_insert_of_ne h]
    exact hs.upserts_cons ((hs.insert m).upserts_cons hra)
  · rw [← winner_insert_of_ne h.symm]
    exact hs.upserts_cons ((hs.insert m').upserts_cons hrb)

end Upserts

section History

/-- The last verified upsert under a key, or else the last upsert under it. -/
def standing (ms : List Mapping) (key : Key) : Option Mapping :=
  (ms.reverse.find? fun m ↦ m.key = key && m.verified).or (ms.reverse.find? (·.key = key))

theorem standing_verified (h : standing ms key = some row) (hv : row.verified) :
    (ms.reverse.find? fun m ↦ m.key = key && m.verified) = some row := by
  rcases Option.or_eq_some_iff.mp h with hr | ⟨hn, hr⟩
  · exact hr
  · have hk : row.key = key := by simpa using List.find?_some hr
    have hno := List.find?_eq_none.mp hn row (List.mem_of_find?_eq_some hr)
    simp [hk, hv] at hno

theorem standing_append_of_ne (h : m.key ≠ key) : standing (ms ++ [m]) key = standing ms key := by
  simp [standing, h]

theorem standing_append_verified (hm : m.verified) : standing (ms ++ [m]) m.key = some m := by
  simp [standing, hm]

theorem standing_append_unverified (hm : m.verified = false) : standing (ms ++ [m]) m.key =
    (ms.reverse.find? fun m' ↦ m'.key = m.key && m'.verified).or (some m) := by
  simp [standing, hm]

theorem standing_filter (ms : List Mapping) (key : Key) :
    standing (ms.filter (·.key = key)) key = standing ms key := by
  simp [standing, ← List.filter_reverse, List.find?_filter]

theorem row?_history (ms : List Mapping) (key : Key) :
    (ms.foldl insert {}).row? key = standing ms key := by
  induction ms using List.reverseRecOn with
  | nil => rfl
  | append_singleton ms m ih =>
    rw [List.foldl_append, List.foldl_cons, List.foldl_nil, row?_insert]
    by_cases hk : m.key = key
    · subst hk
      rw [if_pos rfl]
      cases hm : m.verified with
      | true => rw [winner_of_unverified fun _ _ _ ↦ hm, standing_append_verified hm]
      | false =>
        rw [standing_append_unverified hm]
        cases hv : ms.reverse.find? fun m' ↦ m'.key = m.key && m'.verified with
        | some row =>
          have hrow : row.key = m.key ∧ row.verified := by simpa using List.find?_some hv
          have hstands : standing ms m.key = some row := by rw [standing, hv, Option.some_or]
          rw [winner_of_verified (ih.trans hstands) hrow.2 hm, Option.some_or]
        | none =>
          rw [winner_of_unverified, Option.none_or]
          intro row hr hverified
          cases hv.symm.trans (standing_verified (ih.symm.trans hr) hverified)
    · rw [if_neg hk, ih, standing_append_of_ne hk]

theorem mem_keys_insert : key ∈ (store.insert m).rows.map Mapping.key ↔
    key ∈ store.rows.map Mapping.key ∨ key = m.key := by
  rw [insert, put_keys, winner_key]
  split
  · rename_i hm
    exact ⟨Or.inl, fun h ↦ h.elim (fun hk ↦ hk) fun he ↦ he ▸ hm⟩
  · rw [List.mem_append, List.mem_singleton]

theorem mem_keys_history (ms : List Mapping) :
    key ∈ (ms.foldl insert {}).rows.map Mapping.key ↔ key ∈ ms.map Mapping.key := by
  induction ms using List.reverseRecOn with
  | nil => rfl
  | append_singleton ms m ih =>
    rw [List.foldl_append, List.foldl_cons, List.foldl_nil, mem_keys_insert, ih, List.map_append,
      List.mem_append, List.map_singleton, List.mem_singleton]

theorem size_history (ms : List Mapping) :
    (ms.foldl insert {}).size = (ms.map Mapping.key).toFinset.card := by
  have hkeys : ((ms.foldl insert {}).rows.map Mapping.key).toFinset =
      (ms.map Mapping.key).toFinset := by
    ext key
    rw [List.mem_toFinset, List.mem_toFinset, mem_keys_history]
  rw [← hkeys, List.toFinset_card_of_nodup (Sound.empty.inserts ms).keys_nodup, List.length_map,
    size]

theorem Sound.entities_spec (h : Sound store) (park : Uuid) :
    ∃ rows, store.entitiesOf park = .ok rows ∧
      (∀ row, row ∈ rows ↔ store.find row.key = .ok (some row) ∧ row.subject.park = some park) ∧
      rows.Pairwise fun row row' ↦ row.key.rank < row'.key.rank := by
  refine ⟨_, h.entitiesOf_eq park, fun row ↦ ?_, sorted_pairwise (h.filter_keys_nodup _)⟩
  rw [(sorted_perm _).mem_iff, List.mem_filter, h.mem_rows, h.find_eq]
  simp

/-- What a store tells after the upserts `ms` into an empty one. Of their order it shows no more than
the order of those under one key. -/
structure Tells (store : Store) (ms : List Mapping) : Prop where
  find : ∀ key, store.find key = .ok (standing ms key)
  size : store.size = (ms.map Mapping.key).toFinset.card
  verified : ∀ later, ∃ rows after, store.upserts later = .ok (rows, after) ∧
    ∀ key row, store.find key = .ok (some row) → row.verified →
      ∃ row', after.find key = .ok (some row') ∧ row'.verified
  entities : ∀ park, ∃ rows, store.entitiesOf park = .ok rows ∧
    (∀ row, row ∈ rows ↔ store.find row.key = .ok (some row) ∧ row.subject.park = some park) ∧
    rows.Pairwise fun row row' ↦ row.key.rank < row'.key.rank
  commutes : ∀ m m' later, m.key ≠ m'.key → ∃ row row' rows a b,
    store.upserts (m :: m' :: later) = .ok (row :: row' :: rows, a) ∧
    store.upserts (m' :: m :: later) = .ok (row' :: row :: rows, b) ∧ Alike a b
  interleaved : ∀ ms', (∀ key, ms'.filter (·.key = key) = ms.filter (·.key = key)) →
    ∃ rows after, upserts {} ms' = .ok (rows, after) ∧ Alike store after

theorem history_tells (ms : List Mapping) :
    ∃ rows store, upserts {} ms = .ok (rows, store) ∧ store.Tells ms := by
  obtain ⟨rows, hrows⟩ := Sound.empty.exists_upserts ms
  have hsound := Sound.empty.inserts ms
  refine ⟨rows, _, hrows, fun key ↦ ?_, size_history ms, fun later ↦ ?_, hsound.entities_spec,
    fun m m' later h ↦ hsound.upserts_comm h later, fun ms' h ↦ ?_⟩
  · rw [hsound.find_eq, row?_history]
  · obtain ⟨rows, hlater⟩ := hsound.exists_upserts later
    refine ⟨rows, _, hlater, fun key row hr hv ↦ ?_⟩
    rw [hsound.find_eq] at hr
    obtain ⟨row', hr', hv'⟩ := inserts_verified (Except.ok.inj hr) hv later
    exact ⟨row', by rw [(hsound.inserts later).find_eq, hr'], hv'⟩
  · obtain ⟨rows, hrows⟩ := Sound.empty.exists_upserts ms'
    refine ⟨rows, _, hrows, hsound.alike (Sound.empty.inserts ms') fun key ↦ ?_⟩
    rw [row?_history, row?_history, ← standing_filter ms, ← standing_filter ms', h]

def phantasialand : Subject :=
  ⟨⟨"queue-times", "160"⟩, .park, none⟩

/-- What an operator declared, and what was guessed of the same park later. -/
def declaredThenGuessed : List Mapping :=
  [⟨⟨1⟩, phantasialand, 1, .manualOverride, true⟩, .single ⟨2⟩ phantasialand]

theorem history_tells_declared : ∃ rows store, upserts {} declaredThenGuessed = .ok (rows, store) ∧
    store.find phantasialand.key = .ok (some ⟨⟨1⟩, phantasialand, 1, .manualOverride, true⟩) ∧
    store.size = 1 := by
  obtain ⟨rows, store, hrows, htells⟩ := history_tells declaredThenGuessed
  refine ⟨rows, store, hrows, ?_, ?_⟩
  · rw [htells.find]
    rfl
  · rw [htells.size]
    rfl

end History

end Mapping.Store

end ParkFusion
