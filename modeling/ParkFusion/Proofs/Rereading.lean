import Mathlib.Data.List.Forall2
import Mathlib.Data.List.Induction
import ParkFusion.Proofs.Proposals

namespace ParkFusion

namespace Mapping.Store

variable {before again after : Store} {ms ms' : List Mapping} {m m' row : Mapping}
variable {key : Key} {keys : List Key} {id : Uuid}

section Verified

theorem unverified_of_inserts
    (h : ∀ row, (ms.foldl insert before).row? key = some row → row.verified = false)
    (hm : m ∈ ms) (hk : m.key = key) : m.verified = false := by
  by_contra hmv
  have hmv : m.verified := by simpa using hmv
  obtain ⟨first, rest, rfl⟩ := List.append_of_mem hm
  have hstands : ((first.foldl insert before).insert m).row? key = some m := by
    rw [row?_insert, if_pos hk, winner_of_unverified fun _ _ _ ↦ hmv]
  obtain ⟨row, hr, hv⟩ := inserts_verified hstands hmv rest
  have hunverified := h row (by rw [List.foldl_append, List.foldl_cons, hr])
  rw [hunverified] at hv
  cases hv

theorem inserts_unverified (hr : ∀ row, before.row? key = some row → row.verified = false)
    (h : ∀ m ∈ ms, m.key = key → m.verified = false) :
    ∀ row, (ms.foldl insert before).row? key = some row → row.verified = false := by
  intro row hrow
  rcases row?_of_inserts hrow with hold | hm
  · exact hr row hold
  · exact h row hm (row?_key hrow)

end Verified

section Restates

/-- The second mapping proposes what the first one did, under the same id at least if the first one
stands. -/
structure Restates (after : Store) (m m' : Mapping) : Prop where
  key : m'.key = m.key
  verified : m'.verified = m.verified
  standing : after.row? m.key = some m → m' = m

theorem Restates.refl (after : Store) (m : Mapping) : Restates after m m :=
  ⟨rfl, rfl, fun _ ↦ rfl⟩

section Twice

variable {twice : List (Mapping × Mapping)} (h : ∀ x ∈ twice, Restates after x.1 x.2)
include h

theorem inserts_again_unverified
    (hbefore : ∀ row, ((twice.map (·.1)).foldl insert before).row? key = some row →
      row.verified = false)
    (hagain : ∀ row, again.row? key = some row → row.verified = false) :
    ∀ row, ((twice.map (·.2)).foldl insert again).row? key = some row → row.verified = false := by
  refine inserts_unverified hagain fun m' hm' hk ↦ ?_
  obtain ⟨x, hx, rfl⟩ := List.mem_map.mp hm'
  have hkey : x.1.key = key := (h x hx).key.symm.trans hk
  exact (h x hx).verified.trans (unverified_of_inserts hbefore (List.mem_map_of_mem hx) hkey)

theorem row?_inserts_again
    (hrow : ((twice.map (·.1)).foldl insert before).row? key = after.row? key)
    (hagain : again.row? key = after.row? key) :
    ((twice.map (·.2)).foldl insert again).row? key = after.row? key := by
  -- from the last mapping back to the one that stands under the key
  induction twice using List.reverseRecOn with
  | nil => exact hagain
  | append_singleton twice x ih =>
    obtain ⟨m, m'⟩ := x
    have hm : Restates after m m' := h (m, m') (List.mem_append_right _ List.mem_cons_self)
    have hearlier : ∀ x ∈ twice, Restates after x.1 x.2 := fun x hx ↦
      h x (List.mem_append_left _ hx)
    rw [List.map_append, List.foldl_append, List.map_singleton, List.foldl_cons, List.foldl_nil,
      row?_insert] at hrow ⊢
    rw [hm.key]
    by_cases hk : m.key = key
    · rw [if_pos hk] at hrow ⊢
      subst hk
      by_cases hold : ∃ row, ((twice.map (·.1)).foldl insert before).row? m.key = some row ∧
          row.verified ∧ m.verified = false
      · obtain ⟨row, hr, hv, hmv⟩ := hold
        rw [winner_of_verified hr hv hmv] at hrow
        have hstill := ih hearlier (hr.trans hrow)
        rw [← hrow, ← hm.key] at hstill
        rw [winner_of_verified hstill hv (hm.verified.trans hmv), hrow]
      · have hloose : ∀ row, ((twice.map (·.1)).foldl insert before).row? m.key = some row →
            row.verified → m.verified := by
          intro row hr hv
          by_contra hmv
          exact hold ⟨row, hr, hv, by simpa using hmv⟩
        rw [winner_of_unverified hloose] at hrow
        obtain rfl : m' = m := hm.standing hrow.symm
        rw [← hrow]
        refine congrArg some (winner_of_unverified fun row hr hv ↦ ?_)
        by_contra hmv
        -- then nothing that is verified was proposed, and none is verified the second time
        have hmv : m'.verified = false := by simpa using hmv
        have hbefore : ∀ row, ((twice.map (·.1)).foldl insert before).row? m'.key = some row →
            row.verified = false := by
          intro row hr
          by_contra hrv
          exact hold ⟨row, hr, by simpa using hrv, hmv⟩
        have hsame : ∀ row, again.row? m'.key = some row → row.verified = false := by
          intro row hr
          rw [hagain, ← hrow] at hr
          exact Option.some.inj hr ▸ hmv
        rw [inserts_again_unverified hearlier hbefore hsame row hr] at hv
        cases hv
    · rw [if_neg hk] at hrow ⊢
      exact ih hearlier hrow

end Twice

theorem exists_twice (h : List.Forall₂ (Restates after) ms ms') :
    ∃ twice : List (Mapping × Mapping), twice.map (·.1) = ms ∧ twice.map (·.2) = ms' ∧
      ∀ x ∈ twice, Restates after x.1 x.2 := by
  induction h with
  | nil => exact ⟨[], rfl, rfl, by simp⟩
  | @cons m m' ms ms' hm _ ih =>
    obtain ⟨twice, rfl, rfl, hall⟩ := ih
    exact ⟨(m, m') :: twice, rfl, rfl, List.forall_mem_cons.mpr ⟨hm, hall⟩⟩

end Restates

section Known

theorem isSome_insert (h : (before.row? key).isSome) (m : Mapping) :
    ((before.insert m).row? key).isSome := by
  rw [row?_insert]
  split
  · rfl
  · exact h

theorem isSome_inserts (h : (before.row? key).isSome) (ms : List Mapping) :
    ((ms.foldl insert before).row? key).isSome := by
  induction ms generalizing before with
  | nil => exact h
  | cons m ms ih => exact ih (isSome_insert h m)

theorem isSome_inserts_of_mem (hm : m ∈ ms) (before : Store) :
    ((ms.foldl insert before).row? m.key).isSome := by
  obtain ⟨first, rest, rfl⟩ := List.append_of_mem hm
  rw [List.foldl_append, List.foldl_cons]
  refine isSome_inserts ?_ rest
  rw [row?_insert, if_pos rfl]
  rfl

theorem key_mem_of_isSome (h : (before.row? key).isSome) : key ∈ before.rows.map Mapping.key := by
  obtain ⟨row, hr⟩ := Option.isSome_iff_exists.mp h
  exact row?_key hr ▸ List.mem_map_of_mem (List.mem_of_find?_eq_some hr)

theorem inserts_keys (h : ∀ m ∈ ms, (before.row? m.key).isSome) :
    (ms.foldl insert before).rows.map Mapping.key = before.rows.map Mapping.key := by
  induction ms generalizing before with
  | nil => rfl
  | cons m ms ih =>
    have hm := h m List.mem_cons_self
    have hrest : ∀ m' ∈ ms, ((before.insert m).row? m'.key).isSome := fun m' hm' ↦
      isSome_insert (h m' (List.mem_cons_of_mem m hm')) m
    rw [List.foldl_cons, ih hrest, insert, put_keys, winner_key, if_pos (key_mem_of_isSome hm)]

theorem rows_ext {rows rows' : List Mapping} (hk : rows.map Mapping.key = rows'.map Mapping.key)
    (hd : (rows.map Mapping.key).Nodup)
    (h : ∀ key, rows.find? (·.key = key) = rows'.find? (·.key = key)) : rows = rows' := by
  have hlength : rows.length = rows'.length := by simpa using congrArg List.length hk
  refine List.ext_getElem hlength fun i hi hi' ↦ ?_
  have hkey : rows[i].key = rows'[i].key := by
    have hget := List.getElem_of_eq hk (by simpa using hi)
    simpa using hget
  have hrow := (find?_eq_some_iff hd).mpr ⟨List.getElem_mem hi, rfl⟩
  have hrow' := (find?_eq_some_iff (hk ▸ hd)).mpr ⟨List.getElem_mem hi', rfl⟩
  rw [h, hkey, hrow'] at hrow
  exact (Option.some.inj hrow).symm

/-- Mappings that restate those that were stored change nothing. -/
theorem Sound.inserts_again (hs : Sound before)
    (h : List.Forall₂ (Restates (ms.foldl Store.insert before)) ms ms') :
    ms'.foldl Store.insert (ms.foldl Store.insert before) = ms.foldl Store.insert before := by
  obtain ⟨twice, rfl, rfl, hall⟩ := exists_twice h
  have hfirst := hs.inserts (twice.map (·.1))
  have hsecond := hfirst.inserts (twice.map (·.2))
  have hkeys : ∀ m' ∈ twice.map (·.2),
      (((twice.map (·.1)).foldl Store.insert before).row? m'.key).isSome := by
    intro m' hm'
    obtain ⟨x, hx, rfl⟩ := List.mem_map.mp hm'
    rw [(hall x hx).key]
    exact isSome_inserts_of_mem (List.mem_map_of_mem hx) before
  have hrows := rows_ext (inserts_keys hkeys) hsecond.keys_nodup fun key ↦
    row?_inserts_again hall rfl rfl
  calc _ = Store.mk _ _ := rfl
    _ = _ := by rw [hrows, hsecond.faultless, ← hfirst.faultless]

/-- The id of the row under a key, if the row is of some kind. -/
def idWhere (kind : Mapping → Bool) (store : Store) (key : Key) : Option Uuid :=
  ((store.row? key).filter kind).map (·.id)

theorem idOf?_eq_idWhere (store : Store) : store.idOf? = store.idWhere fun _ ↦ true := by
  funext key
  rw [idOf?, idWhere]
  cases store.row? key <;> rfl

theorem findSome?_again {known known' : Key → Option Uuid}
    (hfirst : ∀ first, keys.findSome? known = some first → first = id)
    (hnew : ∀ key ∈ keys, ∀ found, known' key = some found → found = id ∨ known key = some found)
    (hkept : ∀ key ∈ keys, known' key = none → known key = none)
    (hsome : ∃ key ∈ keys, (known' key).isSome) : keys.findSome? known' = some id := by
  induction keys with
  | nil => simp at hsome
  | cons key keys ih =>
    rw [List.findSome?_cons]
    cases hk : known' key with
    | some found =>
      rcases hnew key List.mem_cons_self found hk with rfl | hold
      · rfl
      · rw [hfirst found (by rw [List.findSome?_cons, hold])]
    | none =>
      have hnone := hkept key List.mem_cons_self hk
      have hrest : ∃ key ∈ keys, (known' key).isSome := by
        obtain ⟨key', hk', hs⟩ := hsome
        rcases List.mem_cons.mp hk' with rfl | hk'
        · rw [hk] at hs
          cases hs
        · exact ⟨key', hk', hs⟩
      refine ih (fun first hf ↦ hfirst first ?_) (fun key' hk' ↦ hnew key' (List.mem_cons_of_mem _ hk'))
        (fun key' hk' ↦ hkept key' (List.mem_cons_of_mem _ hk')) hrest
      rw [List.findSome?_cons, hnone, hf]

/-- The id that was picked for some keys is the first known one of them afterwards. -/
theorem findSome?_idWhere_inserts {kind : Mapping → Bool}
    (hfirst : ∀ first, keys.findSome? (before.idWhere kind) = some first → first = id)
    (hid : ∀ m ∈ ms, m.key ∈ keys → m.id = id) (hkind : ∀ m ∈ ms, kind m)
    (hsome : ∃ key ∈ keys, ((ms.foldl insert before).idWhere kind key).isSome) :
    keys.findSome? ((ms.foldl insert before).idWhere kind) = some id := by
  refine findSome?_again hfirst (fun key hk found hf ↦ ?_) (fun key hk hnone ↦ ?_) hsome
  · obtain ⟨row, hrow, rfl⟩ := Option.map_eq_some_iff.mp hf
    obtain ⟨hr, hkr⟩ := Option.filter_eq_some_iff.mp hrow
    rcases row?_of_inserts hr with hold | hm
    · exact Or.inr (by rw [idWhere, hold, Option.filter_some, if_pos hkr, Option.map_some])
    · exact Or.inl (hid row hm (row?_key hr ▸ hk))
  · -- a row of the kind stays, or gives way to a mapping of the kind
    by_contra hknown
    obtain ⟨id, hid⟩ := Option.ne_none_iff_exists'.mp hknown
    obtain ⟨row, hrow, rfl⟩ := Option.map_eq_some_iff.mp hid
    obtain ⟨hr, hkr⟩ := Option.filter_eq_some_iff.mp hrow
    obtain ⟨now, hnow⟩ := Option.isSome_iff_exists.mp (isSome_inserts (by rw [hr]; rfl) ms)
    have hkn : kind now := by
      rcases row?_of_inserts hnow with hold | hm
      · rw [hr] at hold
        exact Option.some.inj hold ▸ hkr
      · exact hkind now hm
    rw [idWhere, hnow, Option.filter_some, if_pos hkn] at hnone
    cases hnone

end Known

end Mapping.Store

end ParkFusion
