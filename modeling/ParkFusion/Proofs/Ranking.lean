import Mathlib.Data.Prod.Lex
import Mathlib.Data.String.Basic
import ParkFusion.Proofs.Replies
import ParkFusion.Proofs.Sorting

namespace ParkFusion.Hub

variable {m : Type → Type} {hub hub' : Hub m} {a b c : Adapter m}

/-- What the ranking compares, smallest first: the position in the priority, the completeness turned
around, and the id. -/
def rankKey (hub : Hub m) (a : Adapter m) : ℕ ×ₗ ℤ ×ₗ String :=
  toLex (hub.position a, toLex (-(a.completeness.toNat : ℤ), a.id))

theorem ranksBefore_iff : hub.ranksBefore a b ↔ hub.rankKey a ≤ hub.rankKey b := by
  have hcompleteness : a.completeness = b.completeness ↔
      -(a.completeness.toNat : ℤ) = -(b.completeness.toNat : ℤ) := by
    rw [← UInt8.toNat_inj]
    omega
  have hricher : b.completeness < a.completeness ↔
      -(a.completeness.toNat : ℤ) < -(b.completeness.toNat : ℤ) := by
    rw [UInt8.lt_iff_toNat_lt]
    omega
  rw [rankKey, rankKey, Prod.Lex.toLex_le_toLex, Prod.Lex.toLex_le_toLex, ← hricher,
    ← hcompleteness, ← not_lt (a := b.id)]
  unfold ranksBefore
  by_cases hp : hub.position a = hub.position b
  · by_cases hc : a.completeness = b.completeness
    · simp [hp, hc]
    · simp [hp, hc]
  · simp [hp]

theorem rankKey_id (h : hub.rankKey a = hub.rankKey b) : a.id = b.id :=
  congrArg (fun key ↦ (ofLex (ofLex key).2).2) h

theorem ranked_pairwise (hub : Hub m) :
    hub.ranked.Pairwise fun a b ↦ hub.rankKey a ≤ hub.rankKey b := by
  have hle : ∀ a b, hub.ranksBefore a b ↔ hub.rankKey a ≤ hub.rankKey b :=
    fun _ _ ↦ ranksBefore_iff
  exact mergeSort_ascends hle hub.adapters

theorem ranked_perm (hub : Hub m) : hub.ranked.Perm hub.adapters :=
  List.mergeSort_perm hub.adapters hub.ranksBefore

theorem rankKey_congr (h : hub'.policy = hub.policy) (a : Adapter m) :
    hub'.rankKey a = hub.rankKey a := by
  simp only [rankKey, position, h]

theorem ranked_filter {p : Adapter m → Bool} (hd : (hub.adapters.map (·.id)).Nodup)
    (hp : hub'.adapters.Perm (hub.adapters.filter p)) (hpolicy : hub'.policy = hub.policy) :
    hub'.ranked = hub.ranked.filter p := by
  have hsorted : hub'.ranked.Pairwise fun a b ↦ hub.rankKey a ≤ hub.rankKey b := by
    refine hub'.ranked_pairwise.imp fun {a b} h ↦ ?_
    rwa [rankKey_congr hpolicy, rankKey_congr hpolicy] at h
  have hsame : hub'.ranked.Perm (hub.ranked.filter p) :=
    hub'.ranked_perm.trans (hp.trans (hub.ranked_perm.filter p).symm)
  -- no two sources share a key, so that there is one sorted list of them
  refine List.Perm.eq_of_pairwise ?_ hsorted (hub.ranked_pairwise.filter p) hsame
  intro a b ha hb hab hba
  have hmem : a ∈ hub.adapters := hub.ranked_perm.subset (List.mem_of_mem_filter (hsame.subset ha))
  have hmem' : b ∈ hub.adapters := hub.ranked_perm.subset (List.mem_of_mem_filter hb)
  exact List.inj_on_of_nodup_map hd hmem hmem' (rankKey_id (le_antisymm hab hba))

theorem ranking_filter {p : String → Bool} (hd : (hub.adapters.map (·.id)).Nodup)
    (hp : hub'.adapters.Perm (hub.adapters.filter (p ·.id))) (hpolicy : hub'.policy = hub.policy) :
    hub'.ranking = hub.ranking.filter p := by
  rw [ranking, ranked_filter hd hp hpolicy, ranking, List.filter_map]
  rfl

theorem register_new (h : a.id ∉ hub.adapters.map (·.id)) :
    (hub.register a).adapters = hub.adapters ++ [a] := by
  have hfree : ¬ hub.isRegistered a.id := by
    intro hr
    obtain ⟨b, hb, he⟩ := List.any_eq_true.mp hr
    exact h (List.mem_map.mpr ⟨b, hb, by simpa using he⟩)
  rw [register, if_neg hfree]

theorem ofAdapters_adapters (s : Settings) {adapters : List (Adapter m)}
    (hd : (adapters.map (·.id)).Nodup) : (ofAdapters s adapters).adapters = adapters := by
  have hfold : ∀ hub : Hub m, ((hub.adapters ++ adapters).map (·.id)).Nodup →
      (adapters.foldl register hub).adapters = hub.adapters ++ adapters := by
    clear hd
    induction adapters with
    | nil => exact fun hub _ ↦ (List.append_nil hub.adapters).symm
    | cons a adapters ih =>
      intro hub hd
      have hnew : a.id ∉ hub.adapters.map (·.id) := by
        rw [List.map_append, List.map_cons, List.nodup_append'] at hd
        exact fun hm ↦ hd.2.2 hm List.mem_cons_self
      have happend : (hub.register a).adapters ++ adapters = hub.adapters ++ a :: adapters := by
        rw [register_new hnew, List.append_assoc, List.singleton_append]
      rw [← happend] at hd ⊢
      exact ih (hub.register a) hd
  exact hfold (.ofSettings s) hd

end ParkFusion.Hub
