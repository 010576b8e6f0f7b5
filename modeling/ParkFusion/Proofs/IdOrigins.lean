import Mathlib.Order.Interval.Set.Basic
import ParkFusion.Proofs.Proposals

namespace ParkFusion

open Mapping (Store)

namespace IdSupply

variable {s t : IdSupply} {id : Uuid}

/-- The greater of two supplies is the lesser one after further draws. -/
instance : Preorder IdSupply where
  le s t := s.id = t.id ∧ s.used ≤ t.used
  le_refl s := ⟨rfl, le_rfl⟩
  le_trans _ _ _ h h' := ⟨h.1.trans h'.1, h.2.trans h'.2⟩

def Gave (s : IdSupply) (id : Uuid) : Prop :=
  ∃ n < s.used, s.id n = id

/-- No two draws so far gave the same id. -/
def Distinct (s : IdSupply) : Prop :=
  Set.InjOn s.id (Set.Iio s.used)

theorem Gave.mono (h : s.Gave id) (hle : s ≤ t) : t.Gave id := by
  obtain ⟨n, hn, rfl⟩ := h
  exact ⟨n, hn.trans_le hle.2, congrFun hle.1.symm n⟩

theorem Distinct.mono (h : t.Distinct) (hle : s ≤ t) : s.Distinct := by
  intro n hn k hk he
  rw [hle.1] at he
  exact h (Set.Iio_subset_Iio hle.2 hn) (Set.Iio_subset_Iio hle.2 hk) he

theorem orNew_le (s : IdSupply) (known : Option Uuid) : s ≤ (s.orNew known).2 := by
  cases known with
  | none => exact ⟨rfl, Nat.le_succ _⟩
  | some id => exact le_refl s

theorem orNew_none_gave (s : IdSupply) : (s.orNew none).2.Gave (s.orNew none).1 :=
  ⟨s.used, Nat.lt_succ_self _, rfl⟩

theorem Distinct.not_gave (h : t.Distinct) (hle : (s.orNew none).2 ≤ t) :
    ¬ s.Gave (s.orNew none).1 := by
  rintro ⟨n, hn, hid⟩
  have hused : s.used < t.used := hle.2
  have hid : t.id n = t.id s.used := by
    rw [← hle.1]
    exact hid
  exact hn.ne (h (hn.trans hused) hused hid)

end IdSupply

section Stages

variable {α β γ δ : Type} {f : IdSupply → α → β × IdSupply} {supply : IdSupply}

/-- The elements of a list, each with the supply that it finds in `assign`. -/
def stages (f : IdSupply → α → β × IdSupply) : IdSupply → List α → List (α × IdSupply)
  | _, [] => []
  | supply, a :: rest => (a, supply) :: stages f (f supply a).2 rest

theorem assign_fst (f : IdSupply → α → β × IdSupply) (supply : IdSupply) (l : List α) :
    (assign f supply l).1 = (stages f supply l).map fun x ↦ (f x.2 x.1).1 := by
  induction l generalizing supply with
  | nil => rfl
  | cons a l ih => exact congrArg ((f supply a).1 :: ·) (ih _)

theorem stages_append (f : IdSupply → α → β × IdSupply) (supply : IdSupply) (l l' : List α) :
    stages f supply (l ++ l') = stages f supply l ++ stages f (assign f supply l).2 l' := by
  induction l generalizing supply with
  | nil => rfl
  | cons a l ih => exact congrArg ((a, supply) :: ·) (ih _)

theorem fst_mem_of_mem_stages {l : List α} {x : α × IdSupply} (h : x ∈ stages f supply l) :
    x.1 ∈ l := by
  induction l generalizing supply with
  | nil => cases h
  | cons a l ih =>
    rcases List.mem_cons.mp h with rfl | h
    · exact List.mem_cons_self
    · exact List.mem_cons_of_mem a (ih h)

section Map

variable {g : γ → α} {h : IdSupply → γ → δ × IdSupply} (heq : ∀ s c, (h s c).2 = (f s (g c)).2)
include heq

theorem stages_map (supply : IdSupply) (l : List γ) :
    stages f supply (l.map g) = (stages h supply l).map fun x ↦ (g x.1, x.2) := by
  induction l generalizing supply with
  | nil => rfl
  | cons c l ih => rw [List.map_cons, stages, stages, List.map_cons, ih, heq]

theorem assign_map_snd (supply : IdSupply) (l : List γ) :
    (assign f supply (l.map g)).2 = (assign h supply l).2 := by
  induction l generalizing supply with
  | nil => rfl
  | cons c l ih =>
    calc (assign f supply ((c :: l).map g)).2
        = (assign f (f supply (g c)).2 (l.map g)).2 := rfl
      _ = (assign f (h supply c).2 (l.map g)).2 := by rw [heq]
      _ = (assign h (h supply c).2 l).2 := ih _

end Map

variable (hf : ∀ s a, s ≤ (f s a).2)
include hf

theorem assign_le (supply : IdSupply) (l : List α) : supply ≤ (assign f supply l).2 := by
  induction l generalizing supply with
  | nil => exact le_refl supply
  | cons a l ih => exact (hf supply a).trans (ih _)

theorem stage_bounds {l : List α} {x : α × IdSupply} (h : x ∈ stages f supply l) :
    supply ≤ x.2 ∧ (f x.2 x.1).2 ≤ (assign f supply l).2 := by
  induction l generalizing supply with
  | nil => cases h
  | cons a l ih =>
    rcases List.mem_cons.mp h with rfl | h
    · exact ⟨le_refl _, assign_le hf _ l⟩
    · obtain ⟨hl, hr⟩ := ih h
      exact ⟨(hf supply a).trans hl, hr⟩

/-- Of two elements the later one finds the supply that the earlier one left, or a further one. -/
theorem stages_ordered {l : List α} {x y : α × IdSupply} (hx : x ∈ stages f supply l)
    (hy : y ∈ stages f supply l) : x = y ∨ (f x.2 x.1).2 ≤ y.2 ∨ (f y.2 y.1).2 ≤ x.2 := by
  induction l generalizing supply with
  | nil => cases hx
  | cons a l ih =>
    rcases List.mem_cons.mp hx with rfl | hx <;> rcases List.mem_cons.mp hy with rfl | hy
    · exact Or.inl rfl
    · exact Or.inr (Or.inl (stage_bounds hf hy).1)
    · exact Or.inr (Or.inr (stage_bounds hf hx).1)
    · exact ih hx hy

end Stages

/-- One of two keys is the other, or both belong to one family. -/
def Key.Together (families : List (List Key)) (k k' : Key) : Prop :=
  k = k' ∨ ∃ family ∈ families, k ∈ family ∧ k' ∈ family

theorem Key.Together.symm {families : List (List Key)} {k k' : Key}
    (h : Together families k k') : Together families k' k := by
  rcases h with rfl | ⟨family, hf, hk, hk'⟩
  · exact Or.inl rfl
  · exact Or.inr ⟨family, hf, hk', hk⟩

/-- Keys that are to get one id: the one that the first known of the consulted keys has. -/
structure Portion where
  consulted : List Key
  keys : Set Key
  consulted_mem : ∀ k ∈ consulted, k ∈ keys

def Portion.pick (known : Key → Option Uuid) (supply : IdSupply) (p : Portion) :
    Uuid × IdSupply :=
  supply.orNew (p.consulted.findSome? known)

theorem Portion.pick_le (known : Key → Option Uuid) (supply : IdSupply) (p : Portion) :
    supply ≤ (p.pick known supply).2 :=
  supply.orNew_le _

/-- Every mapping has the id that was picked for a portion with its key. -/
def Apportioned (known : Key → Option Uuid) (supply : IdSupply) (portions : List Portion)
    (ms : List Mapping) : Prop :=
  ∀ m ∈ ms, ∃ x ∈ stages (Portion.pick known) supply portions,
    m.key ∈ x.1.keys ∧ m.id = (x.1.pick known x.2).1

theorem Mapping.Store.carries_of_inserts {store : Store} {ms : List Mapping} {key : Key}
    {id : Uuid} (h : (ms.foldl Store.insert store).Carries key id) :
    store.Carries key id ∨ ∃ m ∈ ms, m.key = key ∧ m.id = id := by
  obtain ⟨row, hr, hid⟩ := h
  rcases row?_of_inserts hr with hold | hm
  · exact Or.inl ⟨row, hold, hid⟩
  · exact Or.inr ⟨row, hm, row?_key hr, hid⟩

namespace Apportioned

variable {known : Key → Option Uuid} {supply : IdSupply} {portions : List Portion}
variable {ms : List Mapping} {store : Store} {families : List (List Key)} {k k' : Key} {id : Uuid}

/-- Before some mappings are stored, the id is at the key or at one that comes together with it. -/
def Brought (families : List (List Key)) (store : Store) (k : Key) (id : Uuid) : Prop :=
  ∃ j, Key.Together families k j ∧ store.Carries j id

def Drawn (known : Key → Option Uuid) (supply : IdSupply) (portions : List Portion) (k : Key)
    (id : Uuid) : Prop :=
  ∃ x ∈ stages (Portion.pick known) supply portions,
    k ∈ x.1.keys ∧ ¬ x.2.Gave id ∧ (x.1.pick known x.2).2.Gave id

variable (hms : Apportioned known supply portions ms)
variable (hknown : ∀ key id, known key = some id → store.Carries key id)
variable (htogether : ∀ p ∈ portions, ∀ k ∈ p.keys, ∀ k' ∈ p.keys, Key.Together families k k')
variable (hdistinct : (assign (Portion.pick known) supply portions).2.Distinct)

include hms hknown htogether hdistinct in
theorem brought_or_drawn (h : (ms.foldl Store.insert store).Carries k id) :
    Brought families store k id ∨ Drawn known supply portions k id := by
  rcases Store.carries_of_inserts h with h | ⟨m, hm, rfl, rfl⟩
  · exact Or.inl ⟨k, Or.inl rfl, h⟩
  · obtain ⟨x, hx, hk, hid⟩ := hms m hm
    rw [hid]
    cases hfound : x.1.consulted.findSome? known with
    | some known =>
      obtain ⟨j, hj, hjk⟩ := List.exists_of_findSome?_eq_some hfound
      refine Or.inl ⟨j, ?_, ?_⟩
      · exact htogether x.1 (fst_mem_of_mem_stages hx) _ hk j (x.1.consulted_mem j hj)
      · rw [Portion.pick, hfound]
        exact hknown j known hjk
    | none =>
      have hle := (stage_bounds (Portion.pick_le known) hx).2
      refine Or.inr ⟨x, hx, hk, ?_⟩
      rw [Portion.pick, hfound] at hle ⊢
      exact ⟨hdistinct.not_gave hle, x.2.orNew_none_gave⟩

include htogether in
theorem together_of_drawn (h : Drawn known supply portions k id)
    (h' : Drawn known supply portions k' id) : Key.Together families k k' := by
  obtain ⟨x, hx, hk, hnew, hgave⟩ := h
  obtain ⟨y, hy, hk', hnew', hgave'⟩ := h'
  -- of two draws the later one does not give what the earlier one gave
  rcases stages_ordered (Portion.pick_le known) hx hy with rfl | hle | hle
  · exact htogether x.1 (fst_mem_of_mem_stages hx) k hk k' hk'
  · exact absurd (hgave.mono hle) hnew'
  · exact absurd (hgave'.mono hle) hnew

theorem not_drawn_of_brought (hgave : ∀ key id, store.Carries key id → supply.Gave id)
    (h : Brought families store k id) : ¬ Drawn known supply portions k' id := by
  rintro ⟨x, hx, -, hnew, -⟩
  obtain ⟨j, -, hj⟩ := h
  exact hnew ((hgave j id hj).mono (stage_bounds (Portion.pick_le known) hx).1)

include hms hknown htogether hdistinct in
/-- Two keys come under one id only if they are together, or if each of them is together with a key
that had this id before. -/
theorem shared (hgave : ∀ key id, store.Carries key id → supply.Gave id)
    (h : (ms.foldl Store.insert store).Carries k id)
    (h' : (ms.foldl Store.insert store).Carries k' id) :
    Key.Together families k k' ∨
      Brought families store k id ∧ Brought families store k' id := by
  rcases brought_or_drawn hms hknown htogether hdistinct h with hk | hk <;>
    rcases brought_or_drawn hms hknown htogether hdistinct h' with hk' | hk'
  · exact Or.inr ⟨hk, hk'⟩
  · exact absurd hk' (not_drawn_of_brought hgave hk)
  · exact absurd hk (not_drawn_of_brought hgave hk')
  · exact Or.inl (together_of_drawn htogether hk hk')

include hms in
theorem gave (hknown : ∀ key id, known key = some id → store.Carries key id)
    (hgave : ∀ key id, store.Carries key id → supply.Gave id)
    (h : (ms.foldl Store.insert store).Carries k id) :
    (assign (Portion.pick known) supply portions).2.Gave id := by
  rcases Store.carries_of_inserts h with h | ⟨m, hm, -, rfl⟩
  · exact (hgave k id h).mono (assign_le (Portion.pick_le known) supply portions)
  · obtain ⟨x, hx, -, hid⟩ := hms m hm
    obtain ⟨hl, hr⟩ := stage_bounds (Portion.pick_le known) hx
    rw [hid]
    refine IdSupply.Gave.mono ?_ hr
    cases hfound : x.1.consulted.findSome? known with
    | some known =>
      obtain ⟨j, -, hjk⟩ := List.exists_of_findSome?_eq_some hfound
      have hstored := (hgave j known (hknown j known hjk)).mono hl
      rw [Portion.pick, hfound]
      exact hstored
    | none =>
      rw [Portion.pick, hfound]
      exact x.2.orNew_none_gave

end Apportioned

end ParkFusion
