import Mathlib.Data.List.Chain
import ParkFusion.Name

namespace ParkFusion.Name

variable {w cs : List Char} {ws : List (List Char)} {c : Char}

def IsWord (w : List Char) : Prop := w ≠ [] ∧ ' ' ∉ w

theorem words_blank (cs : List Char) : words (' ' :: cs) = words cs := by
  rw [words, if_pos rfl]

/-- A letter begins a word of its own or goes on with the one that follows. -/
theorem words_cons_cases (hc : c ≠ ' ') (cs : List Char) :
    words (c :: cs) = [c] :: words cs ∨
      ∃ word others, words cs = word :: others ∧ words (c :: cs) = (c :: word) :: others := by
  rw [words, if_neg hc]
  split
  · rename_i d word others hd hw
    split
    · exact Or.inl (by rw [hw])
    · exact Or.inr ⟨word, others, hw, rfl⟩
  · exact Or.inl rfl

theorem isWord_of_mem_words (h : w ∈ words cs) : IsWord w := by
  induction cs generalizing w with
  | nil => simp [words] at h
  | cons c cs ih =>
    by_cases hc : c = ' '
    · rw [hc, words_blank] at h
      exact ih h
    · have hblank : ' ' ∉ [c] := by simpa using fun he ↦ hc he.symm
      rcases words_cons_cases hc cs with he | ⟨word, others, hw, he⟩
      · rw [he] at h
        rcases List.mem_cons.mp h with rfl | h
        · exact ⟨List.cons_ne_nil _ _, hblank⟩
        · exact ih h
      · rw [he] at h
        rcases List.mem_cons.mp h with rfl | h
        · have hword := ih (hw ▸ List.mem_cons_self : word ∈ words cs)
          refine ⟨List.cons_ne_nil _ _, fun hm ↦ ?_⟩
          rcases List.mem_cons.mp hm with he | hm
          · exact hc he.symm
          · exact hword.2 hm
        · exact ih (hw ▸ List.mem_cons_of_mem word h)

theorem words_flatten (cs : List Char) : (words cs).flatten = cs.filter (· ≠ ' ') := by
  induction cs with
  | nil => rfl
  | cons c cs ih =>
    by_cases hc : c = ' '
    · rw [hc, words_blank, ih]
      rfl
    · rw [List.filter_cons_of_pos (by simpa using hc), ← ih]
      rcases words_cons_cases hc cs with he | ⟨word, others, hw, he⟩
      · rw [he]
        rfl
      · rw [he, hw]
        rfl

/-- A word ends where the text does, or at a blank. -/
theorem words_append (hw : IsWord w) (hcs : cs = [] ∨ cs.head? = some ' ') :
    words (w ++ cs) = w :: words cs := by
  obtain ⟨hne, hblank⟩ := hw
  induction w with
  | nil => exact absurd rfl hne
  | cons c w ih =>
    have hc : c ≠ ' ' := fun he ↦ hblank (he ▸ List.mem_cons_self)
    rw [List.cons_append, words, if_neg hc]
    cases w with
    | nil =>
      rw [List.nil_append]
      rcases hcs with rfl | hcs
      · rfl
      · rw [hcs]
        cases words cs <;> rfl
    | cons d w =>
      have hd : d ≠ ' ' := fun he ↦ hblank (he ▸ List.mem_cons_of_mem _ List.mem_cons_self)
      rw [ih (List.cons_ne_nil d w) fun hm ↦ hblank (List.mem_cons_of_mem c hm), List.cons_append,
        List.head?_cons]
      exact if_neg hd

theorem unwords_cons (w v : List Char) (ws : List (List Char)) :
    unwords (w :: v :: ws) = w ++ ' ' :: unwords (v :: ws) := rfl

theorem words_unwords (h : ∀ w ∈ ws, IsWord w) : words (unwords ws) = ws := by
  induction ws with
  | nil => rfl
  | cons w ws ih =>
    have hw := h w List.mem_cons_self
    have hws := ih fun v hv ↦ h v (List.mem_cons_of_mem w hv)
    cases ws with
    | nil =>
      have hword := words_append hw (Or.inl rfl)
      rwa [List.append_nil] at hword
    | cons v ws => rw [unwords_cons, words_append hw (Or.inr rfl), words_blank, hws]

theorem mem_unwords : c ∈ unwords ws → c = ' ' ∨ c ∈ ws.flatten := by
  induction ws with
  | nil => exact fun h ↦ Or.inr h
  | cons w ws ih =>
    cases ws with
    | nil => exact fun h ↦ Or.inr (List.mem_flatten.mpr ⟨w, List.mem_cons_self, h⟩)
    | cons v ws =>
      rw [unwords_cons, List.mem_append, List.mem_cons, List.flatten_cons, List.mem_append]
      rintro (h | h | h)
      · exact Or.inr (Or.inl h)
      · exact Or.inl h
      · exact (ih h).imp_right Or.inr

theorem flatten_subset_unwords (ws : List (List Char)) : ws.flatten ⊆ unwords ws := by
  induction ws with
  | nil => exact List.Subset.refl _
  | cons w ws ih =>
    intro c hc
    cases ws with
    | nil => simpa [unwords] using hc
    | cons v ws =>
      rw [unwords_cons, List.mem_append, List.mem_cons]
      rw [List.flatten_cons, List.mem_append] at hc
      exact hc.imp_right fun h ↦ Or.inr (ih h)

/-- Single blanks only, and none at an end. -/
structure IsSpaced (cs : List Char) : Prop where
  first : cs.head? ≠ some ' '
  last : cs.getLast? ≠ some ' '
  single : cs.IsChain fun a b ↦ ¬ (a = ' ' ∧ b = ' ')

theorem IsWord.isSpaced (h : IsWord w) : IsSpaced w where
  first hw := h.2 (List.mem_of_head? hw)
  last hw := h.2 (List.mem_of_getLast? hw)
  single := by
    apply List.Pairwise.isChain
    exact List.pairwise_of_forall_mem_list fun a ha b _ hab ↦ h.2 (hab.1 ▸ ha)

theorem unwords_isSpaced (h : ∀ w ∈ ws, IsWord w) : IsSpaced (unwords ws) := by
  induction ws with
  | nil => exact ⟨by simp [unwords], by simp [unwords], .nil⟩
  | cons w ws ih =>
    have hw := h w List.mem_cons_self
    cases ws with
    | nil => exact hw.isSpaced
    | cons v ws =>
      have hws : ∀ w ∈ v :: ws, IsWord w := fun u hu ↦ h u (List.mem_cons_of_mem w hu)
      have hrest := ih hws
      have hne : unwords (v :: ws) ≠ [] := by
        intro he
        have hwords := words_unwords hws
        rw [he] at hwords
        cases hwords
      rw [unwords_cons]
      refine ⟨?_, ?_, List.isChain_append.mpr ⟨hw.isSpaced.single, List.isChain_cons.mpr ⟨?_, ?_⟩, ?_⟩⟩
      · rw [List.head?_append_of_ne_nil _ hw.1]
        exact hw.isSpaced.first
      · rw [List.getLast?_append_of_ne_nil _ (List.cons_ne_nil _ _),
          List.getLast?_cons_of_ne_nil hne]
        exact hrest.last
      · exact fun c hc hblank ↦ hrest.first (hblank.2 ▸ hc)
      · exact hrest.single
      · exact fun c hc _ _ hblank ↦ hw.isSpaced.last (hblank.1 ▸ hc)

end ParkFusion.Name
