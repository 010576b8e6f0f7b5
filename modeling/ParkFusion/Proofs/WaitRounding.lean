import Mathlib.Data.Rat.Floor
import Mathlib.Tactic.Linarith
import Mathlib.Tactic.Positivity
import ParkFusion.Wait

namespace ParkFusion.Wait

/-- A multiple of the step that lies as near to a value as any other; of two that are equally near
the greater. -/
structure IsNearest (value : ℚ) (step m : ℕ) : Prop where
  multiple : step ∣ m
  nearest : ∀ n, step ∣ n → |value - m| ≤ |value - n|
  halvesUp : ∀ n, step ∣ n → |value - n| = |value - m| → n ≤ m

/-- What a value is rounded to, before it has to be a wait. -/
def nearestMultiple (value : ℚ) (step : ℕ) : ℕ :=
  (value / step + 1 / 2).floor.toNat * step

section Nearest

variable {value : ℚ} {step m n : ℕ}

theorem add_step_le (hm : step ∣ m) (hn : step ∣ n) (h : m < n) : m + step ≤ n := by
  obtain ⟨d, hd⟩ := Nat.dvd_sub hn hm
  have hpos : d ≠ 0 := by
    rintro rfl
    omega
  have hle : step ≤ step * d := Nat.le_mul_of_pos_right step (Nat.pos_of_ne_zero hpos)
  omega

/-- Within half a step of a multiple, the lower end included, no other multiple is nearer. -/
theorem isNearest_of_within (hm : step ∣ m) (hlow : m - (step : ℚ) / 2 ≤ value)
    (hhigh : value < m + (step : ℚ) / 2) : IsNearest value step m := by
  have hdist : |value - m| ≤ (step : ℚ) / 2 := abs_le.mpr ⟨by linarith, by linarith⟩
  have habove : ∀ n, step ∣ n → m < n → |value - m| < |value - n| := by
    intro n hn hlt
    have hgap : (m : ℚ) + step ≤ n := by exact_mod_cast add_step_le hm hn hlt
    have hfar := neg_abs_le (value - n)
    linarith
  have hbelow : ∀ n, step ∣ n → n < m → |value - m| ≤ |value - n| := by
    intro n hn hlt
    have hgap : (n : ℚ) + step ≤ m := by exact_mod_cast add_step_le hn hm hlt
    have hfar := le_abs_self (value - n)
    linarith
  refine ⟨hm, fun n hn ↦ ?_, fun n hn heq ↦ ?_⟩
  · rcases Nat.lt_trichotomy n m with hlt | rfl | hlt
    · exact hbelow n hn hlt
    · exact le_rfl
    · exact (habove n hn hlt).le
  · by_contra hlt
    have hfar := habove n hn (Nat.lt_of_not_le hlt)
    linarith

theorem nearestMultiple_isNearest (hvalue : 0 ≤ value) (hstep : 0 < step) :
    IsNearest value step (nearestMultiple value step) := by
  have hpos : (0 : ℚ) < step := by exact_mod_cast hstep
  have hnonneg : 0 ≤ ⌊value / step + 1 / 2⌋ := Int.floor_nonneg.mpr (by positivity)
  have hcast : (nearestMultiple value step : ℚ) = ⌊value / step + 1 / 2⌋ * step := by
    have hfloor : ((⌊value / step + 1 / 2⌋.toNat : ℕ) : ℚ) = ⌊value / step + 1 / 2⌋ := by
      exact_mod_cast Int.toNat_of_nonneg hnonneg
    rw [← hfloor]
    exact Nat.cast_mul _ step
  have hscaled : (value / step + 1 / 2) * step = value + step / 2 := by
    rw [add_mul, div_mul_cancel₀ _ hpos.ne']
    ring
  have hlow := mul_le_mul_of_nonneg_right (Int.floor_le (value / step + 1 / 2)) hpos.le
  have hhigh := mul_lt_mul_of_pos_right (Int.lt_floor_add_one (value / step + 1 / 2)) hpos
  rw [hscaled] at hlow hhigh
  apply isNearest_of_within (Nat.dvd_mul_left step _)
  · rw [← nearestMultiple, hcast]
    linarith
  · rw [← nearestMultiple, hcast]
    linarith

end Nearest

theorem saturate_toNat (n : ℕ) : (saturate n).toNat = min n (UInt32.size - 1) := by
  have hlt : min n (UInt32.size - 1) < UInt32.size :=
    (min_le_right _ _).trans_lt (by decide)
  exact UInt32.toNat_ofNat_of_lt hlt

theorem roundToStep_toNat (value : ℚ) {step : UInt32} (hstep : 0 < step) :
    (roundToStep value step).toNat =
      min (nearestMultiple value step.toNat) (UInt32.size - 1) := by
  have hmax : max step.toNat 1 = step.toNat := Nat.max_eq_left (UInt32.lt_iff_toNat_lt.mp hstep)
  rw [roundToStep, saturate_toNat, hmax]
  rfl

/-- Some waits always come to something, and never to less than nothing. -/
theorem exists_consensus {waits : List UInt32} (hne : waits ≠ []) :
    ∃ raw, consensus waits = some raw ∧ 0 ≤ raw := by
  have hvalues : waits.map UInt32.toNat ≠ [] := by simpa using hne
  have hmean : ∀ a b, 0 ≤ mean a b := fun a b ↦ by
    unfold mean
    positivity
  unfold consensus
  split
  · contradiction
  · exact ⟨_, rfl, Nat.cast_nonneg _⟩
  · exact ⟨_, rfl, hmean _ _⟩
  · split_ifs <;> exact ⟨_, rfl, Nat.cast_nonneg _⟩
  · refine ⟨_, rfl, ?_⟩
    unfold median
    dsimp only
    split_ifs
    · exact hmean _ _
    · exact Nat.cast_nonneg _

theorem consensus_eq_none_iff {waits : List UInt32} : consensus waits = none ↔ waits = [] := by
  constructor
  · intro h
    by_contra hne
    obtain ⟨raw, hraw, -⟩ := exists_consensus hne
    cases h.symm.trans hraw
  · rintro rfl
    rfl

theorem resolve?_eq_none {waits : List UInt32} {step : UInt32} :
    resolve? waits step = none ↔ waits = [] := by
  rw [resolve?, Option.map_eq_none_iff, consensus_eq_none_iff]

/-- Waits come to the nearest multiple of the step, halves up, if that is a wait, and to the greatest
wait otherwise. -/
theorem resolve?_nearest {waits : List UInt32} {step : UInt32} (hne : waits ≠ [])
    (hstep : 0 < step) :
    ∃ raw wait m, consensus waits = some raw ∧ IsNearest raw step.toNat m ∧
      resolve? waits step = some wait ∧ wait.toNat = min m (UInt32.size - 1) := by
  obtain ⟨raw, hraw, hnonneg⟩ := exists_consensus hne
  refine ⟨raw, roundToStep raw step, nearestMultiple raw step.toNat, hraw, ?_, ?_, ?_⟩
  · exact nearestMultiple_isNearest hnonneg (UInt32.lt_iff_toNat_lt.mp hstep)
  · rw [resolve?, hraw, Option.map_some]
  · exact roundToStep_toNat raw hstep

example : resolve? [25, 30] 5 = some 30 := by decide +kernel

/-- The greatest wait need not be a multiple of the step. -/
theorem resolve?_not_multiple :
    ¬ ∀ (waits : List UInt32) (step : UInt32), waits ≠ [] → 0 < step →
      ∃ raw wait, consensus waits = some raw ∧ resolve? waits step = some wait ∧
        IsNearest raw step.toNat wait.toNat := by
  intro h
  obtain ⟨raw, wait, -, hwait, hnearest⟩ := h [4294967295] 20 (by decide) (by decide)
  have hgreatest : resolve? [4294967295] 20 = some 4294967295 := by decide +kernel
  obtain rfl : 4294967295 = wait := Option.some.inj (hgreatest.symm.trans hwait)
  have hmultiple := hnearest.multiple
  revert hmultiple
  decide

end ParkFusion.Wait
