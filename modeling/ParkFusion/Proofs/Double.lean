import Mathlib.Data.Prod.Lex
import Mathlib.Order.Compare

namespace ParkFusion.Double

open Float.Model

/-- The place of a double among all others: the sign and whether it is finite, then the exponent, then
the mantissa. What is no number has a place, too, which means nothing. -/
def rank : UnpackedFloat → ℤ ×ₗ ℤ ×ₗ ℤ
  | .infinity .negative => toLex (-2, toLex (0, 0))
  | .finite .negative m e _ => toLex (-1, toLex (-e, -m))
  | .zero _ => toLex (0, toLex (0, 0))
  | .finite .positive m e _ => toLex (1, toLex (e, m))
  | .infinity .positive => toLex (2, toLex (0, 0))
  | .notANumber => toLex (3, toLex (0, 0))

theorem isNaN_eq_false {x : UnpackedFloat} : x.isNaN = false ↔ x ≠ .notANumber := by
  cases x with
  | notANumber => exact ⟨fun h ↦ (nomatch h), fun h ↦ absurd rfl h⟩
  | infinity s => exact ⟨fun _ ↦ nofun, fun _ ↦ rfl⟩
  | zero s => exact ⟨fun _ ↦ nofun, fun _ ↦ rfl⟩
  | finite s m e hm => exact ⟨fun _ ↦ nofun, fun _ ↦ rfl⟩

theorem magnitudes_lt (e e' : ℤ) (m m' : ℕ) :
    (compare e e').then (compare m m') = .lt ↔ e < e' ∨ e = e' ∧ m < m' := by
  rw [Ordering.then_eq_lt, compare_lt_iff_lt, compare_eq_iff_eq, compare_lt_iff_lt]

theorem magnitudes_gt (e e' : ℤ) (m m' : ℕ) :
    (compare e e').then (compare m m') = .gt ↔ e' < e ∨ e = e' ∧ m' < m := by
  rw [Ordering.then_eq_gt, compare_gt_iff_gt, compare_eq_iff_eq, compare_gt_iff_gt]

theorem ne_notANumber_of_compare {x y : UnpackedFloat} (h : x.compare y = some .lt) :
    x ≠ .notANumber ∧ y ≠ .notANumber := by
  constructor
  · rintro rfl
    cases y <;> cases h
  · rintro rfl
    cases x <;> cases h

/-- Comparing numbers is comparing their places. -/
theorem compare_eq_lt {x y : UnpackedFloat} (hx : x ≠ .notANumber) (hy : y ≠ .notANumber) :
    x.compare y = some .lt ↔ rank x < rank y := by
  rcases x with (_ | _) | _ | (_ | _) | ⟨_ | _, m, e, hm⟩ <;>
    rcases y with (_ | _) | _ | (_ | _) | ⟨_ | _, m', e', hm'⟩
  case finite.positive.finite.positive =>
    dsimp only [UnpackedFloat.compare, rank]
    simp [Prod.Lex.toLex_lt_toLex, magnitudes_lt]
  case finite.negative.finite.negative =>
    dsimp only [UnpackedFloat.compare, rank]
    simp [Prod.Lex.toLex_lt_toLex, magnitudes_gt]
  case infinity.negative.infinity.positive =>
    dsimp only [UnpackedFloat.compare, rank]
    simp [Prod.Lex.toLex_lt_toLex]
    rfl
  all_goals try contradiction
  all_goals dsimp only [UnpackedFloat.compare, rank]
  all_goals simp [Prod.Lex.toLex_lt_toLex]

theorem swap_magnitudes (e e' : ℤ) (m m' : ℕ) :
    ((compare e e').then (compare m m')).swap = (compare e' e).then (compare m' m) := by
  have hexponents : (compare e e').swap = compare e' e := Std.OrientedCmp.eq_swap.symm
  have hmantissas : (compare m m').swap = compare m' m := Std.OrientedCmp.eq_swap.symm
  rw [Ordering.swap_then, hexponents, hmantissas]

theorem swap_compare (x y : UnpackedFloat) : (x.compare y).map Ordering.swap = y.compare x := by
  rcases x with (_ | _) | _ | (_ | _) | ⟨_ | _, m, e, hm⟩ <;>
    rcases y with (_ | _) | _ | (_ | _) | ⟨_ | _, m', e', hm'⟩
  case finite.positive.finite.positive => exact congrArg some (swap_magnitudes e e' m m')
  case finite.negative.finite.negative =>
    exact congrArg (some ·.swap) (swap_magnitudes e e' m m')
  all_goals rfl

/-- Numbers can be compared. -/
theorem exists_compare {x y : UnpackedFloat} (hx : x ≠ .notANumber) (hy : y ≠ .notANumber) :
    ∃ o, x.compare y = some o := by
  rcases x with (_ | _) | _ | (_ | _) | ⟨_ | _, m, e, hm⟩ <;>
    rcases y with (_ | _) | _ | (_ | _) | ⟨_ | _, m', e', hm'⟩
  all_goals try contradiction
  all_goals exact ⟨_, rfl⟩

theorem lt_iff_compare {x y : Float} :
    x < y ↔ x.toModel.unpack.compare y.toModel.unpack = some .lt :=
  ⟨fun h ↦ eq_of_beq (of_decide_eq_true h), fun h ↦ decide_eq_true (beq_iff_eq.mpr h)⟩

theorem le_iff_compare {x y : Float} :
    x ≤ y ↔ (x.toModel.unpack.compare y.toModel.unpack).any (·.isLE) = true :=
  ⟨fun h ↦ of_decide_eq_true h, fun h ↦ decide_eq_true h⟩

theorem lt_iff {x y : Float} : x < y ↔
    x.isNaN = false ∧ y.isNaN = false ∧ rank x.toModel.unpack < rank y.toModel.unpack := by
  have hnumber : ∀ z : Float, z.isNaN = false ↔ z.toModel.unpack ≠ .notANumber :=
    fun z ↦ isNaN_eq_false
  rw [lt_iff_compare, hnumber, hnumber]
  constructor
  · intro h
    obtain ⟨hx, hy⟩ := ne_notANumber_of_compare h
    exact ⟨hx, hy, (compare_eq_lt hx hy).mp h⟩
  · rintro ⟨hx, hy, hlt⟩
    exact (compare_eq_lt hx hy).mpr hlt

theorem le_of_not_lt {x y : Float} (hx : x.isNaN = false) (hy : y.isNaN = false) (h : ¬ y < x) :
    x ≤ y := by
  obtain ⟨o, ho⟩ := exists_compare (isNaN_eq_false.mp hx) (isNaN_eq_false.mp hy)
  rw [lt_iff_compare, ← swap_compare, ho] at h
  rw [le_iff_compare, ho]
  cases o with
  | gt => exact absurd rfl h
  | lt => rfl
  | eq => rfl

/-- Of two doubles at most one is the lesser. For a double that is no number neither is. -/
theorem lt_asymm {x y : Float} (h : x < y) : ¬ y < x := by
  intro hyx
  exact (lt_iff.mp h).2.2.asymm (lt_iff.mp hyx).2.2

theorem lt_trans {x y z : Float} (hxy : x < y) (hyz : y < z) : x < z := by
  obtain ⟨hx, -, hlt⟩ := lt_iff.mp hxy
  obtain ⟨-, hz, hlt'⟩ := lt_iff.mp hyz
  exact lt_iff.mpr ⟨hx, hz, hlt.trans hlt'⟩

/-- A number lies below the greater or above the lesser of two doubles. -/
theorem lt_or_lt {x y z : Float} (hxy : x < y) (hz : z.isNaN = false) : x < z ∨ z < y := by
  obtain ⟨hx, hy, hlt⟩ := lt_iff.mp hxy
  rcases lt_or_ge (rank x.toModel.unpack) (rank z.toModel.unpack) with h | h
  · exact Or.inl (lt_iff.mpr ⟨hx, hz, h⟩)
  · exact Or.inr (lt_iff.mpr ⟨hz, hy, h.trans_lt hlt⟩)

end ParkFusion.Double
