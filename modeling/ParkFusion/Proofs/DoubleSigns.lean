import Mathlib

namespace ParkFusion.Double

open Float.Model UnpackedFloat

section Sign

variable (s t : Sign)

theorem neg_neg_sign : - -s = s := by
  cases s <;> rfl

theorem sign_mul_comm : s * t = t * s := by
  cases s <;> cases t <;> rfl

theorem neg_sign_mul : -s * t = -(s * t) := by
  cases s <;> cases t <;> rfl

theorem neg_sign_div : -s / t = -(s / t) := by
  cases s <;> cases t <;> rfl

theorem neg_sign_apply (n : ℤ) : (-s).apply n = -s.apply n := by
  cases s
  · exact (neg_neg n).symm
  · rfl

end Sign

section Unpacked

variable (x y : UnpackedFloat)

theorem unpacked_mul_comm : x.mul .binary64 y = y.mul .binary64 x := by
  cases x <;> cases y <;> simp only [UnpackedFloat.mul, sign_mul_comm, Nat.mul_comm, Int.add_comm]

theorem unpacked_neg_neg : x.neg.neg = x := by
  cases x <;> simp only [UnpackedFloat.neg, neg_neg_sign]

theorem roundWithAccuracy_neg (s : Sign) (m : ℕ) (e : ℤ) (accuracy : Accuracy) :
    roundWithAccuracy .binary64 (-s) m e accuracy =
      (roundWithAccuracy .binary64 s m e accuracy).neg := by
  unfold roundWithAccuracy
  dsimp only
  split <;> rfl

theorem unpacked_neg_mul : x.neg.mul .binary64 y = (x.mul .binary64 y).neg := by
  cases x <;> cases y <;>
    simp only [UnpackedFloat.mul, UnpackedFloat.neg, neg_sign_mul, roundWithAccuracy_neg]

theorem unpacked_neg_div : x.neg.div .binary64 y = (x.div .binary64 y).neg := by
  cases x <;> cases y <;>
    simp only [UnpackedFloat.div, UnpackedFloat.neg, neg_sign_div, roundWithAccuracy_neg]

/-- Of no difference at all the sign is lost. -/
theorem normalize_neg (m e : ℤ) :
    UnpackedFloat.normalize .binary64 (-m) e .positive =
        UnpackedFloat.normalize .binary64 m e .positive ∨
      UnpackedFloat.normalize .binary64 (-m) e .positive =
        (UnpackedFloat.normalize .binary64 m e .positive).neg := by
  rcases lt_trichotomy m 0 with hneg | rfl | hpos
  · right
    have hpos : 0 < -m := neg_pos.mpr hneg
    simp only [UnpackedFloat.normalize, compare_lt_iff_lt.mpr hneg, compare_gt_iff_gt.mpr hpos]
    exact roundWithAccuracy_neg .negative _ _ _
  · exact .inl rfl
  · right
    have hneg : -m < 0 := neg_lt_zero.mpr hpos
    simp only [UnpackedFloat.normalize, compare_gt_iff_gt.mpr hpos, compare_lt_iff_lt.mpr hneg,
      neg_neg]
    exact roundWithAccuracy_neg .positive _ _ _

theorem unpacked_sub_swap : x.sub .binary64 y = y.sub .binary64 x ∨
    x.sub .binary64 y = (y.sub .binary64 x).neg := by
  rcases x with s | _ | s | ⟨s, m, e, hm⟩ <;> rcases y with t | _ | t | ⟨t, n, f, hn⟩
  case finite.finite =>
    simp only [UnpackedFloat.sub]
    rw [min_comm e f, ← neg_sub (Sign.apply t _)]
    exact normalize_neg _ _
  case notANumber.infinity | notANumber.notANumber | notANumber.zero | notANumber.finite |
    infinity.notANumber | zero.notANumber | finite.notANumber => exact .inl rfl
  case infinity.infinity | zero.zero =>
    cases s <;> cases t
    · exact .inl rfl
    · exact .inr rfl
    · exact .inr rfl
    · exact .inl rfl
  case infinity.zero | infinity.finite | finite.zero =>
    cases s <;> exact .inr rfl
  case zero.infinity | finite.infinity | zero.finite => exact .inr rfl

theorem unpacked_neg_sub_comm : x.neg.sub .binary64 y = y.neg.sub .binary64 x := by
  rcases x with s | _ | s | ⟨s, m, e, hm⟩ <;> rcases y with t | _ | t | ⟨t, n, f, hn⟩
  case finite.finite =>
    simp only [UnpackedFloat.neg, UnpackedFloat.sub, neg_sign_apply]
    rw [min_comm e f, neg_sub_left, neg_sub_left, add_comm]
  case infinity.infinity | zero.zero => cases s <;> cases t <;> rfl
  all_goals rfl

end Unpacked

section Packed

theorem pack_unpack (x : Float.Model) : Float.Model.pack x.unpack = x := by
  obtain ⟨⟨bits⟩, hvalid⟩ := x
  simp only [Float.Model.pack, Float.Model.unpack, pack_unpack_of_valid hvalid]

theorem unpack_packComponents_neg (s : Sign) (e : BitVec 11) (m : BitVec 52) :
    UnpackedFloat.unpack .binary64 (packComponents .binary64 (-s) e m) =
      (UnpackedFloat.unpack .binary64 (packComponents .binary64 s e m)).neg := by
  unfold UnpackedFloat.unpack
  simp only [unpackSign_packComponents, unpackExponent_packComponents,
    unpackMantissa_packComponents, Sign.ofBitVec_toBitVec]
  split_ifs <;> rfl

/-- The sign stands apart from the other bits, whatever these are rounded to. -/
theorem unpack_pack_neg (x : UnpackedFloat) :
    (Float.Model.pack x.neg).unpack = (Float.Model.pack x).unpack.neg := by
  change UnpackedFloat.unpack _ (UnpackedFloat.pack _ x.neg) =
    (UnpackedFloat.unpack _ (UnpackedFloat.pack _ x)).neg
  cases x with
  | notANumber =>
    rw [UnpackedFloat.neg, UnpackedFloat.pack, unpack_packedNaN, UnpackedFloat.neg]
  | infinity s => exact unpack_packComponents_neg s _ _
  | zero s => exact unpack_packComponents_neg s _ _
  | finite s m e hm =>
    simp only [UnpackedFloat.neg, UnpackedFloat.pack]
    split_ifs
    · exact unpack_packComponents_neg s _ _
    · exact unpack_packComponents_neg s _ _
    · exact unpack_packComponents_neg s _ _

theorem pack_neg (x : UnpackedFloat) : Float.Model.pack x.neg = -Float.Model.pack x := by
  change _ = Float.Model.pack (Float.Model.pack x).unpack.neg
  rw [← unpack_pack_neg, pack_unpack]

end Packed

variable (x y : Float)

/-- The double that is stored for one that is spelled out. -/
def stored (x : UnpackedFloat) : Float := ⟨Float.Model.pack x⟩

theorem stored_neg (x : UnpackedFloat) : stored x.neg = -stored x :=
  congrArg Float.ofModel (pack_neg x)

theorem unpack_neg : (-x).toModel.unpack = x.toModel.unpack.neg := by
  change (Float.Model.pack x.toModel.unpack.neg).unpack = _
  rw [unpack_pack_neg, pack_unpack]

theorem mul_comm : x * y = y * x :=
  congrArg stored (unpacked_mul_comm x.toModel.unpack y.toModel.unpack)

theorem neg_mul : -x * y = -(x * y) := by
  change stored ((-x).toModel.unpack.mul .binary64 _) = -stored _
  rw [unpack_neg, unpacked_neg_mul, stored_neg]

theorem neg_div : -x / y = -(x / y) := by
  change stored ((-x).toModel.unpack.div .binary64 _) = -stored _
  rw [unpack_neg, unpacked_neg_div, stored_neg]

theorem neg_neg : - -x = x := by
  change stored (-x).toModel.unpack.neg = x
  rw [unpack_neg, unpacked_neg_neg]
  exact congrArg Float.ofModel (pack_unpack x.toModel)

theorem neg_mul_neg_self : -x * -x = x * x := by
  rw [neg_mul, mul_comm, neg_mul, neg_neg]

/-- Doubles that are equal have no difference either way, and its sign is positive both times. -/
theorem sub_swap : x - y = y - x ∨ x - y = -(y - x) := by
  change stored (x.toModel.unpack.sub .binary64 y.toModel.unpack) = stored _ ∨
    stored (x.toModel.unpack.sub .binary64 y.toModel.unpack) = -stored _
  rcases unpacked_sub_swap x.toModel.unpack y.toModel.unpack with h | h
  · exact .inl (congrArg stored h)
  · rw [h, stored_neg]
    exact .inr rfl

theorem neg_sub_comm : -x - y = -y - x := by
  change stored ((-x).toModel.unpack.sub .binary64 _) =
    stored ((-y).toModel.unpack.sub .binary64 _)
  rw [unpack_neg, unpack_neg, unpacked_neg_sub_comm]

end ParkFusion.Double
