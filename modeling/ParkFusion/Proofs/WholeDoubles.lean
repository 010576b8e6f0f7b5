import ParkFusion.Proofs.Double
import ParkFusion.Proofs.DoubleSigns
import ParkFusion.Wait

namespace ParkFusion.Double

open Float.Model UnpackedFloat

section Bits

variable (bits : BitVec (Format.numBits .binary64))

def isNegative : Sign → Bool
  | .negative => true
  | .positive => false

/-- What an unpacked double says. Zero has the exponent of the least doubles. -/
def toBinary : UnpackedFloat → Decimal.Binary
  | .notANumber => .undefined
  | .infinity s => .infinite (isNegative s)
  | .zero s => .finite (isNegative s) 0 (-1074)
  | .finite s m e _ => .finite (isNegative s) m e

theorem toNat_unpackExponent :
    (unpackExponent bits).toNat = bits.toNat / Decimal.Binary.hiddenBit % 2048 := by
  simp [unpackExponent, BitVec.extractLsb, Nat.shiftRight_eq_div_pow, Decimal.Binary.hiddenBit]

theorem toNat_unpackMantissa :
    (unpackMantissa bits).toNat = bits.toNat % Decimal.Binary.hiddenBit := by
  simp [unpackMantissa, BitVec.extractLsb, Decimal.Binary.hiddenBit]

theorem toNat_unpackSign : (unpackSign bits).toNat = bits.toNat / 9223372036854775808 := by
  have hlt : bits.toNat < 18446744073709551616 := bits.isLt
  have hmod : (unpackSign bits).toNat = bits.toNat / 9223372036854775808 % 2 := by
    simp [unpackSign, BitVec.extractLsb, Nat.shiftRight_eq_div_pow]
  omega

theorem isNegative_unpackSign :
    isNegative (Sign.ofBitVec (unpackSign bits)) = decide (9223372036854775808 ≤ bits.toNat) := by
  have hsign := toNat_unpackSign bits
  rw [Sign.ofBitVec]
  split_ifs with h
  · have hzero : (unpackSign bits).toNat = 0 := congrArg BitVec.toNat h
    exact (decide_eq_false (by omega)).symm
  · have hzero : (unpackSign bits).toNat ≠ 0 := fun hzero ↦ h (BitVec.eq_of_toNat_eq hzero)
    exact (decide_eq_true (by omega)).symm

theorem append_hiddenBit (m : BitVec 52) :
    (1#1 ++ m).toNat = Decimal.Binary.hiddenBit + m.toNat := by
  rw [BitVec.toNat_append, ← Nat.shiftLeft_add_eq_or_of_lt m.isLt]
  rfl

theorem toBinary_unpack : toBinary (UnpackedFloat.unpack .binary64 bits) =
    let negative := decide (9223372036854775808 ≤ bits.toNat)
    let scale := bits.toNat / Decimal.Binary.hiddenBit % 2048
    let low := bits.toNat % Decimal.Binary.hiddenBit
    if scale = 2047 then if low = 0 then .infinite negative else .undefined
    else if scale = 0 then .finite negative low (-1074)
    else .finite negative (Decimal.Binary.hiddenBit + low) (scale - 1075) := by
  have hones : unpackExponent bits = -1#_ ↔ (unpackExponent bits).toNat = 2047 :=
    BitVec.toNat_inj.symm
  have hzeros : unpackExponent bits = 0#_ ↔ (unpackExponent bits).toNat = 0 :=
    BitVec.toNat_inj.symm
  have hlow : unpackMantissa bits = 0#_ ↔ (unpackMantissa bits).toNat = 0 :=
    BitVec.toNat_inj.symm
  rw [toNat_unpackExponent] at hones hzeros
  rw [toNat_unpackMantissa] at hlow
  unfold UnpackedFloat.unpack
  simp only [hones, hzeros, hlow]
  split_ifs with _ _ hscale hzero
  all_goals simp only [toBinary, isNegative_unpackSign, append_hiddenBit, toNat_unpackMantissa,
    toNat_unpackExponent]
  · rw [hzero]
  · rw [hscale]
    rfl
  · rfl

/-- Reading the bits of a double is unpacking it. -/
theorem ofFloat_eq_toBinary (x : Float) :
    Decimal.Binary.ofFloat x = toBinary x.toModel.unpack :=
  (toBinary_unpack x.toModel.toBits.toBitVec).symm

end Bits

section Normal

variable {s : Sign} {m : ℕ} {e : ℤ}

theorem targetExponent_eq (n : ℤ) : Format.binary64.targetExponent n = max (n - 53) (-1074) := rfl

theorem shiftToTargetExponent_of_log2 (hm : m.log2 = 52) (he : -1074 ≤ e) :
    shiftToTargetExponent .binary64 m e .exact = (⟨m, false, false⟩, e) := by
  have htarget : Format.binary64.targetExponent (totalExponent m e) = e := by
    rw [targetExponent_eq, totalExponent, hm]
    omega
  rw [shiftToTargetExponent, htarget, shiftToExponent]
  simp [HShiftRight.hShiftRight, Nat.repeat, ExtendedMantissa.ofMantissaAndAccuracy]

theorem shiftToTargetExponent_two_mul (hm : m.log2 = 52) (he : -1074 ≤ e) (hpos : 0 < m) :
    shiftToTargetExponent .binary64 (2 * m) (e - 1) .exact = (⟨m, false, false⟩, e) := by
  have htarget : Format.binary64.targetExponent (totalExponent (2 * m) (e - 1)) = e := by
    rw [targetExponent_eq, totalExponent, Nat.log2_two_mul hpos.ne', hm]
    omega
  rw [shiftToTargetExponent, htarget, shiftToExponent]
  simp [HShiftRight.hShiftRight, Nat.repeat, ExtendedMantissa.ofMantissaAndAccuracy,
    ExtendedMantissa.shiftRightOne]

/-- What comes to a mantissa of 53 bits without any rest is kept. -/
theorem roundWithAccuracy_of_shift {n : ℕ} {f : ℤ}
    (hshift : shiftToTargetExponent .binary64 n f .exact = (⟨m, false, false⟩, e))
    (hm : m.log2 = 52) (he : -1074 ≤ e) (hpos : 0 < m) :
    roundWithAccuracy .binary64 s n f .exact = .finite s m e hpos := by
  unfold roundWithAccuracy
  simp only [hshift, ExtendedMantissa.roundedMantissa, ExtendedMantissa.accuracy,
    Accuracy.roundToNearestEven, shiftToTargetExponent_of_log2 hm he]
  rw [dif_neg hpos.ne']

theorem pack_of_log2 (hm : m.log2 = 52) (he : -1074 ≤ e) (he' : e ≤ 971) (hpos : 0 < m) :
    UnpackedFloat.pack .binary64 (.finite s m e hpos) =
      packComponents .binary64 s (BitVec.ofNat 11 (e + 1075).toNat) (BitVec.ofNat 52 m) := by
  have hbias : e + Format.binary64.exponentBias + Format.binary64.mantissaBitsWithoutImplicit =
      e + 1075 := by
    change e + 1023 + 52 = e + 1075
    omega
  have hfits : ¬ 2 ^ Format.binary64.exponentBits ≤ (e + 1075).toNat + 1 := by
    change ¬ 2048 ≤ (e + 1075).toNat + 1
    omega
  have hbits : m.log2 + 1 = Format.binary64.mantissaBits := congrArg (· + 1) hm
  unfold UnpackedFloat.pack
  simp only [hbias]
  rw [if_neg hfits, if_pos hbits]

theorem unpack_pack_of_log2 (hm : m.log2 = 52) (he : -1074 ≤ e) (he' : e ≤ 971) (hpos : 0 < m) :
    (Float.Model.pack (.finite s m e hpos)).unpack = .finite s m e hpos := by
  obtain ⟨hlow, hhigh⟩ := (Nat.log2_eq_iff hpos.ne').mp hm
  have hscale : (BitVec.ofNat 11 (e + 1075).toNat).toNat = (e + 1075).toNat :=
    Nat.mod_eq_of_lt (by omega)
  have hones : BitVec.ofNat 11 (e + 1075).toNat ≠ -1#_ := by
    intro h
    have h2047 : (e + 1075).toNat = 2047 := hscale.symm.trans (congrArg BitVec.toNat h)
    omega
  have hzeros : BitVec.ofNat 11 (e + 1075).toNat ≠ 0#_ := by
    intro h
    have h0 : (e + 1075).toNat = 0 := hscale.symm.trans (congrArg BitVec.toNat h)
    omega
  have hmantissa : (1#1 ++ BitVec.ofNat 52 m).toNat = m := by
    rw [append_hiddenBit, BitVec.toNat_ofNat, Decimal.Binary.hiddenBit]
    omega
  have hexponent : ((e + 1075).toNat : ℤ) - (1023 + 52) = e := by omega
  change UnpackedFloat.unpack _ (UnpackedFloat.pack _ _) = _
  rw [pack_of_log2 hm he he' hpos]
  unfold UnpackedFloat.unpack
  simp only [unpackSign_packComponents, unpackExponent_packComponents,
    unpackMantissa_packComponents, Sign.ofBitVec_toBitVec]
  rw [if_neg hones, if_neg hzeros]
  simp only [hmantissa, hscale]
  exact congrArg (UnpackedFloat.finite s m · hpos) hexponent

/-- The other number is the double of one. -/
theorem divCore_one (hm : m.log2 = 52) (he : -1073 ≤ e) :
    divCore .binary64 m e (2 ^ 52) (-52) = (2 * m, e - 1, .exact) := by
  have htarget : min (e - -52) (Format.binary64.targetExponent
      (totalExponent m e - totalExponent (2 ^ 52) (-52))) = e - 1 := by
    rw [targetExponent_eq, totalExponent, totalExponent, hm, Nat.log2_two_pow]
    omega
  have hplaces : (e - -52 - (e - 1)).toNat = 53 := by omega
  have hshift : m <<< 53 = 2 * m * 2 ^ 52 := by
    rw [Nat.shiftLeft_eq]
    omega
  simp only [divCore, htarget, hplaces, hshift]
  rw [Nat.mul_div_cancel _ (by decide), Nat.mul_mod_left]
  rfl

end Normal

section Whole

variable {n : ℕ} {k : UInt32}

theorem log2_shiftLeft (hn : 0 < n) (places : ℕ) : (n <<< places).log2 = n.log2 + places := by
  induction places with
  | zero => rfl
  | succ places ih =>
    have hpos : 0 < n <<< places := Nat.shiftLeft_pos_iff.mpr hn
    rw [Nat.shiftLeft_succ, Nat.log2_two_mul hpos.ne', ih, Nat.add_assoc]

/-- A natural number below 2 to the 53 is moved up until it has 53 bits. -/
theorem round_natural (hn : 0 < n) (hlog : n.log2 ≤ 52) :
    UnpackedFloat.round .binary64 .positive n 0 =
      .finite .positive (n <<< (52 - n.log2)) (n.log2 - 52) (Nat.shiftLeft_pos_iff.mpr hn) := by
  have htarget : Format.binary64.targetExponent (totalExponent n 0) = n.log2 - 52 := by
    rw [targetExponent_eq, totalExponent]
    omega
  have hplaces : (0 - ((n.log2 : ℤ) - 52)).toNat = 52 - n.log2 := by omega
  have hexponent : (0 : ℤ) - (52 - n.log2 : ℕ) = n.log2 - 52 := by omega
  have hmantissa : (n <<< (52 - n.log2)).log2 = 52 := by
    rw [log2_shiftLeft hn]
    omega
  have hbound : -1074 ≤ (n.log2 : ℤ) - 52 := by omega
  rw [UnpackedFloat.round, htarget, decreaseExponent, hplaces]
  dsimp only
  rw [hexponent]
  exact roundWithAccuracy_of_shift (shiftToTargetExponent_of_log2 hmantissa hbound) hmantissa
    hbound _

theorem log2_toNat_lt (hk : 0 < k.toNat) : k.toNat.log2 < 32 :=
  (Nat.log2_lt hk.ne').mpr k.toNat_lt

theorem log2_mantissa (hk : 0 < k.toNat) : (k.toNat <<< (52 - k.toNat.log2)).log2 = 52 := by
  have hlog := log2_toNat_lt hk
  rw [log2_shiftLeft hk]
  omega

theorem unpack_toFloat (hk : 0 < k.toNat) : k.toFloat.toModel.unpack =
    .finite .positive (k.toNat <<< (52 - k.toNat.log2)) (k.toNat.log2 - 52)
      (Nat.shiftLeft_pos_iff.mpr hk) := by
  have hlog := log2_toNat_lt hk
  change (Float.Model.pack (UnpackedFloat.normalize .binary64 k.toNat 0 .positive)).unpack = _
  rw [UnpackedFloat.normalize, compare_gt_iff_gt.mpr (Int.natCast_pos.mpr hk)]
  dsimp only
  rw [Int.toNat_natCast, round_natural hk (by omega)]
  exact unpack_pack_of_log2 (log2_mantissa hk) (by omega) (by omega) _

theorem unpack_toFloat_div_one (hk : 0 < k.toNat) :
    (k.toFloat / (1 : UInt32).toFloat).toModel.unpack = k.toFloat.toModel.unpack := by
  have hlog := log2_toNat_lt hk
  have hone : (1 : UInt32).toFloat.toModel.unpack = .finite .positive (2 ^ 52) (-52) (by decide) :=
    unpack_toFloat (by decide)
  have hm := log2_mantissa hk
  have he : -1074 ≤ (k.toNat.log2 : ℤ) - 52 := by omega
  have hpos : 0 < k.toNat <<< (52 - k.toNat.log2) := Nat.shiftLeft_pos_iff.mpr hk
  have hcore := divCore_one hm (show -1073 ≤ (k.toNat.log2 : ℤ) - 52 by omega)
  change (Float.Model.pack (UnpackedFloat.div .binary64 k.toFloat.toModel.unpack _)).unpack = _
  rw [hone, unpack_toFloat hk]
  simp only [UnpackedFloat.div, hcore]
  change (Float.Model.pack (roundWithAccuracy .binary64 .positive _ _ _)).unpack = _
  rw [roundWithAccuracy_of_shift (shiftToTargetExponent_two_mul hm he hpos) hm he hpos]
  exact unpack_pack_of_log2 hm he (by omega) hpos

theorem roundUp_mul {d : ℕ} (hd : 0 < d) : Decimal.roundUp (n * d) d = n := by
  have hsplit : 2 * (n * d) + d = d + 2 * d * n := by ring
  rw [Decimal.roundUp, hsplit, Nat.add_mul_div_left _ _ (by omega), Nat.div_eq_of_lt (by omega),
    Nat.zero_add]

theorem eq_zero_or_pos (k : UInt32) : k = 0 ∨ 0 < k.toNat :=
  (Nat.eq_zero_or_pos k.toNat).imp_left UInt32.toNat_inj.mp

/-- A whole number of 32 bits is rounded to itself. -/
theorem roundFloatToStep_toFloat (k : UInt32) : Wait.roundFloatToStep k.toFloat 1 = k := by
  rcases eq_zero_or_pos k with rfl | hk
  · decide +kernel
  have hlog := log2_toNat_lt hk
  have hquotient : Decimal.Binary.ofFloat (k.toFloat / (1 : UInt32).toFloat) =
      .finite false (k.toNat <<< (52 - k.toNat.log2)) (k.toNat.log2 - 52) := by
    rw [ofFloat_eq_toBinary, unpack_toFloat_div_one hk, unpack_toFloat hk]
    rfl
  have hfraction : Decimal.Binary.fraction (k.toNat <<< (52 - k.toNat.log2)) (k.toNat.log2 - 52) =
      (k.toNat * 2 ^ (52 - k.toNat.log2), 2 ^ (52 - k.toNat.log2)) := by
    have hup : ((k.toNat.log2 : ℤ) - 52).toNat = 0 := by omega
    have hdown : (-((k.toNat.log2 : ℤ) - 52)).toNat = 52 - k.toNat.log2 := by omega
    rw [Decimal.Binary.fraction, hup, hdown, Nat.shiftLeft_eq]
    exact congrArg (·, _) (Nat.mul_one _)
  rw [Wait.roundFloatToStep, if_neg (by decide), hquotient]
  dsimp only
  rw [hfraction]
  dsimp only
  rw [roundUp_mul (Nat.two_pow_pos _)]
  change Wait.saturate (k.toNat * 1) = k
  have hfits : k.toNat ≤ UInt32.size - 1 := Nat.le_pred_of_lt k.toNat_lt
  rw [Nat.mul_one, Wait.saturate, min_eq_left hfits]
  exact UInt32.ofNat_toNat

theorem isFinite_toFloat (k : UInt32) : k.toFloat.isFinite = true := by
  rcases eq_zero_or_pos k with rfl | hk
  · decide +kernel
  change k.toFloat.toModel.unpack.isFinite = true
  rw [unpack_toFloat hk]
  rfl

theorem toFloat_nonneg (k : UInt32) : 0 ≤ k.toFloat := by
  rcases eq_zero_or_pos k with rfl | hk
  · decide +kernel
  have h0 : (0 : Float).toModel.unpack = .zero .positive := rfl
  rw [le_iff_compare, h0, unpack_toFloat hk]
  rfl

theorem not_nonneg_of_neg {x : Float} (h : x < 0) : ¬ 0 ≤ x := by
  rw [le_iff_compare, ← swap_compare, lt_iff_compare.mp h]
  exact Bool.false_ne_true

end Whole

end ParkFusion.Double
