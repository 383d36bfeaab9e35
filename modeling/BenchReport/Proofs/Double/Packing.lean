import BenchReport.Proofs.Double.Rounding
import Mathlib

namespace BenchReport.Double

open Float.Model UnpackedFloat

def unpacked (x : Double) : UnpackedFloat := unpack .binary64 x.bits.toBitVec

def ofUnpacked (f : UnpackedFloat) : Double := ⟨UInt64.ofBitVec (pack .binary64 f)⟩

def sign (x : Double) : Sign := if x.negative then .negative else .positive

theorem toNat_packComponents (s : Sign) (e : BitVec 11) (m : BitVec 52) :
    (packComponents .binary64 s e m).toNat =
      s.toBitVec.toNat * 2 ^ 63 + (e.toNat * 2 ^ 52 + m.toNat) := by
  simp only [packComponents, BitVec.toNat_append]
  rw [← Nat.shiftLeft_add_eq_or_of_lt e.isLt, ← Nat.shiftLeft_add_eq_or_of_lt m.isLt,
    Nat.shiftLeft_eq, Nat.shiftLeft_eq]
  omega

section Unpacking

variable (x : Double)

theorem toNat_unpackMantissa :
    (@unpackMantissa .binary64 x.bits.toBitVec).toNat = x.magnitude % 2 ^ 52 := by
  simp only [unpackMantissa, BitVec.toNat_cast, BitVec.extractLsb_toNat, magnitude]
  simp

theorem toNat_unpackExponent :
    (@unpackExponent .binary64 x.bits.toBitVec).toNat = x.magnitude / 2 ^ 52 := by
  simp only [unpackExponent, BitVec.toNat_cast, BitVec.extractLsb_toNat, magnitude]
  simp [Nat.shiftRight_eq_div_pow]
  omega

theorem ofBitVec_unpackSign :
    Sign.ofBitVec (@unpackSign .binary64 x.bits.toBitVec) = x.sign := by
  have hlt := x.bits.toNat_lt
  have hbit : (@unpackSign .binary64 x.bits.toBitVec).toNat = if x.negative then 1 else 0 := by
    simp only [unpackSign, BitVec.toNat_cast, BitVec.extractLsb_toNat, negative]
    simp [Nat.shiftRight_eq_div_pow]
    split_ifs <;> omega
  simp only [Sign.ofBitVec, sign, ← BitVec.toNat_inj, hbit]
  cases x.negative <;> rfl

theorem unpackExponent_eq_iff (e : BitVec 11) :
    @unpackExponent .binary64 x.bits.toBitVec = e ↔ x.magnitude / 2 ^ 52 = e.toNat := by
  rw [← BitVec.toNat_inj, toNat_unpackExponent]

theorem unpackMantissa_eq_zero_iff :
    @unpackMantissa .binary64 x.bits.toBitVec = 0#52 ↔ x.magnitude % 2 ^ 52 = 0 := by
  rw [← BitVec.toNat_inj, toNat_unpackMantissa]
  rfl

theorem unpacked_zero (h : x.magnitude = 0) : x.unpacked = .zero x.sign := by
  have hordinary : ¬ @unpackExponent .binary64 x.bits.toBitVec = -1#11 := by
    rw [unpackExponent_eq_iff, h]
    decide
  have hsmall : @unpackExponent .binary64 x.bits.toBitVec = 0#11 := by
    rw [unpackExponent_eq_iff, h]
    rfl
  have hmantissa := x.unpackMantissa_eq_zero_iff.mpr (by rw [h]; rfl)
  unfold unpacked UnpackedFloat.unpack
  dsimp only
  rw [if_neg hordinary, if_pos hsmall, dif_pos hmantissa, ofBitVec_unpackSign]

theorem unpacked_infinity (h : x.magnitude = infinity) : x.unpacked = .infinity x.sign := by
  have hexponent : @unpackExponent .binary64 x.bits.toBitVec = -1#11 := by
    rw [unpackExponent_eq_iff, h]
    rfl
  have hmantissa := x.unpackMantissa_eq_zero_iff.mpr (by rw [h]; rfl)
  unfold unpacked UnpackedFloat.unpack
  dsimp only
  rw [if_pos hexponent, if_pos hmantissa, ofBitVec_unpackSign]

theorem unpacked_finite (hfinite : x.isFinite) (hne : x.magnitude ≠ 0) :
    x.unpacked = .finite x.sign x.significand x.exponent (x.significand_pos hne) := by
  have hlt : x.magnitude < infinity := x.isFinite_iff.mp hfinite
  have hordinary : ¬ @unpackExponent .binary64 x.bits.toBitVec = -1#11 := by
    rw [unpackExponent_eq_iff]
    change ¬ x.magnitude / 2 ^ 52 = 2047
    unfold infinity at hlt
    omega
  unfold unpacked UnpackedFloat.unpack
  dsimp only
  rw [if_neg hordinary]
  by_cases hsmall : @unpackExponent .binary64 x.bits.toBitVec = 0#11
  · have hplace := (x.unpackExponent_eq_iff 0#11).mp hsmall
    rw [BitVec.toNat_ofNat] at hplace
    have hmantissa : ¬ @unpackMantissa .binary64 x.bits.toBitVec = 0#52 := by
      rw [unpackMantissa_eq_zero_iff]
      omega
    rw [if_pos hsmall, dif_neg hmantissa, UnpackedFloat.finite.injEq]
    refine ⟨x.ofBitVec_unpackSign, ?_, ?_⟩
    · rw [toNat_unpackMantissa, significand, if_pos (by omega)]
      omega
    · rw [toNat_unpackExponent, exponent]
      change ((x.magnitude / 2 ^ 52 : Nat) : Int) - (1023 + 52) + 1 = _
      omega
  · have hplace := mt (x.unpackExponent_eq_iff 0#11).mpr hsmall
    rw [BitVec.toNat_ofNat] at hplace
    rw [if_neg hsmall, UnpackedFloat.finite.injEq]
    refine ⟨x.ofBitVec_unpackSign, ?_, ?_⟩
    · rw [BitVec.toNat_append, ← Nat.shiftLeft_add_eq_or_of_lt (BitVec.isLt _),
        toNat_unpackMantissa, significand, if_neg (by omega)]
      rfl
    · rw [toNat_unpackExponent, exponent]
      change ((x.magnitude / 2 ^ 52 : Nat) : Int) - (1023 + 52) = _
      omega

end Unpacking

section Packing

variable (f : UnpackedFloat) (s : Sign) (e : BitVec 11) (m : BitVec 52)
  (h : pack .binary64 f = packComponents .binary64 s e m)

include h

theorem ofUnpacked_bits :
    (ofUnpacked f).bits.toNat = s.toBitVec.toNat * 2 ^ 63 + (e.toNat * 2 ^ 52 + m.toNat) := by
  rw [← toNat_packComponents, ← h]
  rfl

theorem ofUnpacked_magnitude : (ofUnpacked f).magnitude = e.toNat * 2 ^ 52 + m.toNat := by
  have he := e.isLt
  have hm := m.isLt
  rw [magnitude, ofUnpacked_bits f s e m h]
  omega

theorem ofUnpacked_sign : (ofUnpacked f).sign = s := by
  have he := e.isLt
  have hm := m.isLt
  have hbits := ofUnpacked_bits f s e m h
  cases s with
  | negative =>
    have hbit : Sign.negative.toBitVec.toNat = 1 := rfl
    rw [hbit] at hbits
    have hnegative : (ofUnpacked f).negative = true := decide_eq_true (by omega)
    rw [sign, hnegative, if_pos rfl]
  | positive =>
    have hbit : Sign.positive.toBitVec.toNat = 0 := rfl
    rw [hbit] at hbits
    have hnegative : (ofUnpacked f).negative = false := decide_eq_false (by omega)
    rw [sign, hnegative, if_neg Bool.false_ne_true]

end Packing

structure Canonical (m : Nat) (e : Int) : Prop where
  pos : 0 < m
  lt : m < 2 ^ 53
  place : -1074 ≤ e
  full : 2 ^ 52 ≤ m ∨ e = -1074

theorem ofUnpacked_zero (s : Sign) : (ofUnpacked (.zero s)).magnitude = 0 :=
  ofUnpacked_magnitude (.zero s) s 0#11 0#52 rfl

theorem ofUnpacked_infinity (s : Sign) : (ofUnpacked (.infinity s)).magnitude = infinity :=
  ofUnpacked_magnitude (.infinity s) s (-1#11) 0#52 rfl

theorem ofUnpacked_finite (s : Sign) (m : Nat) (e : Int) (h : Canonical m e) :
    (ofUnpacked (.finite s m e h.pos)).magnitude =
      min infinity ((e + 1074).toNat * 0x10000000000000 + m) := by
  obtain ⟨hpos, hlt, hplace, hfull⟩ := h
  have hbits : m.log2 + 1 = 53 ↔ 2 ^ 52 ≤ m := by
    rw [← Nat.le_log2 (Nat.ne_of_gt hpos)]
    have hlog : m.log2 < 53 := (Nat.log2_lt (Nat.ne_of_gt hpos)).mpr hlt
    omega
  have hpack : pack .binary64 (.finite s m e hpos) =
      if 2 ^ 11 ≤ (e + 1075).toNat + 1 then packedInfinity .binary64 s
      else if m.log2 + 1 = 53 then
        packComponents .binary64 s (BitVec.ofNat 11 (e + 1075).toNat) (BitVec.ofNat 52 m)
      else packComponents .binary64 s 0#11 (BitVec.ofNat 52 m) := by
    have hbias : e + ((1023 : Nat) : Int) + ((52 : Nat) : Int) = e + 1075 := by omega
    rw [← hbias]
    rfl
  unfold infinity
  split_ifs at hpack with hlarge hnormal
  · rw [ofUnpacked_magnitude _ s (-1#11) 0#52 hpack]
    change 2047 * 2 ^ 52 + 0 = _
    omega
  · rw [ofUnpacked_magnitude _ s _ _ hpack, BitVec.toNat_ofNat, BitVec.toNat_ofNat]
    omega
  · rw [ofUnpacked_magnitude _ s _ _ hpack, BitVec.toNat_ofNat, BitVec.toNat_ofNat]
    omega

theorem sign_ofUnpacked_zero (s : Sign) : (ofUnpacked (.zero s)).sign = s :=
  ofUnpacked_sign (.zero s) s 0#11 0#52 rfl

theorem sign_ofUnpacked_finite (s : Sign) (m : Nat) (e : Int) (hpos : 0 < m) :
    (ofUnpacked (.finite s m e hpos)).sign = s := by
  by_cases hlarge : 2 ^ 11 ≤ (e + ((1023 : Nat) : Int) + ((52 : Nat) : Int)).toNat + 1
  · exact ofUnpacked_sign _ s (-1#11) 0#52 (if_pos hlarge)
  · by_cases hnormal : m.log2 + 1 = 53
    · exact ofUnpacked_sign _ s _ _ ((if_neg hlarge).trans (if_pos hnormal))
    · exact ofUnpacked_sign _ s _ _ ((if_neg hlarge).trans (if_neg hnormal))

theorem canonical (x : Double) (hne : x.magnitude ≠ 0) :
    Canonical x.significand x.exponent := by
  refine ⟨x.significand_pos hne, x.significand_lt, x.neg_le_exponent, ?_⟩
  unfold significand exponent
  split_ifs <;> omega

theorem ofUnpacked_unpacked (x : Double) (h : x.isNaN = false) : ofUnpacked x.unpacked = x := by
  have hle := mt x.isNaN_iff.mpr (by rw [h]; exact Bool.false_ne_true)
  have hbits : ¬ @isNaNBits .binary64 x.bits.toBitVec := by
    simp only [isNaNBits, decide_eq_true_eq, not_and, not_not]
    intro hexponent
    -- there is only infinity with this exponent that is no NaN
    have hplace : x.magnitude / 2 ^ 52 = 2047 := (x.unpackExponent_eq_iff (-1#11)).mp hexponent
    unfold infinity at hle
    exact x.unpackMantissa_eq_zero_iff.mpr (by omega)
  unfold ofUnpacked unpacked
  rw [pack_unpack, if_neg hbits]

theorem unpack_toFloat (x : Double) (h : x.isNaN = false) :
    x.toFloat.toModel.unpack = x.unpacked := by
  have hbits := congrArg Double.bits (x.ofUnpacked_unpacked h)
  change UnpackedFloat.unpack .binary64 (ofUnpacked x.unpacked).bits.toBitVec = _
  rw [hbits]
  rfl

section Operations

variable (x y : Double) (hx : x.isNaN = false) (hy : y.isNaN = false)

include hx hy

theorem combine_eq_ofUnpacked (op : Float → Float → Float)
    (parts : UnpackedFloat → UnpackedFloat → UnpackedFloat)
    (h : ∀ a b, (op a b).toModel = .pack (parts a.toModel.unpack b.toModel.unpack)) :
    combine op x y = ofUnpacked (parts x.unpacked y.unpacked) := by
  rw [combine, hx, hy, if_neg Bool.false_ne_true, if_neg Bool.false_ne_true, ofFloat, Float.toBits, h,
    unpack_toFloat x hx, unpack_toFloat y hy]
  rfl

theorem add_eq_ofUnpacked : x + y = ofUnpacked (.add .binary64 x.unpacked y.unpacked) :=
  combine_eq_ofUnpacked x y hx hy (· + ·) _ fun _ _ => rfl

theorem mul_eq_ofUnpacked : x * y = ofUnpacked (.mul .binary64 x.unpacked y.unpacked) :=
  combine_eq_ofUnpacked x y hx hy (· * ·) _ fun _ _ => rfl

theorem div_eq_ofUnpacked : x / y = ofUnpacked (.div .binary64 x.unpacked y.unpacked) :=
  combine_eq_ofUnpacked x y hx hy (· / ·) _ fun _ _ => rfl

end Operations

end BenchReport.Double
