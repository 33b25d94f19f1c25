import Mathlib
import QuicksortStudy.Binary64

/-!
# The fields of a double

A double is its sign bit and its magnitude, and nothing else.  The arithmetic of doubles works on an
unpacked form, a significand with a power of two.  This module reads that form off the magnitude and
packs it again, so that the two views can be exchanged in proofs about arithmetic and about number text.
-/

namespace QuicksortStudy.Binary64

open Float.Model
open Float.Model.UnpackedFloat

theorem exponentWeight_eq : exponentWeight = 4503599627370496 := rfl

theorem signWeight_eq : signWeight = 9223372036854775808 := rfl

theorem infinity_eq : infinity = 9218868437227405312 := rfl

/-! ## Bits -/

theorem toNat_toBits_lt (x : Float) : x.toBits.toNat < 18446744073709551616 := x.toBits.toNat_lt

theorem magnitude_lt (x : Float) : magnitude x < signWeight := Nat.mod_lt _ (by decide)

theorem toNat_toBits_eq (x : Float) :
    x.toBits.toNat = (if isNegative x then signWeight else 0) + magnitude x := by
  have bound := toNat_toBits_lt x
  unfold isNegative magnitude
  rw [signWeight_eq]
  by_cases negative : 9223372036854775808 ≤ x.toBits.toNat
  · rw [if_pos (decide_eq_true negative)]
    omega
  · rw [if_neg (by simpa using negative)]
    omega

/-- A double is determined by its sign bit and its magnitude. -/
theorem eq_of_fields {x y : Float} (signs : isNegative x = isNegative y)
    (magnitudes : magnitude x = magnitude y) : x = y := by
  have same : x.toBits = y.toBits := by
    apply UInt64.toNat_inj.mp
    rw [toNat_toBits_eq, toNat_toBits_eq, signs, magnitudes]
  rcases x with ⟨⟨xBits, xValid⟩⟩
  rcases y with ⟨⟨yBits, yValid⟩⟩
  change xBits = yBits at same
  subst same
  rfl

/-! ## Significand and power -/

/-- The significand of a finite magnitude, with its leading one if it has one. -/
def significand (bits : Nat) : Nat :=
  if bits < exponentWeight then bits else bits % exponentWeight + exponentWeight

/-- The power of two that the significand of a finite magnitude is multiplied by. -/
def exponent (bits : Nat) : Int := (bits / exponentWeight - 1 : Nat) - 1074

/-- The sign that a sign bit stands for. -/
def sign (negative : Bool) : Sign := if negative then .negative else .positive

theorem significand_pos {bits : Nat} (positive : 0 < bits) : 0 < significand bits := by
  unfold significand
  rw [exponentWeight_eq]
  split <;> omega

theorem significand_lt (bits : Nat) : significand bits < 2 * exponentWeight := by
  unfold significand
  rw [exponentWeight_eq]
  split <;> omega

theorem le_exponent (bits : Nat) : -1074 ≤ exponent bits := by
  unfold exponent
  omega

/-- A significand is full unless its power is the least one. -/
theorem significand_full (bits : Nat) : exponentWeight ≤ significand bits ∨ exponent bits = -1074 := by
  unfold significand exponent
  rw [exponentWeight_eq]
  split
  · right
    omega
  · left
    omega

/-- The carry of the leading one into the exponent field gives the magnitude back. -/
theorem exponent_significand (bits : Nat) :
    (exponent bits + 1074).toNat * exponentWeight + significand bits = bits := by
  unfold significand exponent
  rw [exponentWeight_eq]
  split <;> omega

theorem units_eq (bits : Nat) : units bits = significand bits * 2 ^ (exponent bits + 1074).toNat := by
  have shift : (exponent bits + 1074).toNat = bits / exponentWeight - 1 := by
    unfold exponent
    omega
  rw [units, significand, shift]
  split
  · next small => rw [Nat.div_eq_of_lt small, Nat.zero_sub, Nat.pow_zero, Nat.mul_one]
  · rw [Nat.shiftLeft_eq]

/-! ## Unpacking -/

theorem unpackSign_toBits (x : Float) :
    Sign.ofBitVec (@unpackSign Format.binary64 x.toBits.toBitVec) = sign (isNegative x) := by
  have bound := toNat_toBits_lt x
  have value : (@unpackSign Format.binary64 x.toBits.toBitVec).toNat =
      x.toBits.toNat / signWeight := by
    simp [unpackSign, signWeight, Nat.shiftRight_eq_div_pow]
    omega
  unfold Sign.ofBitVec sign isNegative
  rw [signWeight_eq] at *
  by_cases negative : 9223372036854775808 ≤ x.toBits.toNat
  · rw [if_neg, if_pos (decide_eq_true negative)]
    intro zero
    rw [zero] at value
    change 0 = _ at value
    omega
  · rw [if_pos, if_neg (by simpa using negative)]
    apply BitVec.eq_of_toNat_eq
    rw [value]
    change _ = 0
    omega

theorem unpackExponent_toBits_iff (x : Float) (e : BitVec 11) :
    @unpackExponent Format.binary64 x.toBits.toBitVec = e ↔
      magnitude x / exponentWeight = e.toNat := by
  have value : (@unpackExponent Format.binary64 x.toBits.toBitVec).toNat =
      x.toBits.toNat / exponentWeight % 2048 := by
    simp [unpackExponent, exponentWeight, Nat.shiftRight_eq_div_pow]
  rw [← BitVec.toNat_inj, value, magnitude, exponentWeight_eq, signWeight_eq]
  omega

theorem toNat_unpackMantissa_toBits (x : Float) :
    (@unpackMantissa Format.binary64 x.toBits.toBitVec).toNat =
      magnitude x % exponentWeight := by
  have value : (@unpackMantissa Format.binary64 x.toBits.toBitVec).toNat =
      x.toBits.toNat % exponentWeight := by
    simp [unpackMantissa, exponentWeight]
  rw [value, magnitude, exponentWeight_eq, signWeight_eq]
  omega

theorem unpackMantissa_toBits_eq_zero_iff (x : Float) :
    @unpackMantissa Format.binary64 x.toBits.toBitVec = 0#52 ↔
      magnitude x % exponentWeight = 0 := by
  rw [← toNat_unpackMantissa_toBits, ← BitVec.toNat_inj]
  rfl

theorem unpackFields_of_isNaN {x : Float} (nan : infinity < magnitude x) :
    @unpackExponent Format.binary64 x.toBits.toBitVec = -1#11 ∧
      @unpackMantissa Format.binary64 x.toBits.toBitVec ≠ 0#52 := by
  have bound := magnitude_lt x
  rw [infinity_eq] at nan
  rw [signWeight_eq] at bound
  rw [unpackExponent_toBits_iff, Ne, unpackMantissa_toBits_eq_zero_iff, exponentWeight_eq]
  change _ = 2047 ∧ _
  omega

theorem unpack_of_isNaN {x : Float} (nan : infinity < magnitude x) :
    x.toModel.unpack = .notANumber := by
  obtain ⟨ones, nonzero⟩ := unpackFields_of_isNaN nan
  change unpack Format.binary64 x.toBits.toBitVec = _
  unfold UnpackedFloat.unpack
  dsimp only
  rw [if_pos ones, if_neg nonzero]

theorem unpack_of_infinite {x : Float} (infinite : magnitude x = infinity) :
    x.toModel.unpack = .infinity (sign (isNegative x)) := by
  change unpack Format.binary64 x.toBits.toBitVec = _
  unfold UnpackedFloat.unpack
  dsimp only
  rw [infinity_eq] at infinite
  rw [if_pos, if_pos, unpackSign_toBits]
  · rw [unpackMantissa_toBits_eq_zero_iff, exponentWeight_eq, infinite]
  · rw [unpackExponent_toBits_iff, exponentWeight_eq, infinite]
    rfl

theorem unpack_of_zero {x : Float} (zero : magnitude x = 0) :
    x.toModel.unpack = .zero (sign (isNegative x)) := by
  change unpack Format.binary64 x.toBits.toBitVec = _
  unfold UnpackedFloat.unpack
  dsimp only
  rw [if_neg, if_pos, dif_pos, unpackSign_toBits]
  · rw [unpackMantissa_toBits_eq_zero_iff, zero, Nat.zero_mod]
  · rw [unpackExponent_toBits_iff, zero, Nat.zero_div]
    rfl
  · rw [unpackExponent_toBits_iff, zero, Nat.zero_div]
    intro impossible
    change 0 = 2047 at impossible
    cases impossible

/-- A finite double unpacks to its significand and its power of two. -/
theorem unpack_of_finite {x : Float} (positive : 0 < magnitude x) (finite : magnitude x < infinity) :
    x.toModel.unpack = .finite (sign (isNegative x)) (significand (magnitude x))
      (exponent (magnitude x)) (significand_pos positive) := by
  have value := toNat_unpackMantissa_toBits x
  have notOnes : @unpackExponent Format.binary64 x.toBits.toBitVec ≠ -1#11 := by
    rw [Ne, unpackExponent_toBits_iff, exponentWeight_eq]
    rw [infinity_eq] at finite
    change ¬ _ = 2047
    omega
  change unpack Format.binary64 x.toBits.toBitVec = _
  unfold UnpackedFloat.unpack
  dsimp only
  rw [if_neg notOnes, unpackSign_toBits]
  by_cases small : magnitude x < exponentWeight
  · have zeros : @unpackExponent Format.binary64 x.toBits.toBitVec = 0#11 := by
      rw [unpackExponent_toBits_iff, Nat.div_eq_of_lt small]
      rfl
    have nonzero : @unpackMantissa Format.binary64 x.toBits.toBitVec ≠ 0#52 := by
      rw [Ne, unpackMantissa_toBits_eq_zero_iff, Nat.mod_eq_of_lt small]
      omega
    rw [if_pos zeros, dif_neg nonzero]
    congr 1
    · rw [value, significand, if_pos small, Nat.mod_eq_of_lt small]
    · rw [zeros, exponent, Nat.div_eq_of_lt small]
      rfl
  · have notZeros : @unpackExponent Format.binary64 x.toBits.toBitVec ≠ 0#11 := by
      rw [Ne, unpackExponent_toBits_iff, exponentWeight_eq]
      rw [exponentWeight_eq] at small
      change ¬ _ = 0
      omega
    have exponentValue := (unpackExponent_toBits_iff x _).mp rfl
    rw [if_neg notZeros]
    congr 1
    · rw [BitVec.toNat_append, ← Nat.shiftLeft_add_eq_or_of_lt (BitVec.isLt _), value, significand,
        if_neg small]
      change 1 * exponentWeight + _ = _
      omega
    · rw [← exponentValue, exponent]
      rw [exponentWeight_eq] at small ⊢
      change _ - ((1023 : Int) + 52) = _
      omega

/-! ## Kinds of doubles -/

theorem isFinite_iff (x : Float) : x.isFinite = true ↔ magnitude x < infinity := by
  change x.toModel.unpack.isFinite = true ↔ _
  rcases Nat.lt_trichotomy (magnitude x) infinity with finite | infinite | nan
  · refine ⟨fun _ => finite, fun _ => ?_⟩
    by_cases zero : magnitude x = 0
    · rw [unpack_of_zero zero]
      rfl
    · rw [unpack_of_finite (Nat.pos_of_ne_zero zero) finite]
      rfl
  · rw [unpack_of_infinite infinite]
    exact ⟨fun impossible => (by cases impossible), fun less => by omega⟩
  · rw [unpack_of_isNaN nan]
    exact ⟨fun impossible => (by cases impossible), fun less => by omega⟩

theorem isNaN_iff (x : Float) : x.isNaN = true ↔ infinity < magnitude x := by
  change x.toModel.unpack.isNaN = true ↔ _
  rcases Nat.lt_trichotomy (magnitude x) infinity with finite | infinite | nan
  · refine ⟨fun impossible => ?_, fun less => by omega⟩
    by_cases zero : magnitude x = 0
    · rw [unpack_of_zero zero] at impossible
      cases impossible
    · rw [unpack_of_finite (Nat.pos_of_ne_zero zero) finite] at impossible
      cases impossible
  · rw [unpack_of_infinite infinite]
    exact ⟨fun impossible => (by cases impossible), fun less => by omega⟩
  · rw [unpack_of_isNaN nan]
    exact ⟨fun _ => nan, fun _ => rfl⟩

/-! ## Packing -/

/-- The double that an unpacked number is packed to. -/
def ofUnpacked (f : UnpackedFloat) : Float := .ofModel (.pack f)

theorem toNat_packComponents (s : Sign) (e : BitVec 11) (m : BitVec 52) :
    (packComponents Format.binary64 s e m).toNat =
      s.toBitVec.toNat * signWeight + e.toNat * exponentWeight + m.toNat := by
  have short : m.toNat < 2 ^ 52 := m.isLt
  change (s.toBitVec ++ e ++ m).toNat = _
  rw [BitVec.toNat_append, BitVec.toNat_append, ← Nat.shiftLeft_add_eq_or_of_lt short,
    ← Nat.shiftLeft_add_eq_or_of_lt e.isLt]
  simp only [signWeight, exponentWeight, Nat.shiftLeft_eq]
  omega

theorem toNat_pack_infinity (s : Sign) :
    (UnpackedFloat.pack Format.binary64 (.infinity s)).toNat =
      s.toBitVec.toNat * signWeight + infinity := by
  have ones : (-1#11).toNat = 2047 := rfl
  have zeros : (0#52).toNat = 0 := rfl
  have packed := toNat_packComponents s (-1#11) 0#52
  rw [ones, zeros] at packed
  rw [infinity, ← Nat.add_zero (2047 * exponentWeight), ← Nat.add_assoc]
  exact packed

theorem toNat_pack_zero (s : Sign) :
    (UnpackedFloat.pack Format.binary64 (.zero s)).toNat = s.toBitVec.toNat * signWeight + 0 := by
  have packed : UnpackedFloat.pack Format.binary64 (.zero s) =
      packComponents Format.binary64 s 0#11 0#52 := by
    unfold UnpackedFloat.pack packedZero
    rfl
  rw [packed, toNat_packComponents]
  change _ + 0 * exponentWeight + 0 = _
  rw [Nat.zero_mul]

/-- A rounded number is packed by adding its significand to its power in the exponent field; what does
not fit is infinite. -/
theorem toNat_pack_finite (s : Sign) {m : Nat} {e : Int} (positive : 0 < m) (least : -1074 ≤ e)
    (short : m < 2 * exponentWeight) (full : exponentWeight ≤ m ∨ e = -1074) :
    (UnpackedFloat.pack Format.binary64 (.finite s m e positive)).toNat =
      s.toBitVec.toNat * signWeight + min infinity ((e + 1074).toNat * exponentWeight + m) := by
  have biased : (e + (1023 : Int) + 52).toNat = (e + 1074).toNat + 1 := by omega
  have logged : m.log2 + 1 = 53 ↔ exponentWeight ≤ m := by
    have lower := Nat.le_log2 (n := m) (k := 52) (by omega)
    have upper : m.log2 < 53 := by
      rw [exponentWeight_eq] at short
      exact (Nat.log2_lt (by omega)).mpr (by omega)
    rw [exponentWeight_eq]
    omega
  unfold UnpackedFloat.pack
  dsimp only
  change BitVec.toNat (if 2048 ≤ (e + (1023 : Int) + 52).toNat + 1 then _ else _) = _
  rw [biased]
  by_cases large : 2048 ≤ (e + 1074).toNat + 1 + 1
  · rw [if_pos large]
    change BitVec.toNat (packComponents Format.binary64 s (-1#11) 0#52) = _
    rw [toNat_packComponents]
    change _ + 2047 * exponentWeight + 0 = _
    rw [infinity, exponentWeight_eq] at *
    omega
  · have bounded : (e + 1074).toNat * exponentWeight + m ≤ infinity := by
      rw [infinity, exponentWeight_eq] at *
      omega
    rw [if_neg large, Nat.min_eq_right bounded]
    change BitVec.toNat (if m.log2 + 1 = 53 then _ else _) = _
    by_cases leading : exponentWeight ≤ m
    · rw [if_pos (logged.mpr leading)]
      change BitVec.toNat (packComponents Format.binary64 s
        (BitVec.ofNat 11 (e + (1023 : Int) + 52).toNat) (BitVec.ofNat 52 m)) = _
      rw [biased, toNat_packComponents, BitVec.toNat_ofNat, BitVec.toNat_ofNat]
      rw [exponentWeight_eq] at *
      omega
    · have subnormal : e = -1074 := full.resolve_left leading
      rw [if_neg (fun yes => leading (logged.mp yes))]
      change BitVec.toNat (packComponents Format.binary64 s 0#11 (BitVec.ofNat 52 m)) = _
      rw [toNat_packComponents, BitVec.toNat_ofNat m 52, subnormal]
      change _ + 0 * exponentWeight + _ = _ + (0 * exponentWeight + m)
      rw [exponentWeight_eq] at *
      omega

theorem fields_of_toNat_pack {f : UnpackedFloat} {negative : Bool} {bits : Nat} (small : bits < signWeight)
    (packed : (UnpackedFloat.pack Format.binary64 f).toNat =
      (sign negative).toBitVec.toNat * signWeight + bits) :
    isNegative (ofUnpacked f) = negative ∧ magnitude (ofUnpacked f) = bits := by
  have value : (ofUnpacked f).toBits.toNat = (if negative then signWeight else 0) + bits := by
    change (UnpackedFloat.pack Format.binary64 f).toNat = _
    rw [packed]
    cases negative <;> rfl
  unfold isNegative magnitude
  rw [value]
  rw [signWeight_eq] at *
  cases negative with
  | false =>
      simp only [Bool.false_eq_true, if_false, decide_eq_false_iff_not]
      omega
  | true =>
      simp only [if_true, decide_eq_true_iff]
      omega

theorem fields_finite (negative : Bool) {m : Nat} {e : Int} (positive : 0 < m) (least : -1074 ≤ e)
    (short : m < 2 * exponentWeight) (full : exponentWeight ≤ m ∨ e = -1074) :
    isNegative (ofUnpacked (.finite (sign negative) m e positive)) = negative ∧
      magnitude (ofUnpacked (.finite (sign negative) m e positive)) =
        min infinity ((e + 1074).toNat * exponentWeight + m) := by
  refine fields_of_toNat_pack ?_ (toNat_pack_finite (sign negative) positive least short full)
  exact Nat.lt_of_le_of_lt (Nat.min_le_left _ _) (by decide)

theorem fields_infinity (negative : Bool) :
    isNegative (ofUnpacked (.infinity (sign negative))) = negative ∧
      magnitude (ofUnpacked (.infinity (sign negative))) = infinity :=
  fields_of_toNat_pack (by decide) (toNat_pack_infinity (sign negative))

theorem fields_zero (negative : Bool) :
    isNegative (ofUnpacked (.zero (sign negative))) = negative ∧
      magnitude (ofUnpacked (.zero (sign negative))) = 0 :=
  fields_of_toNat_pack (by decide) (toNat_pack_zero (sign negative))

/-! ## Round trips -/

/-- There is only one `NaN`. -/
theorem eq_of_isNaN {x : Float} (nan : infinity < magnitude x) : x = ofUnpacked .notANumber := by
  obtain ⟨ones, nonzero⟩ := unpackFields_of_isNaN nan
  have canonical := x.toModel.valid.eq_packedNaN ones nonzero
  rcases x with ⟨⟨bits, valid⟩⟩
  have same : bits = UInt64.ofBitVec (packedNaN Format.binary64) := UInt64.toBitVec_inj.mp canonical
  subst same
  rfl

theorem ofUnpacked_unpack (x : Float) : ofUnpacked x.toModel.unpack = x := by
  rcases Nat.lt_trichotomy (magnitude x) infinity with finite | infinite | nan
  · by_cases zero : magnitude x = 0
    · obtain ⟨signs, bits⟩ := fields_zero (isNegative x)
      rw [unpack_of_zero zero]
      exact eq_of_fields signs (bits.trans zero.symm)
    · have positive := Nat.pos_of_ne_zero zero
      obtain ⟨signs, bits⟩ := fields_finite (isNegative x) (significand_pos positive)
        (le_exponent _) (significand_lt _) (significand_full _)
      rw [exponent_significand, Nat.min_eq_right (Nat.le_of_lt finite)] at bits
      rw [unpack_of_finite positive finite]
      exact eq_of_fields signs bits
  · obtain ⟨signs, bits⟩ := fields_infinity (isNegative x)
    rw [unpack_of_infinite infinite]
    exact eq_of_fields signs (bits.trans infinite.symm)
  · rw [unpack_of_isNaN nan]
    exact (eq_of_isNaN nan).symm

/-- A double is what its own fields are put together to. -/
theorem ofMagnitude_magnitude (x : Float) : ofMagnitude (isNegative x) (magnitude x) = x := by
  have bits : (if isNegative x then signWeight + magnitude x else magnitude x) = x.toBits.toNat := by
    rw [toNat_toBits_eq x]
    split <;> omega
  rw [ofMagnitude, bits, UInt64.ofNat_toNat]
  exact ofUnpacked_unpack x

/-- The doubles that are equal to zero are the two zeros. -/
theorem beq_zero_iff (x : Float) : (x == 0.0) = true ↔ x = 0.0 ∨ x = -0.0 := by
  have equals : (x == 0.0) = x.toModel.unpack.beq (.zero .positive) := rfl
  rw [equals]
  constructor
  · intro equal
    have zero : magnitude x = 0 := by
      by_contra positive
      rcases Nat.lt_trichotomy (magnitude x) infinity with finite | infinite | nan
      · rw [unpack_of_finite (Nat.pos_of_ne_zero positive) finite] at equal
        generalize isNegative x = negative at equal
        cases negative with
        | false => exact Bool.false_ne_true equal
        | true => exact Bool.false_ne_true equal
      · rw [unpack_of_infinite infinite] at equal
        generalize isNegative x = negative at equal
        cases negative with
        | false => exact Bool.false_ne_true equal
        | true => exact Bool.false_ne_true equal
      · rw [unpack_of_isNaN nan] at equal
        exact Bool.false_ne_true equal
    have back := ofMagnitude_magnitude x
    rw [zero] at back
    cases sign : isNegative x with
    | false =>
        rw [sign] at back
        exact .inl back.symm
    | true =>
        rw [sign] at back
        exact .inr back.symm
  · rintro (rfl | rfl)
    · rfl
    · rfl

/-- The fields of a double that is not `NaN` are those it was put together from. -/
theorem fields_ofMagnitude (negative : Bool) {bits : Nat} (bounded : bits ≤ infinity) :
    isNegative (ofMagnitude negative bits) = negative ∧ magnitude (ofMagnitude negative bits) = bits := by
  have made : ∃ x, isNegative x = negative ∧ magnitude x = bits := by
    rcases Nat.eq_zero_or_pos bits with rfl | positive
    · exact ⟨_, fields_zero negative⟩
    · have fields := fields_finite negative (significand_pos positive) (le_exponent _)
        (significand_lt _) (significand_full _)
      rw [exponent_significand, Nat.min_eq_right bounded] at fields
      exact ⟨_, fields⟩
  obtain ⟨x, rfl, rfl⟩ := made
  rw [ofMagnitude_magnitude]
  exact ⟨rfl, rfl⟩

end QuicksortStudy.Binary64
