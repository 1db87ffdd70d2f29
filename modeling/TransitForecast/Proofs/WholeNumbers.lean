import Mathlib
import TransitForecast.Prediction.Allocation
import TransitForecast.Update.Walk

/-!
# TransitForecast — whole numbers of seconds in floating point

Travel times are shared among stop pairs and added to a clock in floating point. As long as they are
whole numbers that a mantissa has room for, with bits to spare for the tolerance, this is exact: a
single pair gets all of its scheduled time, and a clock moves by it without a remainder.

A positive whole number `n` below `2 ^ 53` is the mantissa `n * 2 ^ (52 - n.log2)` with the exponent
`n.log2 - 52`. Each operation is followed on mantissas and exponents, up to its rounding.

## Results

* `roundWithAccuracy_eq` — what rounding does to a mantissa that is too long.
* `split_single`  — the share of a single pair of stops.
* `advance_whole` — how a clock moves.
-/

namespace TransitForecast.WholeNumber

open Float.Model Float.Model.UnpackedFloat

-- ---------------------------------------------------------------------------
-- Packing
-- ---------------------------------------------------------------------------

theorem unpackSign_packComponents {spec : Format} {sign : Sign} {exponent mantissa} :
    unpackSign (packComponents spec sign exponent mantissa) = sign.toBitVec := by
  apply BitVec.eq_of_getLsbD_eq
  intro i hi
  have hFirst : i = 0 := by omega
  subst hFirst
  simp [unpackSign, packComponents, BitVec.getLsbD_append, BitVec.getElem_append]

/-- Packing loses nothing of a normal number. -/
theorem unpack_pack {m : Nat} {e : Int} (hm : 0 < m) (hNormal : m.log2 = 52) (hLow : -1074 ≤ e)
    (hHigh : e ≤ 971) :
    (Float.Model.pack (.finite .positive m e hm)).unpack = .finite .positive m e hm := by
  have hBounds := (Nat.log2_eq_iff hm.ne').1 hNormal
  let b : Nat := (e + 1023 + 52).toNat
  have hb : (b : Int) = e + 1075 := by omega
  have hBiased : (BitVec.ofNat 11 b).toNat = b := by
    rw [BitVec.toNat_ofNat, Nat.mod_eq_of_lt (by omega)]
  have hTop : BitVec.ofNat 11 b ≠ -1#11 := fun hSame => by
    have := congrArg BitVec.toNat hSame
    rw [hBiased] at this
    have hTopBits : (-1#11).toNat = 2047 := by decide
    omega
  have hBottom : BitVec.ofNat 11 b ≠ 0#11 := fun hSame => by
    have := congrArg BitVec.toNat hSame
    rw [hBiased] at this
    simp at this
    omega
  have hMantissa : (1#1 ++ BitVec.ofNat 52 m).toNat = m := by
    rw [BitVec.toNat_append, ← Nat.shiftLeft_add_eq_or_of_lt (BitVec.isLt _)]
    simp only [Nat.shiftLeft_eq, BitVec.toNat_ofNat]
    omega
  have hPacked : UnpackedFloat.pack Format.binary64 (.finite .positive m e hm) =
      packComponents Format.binary64 .positive (BitVec.ofNat 11 b) (BitVec.ofNat 52 m) := by
    show (if 2 ^ 11 ≤ b + 1 then _ else if m.log2 + 1 = 53 then _ else _) = _
    rw [if_neg (by omega), if_pos (by omega)]
    rfl
  show UnpackedFloat.unpack Format.binary64 (UnpackedFloat.pack Format.binary64 _) = _
  rw [hPacked]
  unfold UnpackedFloat.unpack
  simp only [unpackMantissa_packComponents, unpackExponent_packComponents,
    unpackSign_packComponents]
  rw [if_neg hTop, if_neg hBottom]
  simp only [hMantissa]
  congr 1
  show ((BitVec.ofNat 11 b).toNat : Int) - (1023 + 52 : Nat) = e
  omega

-- ---------------------------------------------------------------------------
-- Rounding
-- ---------------------------------------------------------------------------

theorem targetExponent_totalExponent (m : Nat) (e : Int) :
    Format.binary64.targetExponent (totalExponent m e) = max (m.log2 + e - 52) (-1074) := by
  have hMin : Format.binary64.minExponent = -1074 := by decide
  have hBits : Format.binary64.mantissaBits = 53 := rfl
  unfold Format.targetExponent totalExponent
  rw [hMin, hBits]
  omega

theorem mantissa_shiftRight (em : ExtendedMantissa) (k : Nat) :
    (em >>> k).mantissa = em.mantissa / 2 ^ k := by
  induction k with
  | zero => simp [HShiftRight.hShiftRight, Nat.repeat]
  | succ k ih =>
    show (em >>> k).mantissa / 2 = em.mantissa / 2 ^ (k + 1)
    rw [ih, Nat.div_div_eq_div_mul, Nat.pow_succ]

/-- Nothing is lost when all bits that are cut off are zero. -/
theorem shiftRight_exact {m k : Nat} (h : 2 ^ k ∣ m) :
    (⟨m, false, false⟩ : ExtendedMantissa) >>> k = ⟨m / 2 ^ k, false, false⟩ := by
  induction k with
  | zero => simp [HShiftRight.hShiftRight, Nat.repeat]
  | succ k ih =>
    have hShifted := ih ((Nat.pow_dvd_pow 2 (Nat.le_succ k)).trans h)
    have hEven : m / 2 ^ k % 2 = 0 := by
      obtain ⟨c, rfl⟩ := h
      rw [Nat.pow_succ, Nat.mul_assoc, Nat.mul_div_cancel_left _ (Nat.two_pow_pos k)]
      exact Nat.mul_mod_right 2 c
    show ((⟨m, false, false⟩ : ExtendedMantissa) >>> k).shiftRightOne = _
    rw [hShifted]
    simp [ExtendedMantissa.shiftRightOne, hEven, Nat.div_div_eq_div_mul, Nat.pow_succ]

theorem roundedMantissa_bounds (em : ExtendedMantissa) :
    em.mantissa ≤ em.roundedMantissa ∧ em.roundedMantissa ≤ em.mantissa + 1 := by
  obtain ⟨m, roundBit, stickyBit⟩ := em
  cases roundBit <;> cases stickyBit <;>
    simp [ExtendedMantissa.roundedMantissa, ExtendedMantissa.accuracy,
      Accuracy.roundToNearestEven]
  omega

theorem shiftToTargetExponent_normal {m : Nat} {e : Int} (hNormal : m.log2 = 52)
    (hLow : -1074 ≤ e) :
    shiftToTargetExponent Format.binary64 m e .exact = (⟨m, false, false⟩, e) := by
  unfold shiftToTargetExponent shiftToExponent
  rw [targetExponent_totalExponent]
  have hNone : (max ((m.log2 : Int) + e - 52) (-1074) - e).toNat = 0 := by omega
  simp [hNone, ExtendedMantissa.ofMantissaAndAccuracy, HShiftRight.hShiftRight, Nat.repeat]

/-- A mantissa of 53 bits and `k` more is rounded to 53 bits: down, or up to the next one, and not
at all when the bits that are cut off are zero. -/
theorem roundWithAccuracy_eq (sign : Sign) {m k : Nat} {e : Int} (hSize : m.log2 = 52 + k)
    (hLow : -1074 ≤ e + k) :
    ∃ r, m / 2 ^ k ≤ r ∧ r ≤ m / 2 ^ k + 1 ∧ (2 ^ k ∣ m → r = m / 2 ^ k) ∧
      ∀ hNormal : r.log2 = 52,
        roundWithAccuracy Format.binary64 sign m e .exact =
          .finite sign r (e + k) (Nat.pos_of_ne_zero fun hNone => by simp [hNone] at hNormal) := by
  let em : ExtendedMantissa := ⟨m, false, false⟩
  have hAmount : (Format.binary64.targetExponent (totalExponent m e) - e).toNat = k := by
    rw [targetExponent_totalExponent]
    omega
  have hFirst : shiftToTargetExponent Format.binary64 m e .exact = (em >>> k, e + k) := by
    unfold shiftToTargetExponent shiftToExponent
    dsimp only
    rw [hAmount]
    rfl
  have hBounds := roundedMantissa_bounds (em >>> k)
  rw [mantissa_shiftRight] at hBounds
  refine ⟨(em >>> k).roundedMantissa, hBounds.1, hBounds.2, fun hExact => ?_, fun hNormal => ?_⟩
  · show ((⟨m, false, false⟩ : ExtendedMantissa) >>> k).roundedMantissa = _
    rw [shiftRight_exact hExact]
    rfl
  · have hPos : (em >>> k).roundedMantissa ≠ 0 := fun hNone => by simp [hNone] at hNormal
    unfold roundWithAccuracy
    simp only [hFirst, shiftToTargetExponent_normal hNormal hLow, hPos, ↓reduceDIte]

/-- The sum of positive numbers, in units of the smaller exponent. -/
theorem add_eq_round {m₁ m₂ k : Nat} {e : Int} (h₁ : 0 < m₁) (h₂ : 0 < m₂) :
    UnpackedFloat.add Format.binary64 (.finite .positive m₁ (e + k) h₁)
      (.finite .positive m₂ e h₂) =
        UnpackedFloat.round Format.binary64 .positive (m₁ * 2 ^ k + m₂) e := by
  have hSmaller : min (e + k) e = e := by omega
  have hWidened : (e + k - e).toNat = k := by omega
  have hGreater : compare ((m₁ * 2 ^ k : Nat) + m₂ : Int) 0 = .gt :=
    Int.compare_eq_gt.2 (by omega)
  unfold UnpackedFloat.add decreaseExponent
  simp only [hSmaller, hWidened, Int.sub_self, Int.toNat_zero, Nat.shiftLeft_eq,
    Nat.pow_zero, Nat.mul_one, Sign.apply]
  unfold UnpackedFloat.normalize
  rw [hGreater]
  rfl

theorem round_eq_roundWithAccuracy {m : Nat} {e : Int} (hLong : 52 ≤ m.log2) :
    UnpackedFloat.round Format.binary64 .positive m e =
      roundWithAccuracy Format.binary64 .positive m e .exact := by
  have hNone : (e - max (m.log2 + e - 52) (-1074)).toNat = 0 := by omega
  unfold UnpackedFloat.round decreaseExponent
  simp [targetExponent_totalExponent, hNone]

-- ---------------------------------------------------------------------------
-- Whole numbers
-- ---------------------------------------------------------------------------

/-- The mantissa of a positive whole number. -/
def mantissa (n : Nat) : Nat := n * 2 ^ (52 - n.log2)

/-- The exponent of a positive whole number. -/
def exponent (n : Nat) : Int := n.log2 - 52

theorem mantissa_pos {n : Nat} (hPos : 0 < n) : 0 < mantissa n :=
  Nat.mul_pos hPos (Nat.two_pow_pos _)

theorem log2_mul_two_pow {n : Nat} (hPos : 0 < n) (k : Nat) :
    (n * 2 ^ k).log2 = n.log2 + k := by
  have hLow := Nat.log2_self_le hPos.ne'
  have hHigh := Nat.lt_log2_self (n := n)
  refine (Nat.log2_eq_iff (Nat.mul_pos hPos (Nat.two_pow_pos k)).ne').2 ⟨?_, ?_⟩
  · rw [Nat.pow_add]
    exact Nat.mul_le_mul_right _ hLow
  · rw [Nat.add_right_comm, Nat.pow_add]
    exact (Nat.mul_lt_mul_right (Nat.two_pow_pos k)).2 hHigh

theorem log2_mantissa {n : Nat} (hPos : 0 < n) (hSmall : n < 2 ^ 53) :
    (mantissa n).log2 = 52 := by
  have hSize : n.log2 < 53 := (Nat.log2_lt hPos.ne').2 hSmall
  rw [mantissa, log2_mul_two_pow hPos]
  omega

/-- A positive whole number, unpacked. -/
def unpacked {n : Nat} (hPos : 0 < n) : UnpackedFloat :=
  .finite .positive (mantissa n) (exponent n) (mantissa_pos hPos)

theorem unpack_zero : (Float.ofInt 0).toModel.unpack = .zero .positive := rfl

theorem unpack_one :
    (Float.ofInt 1).toModel.unpack = .finite .positive (2 ^ 52) (-52) (by decide) := rfl

section Arithmetic

variable {n : Nat} (hPos : 0 < n) (hSmall : n < 2 ^ 53)
include hPos hSmall

theorem unpack_pack_unpacked : (Float.Model.pack (unpacked hPos)).unpack = unpacked hPos :=
  unpack_pack (mantissa_pos hPos) (log2_mantissa hPos hSmall)
    (by unfold exponent; omega)
    (by
      have hSize : n.log2 < 53 := (Nat.log2_lt hPos.ne').2 hSmall
      unfold exponent
      omega)

/-- Rounding the mantissa of a whole number with `k` zero bits after it gives the number. -/
theorem roundWithAccuracy_mantissa (k : Nat) :
    roundWithAccuracy Format.binary64 .positive (mantissa n * 2 ^ k) (exponent n - k) .exact =
      unpacked hPos := by
  have hSize : (mantissa n * 2 ^ k).log2 = 52 + k := by
    rw [log2_mul_two_pow (mantissa_pos hPos), log2_mantissa hPos hSmall]
  obtain ⟨r, -, -, hExact, hRounded⟩ := roundWithAccuracy_eq (e := exponent n - k) .positive hSize
    (by unfold exponent; omega)
  have hValue : r = mantissa n := by
    rw [hExact (Nat.dvd_mul_left _ _), Nat.mul_div_cancel _ (Nat.two_pow_pos k)]
  subst hValue
  rw [hRounded (log2_mantissa hPos hSmall)]
  unfold unpacked
  congr 1
  omega

theorem toModel_toFloat : n.toUInt64.toFloat.toModel = Float.Model.pack (unpacked hPos) := by
  have hSize : n.log2 < 53 := (Nat.log2_lt hPos.ne').2 hSmall
  have hSame : n.toUInt64.toNat = n := Nat.mod_eq_of_lt (by omega)
  have hGreater : compare (n : Int) 0 = .gt := Int.compare_eq_gt.2 (by omega)
  have hTarget : Format.binary64.targetExponent (totalExponent n 0) = n.log2 - 52 := by
    rw [targetExponent_totalExponent]
    omega
  have hAmount : (0 - ((n.log2 : Int) - 52)).toNat = 52 - n.log2 := by omega
  show Float.Model.pack
    (UnpackedFloat.normalize Format.binary64 (n.toUInt64.toNat : Int) 0 .positive) = _
  rw [hSame]
  unfold UnpackedFloat.normalize
  rw [hGreater]
  show Float.Model.pack (UnpackedFloat.round Format.binary64 .positive n 0) = _
  unfold UnpackedFloat.round decreaseExponent
  dsimp only
  rw [hTarget, hAmount, Nat.shiftLeft_eq, ← roundWithAccuracy_mantissa hPos hSmall 0]
  congr 2
  · simp [mantissa]
  · unfold exponent
    omega

theorem toModel_ofInt : (Float.ofInt n).toModel = Float.Model.pack (unpacked hPos) := by
  have hOne : (Float.ofBits 0x3FF0000000000000).toModel.unpack =
      .finite .positive (2 ^ 52) (-52) (by decide) := rfl
  -- a literal is its digits times a power of ten
  have hScientific : Float.ofInt n = n.toUInt64.toFloat * Float.ofBits 0x3FF0000000000000 := by
    show Float.ofScientific n false 0 = _
    unfold Float.ofScientific
    rw [dif_pos ⟨hSmall, by decide⟩]
    rfl
  rw [hScientific]
  show Float.Model.pack (UnpackedFloat.mul Format.binary64 n.toUInt64.toFloat.toModel.unpack
    (Float.ofBits 0x3FF0000000000000).toModel.unpack) = _
  rw [toModel_toFloat hPos hSmall, unpack_pack_unpacked hPos hSmall, hOne]
  exact congrArg Float.Model.pack (roundWithAccuracy_mantissa hPos hSmall 52)

theorem unpack_ofInt : (Float.ofInt n).toModel.unpack = unpacked hPos := by
  rw [toModel_ofInt hPos hSmall, unpack_pack_unpacked hPos hSmall]

theorem ofInt_eq : Float.ofInt n = Float.ofModel (Float.Model.pack (unpacked hPos)) := by
  rw [← toModel_ofInt hPos hSmall]

theorem zero_lt_ofInt : Float.ofInt 0 < Float.ofInt n := by
  have hLess : UnpackedFloat.lt (Float.ofInt 0).toModel.unpack (Float.ofInt n).toModel.unpack := by
    rw [unpack_ofInt hPos hSmall, unpack_zero]
    rfl
  exact decide_eq_true hLess

theorem zero_add_ofInt : Float.ofInt 0 + Float.ofInt n = Float.ofInt n := by
  show Float.ofModel (Float.Model.pack (UnpackedFloat.add Format.binary64
    (Float.ofInt 0).toModel.unpack (Float.ofInt n).toModel.unpack)) = _
  rw [unpack_ofInt hPos hSmall, unpack_zero, ofInt_eq hPos hSmall]
  rfl

theorem ofInt_add_zero : Float.ofInt n + Float.ofInt 0 = Float.ofInt n := by
  show Float.ofModel (Float.Model.pack (UnpackedFloat.add Format.binary64
    (Float.ofInt n).toModel.unpack (Float.ofInt 0).toModel.unpack)) = _
  rw [unpack_ofInt hPos hSmall, unpack_zero, ofInt_eq hPos hSmall]
  rfl

theorem ofInt_mul_one : Float.ofInt n * Float.ofInt 1 = Float.ofInt n := by
  show Float.ofModel (Float.Model.pack (UnpackedFloat.mul Format.binary64
    (Float.ofInt n).toModel.unpack (Float.ofInt 1).toModel.unpack)) = _
  rw [unpack_ofInt hPos hSmall, unpack_one, ofInt_eq hPos hSmall]
  exact congrArg (fun u => Float.ofModel (Float.Model.pack u))
    (roundWithAccuracy_mantissa hPos hSmall 52)

theorem ofInt_sub_self : Float.ofInt n - Float.ofInt n = Float.ofInt 0 := by
  show Float.ofModel (Float.Model.pack (UnpackedFloat.sub Format.binary64
    (Float.ofInt n).toModel.unpack (Float.ofInt n).toModel.unpack)) = _
  rw [unpack_ofInt hPos hSmall]
  unfold unpacked UnpackedFloat.sub decreaseExponent UnpackedFloat.normalize
  simp only [Sign.apply, Int.sub_self]
  rfl

theorem ofInt_div_self : Float.ofInt n / Float.ofInt n = Float.ofInt 1 := by
  show Float.ofModel (Float.Model.pack (UnpackedFloat.div Format.binary64
    (Float.ofInt n).toModel.unpack (Float.ofInt n).toModel.unpack)) = _
  have hTarget : Format.binary64.targetExponent
      (totalExponent (mantissa n) (exponent n) - totalExponent (mantissa n) (exponent n)) =
        -53 := by
    rw [Int.sub_self]
    decide
  have hQuotient : divCore Format.binary64 (mantissa n) (exponent n) (mantissa n) (exponent n) =
      (2 ^ 53, -53, .exact) := by
    unfold divCore
    rw [hTarget, Int.sub_self]
    show (mantissa n <<< 53 / mantissa n, -53,
      accuracyOfFraction (mantissa n <<< 53 % mantissa n) (mantissa n)) = _
    rw [Nat.shiftLeft_eq, Nat.mul_div_cancel_left _ (mantissa_pos hPos), Nat.mul_mod_right]
    rfl
  rw [unpack_ofInt hPos hSmall]
  unfold unpacked UnpackedFloat.div
  dsimp only
  rw [hQuotient]
  rfl

end Arithmetic

-- ---------------------------------------------------------------------------
-- The tolerance
-- ---------------------------------------------------------------------------

/-- The tolerance has the exponent -72. -/
theorem unpack_tolerance : ∃ tiny, ∃ h : 0 < tiny, tiny < 2 ^ 53 ∧
    (Measure.tolerance : Float).toModel.unpack = .finite .positive tiny (-72) h :=
  ⟨4722366482869645, by decide, by decide, rfl⟩

section Tolerance

variable {n : Nat} (hPos : 0 < n) (hSmall : n < 2 ^ 51)
include hPos hSmall

theorem log2_add_tiny {tiny : Nat} (h : tiny < 2 ^ 53) :
    (n * 2 ^ 72 + tiny).log2 = n.log2 + 72 := by
  have hLow := Nat.log2_self_le hPos.ne'
  have hHigh := Nat.lt_log2_self (n := n)
  refine (Nat.log2_eq_iff (by omega)).2 ⟨?_, ?_⟩
  · rw [Nat.pow_add]
    exact (Nat.mul_le_mul_right _ hLow).trans (Nat.le_add_right _ _)
  · rw [Nat.add_right_comm, Nat.pow_add]
    have hNext : (n + 1) * 2 ^ 72 ≤ 2 ^ (n.log2 + 1) * 2 ^ 72 := Nat.mul_le_mul_right _ hHigh
    omega

omit hSmall in
/-- What lies between a whole number and the next one has the same exponent. -/
theorem log2_eq_of_between (hFormat : n < 2 ^ 53) {r : Nat} (hLow : mantissa n ≤ r)
    (hHigh : r < (n + 1) * 2 ^ (52 - n.log2)) : r.log2 = 52 := by
  have hSize : n.log2 < 53 := (Nat.log2_lt hPos.ne').2 hFormat
  have hFirst := ((Nat.log2_eq_iff (mantissa_pos hPos).ne').1 (log2_mantissa hPos hFormat)).1
  have hEnd : (n + 1) * 2 ^ (52 - n.log2) ≤ 2 ^ (52 + 1) := by
    calc (n + 1) * 2 ^ (52 - n.log2)
        ≤ 2 ^ (n.log2 + 1) * 2 ^ (52 - n.log2) := Nat.mul_le_mul_right _ Nat.lt_log2_self
      _ = 2 ^ (52 + 1) := by rw [← Nat.pow_add]; congr 1; omega
  have hr : r ≠ 0 := ((mantissa_pos hPos).trans_le hLow).ne'
  exact (Nat.log2_eq_iff hr).2 ⟨hFirst.trans hLow, hHigh.trans_le hEnd⟩

/-- Below the next whole number there is room for the tolerance and for rounding up. -/
theorem unpack_add_tolerance :
    ∃ r, ∃ h : 0 < r, mantissa n ≤ r ∧ r < (n + 1) * 2 ^ (52 - n.log2) ∧
      (Float.ofInt n + Measure.tolerance).toModel.unpack = .finite .positive r (exponent n) h := by
  have hSize : n.log2 < 51 := (Nat.log2_lt hPos.ne').2 hSmall
  obtain ⟨k, hk⟩ : ∃ k, k = n.log2 + 20 := ⟨_, rfl⟩
  have hUnit : 2 ^ (52 - n.log2) * 2 ^ k = 2 ^ 72 := by
    rw [← Nat.pow_add]
    congr 1
    omega
  have hWidened : mantissa n * 2 ^ k = n * 2 ^ 72 := by
    rw [mantissa, Nat.mul_assoc, hUnit]
  obtain ⟨tiny, hTiny, hTinySmall, hTolerance⟩ := unpack_tolerance
  have hLog := log2_add_tiny hPos hSmall hTinySmall
  obtain ⟨r, hDown, hUp, -, hRounded⟩ :=
    roundWithAccuracy_eq (m := n * 2 ^ 72 + tiny) (k := k) (e := -72) .positive
      (by omega) (by omega)
  have hLow : mantissa n ≤ r := by
    refine le_trans ?_ hDown
    rw [Nat.le_div_iff_mul_le (Nat.two_pow_pos k), hWidened]
    exact Nat.le_add_right _ _
  have hRoom : (n * 2 ^ 72 + tiny) / 2 ^ k < (n + 1) * 2 ^ (52 - n.log2) - 1 := by
    have hShift : 2 ^ k ≤ 2 ^ 70 := Nat.pow_le_pow_right (by decide) (by omega)
    rw [Nat.div_lt_iff_lt_mul (Nat.two_pow_pos k), Nat.sub_mul, Nat.one_mul, Nat.mul_assoc, hUnit]
    omega
  have hHigh : r < (n + 1) * 2 ^ (52 - n.log2) :=
    Nat.lt_of_le_of_lt hUp (Nat.add_lt_of_lt_sub hRoom)
  have hNormal : r.log2 = 52 := log2_eq_of_between hPos (by omega) hLow hHigh
  have hr : 0 < r := (mantissa_pos hPos).trans_le hLow
  have hSum : UnpackedFloat.add Format.binary64 (unpacked hPos)
      (.finite .positive tiny (-72) hTiny) = .finite .positive r (exponent n) hr := by
    have hShifted : exponent n = -72 + k := by unfold exponent; omega
    unfold unpacked
    simp only [hShifted]
    rw [add_eq_round, hWidened, round_eq_roundWithAccuracy (by omega)]
    exact hRounded hNormal
  refine ⟨r, hr, hLow, hHigh, ?_⟩
  show (Float.Model.pack (UnpackedFloat.add Format.binary64 (Float.ofInt n).toModel.unpack
    (Measure.tolerance : Float).toModel.unpack)).unpack = _
  rw [unpack_ofInt hPos (by omega), hTolerance, hSum]
  exact unpack_pack hr hNormal (by unfold exponent; omega) (by unfold exponent; omega)

theorem toUInt64_add_tolerance : (Float.ofInt n + Measure.tolerance).toUInt64.toNat = n := by
  obtain ⟨r, h, hLow, hHigh, hSum⟩ := unpack_add_tolerance hPos hSmall
  have hSize : n.log2 < 51 := (Nat.log2_lt hPos.ne').2 hSmall
  have hWhole : r / 2 ^ (52 - n.log2) = n :=
    Nat.div_eq_of_lt_le hLow hHigh
  have hUp : (exponent n - 0).toNat = 0 := by unfold exponent; omega
  have hDown : (0 - (exponent n - (0 : Nat))).toNat = 52 - n.log2 := by unfold exponent; omega
  have hToInt : roundToInt .positive r (exponent n) = n := by
    unfold roundToInt decreaseExponent shiftToExponent
    dsimp only
    rw [hUp, hDown, mantissa_shiftRight]
    simp [Sign.apply, ExtendedMantissa.ofMantissaAndAccuracy, hWhole]
  show (UnpackedFloat.toUInt64 (Float.ofInt n + Measure.tolerance).toModel.unpack).toNat = n
  rw [hSum]
  show (UInt64.ofNatClamp (roundToInt .positive r (exponent n)).toNat).toNat = n
  rw [hToInt, Int.toNat_natCast, UInt64.ofNatClamp_eq_ofNat n (by show n < 2 ^ 64; omega)]
  exact Nat.mod_eq_of_lt (by omega)

end Tolerance

-- ---------------------------------------------------------------------------
-- Travel times
-- ---------------------------------------------------------------------------

section Travel

variable {n : Int} (hNonneg : 0 ≤ n) (hSmall : n < 2 ^ 51)
include hNonneg hSmall

/-- A single pair of stops gets all of a whole number of seconds. -/
theorem split_single : Allocation.split [n] (Float.ofInt n) = [Float.ofInt n] := by
  obtain ⟨k, rfl⟩ := Int.eq_ofNat_of_zero_le hNonneg
  obtain rfl | hPos := Nat.eq_zero_or_pos k
  · decide +kernel
  · have hFormat : k < 2 ^ 53 := by omega
    have hClipped : max (k : Int) 0 = k := by omega
    have hTotal : Float.ofInt 0 + Float.ofInt k = Float.ofInt k :=
      zero_add_ofInt hPos hFormat
    have hShares : (Allocation.shares [(k : Int)] : List Float) = [Float.ofInt 1] := by
      show (if Float.ofInt 0 < Float.ofInt 0 + Float.ofInt (max k 0) then
          [Float.ofInt (max k 0) / (Float.ofInt 0 + Float.ofInt (max k 0))]
        else [Float.ofInt 1 / Float.ofInt 1]) = _
      rw [hClipped, hTotal, if_pos (zero_lt_ofInt hPos hFormat),
        ofInt_div_self hPos hFormat]
    unfold Allocation.split
    rw [hShares]
    exact congrArg (fun x => [x]) (ofInt_mul_one hPos hFormat)

/-- A clock moves by exactly a whole number of seconds, and nothing is left to carry along. -/
theorem advance_whole :
    Travel.advance (Measure.zero : Float) (Float.ofInt n) none = (n.toNat, Measure.zero) := by
  obtain ⟨k, rfl⟩ := Int.eq_ofNat_of_zero_le hNonneg
  obtain rfl | hPos := Nat.eq_zero_or_pos k
  · decide +kernel
  · have hFormat : k < 2 ^ 53 := by omega
    have hRemaining : Travel.remaining (Measure.zero : Float) (Float.ofInt k) none =
        Float.ofInt k := by
      have hSum : Float.ofInt k + Float.ofInt 0 = Float.ofInt k := ofInt_add_zero hPos hFormat
      show (if Float.ofInt 0 < Float.ofInt k + Float.ofInt 0 then Float.ofInt k + Float.ofInt 0
        else Float.ofInt 0) = _
      rw [hSum, if_pos (zero_lt_ofInt hPos hFormat)]
    have hWhole : Measure.wholePart (Float.ofInt k + Measure.tolerance) = k :=
      toUInt64_add_tolerance hPos (by omega)
    unfold Travel.advance
    dsimp only
    rw [hRemaining, hWhole]
    exact congrArg (k, ·) (ofInt_sub_self hPos hFormat)

end Travel

end TransitForecast.WholeNumber
