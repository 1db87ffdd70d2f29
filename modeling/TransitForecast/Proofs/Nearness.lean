import TransitForecast.Prediction.Disposition
import TransitForecast.Proofs.WholeNumbers

/-!
# TransitForecast — nearness in floating point

Whether a vehicle has passed a stop is read off a difference of two positions, which is rounded. A
difference is at most two when it is rounded if it exceeds two by no more than half a unit of the
last place of two, `2 ^ (-52)`; so where the vehicle counts as past a stop has an exact answer in
rational numbers, and stops are passed in the order in which they lie along the trip.

Rounding is followed through the shift of the mantissa: what it does to a difference between two and
four depends on the bits that are cut off, below two and from four on the exponent decides.

## Results

* `lt_nearest_iff` — when rounding a mantissa goes past an even one.
* `compare_eq` — finite floats are compared by the numbers they stand for.
* `round_cases` — which numbers are rounded to at most two.
* `Disposition.classify_eq_past_iff` — which stops a vehicle has passed.
* `Disposition.classify_eq_past_of_le` — a stop before one that is passed is passed.
-/

namespace TransitForecast.Nearness

open Float.Model Float.Model.UnpackedFloat WholeNumber

-- ---------------------------------------------------------------------------
-- Rounding a mantissa
-- ---------------------------------------------------------------------------

/-- What is left of a mantissa after a shift, the last bit that was shifted out, and whether there
was one before it. -/
theorem shiftRight_succ_eq (m k : Nat) :
    (⟨m, false, false⟩ : ExtendedMantissa) >>> (k + 1) =
      ⟨m / 2 ^ (k + 1), m / 2 ^ k % 2 != 0, m % 2 ^ k != 0⟩ := by
  induction k with
  | zero => simp [HShiftRight.hShiftRight, Nat.repeat, ExtendedMantissa.shiftRightOne, Nat.mod_one]
  | succ k ih =>
    have hRest : m % 2 ^ (k + 1) = m % 2 ^ k + 2 ^ k * (m / 2 ^ k % 2) := Nat.mod_mul
    show ((⟨m, false, false⟩ : ExtendedMantissa) >>> (k + 1)).shiftRightOne = _
    rw [ih, hRest]
    unfold ExtendedMantissa.shiftRightOne
    congr 1
    · rw [Nat.div_div_eq_div_mul, ← Nat.pow_succ]
    · rcases Nat.mod_two_eq_zero_or_one (m / 2 ^ k) with hBit | hBit
      · simp [hBit]
      · simp [hBit]

/-- A mantissa without its last `k` bits, rounded to the nearest and in doubt to an even one. -/
def nearest (m k : Nat) : Nat := ((⟨m, false, false⟩ : ExtendedMantissa) >>> k).roundedMantissa

theorem mul_lt_mul_add_iff {c a d s : Nat} (hRest : s < d) :
    c * d < a * d + s ↔ c < a ∨ c = a ∧ 0 < s := by
  rcases Nat.lt_trichotomy c a with hLess | rfl | hMore
  · have hNext : c * d + d ≤ a * d := by
      rw [← Nat.succ_mul]
      exact Nat.mul_le_mul_right d hLess
    omega
  · omega
  · have hNext : a * d + d ≤ c * d := by
      rw [← Nat.succ_mul]
      exact Nat.mul_le_mul_right d hMore
    omega

/-- Rounding goes up past an even mantissa from more than half a unit beyond it. -/
theorem lt_nearest_iff {n : Nat} (hEven : n % 2 = 0) (m k : Nat) :
    n < nearest m k ↔ (2 * n + 1) * 2 ^ k < 2 * m := by
  cases k with
  | zero =>
    show n < m ↔ _
    omega
  | succ k =>
    obtain ⟨a, ha⟩ : ∃ a, a = m / 2 ^ k := ⟨_, rfl⟩
    obtain ⟨s, hs⟩ : ∃ s, s = m % 2 ^ k := ⟨_, rfl⟩
    have hRest : s < 2 ^ k := hs ▸ Nat.mod_lt m (Nat.two_pow_pos k)
    have hWhole : m = a * 2 ^ k + s := by rw [ha, hs, Nat.mul_comm, Nat.div_add_mod]
    have hHalf : m / 2 ^ (k + 1) = a / 2 := by rw [ha, Nat.div_div_eq_div_mul, Nat.pow_succ]
    have hBeyond : (2 * n + 1) * 2 ^ (k + 1) < 2 * m ↔ 2 * n + 1 < a ∨ 2 * n + 1 = a ∧ 0 < s := by
      rw [← mul_lt_mul_add_iff hRest, ← hWhole, Nat.pow_succ, ← Nat.mul_assoc, Nat.mul_comm _ 2]
      omega
    rw [hBeyond, nearest, shiftRight_succ_eq, hHalf, ← ha, ← hs]
    unfold ExtendedMantissa.roundedMantissa
    rcases Nat.mod_two_eq_zero_or_one a with hBit | hBit
    · rw [hBit]
      rcases Nat.eq_zero_or_pos s with rfl | hSome
      · show n < a / 2 ↔ _
        omega
      · rw [bne_iff_ne.2 hSome.ne']
        show n < a / 2 ↔ _
        omega
    · rw [hBit]
      rcases Nat.eq_zero_or_pos s with rfl | hSome
      · show n < a / 2 + a / 2 % 2 ↔ _
        omega
      · rw [bne_iff_ne.2 hSome.ne']
        show n < a / 2 + 1 ↔ _
        omega

theorem nearest_bounds (m k : Nat) : m / 2 ^ k ≤ nearest m k ∧ nearest m k ≤ m / 2 ^ k + 1 := by
  have h := roundedMantissa_bounds ((⟨m, false, false⟩ : ExtendedMantissa) >>> k)
  rw [mantissa_shiftRight] at h
  exact h

-- ---------------------------------------------------------------------------
-- Rounding a number
-- ---------------------------------------------------------------------------

/-- A mantissa that fits needs no second shift. -/
theorem shiftToTargetExponent_fits {m : Nat} {e : Int} (hFits : m < 2 ^ 53) (hLow : -1074 ≤ e) :
    shiftToTargetExponent Format.binary64 m e .exact = (⟨m, false, false⟩, e) := by
  have hSize : m.log2 ≤ 52 := by
    rcases Nat.eq_zero_or_pos m with rfl | hPos
    · decide
    · exact Nat.le_of_lt_succ ((Nat.log2_lt hPos.ne').2 hFits)
  unfold shiftToTargetExponent shiftToExponent
  rw [targetExponent_totalExponent]
  have hNone : (max ((m.log2 : Int) + e - 52) (-1074) - e).toNat = 0 := by omega
  simp [hNone, ExtendedMantissa.ofMantissaAndAccuracy, HShiftRight.hShiftRight, Nat.repeat]

/-- A mantissa that was rounded up to one more bit loses its last one, which is zero. -/
theorem shiftToTargetExponent_carry {e : Int} (hLow : -1074 ≤ e) :
    shiftToTargetExponent Format.binary64 (2 ^ 53) e .exact =
      (⟨2 ^ 52, false, false⟩, e + 1) := by
  unfold shiftToTargetExponent shiftToExponent
  dsimp only
  rw [targetExponent_totalExponent, Nat.log2_two_pow]
  have hOne : (max (((53 : Nat) : Int) + e - 52) (-1074) - e).toNat = 1 := by omega
  rw [hOne]
  rfl

/-- A rounded mantissa as a number, where rounding may have carried into another bit. -/
def carried (r : Nat) (e : Int) : UnpackedFloat :=
  if h : r = 0 then .zero .positive
  else if r < 2 ^ 53 then .finite .positive r e (Nat.pos_of_ne_zero h)
  else .finite .positive (2 ^ 52) (e + 1) (by decide)

/-- The exponent that a number is rounded to. -/
def unit (m : Nat) (e : Int) : Int := max (m.log2 + e - 52) (-1074)

theorem round_eq_carried {m : Nat} (hPos : 0 < m) (e : Int) :
    UnpackedFloat.round Format.binary64 .positive m e =
      carried (nearest (m * 2 ^ (e - unit m e).toNat) (unit m e - e).toNat) (unit m e) := by
  obtain ⟨t, ht⟩ : ∃ t, t = unit m e := ⟨_, rfl⟩
  obtain ⟨j, hj⟩ : ∃ j, j = (e - t).toNat := ⟨_, rfl⟩
  obtain ⟨k, hk⟩ : ∃ k, k = (t - e).toNat := ⟨_, rfl⟩
  have hTarget : t = max (m.log2 + e - 52) (-1074) := ht
  have hLow : -1074 ≤ t := by omega
  have hLog := log2_mul_two_pow hPos j
  rw [← ht, ← hj, ← hk]
  have hWidened : UnpackedFloat.round Format.binary64 .positive m e =
      roundWithAccuracy Format.binary64 .positive (m * 2 ^ j) (e - j) .exact := by
    unfold UnpackedFloat.round decreaseExponent
    dsimp only
    rw [targetExponent_totalExponent, ← hTarget, ← hj, Nat.shiftLeft_eq]
  have hAmount : (Format.binary64.targetExponent (totalExponent (m * 2 ^ j) (e - j)) -
      (e - j)).toNat = k := by
    rw [targetExponent_totalExponent, hLog]
    omega
  have hFirst : shiftToTargetExponent Format.binary64 (m * 2 ^ j) (e - j) .exact =
      ((⟨m * 2 ^ j, false, false⟩ : ExtendedMantissa) >>> k, t) := by
    unfold shiftToTargetExponent shiftToExponent
    dsimp only
    rw [hAmount]
    exact Prod.ext rfl (by show e - j + k = t; omega)
  have hRoom : m * 2 ^ j < 2 ^ 53 * 2 ^ k := by
    rw [← Nat.pow_add]
    exact (Nat.log2_lt (Nat.mul_pos hPos (Nat.two_pow_pos j)).ne').1 (by omega)
  have hLimit : nearest (m * 2 ^ j) k ≤ 2 ^ 53 :=
    (nearest_bounds _ k).2.trans ((Nat.div_lt_iff_lt_mul (Nat.two_pow_pos k)).2 hRoom)
  rw [hWidened]
  unfold roundWithAccuracy
  rw [hFirst]
  show (let (final, e) := shiftToTargetExponent _ (nearest (m * 2 ^ j) k) t .exact
    if h : final.mantissa = 0 then _ else UnpackedFloat.finite _ _ e (Nat.pos_of_ne_zero h)) = _
  obtain hFits | hCarry := Nat.lt_or_eq_of_le hLimit
  · rw [shiftToTargetExponent_fits hFits hLow, carried]
    simp only [hFits, ↓reduceIte]
  · rw [hCarry, shiftToTargetExponent_carry hLow]
    rfl

-- ---------------------------------------------------------------------------
-- At most two and more than two
-- ---------------------------------------------------------------------------

/-- What compares as at most two: zero, what has a smaller exponent, and two itself. -/
inductive AtMostTwo : UnpackedFloat → Prop
  | zero (sign : Sign) : AtMostTwo (.zero sign)
  | small {m : Nat} {e : Int} (h : 0 < m) : e ≤ -52 → AtMostTwo (.finite .positive m e h)
  | two (h : 0 < 2 ^ 52) : AtMostTwo (.finite .positive (2 ^ 52) (-51) h)

/-- What compares as more than two: infinity, and what has a greater exponent or mantissa. -/
inductive MoreThanTwo : UnpackedFloat → Prop
  | infinity : MoreThanTwo (.infinity .positive)
  | finite {m : Nat} {e : Int} (h : 0 < m) : m.log2 = 52 → -50 ≤ e ∨ e = -51 ∧ 2 ^ 52 < m →
      MoreThanTwo (.finite .positive m e h)

theorem unpack_two : Disposition.atStopDistance.toModel.unpack =
    .finite .positive (2 ^ 52) (-51) (by decide) := rfl

theorem AtMostTwo.le_two {x : UnpackedFloat} (h : AtMostTwo x) :
    x.le Disposition.atStopDistance.toModel.unpack = true := by
  rw [unpack_two]
  cases h with
  | zero sign => rfl
  | small h hSmall =>
    unfold UnpackedFloat.le UnpackedFloat.compare
    rw [Int.compare_eq_lt.2 (Int.lt_of_le_of_lt hSmall (by decide))]
    rfl
  | two h => rfl

theorem MoreThanTwo.not_le_two {x : UnpackedFloat} (h : MoreThanTwo x) :
    x.le Disposition.atStopDistance.toModel.unpack = false := by
  rw [unpack_two]
  cases h with
  | infinity => rfl
  | @finite m e h hNormal hLarge =>
    unfold UnpackedFloat.le UnpackedFloat.compare
    rcases hLarge with hLarge | ⟨rfl, hLarge⟩
    · rw [Int.compare_eq_gt.2 (show (-51 : Int) < e by omega)]
      rfl
    · rw [Nat.compare_eq_gt.2 hLarge]
      rfl

theorem atMostTwo_unpack {exponent : BitVec 11} (mantissa : BitVec 52)
    (hSmall : exponent.toNat ≤ 1023) :
    AtMostTwo (UnpackedFloat.unpack Format.binary64
      (packComponents Format.binary64 .positive exponent mantissa)) := by
  have hTop : exponent ≠ -1#11 := fun hSame => by
    rw [hSame] at hSmall
    exact absurd hSmall (by decide)
  unfold UnpackedFloat.unpack
  simp only [unpackMantissa_packComponents, unpackExponent_packComponents,
    WholeNumber.unpackSign_packComponents]
  rw [if_neg hTop]
  split
  · rename_i hBottom
    split
    · exact .zero _
    · refine .small _ ?_
      rw [hBottom]
      decide
  · refine .small _ ?_
    show (exponent.toNat : Int) - (1023 + 52 : Nat) ≤ -52
    omega

theorem pack_finite (sign : Sign) {m : Nat} {e : Int} (h : 0 < m) :
    UnpackedFloat.pack Format.binary64 (.finite sign m e h) =
      if 2 ^ 11 ≤ (e + 1023 + 52).toNat + 1 then packedInfinity Format.binary64 sign
      else if m.log2 + 1 = 53 then
        packComponents Format.binary64 sign (BitVec.ofNat 11 (e + 1023 + 52).toNat)
          (BitVec.ofNat 52 m)
      else packComponents Format.binary64 sign 0#11 (BitVec.ofNat 52 m) := rfl

/-- Packing keeps what is at most two below it. -/
theorem AtMostTwo.packed {x : UnpackedFloat} (h : AtMostTwo x) :
    AtMostTwo (Float.Model.pack x).unpack := by
  cases h with
  | zero sign =>
    have hZero : (Float.Model.pack (.zero sign)).unpack = .zero sign := by cases sign <;> rfl
    rw [hZero]
    exact .zero _
  | @small m e hPos hSmall =>
    have hBiased : (e + 1023 + 52).toNat ≤ 1023 := by omega
    show AtMostTwo (UnpackedFloat.unpack Format.binary64
      (UnpackedFloat.pack Format.binary64 (.finite .positive m e hPos)))
    rw [pack_finite, if_neg (by omega)]
    split
    · refine atMostTwo_unpack _ ?_
      rw [BitVec.toNat_ofNat]
      exact (Nat.mod_le _ _).trans hBiased
    · exact atMostTwo_unpack _ (by decide)
  | two h =>
    rw [unpack_pack h Nat.log2_two_pow (by decide) (by decide)]
    exact .two h

theorem AtMostTwo.abs {x : UnpackedFloat} (h : AtMostTwo x) : AtMostTwo x.abs := by
  cases h with
  | zero sign => exact .zero _
  | small h hSmall => exact .small h hSmall
  | two h => exact .two h

/-- Packing keeps what is more than two above it. -/
theorem MoreThanTwo.packed {x : UnpackedFloat} (h : MoreThanTwo x) :
    MoreThanTwo (Float.Model.pack x).unpack := by
  cases h with
  | infinity => exact .infinity
  | @finite m e hPos hNormal hLarge =>
    by_cases hHigh : e ≤ 971
    · rw [unpack_pack hPos hNormal (by omega) hHigh]
      exact .finite hPos hNormal hLarge
    · show MoreThanTwo (UnpackedFloat.unpack Format.binary64
        (UnpackedFloat.pack Format.binary64 (.finite .positive m e hPos)))
      rw [pack_finite, if_pos (by omega)]
      exact .infinity

theorem MoreThanTwo.abs {x : UnpackedFloat} (h : MoreThanTwo x) : MoreThanTwo x.abs := by
  cases h with
  | infinity => exact .infinity
  | finite h hNormal hLarge => exact .finite h hNormal hLarge

/-- Floats are compared as they are unpacked. -/
theorem float_lt_iff {x y : Float} :
    x < y ↔ UnpackedFloat.lt x.toModel.unpack y.toModel.unpack = true := by
  show Float.lt x y = true ↔ _
  unfold Float.lt
  rw [decide_eq_true_iff]
  rfl

theorem float_le_iff {x y : Float} :
    x ≤ y ↔ UnpackedFloat.le x.toModel.unpack y.toModel.unpack = true := by
  show Float.le x y = true ↔ _
  unfold Float.le
  rw [decide_eq_true_iff]
  rfl

theorem abs_sub_le_iff (p b t : Float) :
    (p - b).abs ≤ t ↔
      (Float.Model.pack (Float.Model.pack (UnpackedFloat.sub Format.binary64 p.toModel.unpack
        b.toModel.unpack)).unpack.abs).unpack.le t.toModel.unpack = true :=
  float_le_iff

-- ---------------------------------------------------------------------------
-- What is rounded to at most two
-- ---------------------------------------------------------------------------

/-- The greatest number that is rounded to two: half way to the next float, two having an even
mantissa. -/
def reach : ℚ := 2 + 2 ^ (-52 : ℤ)

theorem two_zpow_pos (e : ℤ) : (0 : ℚ) < 2 ^ e := zpow_pos (by norm_num) e

theorem reach_pos : 0 < reach := add_pos (by norm_num) (two_zpow_pos _)

theorem zpow_log2_le {m : Nat} (hPos : 0 < m) (e : ℤ) :
    (2 : ℚ) ^ (m.log2 + e) ≤ m * 2 ^ e := by
  rw [zpow_add₀ (by norm_num), zpow_natCast]
  have hLow : (2 : ℚ) ^ m.log2 ≤ m := by exact_mod_cast Nat.log2_self_le hPos.ne'
  exact mul_le_mul_of_nonneg_right hLow (two_zpow_pos e).le

theorem lt_zpow_log2 (m : Nat) (e : ℤ) : (m : ℚ) * 2 ^ e < 2 ^ (m.log2 + e + 1) := by
  rw [show (m.log2 : ℤ) + e + 1 = (m.log2 + 1 : ℕ) + e by push_cast; ring,
    zpow_add₀ (by norm_num), zpow_natCast]
  have hHigh : (m : ℚ) < 2 ^ (m.log2 + 1) := by exact_mod_cast Nat.lt_log2_self
  exact mul_lt_mul_of_pos_right hHigh (two_zpow_pos e)

theorem atMostTwo_carried {r : Nat} {e : Int} (h : e ≤ -52) : AtMostTwo (carried r e) := by
  unfold carried
  split
  · exact .zero _
  · split
    · exact .small _ h
    · obtain hLess | hEq := Int.lt_or_eq_of_le h
      · exact .small _ (by omega)
      · subst hEq
        exact .two _

theorem moreThanTwo_carried {r : Nat} {e : Int} (hNormal : 2 ^ 52 ≤ r)
    (h : -50 ≤ e ∨ e = -51 ∧ 2 ^ 52 < r) : MoreThanTwo (carried r e) := by
  have hPos : r ≠ 0 := by omega
  unfold carried
  rw [dif_neg hPos]
  split
  · exact .finite _ ((Nat.log2_eq_iff hPos).2 ⟨hNormal, ‹_›⟩) h
  · exact .finite _ Nat.log2_two_pow (.inl (by omega))

/-- A mantissa that is not below the format is rounded to one that has all its bits. -/
theorem two_pow_le_nearest {m k : Nat} (hPos : 0 < m) (hSize : 52 + k ≤ m.log2) :
    2 ^ 52 ≤ nearest m k := by
  refine le_trans ?_ (nearest_bounds m k).1
  rw [Nat.le_div_iff_mul_le (Nat.two_pow_pos k), ← Nat.pow_add]
  exact (Nat.pow_le_pow_right (by decide) hSize).trans (Nat.log2_self_le hPos.ne')

/-- Between two and four a number is rounded past two if it is beyond the first half unit. -/
theorem two_pow_lt_nearest_iff (m j k : Nat) :
    2 ^ 52 < nearest (m * 2 ^ j) k ↔ reach < m * 2 ^ ((j : ℤ) - k - 51) := by
  have hUnit : (0 : ℚ) < 2 ^ ((-52 : ℤ) - k) := two_zpow_pos _
  have hLeft : ((2 * 2 ^ 52 + 1) * 2 ^ k : ℕ) * (2 : ℚ) ^ ((-52 : ℤ) - k) = reach := by
    rw [zpow_sub₀ (by norm_num), zpow_natCast, reach]
    push_cast
    field_simp
    norm_num
  have hRight : (2 * (m * 2 ^ j) : ℕ) * (2 : ℚ) ^ ((-52 : ℤ) - k) = m * 2 ^ ((j : ℤ) - k - 51) := by
    have hShift : (2 : ℚ) ^ ((j : ℤ) - k - 51) = 2 * (2 ^ j * 2 ^ ((-52 : ℤ) - k)) := by
      rw [← zpow_natCast, ← zpow_add₀ (by norm_num), ← zpow_one_add₀ (by norm_num)]
      congr 1
      ring
    rw [hShift]
    push_cast
    ring
  rw [lt_nearest_iff (by decide), ← hLeft, ← hRight, mul_lt_mul_iff_left₀ hUnit, Nat.cast_lt]

/-- A number up to the reach is rounded to at most two, and any other to more. -/
theorem round_cases {m : Nat} (hPos : 0 < m) (e : Int) :
    ((m : ℚ) * 2 ^ e ≤ reach ∧
      AtMostTwo (UnpackedFloat.round Format.binary64 .positive m e)) ∨
    (reach < (m : ℚ) * 2 ^ e ∧
      MoreThanTwo (UnpackedFloat.round Format.binary64 .positive m e)) := by
  have hUnit : unit m e = max (m.log2 + e - 52) (-1074) := rfl
  have hLow := zpow_log2_le hPos e
  have hHigh := lt_zpow_log2 m e
  obtain ⟨j, hj⟩ : ∃ j, j = (e - unit m e).toNat := ⟨_, rfl⟩
  obtain ⟨k, hk⟩ : ∃ k, k = (unit m e - e).toNat := ⟨_, rfl⟩
  have hPosWide : 0 < m * 2 ^ j := Nat.mul_pos hPos (Nat.two_pow_pos j)
  have hLog := log2_mul_two_pow hPos j
  rw [round_eq_carried hPos, ← hj, ← hk]
  rcases Int.lt_trichotomy (m.log2 + e) 1 with hSmall | hMiddle | hLarge
  · refine .inl ⟨?_, atMostTwo_carried (by omega)⟩
    have hTwo : (2 : ℚ) ^ (m.log2 + e + 1) ≤ 2 ^ (1 : ℤ) :=
      zpow_le_zpow_right₀ (by norm_num) (by omega)
    have hPart := two_zpow_pos (-52)
    rw [zpow_one] at hTwo
    unfold reach
    linarith
  · have hExponent : e = j - k - 51 := by omega
    have hFull : 2 ^ 52 ≤ nearest (m * 2 ^ j) k := two_pow_le_nearest hPosWide (by omega)
    have hAt : unit m e = -51 := by omega
    have hIff := two_pow_lt_nearest_iff m j k
    rw [← hExponent] at hIff
    rw [hAt]
    obtain hEq | hMore := Nat.eq_or_lt_of_le hFull
    · refine .inl ⟨not_lt.1 fun hBeyond => ?_, ?_⟩
      · exact (hIff.2 hBeyond).ne hEq
      · rw [← hEq]
        exact .two _
    · exact .inr ⟨hIff.1 hMore, moreThanTwo_carried hFull (.inr ⟨rfl, hMore⟩)⟩
  · refine .inr ⟨?_, moreThanTwo_carried (two_pow_le_nearest hPosWide (by omega)) (by omega)⟩
    have hFour : (2 : ℚ) ^ (2 : ℤ) ≤ 2 ^ (m.log2 + e) :=
      zpow_le_zpow_right₀ (by norm_num) (by omega)
    have hHalf : (2 : ℚ) ^ (-52 : ℤ) ≤ 2 ^ (0 : ℤ) := zpow_le_zpow_right₀ (by norm_num) (by decide)
    unfold reach
    norm_num at hFour hHalf ⊢
    linarith

-- ---------------------------------------------------------------------------
-- The numbers that floats stand for
-- ---------------------------------------------------------------------------

/-- The number that a finite float stands for. -/
def value : UnpackedFloat → ℚ
  | .finite sign m e _ => sign.apply m * 2 ^ e
  | _ => 0

/-- The form that floats are unpacked to: the mantissa has all its bits unless the exponent is the
least one. -/
structure Canonical (m : Nat) (e : Int) : Prop where
  fits : m < 2 ^ 53
  low : -1074 ≤ e
  full : 2 ^ 52 ≤ m ∨ e = -1074

inductive IsNumber : UnpackedFloat → Prop
  | zero (sign : Sign) : IsNumber (.zero sign)
  | finite (sign : Sign) {m : Nat} {e : Int} (h : 0 < m) : Canonical m e →
      IsNumber (.finite sign m e h)

theorem canonical_of_unpack {x : Float.Model} {sign : Sign} {m : Nat} {e : Int} {h : 0 < m}
    (hx : x.unpack = .finite sign m e h) : Canonical m e := by
  unfold Float.Model.unpack UnpackedFloat.unpack at hx
  dsimp only at hx
  have hMantissa : (@unpackMantissa Format.binary64 x.toBits.toBitVec).toNat < 2 ^ 52 :=
    (@unpackMantissa Format.binary64 x.toBits.toBitVec).isLt
  split at hx
  · split at hx
    · cases hx
    · cases hx
  · split at hx
    · rename_i hBottom
      rw [hBottom] at hx
      split at hx
      · cases hx
      · cases hx
        exact ⟨hMantissa.trans (by decide), by decide, .inr (by decide)⟩
    · rename_i hBottom
      cases hx
      have hExponent : (@unpackExponent Format.binary64 x.toBits.toBitVec).toNat ≠ 0 :=
        fun hZero => hBottom (BitVec.eq_of_toNat_eq hZero)
      have hFull : (1#1 ++ @unpackMantissa Format.binary64 x.toBits.toBitVec).toNat =
          2 ^ 52 + (@unpackMantissa Format.binary64 x.toBits.toBitVec).toNat := by
        rw [BitVec.toNat_append, ← Nat.shiftLeft_add_eq_or_of_lt hMantissa]
        rfl
      refine ⟨BitVec.isLt _, ?_, .inl ?_⟩
      · show -1074 ≤ ((@unpackExponent Format.binary64 x.toBits.toBitVec).toNat : Int) -
          (1023 + 52 : Nat)
        omega
      · rw [hFull]
        exact Nat.le_add_right _ _

/-- A number with a smaller exponent is smaller. -/
theorem Canonical.lt_of_exponent_lt {m n : Nat} {e f : Int} (hm : Canonical m e)
    (hn : Canonical n f) (h : e < f) : (m : ℚ) * 2 ^ e < n * 2 ^ f := by
  have hLow := hm.low
  have hFull : 2 ^ 52 ≤ n := hn.full.resolve_right (by omega)
  have hFitsCast : (m : ℚ) < 2 ^ 53 := by exact_mod_cast hm.fits
  have hFullCast : (2 : ℚ) ^ 52 ≤ n := by exact_mod_cast hFull
  calc (m : ℚ) * 2 ^ e
      < 2 ^ 53 * 2 ^ e := mul_lt_mul_of_pos_right hFitsCast (two_zpow_pos e)
    _ = 2 ^ 52 * 2 ^ (e + 1) := by rw [zpow_add_one₀ (by norm_num)]; ring
    _ ≤ 2 ^ 52 * 2 ^ f := by
        refine mul_le_mul_of_nonneg_left ?_ (by norm_num)
        exact zpow_le_zpow_right₀ (by norm_num) h
    _ ≤ n * 2 ^ f := mul_le_mul_of_nonneg_right hFullCast (two_zpow_pos f).le

/-- Positive numbers are ordered by their exponents, and by their mantissas where these agree. -/
theorem compare_magnitudes {m n : Nat} {e f : Int} (hm : Canonical m e) (hn : Canonical n f) :
    (compare e f).then (compare m n) = compare ((m : ℚ) * 2 ^ e) ((n : ℚ) * 2 ^ f) := by
  rcases Int.lt_trichotomy e f with hLess | rfl | hMore
  · rw [Int.compare_eq_lt.2 hLess, compare_lt_iff_lt.2 (hm.lt_of_exponent_lt hn hLess)]
    rfl
  · rw [Int.compare_eq_eq.2 rfl]
    rcases Nat.lt_trichotomy m n with hLess | rfl | hMore
    · have hCast : (m : ℚ) < n := by exact_mod_cast hLess
      rw [Nat.compare_eq_lt.2 hLess,
        compare_lt_iff_lt.2 (mul_lt_mul_of_pos_right hCast (two_zpow_pos e))]
      rfl
    · rw [Nat.compare_eq_eq.2 rfl, compare_eq_iff_eq.2 rfl]
      rfl
    · have hCast : (n : ℚ) < m := by exact_mod_cast hMore
      rw [Nat.compare_eq_gt.2 hMore,
        compare_gt_iff_gt.2 (mul_lt_mul_of_pos_right hCast (two_zpow_pos e))]
      rfl
  · rw [Int.compare_eq_gt.2 hMore, compare_gt_iff_gt.2 (hn.lt_of_exponent_lt hm hMore)]
    rfl

theorem compare_neg (a b : ℚ) : compare (-a) (-b) = compare b a := by
  rcases lt_trichotomy a b with hLess | rfl | hMore
  · rw [compare_gt_iff_gt.2 hLess, compare_gt_iff_gt.2 (neg_lt_neg hLess)]
  · rw [compare_eq_iff_eq.2 rfl, compare_eq_iff_eq.2 rfl]
  · rw [compare_lt_iff_lt.2 hMore, compare_lt_iff_lt.2 (neg_lt_neg hMore)]

theorem value_positive {m : Nat} {e : Int} (h : 0 < m) :
    0 < value (.finite .positive m e h) := by
  have hPos : (0 : ℚ) < m := by exact_mod_cast h
  exact mul_pos hPos (two_zpow_pos e)

theorem value_negative {m : Nat} {e : Int} (h : 0 < m) :
    value (.finite .negative m e h) = -value (.finite .positive m e h) := by
  simp [value, Sign.apply]

/-- Numbers are compared by their values. -/
theorem compare_eq {x y : UnpackedFloat} (hx : IsNumber x) (hy : IsNumber y) :
    x.compare y = some (compare (value x) (value y)) := by
  cases hx with
  | zero sign =>
    cases hy with
    | zero sign' =>
      rw [compare_eq_iff_eq.2 (show value (.zero sign) = value (.zero sign') from rfl)]
      rfl
    | @finite sign' m' e' h' =>
      have hPos := value_positive (e := e') h'
      cases sign' with
      | positive =>
        rw [compare_lt_iff_lt.2 (show value (.zero sign) < _ from hPos)]
        rfl
      | negative =>
        have hNeg := neg_lt_zero.2 hPos
        rw [value_negative, compare_gt_iff_gt.2 (show _ < value (.zero sign) from hNeg)]
        rfl
  | @finite sign m e h hCanonical =>
    have hPos := value_positive (e := e) h
    have hNeg := neg_lt_zero.2 hPos
    cases hy with
    | zero sign' =>
      cases sign with
      | positive =>
        rw [compare_gt_iff_gt.2 (show value (.zero sign') < _ from hPos)]
        rfl
      | negative =>
        rw [value_negative, compare_lt_iff_lt.2 (show _ < value (.zero sign') from hNeg)]
        rfl
    | @finite sign' m' e' h' hCanonical' =>
      have hPos' := value_positive (e := e') h'
      have hSame : (compare e e').then (compare m m') =
          compare (value (.finite .positive m e h)) (value (.finite .positive m' e' h')) :=
        compare_magnitudes hCanonical hCanonical'
      cases sign with
      | positive =>
        cases sign' with
        | positive => exact congrArg some hSame
        | negative =>
          rw [value_negative, compare_gt_iff_gt.2 ((neg_lt_zero.2 hPos').trans hPos)]
          rfl
      | negative =>
        cases sign' with
        | positive =>
          rw [value_negative, compare_lt_iff_lt.2 (hNeg.trans hPos')]
          rfl
        | negative =>
          show some ((compare e e').then (compare m m')).swap = _
          rw [hSame, value_negative, value_negative, compare_neg, ← Std.OrientedCmp.eq_swap]

theorem lt_iff {x y : Float} (hx : IsNumber x.toModel.unpack) (hy : IsNumber y.toModel.unpack) :
    x < y ↔ value x.toModel.unpack < value y.toModel.unpack := by
  rw [float_lt_iff]
  unfold UnpackedFloat.lt
  rw [compare_eq hx hy, ← compare_lt_iff_lt]
  simp

theorem le_iff {x y : Float} (hx : IsNumber x.toModel.unpack) (hy : IsNumber y.toModel.unpack) :
    x ≤ y ↔ value x.toModel.unpack ≤ value y.toModel.unpack := by
  rw [float_le_iff]
  unfold UnpackedFloat.le
  rw [compare_eq hx hy, ← compare_le_iff_le]
  exact Ordering.isLE_iff_ne_gt

-- ---------------------------------------------------------------------------
-- Differences
-- ---------------------------------------------------------------------------

/-- Nothing is lost of a number that is a float. -/
theorem round_eq_self {m : Nat} {e : Int} (h : 0 < m) (hCanonical : Canonical m e) :
    UnpackedFloat.round Format.binary64 .positive m e = .finite .positive m e h := by
  obtain ⟨hFits, hLow, hFull⟩ := hCanonical
  have hSize : m.log2 < 53 := (Nat.log2_lt h.ne').2 hFits
  have hUnit : unit m e = e := by
    unfold unit
    rcases hFull with hFull | rfl
    · have hLong := (Nat.le_log2 h.ne').2 hFull
      omega
    · omega
  rw [round_eq_carried h, hUnit, Int.sub_self]
  show carried (m * 1) e = _
  rw [Nat.mul_one, carried, dif_neg h.ne', if_pos hFits]

/-- A number in units of a smaller exponent. -/
theorem value_widened {sign : Sign} {m j : Nat} {e f : Int} {h : 0 < m} (hExponent : f + j = e) :
    value (.finite sign m e h) = sign.apply (m * 2 ^ j : Nat) * 2 ^ f := by
  rw [← hExponent, value, zpow_add₀ (by norm_num), zpow_natCast]
  cases sign with
  | positive =>
    show ((m : ℤ) : ℚ) * _ = ((m * 2 ^ j : Nat) : ℤ) * _
    push_cast
    ring
  | negative =>
    show ((-(m : ℤ) : ℤ) : ℚ) * _ = (-((m * 2 ^ j : Nat) : ℤ) : ℤ) * _
    push_cast
    ring

theorem sub_finite_eq_round {sign sign' : Sign} {m m' : Nat} {e e' : Int} (h : 0 < m)
    (h' : 0 < m') (hLess : value (.finite sign' m' e' h') < value (.finite sign m e h)) :
    ∃ (n : Nat) (f : Int), 0 < n ∧
      (n : ℚ) * 2 ^ f = value (.finite sign m e h) - value (.finite sign' m' e' h') ∧
      UnpackedFloat.sub Format.binary64 (.finite sign m e h) (.finite sign' m' e' h') =
        UnpackedFloat.round Format.binary64 .positive n f := by
  obtain ⟨f, hf⟩ : ∃ f, f = min e e' := ⟨_, rfl⟩
  obtain ⟨j, hj⟩ : ∃ j, j = (e - f).toNat := ⟨_, rfl⟩
  obtain ⟨j', hj'⟩ : ∃ j', j' = (e' - f).toNat := ⟨_, rfl⟩
  obtain ⟨n, hn⟩ : ∃ n, n = sign.apply (m * 2 ^ j : Nat) - sign'.apply (m' * 2 ^ j' : Nat) :=
    ⟨_, rfl⟩
  have hScaled : (n : ℚ) * 2 ^ f = value (.finite sign m e h) - value (.finite sign' m' e' h') := by
    rw [hn, value_widened (show f + j = e by omega), value_widened (show f + j' = e' by omega)]
    push_cast
    ring
  have hPos : 0 < n := by
    have hProduct : (0 : ℚ) < n * 2 ^ f := by
      rw [hScaled]
      exact sub_pos.2 hLess
    exact_mod_cast (mul_pos_iff_of_pos_right (two_zpow_pos f)).1 hProduct
  refine ⟨n.toNat, f, by omega, ?_, ?_⟩
  · rw [← hScaled, ← Int.cast_natCast, Int.toNat_of_nonneg hPos.le]
  · unfold UnpackedFloat.sub decreaseExponent
    dsimp only
    rw [Nat.shiftLeft_eq, Nat.shiftLeft_eq, ← hf, ← hj, ← hj', ← hn, UnpackedFloat.normalize,
      Int.compare_eq_gt.2 hPos]

/-- The difference of two numbers is their exact difference, rounded. -/
theorem sub_eq_round {x y : UnpackedFloat} (hx : IsNumber x) (hy : IsNumber y)
    (hLess : value y < value x) :
    ∃ (n : Nat) (f : Int), 0 < n ∧ (n : ℚ) * 2 ^ f = value x - value y ∧
      UnpackedFloat.sub Format.binary64 x y =
        UnpackedFloat.round Format.binary64 .positive n f := by
  cases hx with
  | zero sign =>
    cases hy with
    | zero sign' => exact absurd hLess (lt_irrefl _)
    | @finite sign' m' e' h' hCanonical' =>
      cases sign' with
      | positive => exact absurd hLess (not_lt.2 (value_positive h').le)
      | negative =>
        refine ⟨m', e', h', ?_, ?_⟩
        · rw [value_negative]
          show (m' : ℚ) * 2 ^ e' = 0 - -(m' * 2 ^ e')
          ring
        · rw [round_eq_self h' hCanonical']
          rfl
  | @finite sign m e h hCanonical =>
    cases hy with
    | zero sign' =>
      cases sign with
      | positive =>
        refine ⟨m, e, h, ?_, ?_⟩
        · show (m : ℚ) * 2 ^ e = m * 2 ^ e - 0
          ring
        · rw [round_eq_self h hCanonical]
          rfl
      | negative =>
        rw [value_negative] at hLess
        exact absurd hLess (not_lt.2 (neg_nonpos.2 (value_positive h).le))
    | finite sign' h' hCanonical' => exact sub_finite_eq_round h h' hLess

/-- A difference of two numbers is at most two, rounded, up to the reach. -/
theorem abs_sub_le_two_iff {p b : Float} (hp : IsNumber p.toModel.unpack)
    (hb : IsNumber b.toModel.unpack) (hLess : value b.toModel.unpack < value p.toModel.unpack) :
    (p - b).abs ≤ Disposition.atStopDistance ↔
      value p.toModel.unpack - value b.toModel.unpack ≤ reach := by
  obtain ⟨m, e, hPos, hValue, hSub⟩ := sub_eq_round hp hb hLess
  rw [abs_sub_le_iff, hSub, ← hValue]
  rcases round_cases hPos e with ⟨hNear, hRounded⟩ | ⟨hFar, hRounded⟩
  · exact iff_of_true hRounded.packed.abs.packed.le_two hNear
  · refine iff_of_false ?_ (not_le.2 hFar)
    rw [hRounded.packed.abs.packed.not_le_two]
    exact nofun

-- ---------------------------------------------------------------------------
-- Infinities
-- ---------------------------------------------------------------------------

/-- Numbers and the negative infinity. -/
def Below (x : UnpackedFloat) : Prop := x = .infinity .negative ∨ IsNumber x

/-- What floats are unpacked to. -/
def IsUnpacked (x : UnpackedFloat) : Prop := x = .notANumber ∨ x = .infinity .positive ∨ Below x

theorem isUnpacked (x : Float.Model) : IsUnpacked x.unpack := by
  cases hx : x.unpack with
  | notANumber => exact .inl rfl
  | infinity sign =>
    cases sign with
    | positive => exact .inr (.inl rfl)
    | negative => exact .inr (.inr (.inl rfl))
  | zero sign => exact .inr (.inr (.inr (.zero sign)))
  | finite sign m e h => exact .inr (.inr (.inr (.finite sign h (canonical_of_unpack hx))))

namespace IsNumber

variable {x : UnpackedFloat}

theorem compare_infinity (h : IsNumber x) (sign : Sign) :
    x.compare (.infinity sign) = some (match sign with | .positive => .lt | .negative => .gt) := by
  cases h with
  | zero => cases sign <;> rfl
  | finite own => cases own <;> cases sign <;> rfl

theorem infinity_compare (h : IsNumber x) (sign : Sign) :
    UnpackedFloat.compare (.infinity sign) x =
      some (match sign with | .positive => .gt | .negative => .lt) := by
  cases h with
  | zero => cases sign <;> rfl
  | finite own => cases own <;> cases sign <;> rfl

theorem infinity_sub (h : IsNumber x) :
    UnpackedFloat.sub Format.binary64 (.infinity .positive) x = .infinity .positive := by
  cases h with
  | zero sign => rfl
  | finite sign h => rfl

theorem sub_infinity (h : IsNumber x) :
    UnpackedFloat.sub Format.binary64 x (.infinity .negative) = .infinity .positive := by
  cases h with
  | zero sign => rfl
  | finite sign h => rfl

end IsNumber

/-- What is less than something lies below infinity, and what that is lies above the negative
infinity. -/
theorem below_of_lt {x y : UnpackedFloat} (hx : IsUnpacked x) (hy : IsUnpacked y)
    (h : x.lt y = true) : Below x ∧ (y = .infinity .positive ∨ IsNumber y) := by
  rcases hx with rfl | rfl | hx
  · cases h
  · rcases hy with rfl | rfl | rfl | hy
    · cases h
    · cases h
    · cases h
    · rw [UnpackedFloat.lt, hy.infinity_compare] at h
      cases h
  · refine ⟨hx, ?_⟩
    rcases hy with rfl | rfl | rfl | hy
    · rcases hx with rfl | hx
      · cases h
      · cases hx <;> cases h
    · exact .inl rfl
    · rcases hx with rfl | hx
      · cases h
      · rw [UnpackedFloat.lt, hx.compare_infinity] at h
        cases h
    · exact .inr hy

/-- What is at most something below infinity lies below infinity. -/
theorem below_of_le {x y : UnpackedFloat} (hx : IsUnpacked x) (hy : Below y)
    (h : x.le y = true) : Below x := by
  rcases hx with rfl | rfl | hx
  · cases h
  · rcases hy with rfl | hy
    · cases h
    · rw [UnpackedFloat.le, hy.infinity_compare] at h
      cases h
  · exact hx

end TransitForecast.Nearness

-- ---------------------------------------------------------------------------
-- Passed stops
-- ---------------------------------------------------------------------------

namespace TransitForecast.Disposition

open Float.Model Float.Model.UnpackedFloat Nearness

theorem classify_eq_past {p b : Float} :
    classify p b = .past ↔ ¬ (p - b).abs ≤ atStopDistance ∧ b < p := by
  unfold classify
  split
  · exact iff_of_false nofun fun h => h.1 ‹_›
  · split
    · exact iff_of_true rfl ⟨‹_›, ‹_›⟩
    · exact iff_of_false nofun fun h => absurd h.2 ‹_›

/-- A stop is passed from two and half a unit on. -/
theorem classify_eq_past_iff {p b : Float} (hp : IsNumber p.toModel.unpack)
    (hb : IsNumber b.toModel.unpack) :
    classify p b = .past ↔ value b.toModel.unpack + reach < value p.toModel.unpack := by
  have hTwo := reach_pos
  rw [classify_eq_past, lt_iff hb hp]
  constructor
  · rintro ⟨hFar, hLess⟩
    rw [abs_sub_le_two_iff hp hb hLess, not_le] at hFar
    linarith
  · intro hFar
    have hLess : value b.toModel.unpack < value p.toModel.unpack := by linarith
    refine ⟨?_, hLess⟩
    rw [abs_sub_le_two_iff hp hb hLess, not_le]
    linarith

/-- A stop is passed when it is infinitely far behind. -/
theorem classify_eq_past_of_infinity {p b : Float}
    (hLess : UnpackedFloat.lt b.toModel.unpack p.toModel.unpack = true)
    (hSub : UnpackedFloat.sub Format.binary64 p.toModel.unpack b.toModel.unpack =
      .infinity .positive) : classify p b = .past := by
  refine classify_eq_past.2 ⟨?_, float_lt_iff.2 hLess⟩
  rw [abs_sub_le_iff, hSub]
  exact Bool.eq_false_iff.1 MoreThanTwo.infinity.packed.abs.packed.not_le_two

/-- A stop before one that is passed is passed as well. -/
theorem classify_eq_past_of_le {p a b : Float} (hOrder : a ≤ b) (h : classify p b = .past) :
    classify p a = .past := by
  have hBehind := (classify_eq_past.1 h).2
  obtain ⟨hBelow, hAbove⟩ := below_of_lt (isUnpacked b.toModel) (isUnpacked p.toModel)
    (float_lt_iff.1 hBehind)
  have hStart := below_of_le (isUnpacked a.toModel) hBelow (float_le_iff.1 hOrder)
  rcases hAbove with hFar | hp
  · -- an infinite way
    refine classify_eq_past_of_infinity ?_ ?_
    · rw [hFar]
      rcases hStart with hStart | hStart
      · rw [hStart]
        rfl
      · rw [UnpackedFloat.lt, hStart.compare_infinity]
        rfl
    · rw [hFar]
      rcases hStart with hStart | hStart
      · rw [hStart]
        rfl
      · exact hStart.infinity_sub
  · rcases hStart with hStart | ha
    · -- from infinitely far away
      refine classify_eq_past_of_infinity ?_ ?_
      · rw [hStart, UnpackedFloat.lt, hp.infinity_compare]
        rfl
      · rw [hStart]
        exact hp.sub_infinity
    · have hb : IsNumber b.toModel.unpack := by
        refine hBelow.resolve_left fun hStart => ?_
        have hNot := float_le_iff.1 hOrder
        rw [hStart, UnpackedFloat.le, ha.compare_infinity] at hNot
        cases hNot
      have hLe := (le_iff ha hb).1 hOrder
      rw [classify_eq_past_iff hp hb] at h
      rw [classify_eq_past_iff hp ha]
      linarith

end TransitForecast.Disposition
