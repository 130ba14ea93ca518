import Mathlib
import OpenScript.Decimal.Value

/-!
# Proofs/Written/Finite — every number that is read is finite

    digits ──UInt64.toFloat──▸ x ──· 10ᵏ──▸ infinite, and no result, or finite
                                 ──/ 10ᵏ──▸ finite

A rounded magnitude is packed as a finite double if neither its exponent nor the place of its first
digit is too great (`packs_roundWithAccuracy`).  A quotient by a double of two or more keeps to that
(`isFinite_div`), and a product of finite doubles is infinite or finite, never no number
(`isFinite_mul`).  So the double that a literal stands for is finite (`Literal.isFinite_toFloat?`).
-/

namespace OpenScript.Decimal

open Float.Model Float.Model.UnpackedFloat

/-! ## Rounding -/

theorem mantissa_shiftRight (em : ExtendedMantissa) (k : Nat) :
    (em >>> k).mantissa = em.mantissa / 2 ^ k := by
  induction k with
  | zero => exact (Nat.div_one _).symm
  | succ k ih =>
    have step : (em >>> (k + 1)).mantissa = (em >>> k).mantissa / 2 := rfl
    rw [step, ih, Nat.div_div_eq_div_mul, Nat.pow_succ]

theorem roundedMantissa_le (em : ExtendedMantissa) : em.roundedMantissa ≤ em.mantissa + 1 := by
  obtain ⟨m, r, s⟩ := em
  cases r <;> cases s <;>
    simp only [ExtendedMantissa.roundedMantissa, ExtendedMantissa.accuracy,
      Accuracy.roundToNearestEven] <;> omega

theorem mantissa_ofMantissaAndAccuracy (m : Nat) (a : Accuracy) :
    (ExtendedMantissa.ofMantissaAndAccuracy m a).mantissa = m := by
  cases a with
  | exact => rfl
  | inexact o => cases o <;> rfl

theorem targetExponent_binary64 (t : Int) :
    Format.binary64.targetExponent t = max (t - 53) (-1074) := rfl

/-- Shifting and rounding up add at most one digit. -/
theorem log2_le_of_rounded {m k r : Nat} (h : r ≤ m / 2 ^ k + 1) : r.log2 ≤ m.log2 + 1 - k := by
  by_cases h0 : r = 0
  · rw [h0]
    exact Nat.zero_le _
  refine Nat.le_of_lt_succ ((Nat.log2_lt h0).2 ?_)
  have below : m / 2 ^ k < 2 ^ (m.log2 + 1 - k) := by
    refine Nat.div_lt_of_lt_mul ?_
    rw [← Nat.pow_add]
    exact Nat.lt_of_lt_of_le Nat.lt_log2_self (Nat.pow_le_pow_right Nat.two_pos (by omega))
  have := Nat.pow_succ 2 (m.log2 + 1 - k)
  have := Nat.one_le_two_pow (n := m.log2 + 1 - k)
  omega

/-- A number that is packed as a finite double. -/
def Packs : UnpackedFloat → Prop
  | .zero _ => True
  | .finite _ _ e _ => e ≤ 971
  | .infinity _ | .notANumber => False

/-- The exponent after shifting, and what is left of the mantissa. -/
theorem shiftToTargetExponent_binary64 {m : Nat} {e e' : Int} {a : Accuracy} {em : ExtendedMantissa}
    (h : shiftToTargetExponent Format.binary64 m e a = (em, e')) :
    e' = max e (max (totalExponent m e - 53) (-1074)) ∧ em.mantissa = m / 2 ^ (e' - e).toNat := by
  obtain ⟨rfl, rfl⟩ := Prod.mk.inj h
  rw [mantissa_shiftRight, mantissa_ofMantissaAndAccuracy, targetExponent_binary64]
  refine ⟨by omega, ?_⟩
  exact congrArg (m / 2 ^ ·) (by omega)

theorem packs_roundWithAccuracy {s : UnpackedFloat.Sign} {m : Nat} {e : Int} {a : Accuracy}
    (he : e ≤ 971) (ht : totalExponent m e ≤ 1023) :
    Packs (roundWithAccuracy Format.binary64 s m e a) := by
  unfold roundWithAccuracy
  cases first : shiftToTargetExponent Format.binary64 m e a with
  | mk em e₁ =>
  cases last : shiftToTargetExponent Format.binary64 em.roundedMantissa e₁ .exact with
  | mk em' e₂ =>
  obtain ⟨exponent₁, mantissa⟩ := shiftToTargetExponent_binary64 first
  obtain ⟨exponent₂, -⟩ := shiftToTargetExponent_binary64 last
  have rounded := log2_le_of_rounded (mantissa ▸ roundedMantissa_le em)
  simp only [last]
  split
  · trivial
  · simp only [Packs, totalExponent] at *
    omega

/-- A quotient has at most the digits that the divisor leaves over, and one more. -/
theorem log2_shiftLeft_div_le (m k : Nat) {d : Nat} (hd : 0 < d) :
    (m <<< k / d).log2 ≤ m.log2 + k - d.log2 := by
  by_cases h0 : m <<< k / d = 0
  · rw [h0]
    exact Nat.zero_le _
  have product : 2 ^ ((m <<< k / d).log2 + d.log2) < 2 ^ (m.log2 + 1 + k) := calc
    2 ^ ((m <<< k / d).log2 + d.log2) = 2 ^ (m <<< k / d).log2 * 2 ^ d.log2 := Nat.pow_add ..
    _ ≤ m <<< k / d * d :=
      Nat.mul_le_mul (Nat.log2_self_le h0) (Nat.log2_self_le (Nat.ne_of_gt hd))
    _ ≤ m <<< k := Nat.div_mul_le_self _ _
    _ = m * 2 ^ k := Nat.shiftLeft_eq m k
    _ < 2 ^ (m.log2 + 1) * 2 ^ k := Nat.mul_lt_mul_of_pos_right Nat.lt_log2_self (Nat.two_pow_pos k)
    _ = 2 ^ (m.log2 + 1 + k) := (Nat.pow_add ..).symm
  have := (Nat.pow_lt_pow_iff_right (by decide)).1 product
  omega

/-- Dividing by two or more makes up for what rounding adds. -/
theorem packs_div {s₁ s₂ : UnpackedFloat.Sign} {m₁ m₂ : Nat} {e₁ e₂ : Int} (h₁ : 0 < m₁)
    (h₂ : 0 < m₂) (ht₁ : totalExponent m₁ e₁ ≤ 1024) (ht₂ : 2 ≤ totalExponent m₂ e₂) :
    Packs (UnpackedFloat.div Format.binary64 (.finite s₁ m₁ e₁ h₁) (.finite s₂ m₂ e₂ h₂)) := by
  have quotient (k : Nat) := log2_shiftLeft_div_le m₁ k h₂
  simp only [UnpackedFloat.div, divCore, targetExponent_binary64]
  refine packs_roundWithAccuracy (by omega) ?_
  specialize quotient (e₁ - e₂ - min (e₁ - e₂)
    (max (totalExponent m₁ e₁ - totalExponent m₂ e₂ - 53) (-1074))).toNat
  simp only [totalExponent] at *
  omega

/-! ## Packing -/

/-- What is packed is finite if the bits of its exponent are not all ones. -/
theorem isFinite_unpack_iff {b : BitVec Format.binary64.numBits} :
    (UnpackedFloat.unpack Format.binary64 b).isFinite = true ↔ unpackExponent b ≠ -1#_ := by
  fun_cases UnpackedFloat.unpack Format.binary64 b with
  | case1 | case2 =>
    rename_i ones _
    exact iff_of_false Bool.false_ne_true fun h => h ones
  | case3 | case4 =>
    have zeros : unpackExponent b = 0#_ := ‹_›
    exact iff_of_true rfl (by rw [zeros]; decide)
  | case5 =>
    rename_i ones _
    exact iff_of_true rfl ones

theorem isFinite_pack {u : UnpackedFloat} (h : Packs u) : (Float.Model.pack u).isFinite = true := by
  refine isFinite_unpack_iff.2 ?_
  show unpackExponent (UnpackedFloat.pack Format.binary64 u) ≠ -1#_
  fun_cases UnpackedFloat.pack Format.binary64 u with
  | case1 | case2 => exact h.elim
  | case3 =>
    rw [packedZero, unpackExponent_packComponents]
    decide
  | case4 s m e _ biased overflows =>
    have : e ≤ 971 := h
    have : biased = (e + 1023 + 52).toNat := rfl
    have : 2048 ≤ biased + 1 := overflows
    omega
  | case5 s m e _ _ biased fits =>
    have small : biased < 2047 := by
      have : ¬ 2048 ≤ biased + 1 := fits
      omega
    rw [unpackExponent_packComponents]
    intro ones
    have value : biased % 2048 = 2047 := congrArg BitVec.toNat ones
    omega
  | case6 =>
    rw [unpackExponent_packComponents]
    decide

/-- A number, as opposed to an infinity. -/
def IsNumber : UnpackedFloat → Prop
  | .zero _ | .finite .. => True
  | .infinity _ | .notANumber => False

/-- A number is packed as a finite double or as an infinity. -/
theorem isFinite_or_isInf_pack {u : UnpackedFloat} (h : IsNumber u) :
    (Float.Model.pack u).isFinite = true ∨ (Float.Model.pack u).isInf = true := by
  by_cases hp : Packs u
  · exact .inl (isFinite_pack hp)
  right
  cases u with
  | zero => exact absurd trivial hp
  | infinity | notANumber => exact h.elim
  | finite s m e hm =>
    have overflows : 2048 ≤ (e + 1023 + 52).toNat + 1 := by
      have : ¬ e ≤ 971 := hp
      omega
    have packed : UnpackedFloat.pack Format.binary64 (.finite s m e hm)
        = packedInfinity Format.binary64 s := if_pos overflows
    show (UnpackedFloat.unpack _ (UnpackedFloat.pack _ _)).isInf = true
    rw [packed, UnpackedFloat.unpack, packedInfinity]
    simp only [unpackExponent_packComponents, unpackMantissa_packComponents, if_true]
    rfl

theorem log2_lt_of_lt {m w : Nat} (hm : m < 2 ^ w) (hw : 0 < w) : m.log2 < w := by
  by_cases h0 : m = 0
  · rw [h0]
    exact hw
  · exact (Nat.log2_lt h0).2 hm

/-- A number that a finite double can be. -/
def InRange : UnpackedFloat → Prop
  | .zero _ => True
  | .finite _ m e _ => e ≤ 971 ∧ totalExponent m e ≤ 1024
  | .infinity _ | .notANumber => False

theorem inRange_of_isFinite {x : Float.Model} (h : x.isFinite = true) : InRange x.unpack := by
  unfold Float.Model.isFinite Float.Model.unpack at *
  generalize x.toBits.toBitVec = b at *
  fun_cases UnpackedFloat.unpack Format.binary64 b with
  | case1 | case2 => exact absurd ‹_ = -1#_› (isFinite_unpack_iff.1 h)
  | case3 => trivial
  | case4 mantissa e =>
    have digits : mantissa.toNat.log2 < 52 := log2_lt_of_lt mantissa.isLt (by decide)
    have least : e.toNat = 0 := congrArg BitVec.toNat ‹e = 0#_›
    show (e.toNat : Int) - (1023 + 52) + 1 ≤ 971 ∧
      (mantissa.toNat.log2 : Int) + 1 + ((e.toNat : Int) - (1023 + 52) + 1) ≤ 1024
    omega
  | case5 mantissa e =>
    have digits : (1#1 ++ mantissa).toNat.log2 < 53 :=
      log2_lt_of_lt (1#1 ++ mantissa).isLt (by decide)
    have greatest : e.toNat ≠ 2047 := fun he => absurd (BitVec.eq_of_toNat_eq he) ‹e ≠ -1#_›
    have : e.toNat < 2048 := e.isLt
    show (e.toNat : Int) - (1023 + 52) ≤ 971 ∧
      ((1#1 ++ mantissa).toNat.log2 : Int) + 1 + ((e.toNat : Int) - (1023 + 52)) ≤ 1024
    omega

/-! ## Doubles -/

/-- Whether a double is two or more, up to its sign. -/
def atLeastTwo (x : Float) : Bool :=
  match x.toModel.unpack with
  | .finite _ m e _ => decide (2 ≤ totalExponent m e)
  | _ => false

/-- A word is a finite double. -/
theorem isFinite_toFloat (n : UInt64) : n.toFloat.isFinite = true := by
  have round {s : UnpackedFloat.Sign} {m : Nat} (hm : m < 2 ^ 64) :
      Packs (UnpackedFloat.round Format.binary64 s m 0) := by
    have digits := log2_lt_of_lt hm (by decide)
    have shifted (k : Nat) := log2_shiftLeft_div_le m k Nat.one_pos
    simp only [Nat.div_one] at shifted
    simp only [UnpackedFloat.round, decreaseExponent, targetExponent_binary64]
    refine packs_roundWithAccuracy (by omega) ?_
    specialize shifted (0 - max (totalExponent m 0 - 53) (-1074)).toNat
    simp only [totalExponent] at *
    omega
  refine isFinite_pack ?_
  show Packs (UnpackedFloat.normalize Format.binary64 (n.toNat : Int) 0 .positive)
  have small : n.toNat < 2 ^ 64 := n.toNat_lt
  unfold UnpackedFloat.normalize
  split
  · exact round (by omega)
  · trivial
  · exact round (by omega)

/-- **A quotient by two or more is finite.** -/
theorem isFinite_div {x y : Float} (hx : x.isFinite = true) (hy : atLeastTwo y = true) :
    (x / y).isFinite = true := by
  refine isFinite_pack ?_
  have range := inRange_of_isFinite hx
  unfold atLeastTwo at hy
  split at hy
  · next divisor =>
    rw [divisor]
    cases dividend : x.toModel.unpack with
    | zero => trivial
    | finite s m e hm =>
      rw [dividend] at range
      exact packs_div hm _ range.2 (of_decide_eq_true hy)
    | infinity | notANumber =>
      rw [dividend] at range
      exact range.elim
  · exact absurd hy Bool.false_ne_true

theorem isNumber_roundWithAccuracy (s : UnpackedFloat.Sign) (m : Nat) (e : Int) (a : Accuracy) :
    IsNumber (roundWithAccuracy Format.binary64 s m e a) := by
  unfold roundWithAccuracy
  simp only
  split <;> trivial

theorem isNumber_mul {u v : UnpackedFloat} (hu : IsNumber u) (hv : IsNumber v) :
    IsNumber (UnpackedFloat.mul Format.binary64 u v) := by
  cases u <;> cases v <;>
    first
      | exact hu.elim
      | exact hv.elim
      | exact isNumber_roundWithAccuracy ..
      | trivial

theorem isNumber_of_isFinite {x : Float.Model} (h : x.isFinite = true) : IsNumber x.unpack := by
  have range := inRange_of_isFinite h
  cases hu : x.unpack with
  | zero | finite => trivial
  | infinity | notANumber =>
    rw [hu] at range
    exact range.elim

/-- **A product of finite doubles is finite, unless it is infinite.** -/
theorem isFinite_mul {x y : Float} (hx : x.isFinite = true) (hy : y.isFinite = true)
    (h : (x * y).isInf = false) : (x * y).isFinite = true := by
  have number := isNumber_mul (isNumber_of_isFinite hx) (isNumber_of_isFinite hy)
  exact (isFinite_or_isInf_pack number).resolve_right (Bool.eq_false_iff.1 h)

theorem isFinite_neg {x : Float} (hx : x.isFinite = true) : (-x).isFinite = true := by
  refine isFinite_pack ?_
  have range := inRange_of_isFinite hx
  cases hu : x.toModel.unpack with
  | zero => trivial
  | finite =>
    rw [hu] at range
    exact range.1
  | infinity | notANumber =>
    rw [hu] at range
    exact range.elim

/-! ## Literals -/

theorem isFinite_of_atLeastTwo {x : Float} (h : atLeastTwo x = true) : x.isFinite = true := by
  unfold atLeastTwo at h
  show x.toModel.unpack.isFinite = true
  split at h
  · next hu =>
    rw [hu]
    rfl
  · exact absurd h Bool.false_ne_true

/-- A table of all powers of ten that are doubles. -/
theorem atLeastTwo_powerOfTen :
    ∀ n < greatestPower, atLeastTwo (powerOfTen (n + 1)) = true := by
  decide +kernel

theorem isFinite_powerOfTen {n : Nat} (h : n ≤ greatestPower) :
    (powerOfTen n).isFinite = true := by
  cases n with
  | zero => decide +kernel
  | succ n => exact isFinite_of_atLeastTwo (atLeastTwo_powerOfTen n h)

/-- A finite double times a power of ten is finite, if there is a result. -/
theorem isFinite_scale? {x y : Float} {exponent : Int} (hx : x.isFinite = true)
    (h : scale? x exponent = some y) : y.isFinite = true := by
  have divided {x : Float} {n : Nat} (hx : x.isFinite = true) (hn : 0 < n)
      (h : n ≤ greatestPower) : (x / powerOfTen n).isFinite = true := by
    obtain ⟨n, rfl⟩ := Nat.exists_eq_succ_of_ne_zero (Nat.ne_of_gt hn)
    exact isFinite_div hx (atLeastTwo_powerOfTen n h)
  fun_induction scale? x exponent with
  | case1 => cases h
  | case2 x exponent _ hn y hy =>
    obtain rfl := Option.some.inj h
    exact isFinite_mul hx (isFinite_powerOfTen hn) (Bool.eq_false_iff.2 hy)
  | case3 => exact Option.some.inj h ▸ hx
  | case4 => cases h
  | case5 =>
    obtain rfl := Option.some.inj h
    exact divided hx (by omega) ‹_›
  | case6 => exact Option.some.inj h ▸ hx
  | case7 x exponent _ _ _ ih => exact ih (divided hx (by decide) (by decide)) h

/-- **The double that a literal stands for is finite.** -/
theorem Literal.isFinite_toFloat? {l : Literal} {x : Float} (h : l.toFloat? = some x) :
    x.isFinite = true := by
  obtain ⟨y, hy, rfl⟩ := Option.map_eq_some_iff.1 h
  have finite : y.isFinite = true := by
    simp only [magnitude?] at hy
    split at hy
    · exact isFinite_scale? (isFinite_toFloat _) hy
    · split at hy
      · split at hy
        · obtain rfl := Option.some.inj hy
          decide +kernel
        · cases hy
      · exact isFinite_scale? (isFinite_toFloat _) hy
  split
  · exact isFinite_neg finite
  · exact finite

end OpenScript.Decimal
