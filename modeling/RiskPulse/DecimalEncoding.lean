import Mathlib.Algebra.Order.Field.Power
import Mathlib.Data.Nat.Digits.Lemmas
import Mathlib.Data.Nat.Log
import Mathlib.Tactic.FieldSimp
import Mathlib.Tactic.Positivity
import RiskPulse.Library.Avro
import RiskPulse.SchemaRegistry

namespace RiskPulse

namespace Decimal

theorem digitCount_le (n k : Nat) : digitCount n ≤ k ↔ n < 10 ^ k := Nat.digits_length_le_iff (by decide) n

theorem lt_digitCount (n k : Nat) : k < digitCount n ↔ 10 ^ k ≤ n := Nat.lt_digits_length_iff (by decide) n

-- The rounding of a magnitude.
def halfEven (n unit : Nat) : Nat :=
  if unit < 2 * (n % unit) ∨ (2 * (n % unit) = unit ∧ n / unit % 2 = 1) then n / unit + 1 else n / unit

theorem roundHalfEven_signed (coefficient : Int) (dropped : Nat) : roundHalfEven coefficient dropped =
    if coefficient < 0 then -(halfEven coefficient.natAbs (10 ^ dropped) : Int) else halfEven coefficient.natAbs (10 ^ dropped) := by
  unfold roundHalfEven halfEven
  push_cast
  rfl

theorem roundHalfEven_natAbs (coefficient : Int) (dropped : Nat) :
    (roundHalfEven coefficient dropped).natAbs = halfEven coefficient.natAbs (10 ^ dropped) := by
  rw [roundHalfEven_signed]
  split
  · rw [Int.natAbs_neg,Int.natAbs_natCast]
  · exact Int.natAbs_natCast _

theorem halfEven_between (n unit : Nat) : n / unit ≤ halfEven n unit ∧ halfEven n unit ≤ n / unit + 1 := by
  unfold halfEven
  split
  · exact ⟨Nat.le_succ _,le_refl _⟩
  · exact ⟨le_refl _,Nat.le_succ _⟩

-- An even number is reached from half a unit below it.
theorem le_halfEven {goal n unit : Nat} (positive : 0 < unit) (even : goal % 2 = 0) (some : 0 < goal) :
    goal ≤ halfEven n unit ↔ (2 * goal - 1) * unit ≤ 2 * n := by
  obtain ⟨half,whole⟩ : ∃ below, goal = below + 1 := ⟨goal - 1,by omega⟩
  have parts := Nat.div_add_mod n unit
  have rest := Nat.mod_lt n positive
  have double : (2 * goal - 1) * unit = 2 * (unit * half) + unit := by
    rw [show 2 * goal - 1 = 2 * half + 1 by omega]
    ring
  rw [double]
  rcases lt_trichotomy (n / unit) half with less | same | more
  · have step : unit * (n / unit + 1) ≤ unit * half := Nat.mul_le_mul_left unit less
    rw [Nat.mul_succ] at step
    refine iff_of_false ?_ (by omega)
    have most := (halfEven_between n unit).2
    omega
  · unfold halfEven
    rw [same] at parts ⊢
    split
    · rename_i up
      refine iff_of_true (by omega) ?_
      rcases up with above | ⟨tie,_⟩
      · omega
      · omega
    · rename_i down
      refine iff_of_false (by omega) ?_
      intro reached
      apply down
      by_cases tie : 2 * (n % unit) = unit
      · exact .inr ⟨tie,by omega⟩
      · exact .inl (by omega)
  · have step : unit * (half + 1) ≤ unit * (n / unit) := Nat.mul_le_mul_left unit more
    rw [Nat.mul_succ] at step
    refine iff_of_true ?_ (by omega)
    have least := (halfEven_between n unit).1
    omega

theorem roundHalfEven_exact (coefficient : Int) (dropped : Nat) :
    roundHalfEven coefficient dropped * 10 ^ dropped = coefficient ↔ (10 ^ dropped : Int) ∣ coefficient := by
  constructor
  · intro exact
    exact ⟨roundHalfEven coefficient dropped,by rw [mul_comm,exact]⟩
  · intro divides
    have positive : 0 < 10 ^ dropped := Nat.pow_pos (by decide)
    have magnitude : 10 ^ dropped ∣ coefficient.natAbs := by
      have size := Int.natAbs_dvd_natAbs.mpr divides
      rwa [Int.natAbs_pow] at size
    have none : coefficient.natAbs % 10 ^ dropped = 0 := Nat.mod_eq_zero_of_dvd magnitude
    have kept : halfEven coefficient.natAbs (10 ^ dropped) * 10 ^ dropped = coefficient.natAbs := by
      unfold halfEven
      rw [none,if_neg (by omega)]
      exact Nat.div_mul_cancel magnitude
    have whole : (halfEven coefficient.natAbs (10 ^ dropped) : Int) * 10 ^ dropped = coefficient.natAbs := by exact_mod_cast kept
    rw [roundHalfEven_signed]
    split
    · rw [neg_mul,whole]
      omega
    · rw [whole]
      omega

-- A coefficient with its exponent.
def quantity (coefficient exponent : Int) : Rat := coefficient * 10 ^ exponent

theorem truncate_whole (coefficient exponent n : Int) (whole : quantity coefficient exponent = n) : truncate coefficient exponent = n := by
  unfold quantity at whole
  unfold truncate
  split
  · rename_i up
    obtain ⟨k,rfl⟩ := Int.eq_ofNat_of_zero_le up
    rw [zpow_natCast] at whole
    exact_mod_cast whole
  · rename_i down
    obtain ⟨k,rfl⟩ : ∃ k : Nat, exponent = -k := ⟨(-exponent).toNat,by omega⟩
    have product : coefficient = n * 10 ^ k := by
      rw [zpow_neg,zpow_natCast] at whole
      field_simp at whole
      rw [mul_comm]
      exact_mod_cast whole
    rw [neg_neg,Int.toNat_natCast,product]
    exact Int.mul_tdiv_cancel n (by positivity)

theorem truncate_high (coefficient exponent : Int) (high : 0 ≤ exponent) : (truncate coefficient exponent : Rat) = quantity coefficient exponent := by
  obtain ⟨k,rfl⟩ := Int.eq_ofNat_of_zero_le high
  rw [truncate,if_pos high,quantity,zpow_natCast,Int.toNat_natCast]
  push_cast
  rfl

-- The smallest number that overflows, when it is rounded to the digits of the context.
def limit : Rat := 10 ^ (maxExponent + 1) - 10 ^ (maxExponent + 1 - precision) / 2

theorem whole_fraction (k d n : Nat) : (10 : Rat) ^ k ≤ n / 10 ^ d ↔ 10 ^ (k + d) ≤ n := by
  rw [le_div_iff₀ (by positivity),← pow_add]
  exact_mod_cast Iff.rfl

theorem unreached {place : Int} {x : Rat} (far : 29 ≤ place) (short : x < 10 ^ 28) : ¬(10 : Rat) ^ place - 10 ^ (place - 28) / 2 ≤ x := by
  have wide : (10 : Rat) ^ ((28 : Nat) : Int) ≤ 10 ^ (place - 1) := zpow_le_zpow_right₀ (by norm_num) (by omega)
  have next : (10 : Rat) ^ place = 10 * 10 ^ (place - 1) := by
    rw [← zpow_one_add₀ (by norm_num)]
    congr 1
    omega
  have tail : (10 : Rat) ^ (place - 28) ≤ 10 ^ (place - 1) := zpow_le_zpow_right₀ (by norm_num) (by omega)
  rw [zpow_natCast] at wide
  linarith

-- A magnitude of up to the digits of the context is not rounded, and reaches a power of
-- ten where it reaches half of its last digit below.
theorem unrounded_overflows {n : Nat} (some : 0 < n) (few : n < 10 ^ 28) (place : Int) :
    place < digitCount n ↔ (10 : Rat) ^ place - 10 ^ (place - 28) / 2 ≤ n := by
  have least : (1 : Rat) ≤ n := by exact_mod_cast some
  have positive : (0 : Rat) < 10 ^ (place - 28) := zpow_pos (by norm_num) _
  rcases lt_or_ge place 1 with low | high
  · have digit : 0 < digitCount n := (lt_digitCount n 0).mpr (by omega)
    have small : (10 : Rat) ^ place ≤ 10 ^ (0 : Int) := zpow_le_zpow_right₀ (by norm_num) (by omega)
    rw [zpow_zero] at small
    exact iff_of_true (by omega) (by linarith)
  · obtain ⟨k,rfl⟩ := Int.eq_ofNat_of_zero_le (show 0 ≤ place by omega)
    rcases le_or_gt k 28 with under | beyond
    · have unit : (10 : Rat) ^ ((k : Int) - 28) ≤ 10 ^ (0 : Int) := zpow_le_zpow_right₀ (by norm_num) (by omega)
      rw [zpow_zero] at unit
      rw [Nat.cast_lt,lt_digitCount,zpow_natCast]
      constructor
      · intro reached
        have above : (10 : Rat) ^ k ≤ n := by exact_mod_cast reached
        linarith
      · intro near
        by_contra below
        have less : (n : Rat) + 1 ≤ 10 ^ k := by exact_mod_cast Nat.lt_of_not_ge below
        linarith
    · have short : digitCount n ≤ 28 := (digitCount_le n 28).mpr few
      refine iff_of_false (by omega) ?_
      have bound : (n : Rat) < 10 ^ 28 := by exact_mod_cast few
      exact unreached (by omega) bound

-- A longer one is rounded to those digits.
theorem rounded_overflows {n d : Nat} (long : 10 ^ (27 + d) ≤ n) (short : n < 10 ^ (28 + d)) (place : Int) :
    place < digitCount (halfEven n (10 ^ d)) ↔ (10 : Rat) ^ place - 10 ^ (place - 28) / 2 ≤ n / 10 ^ d := by
  have unit : (0 : Rat) < 10 ^ d := by positivity
  have least : (10 : Rat) ^ 27 ≤ n / 10 ^ d := (whole_fraction 27 d n).mpr long
  have most : (n : Rat) / 10 ^ d < 10 ^ 28 := lt_of_not_ge fun above => absurd ((whole_fraction 28 d n).mp above) (not_le.mpr short)
  obtain ⟨low,high⟩ := halfEven_between n (10 ^ d)
  have front : 10 ^ 27 ≤ n / 10 ^ d := (Nat.le_div_iff_mul_le (Nat.pow_pos (by decide))).mpr (by rwa [← pow_add])
  have cut : n / 10 ^ d < 10 ^ 28 := (Nat.div_lt_iff_lt_mul (Nat.pow_pos (by decide))).mpr (by rwa [← pow_add])
  rcases lt_trichotomy place 28 with under | rfl | beyond
  · have digits : 27 < digitCount (halfEven n (10 ^ d)) := (lt_digitCount _ 27).mpr (le_trans front low)
    have power : (10 : Rat) ^ place ≤ 10 ^ ((27 : Nat) : Int) := zpow_le_zpow_right₀ (by norm_num) (by omega)
    have positive : (0 : Rat) < 10 ^ (place - 28) := zpow_pos (by norm_num) _
    rw [zpow_natCast] at power
    exact iff_of_true (by omega) (by linarith)
  · have half : 10 ^ 28 ≤ halfEven n (10 ^ d) ↔ (2 * 10 ^ 28 - 1) * 10 ^ d ≤ 2 * n :=
      le_halfEven (Nat.pow_pos (by decide)) (by decide) (by decide)
    have scaled : (2 * 10 ^ 28 - 1) * 10 ^ d ≤ 2 * n ↔ (2 * 10 ^ 28 - 1 : Rat) * 10 ^ d ≤ 2 * n := by
      rw [show 2 * 10 ^ 28 - 1 = 19999999999999999999999999999 from rfl,show (2 * 10 ^ 28 - 1 : Rat) = (19999999999999999999999999999 : Nat) by norm_num]
      exact_mod_cast Iff.rfl
    rw [show (28 : Int) = ((28 : Nat) : Int) from rfl,Nat.cast_lt,lt_digitCount,half,scaled,sub_self,zpow_zero,zpow_natCast,le_div_iff₀ unit]
    constructor
    · intro reached
      linarith
    · intro reached
      linarith
  · have digits : digitCount (halfEven n (10 ^ d)) ≤ 29 := (digitCount_le _ 29).mpr (by omega)
    exact iff_of_false (by omega) (unreached (by omega) most)

theorem limit_positive : 0 < limit := by
  have less : (10 : Rat) ^ (maxExponent + 1 - precision) ≤ 10 ^ (maxExponent + 1) := zpow_le_zpow_right₀ (by norm_num) (by rw [precision]; omega)
  have positive : (0 : Rat) < 10 ^ (maxExponent + 1) := zpow_pos (by norm_num) _
  unfold limit
  linarith

theorem limit_scaled (shift : Int) (x : Rat) : limit ≤ x * 10 ^ shift ↔
    (10 : Rat) ^ (maxExponent + 1 - shift) - 10 ^ (maxExponent + 1 - shift - 28) / 2 ≤ x := by
  have ten : (10 : Rat) ≠ 0 := by norm_num
  have parts : limit = (10 ^ (maxExponent + 1 - shift) - 10 ^ (maxExponent + 1 - shift - 28) / 2) * 10 ^ shift := by
    rw [sub_mul,div_mul_eq_mul_div,← zpow_add₀ ten,← zpow_add₀ ten,limit,sub_add_cancel,
      show maxExponent + 1 - shift - 28 + shift = maxExponent + 1 - precision by rw [precision]; omega]
  rw [parts,mul_le_mul_iff_left₀ (zpow_pos (by norm_num) shift)]

theorem quantity_abs (coefficient exponent : Int) : |quantity coefficient exponent| = coefficient.natAbs * 10 ^ exponent := by
  have positive : (0 : Rat) < 10 ^ exponent := zpow_pos (by norm_num) _
  rw [quantity,abs_mul,abs_of_pos positive,Nat.cast_natAbs,Int.cast_abs]

-- The digits of a product after those of the context, and what is left without them.
def dropped (product : Int) : Nat := digitCount product.natAbs - precision

def kept (product : Int) : Int := if dropped product = 0 then product else roundHalfEven product (dropped product)

theorem times_kept (coefficient exponent factor : Int) : times coefficient exponent factor =
    if coefficient * factor ≠ 0 ∧ maxExponent < exponent + dropped (coefficient * factor) + digitCount (kept (coefficient * factor)).natAbs - 1
      then none else some (kept (coefficient * factor),exponent + dropped (coefficient * factor)) := rfl

theorem kept_overflows {product : Int} (some : product ≠ 0) (place : Int) : place < digitCount (kept product).natAbs ↔
    (10 : Rat) ^ place - 10 ^ (place - 28) / 2 ≤ product.natAbs / 10 ^ dropped product := by
  have positive : 0 < product.natAbs := Int.natAbs_pos.mpr some
  unfold kept
  split
  · rename_i few
    have short : product.natAbs < 10 ^ 28 := (digitCount_le _ 28).mp (by rw [dropped,precision] at few; omega)
    rw [few,pow_zero,div_one]
    exact unrounded_overflows positive short place
  · rename_i many
    rw [roundHalfEven_natAbs]
    have counted : digitCount product.natAbs = 28 + dropped product := by rw [dropped,precision] at many ⊢; omega
    exact rounded_overflows ((lt_digitCount _ _).mp (by omega)) ((digitCount_le _ _).mp (by omega)) place

-- A product overflows exactly from the limit on.
theorem times_overflows (coefficient exponent factor : Int) :
    times coefficient exponent factor = none ↔ limit ≤ |quantity (coefficient * factor) exponent| := by
  rw [times_kept,quantity_abs]
  generalize coefficient * factor = product
  by_cases zero : product = 0
  · subst zero
    simpa using limit_positive
  · have ten : (10 : Rat) ≠ 0 := by norm_num
    have shifted : (product.natAbs : Rat) * 10 ^ exponent = product.natAbs / 10 ^ dropped product * 10 ^ (exponent + dropped product) := by
      rw [zpow_add₀ ten,zpow_natCast]
      field_simp
    rw [shifted,limit_scaled,← kept_overflows zero]
    split
    · rename_i large
      exact iff_of_true rfl (by omega)
    · rename_i under
      refine iff_of_false (by simp) ?_
      intro far
      exact under ⟨zero,by omega⟩

theorem kept_exact (product : Int) : kept product * 10 ^ dropped product = product ↔ (10 ^ dropped product : Int) ∣ product := by
  unfold kept
  split
  · rename_i none
    rw [none,pow_zero,mul_one]
    exact iff_of_true rfl (one_dvd _)
  · exact roundHalfEven_exact product _

-- Where it does not overflow the product truncated is exact exactly where it is a whole
-- number and the digits after those of the context are zeros.
theorem kept_truncated (product exponent : Int) : (truncate (kept product) (exponent + dropped product) : Rat) = quantity product exponent ↔
    (∃ n : Int, quantity product exponent = n) ∧ (10 ^ dropped product : Int) ∣ product := by
  have ten : (10 : Rat) ≠ 0 := by norm_num
  have moved : quantity (kept product) (exponent + dropped product) = ((kept product * 10 ^ dropped product : Int) : Rat) * 10 ^ exponent := by
    rw [quantity,zpow_add₀ ten,zpow_natCast]
    push_cast
    ring
  constructor
  · intro exact
    refine ⟨⟨_,exact.symm⟩,?_⟩
    rcases lt_or_ge (exponent + dropped product) 0 with low | high
    · obtain ⟨k,down⟩ : ∃ k : Nat, exponent = -(k : Int) := ⟨(-exponent).toNat,by omega⟩
      have whole : product = 10 ^ k * truncate (kept product) (exponent + dropped product) := by
        have scaled := exact
        generalize truncate (kept product) (exponent + dropped product) = t at scaled
        rw [quantity,down,zpow_neg,zpow_natCast] at scaled
        field_simp at scaled
        rw [mul_comm]
        exact_mod_cast scaled.symm
      exact (pow_dvd_pow 10 (by omega)).trans ⟨_,whole⟩
    · apply (kept_exact product).mp
      rw [truncate_high _ _ high,moved,quantity] at exact
      exact_mod_cast mul_right_cancel₀ (zpow_ne_zero exponent ten) exact
  · intro ⟨⟨n,whole⟩,divides⟩
    have same : quantity (kept product) (exponent + dropped product) = n := by rw [moved,(kept_exact product).mpr divides,← whole,quantity]
    rw [truncate_whole _ _ n same,whole]

end Decimal

-- A number as the conversion takes it: a Decimal can also be a nan or an infinity.
inductive Amount where
  | int (i : Int)
  | float (x : PyFloat)
  | decimal (coefficient exponent : Int)
  | special

namespace Amount

def number : Amount → Option Rat
  | .int i => some i
  | .float (.finite q) => some q
  | .float _ => none
  | .decimal coefficient exponent => some (Decimal.quantity coefficient exponent)
  | .special => none

-- int() of what is no number raises.
def toDecimalBytes (registry : SchemaRegistry) (precision scale : Nat) : Amount → Except RegistryError (List UInt8)
  | .int i => registry.toDecimalBytes (.int i) precision scale
  | .float x => registry.toDecimalBytes (.float x) precision scale
  | .decimal coefficient exponent => registry.toDecimalBytes (.decimal coefficient exponent) precision scale
  | .special => .error .conversion

-- An integer of at most so many digits, with the point before the last ones of the scale.
def Representable (precision scale : Nat) (a : Amount) : Prop :=
  ∃ n : Int, a.number = some ((n : Rat) / 10 ^ scale) ∧ Decimal.digitCount n.natAbs ≤ precision

-- The bytes are the value and have at most so many digits, or the value has no such bytes.
def ExactOrRejected (precision scale : Nat) (a : Amount) : Except RegistryError (List UInt8) → Prop
  | .ok bytes => a.number = some ((TwosComplement.signed bytes : Rat) / 10 ^ scale) ∧
      Decimal.digitCount (TwosComplement.signed bytes).natAbs ≤ precision
  | .error _ => ¬a.Representable precision scale

-- An int can be written as text, and the product with the scale does not overflow.
def Convertible (scale : Nat) : Amount → Prop
  | .int i => Decimal.digitCount i.natAbs ≤ 4300 ∧ |(i * 10 ^ scale : Rat)| < Decimal.limit
  | .float (.finite q) => |q * 10 ^ scale| < 10 ^ (Decimal.maxExponent + 1)
  | .float _ => False
  | .decimal coefficient exponent => |Decimal.quantity coefficient exponent * 10 ^ scale| < Decimal.limit
  | .special => False

-- The digits of the product with the scale after the first 28 are zeros.
def Precise (scale : Nat) : Amount → Prop
  | .int i => (10 ^ Decimal.dropped (i * 10 ^ scale) : Int) ∣ i * 10 ^ scale
  | .decimal coefficient _ => (10 ^ Decimal.dropped (coefficient * 10 ^ scale) : Int) ∣ coefficient * 10 ^ scale
  | _ => True

-- The value is an integer at the scale of so many digits, precise and convertible, or no
-- such integer and not convertible.
def Faithful (precision scale : Nat) (a : Amount) : Prop :=
  a.Representable precision scale ∧ a.Precise scale ∧ a.Convertible scale ∨ ¬a.Representable precision scale ∧ ¬a.Convertible scale

-- The bytes of an integer.
def encoded (n : Int) : List UInt8 := if n = 0 then [0] else toBytes n ((bitLength n + 8) / 8)

theorem toBytes_encode (n : Int) (length : Nat) : toBytes n length = TwosComplement.encode length n := by
  induction length generalizing n with
  | zero => rfl
  | succ length ih =>
    rw [TwosComplement.encode,← ih,toBytes,toBytes,List.range_succ,List.map_append,List.map_singleton]
    congr 1
    · apply List.map_congr_left
      intro i member
      have inside := List.mem_range.mp member
      have place : length + 1 - 1 - i = length - 1 - i + 1 := by omega
      have positive : (0 : Int) ≤ 256 ^ (length - 1 - i) := by positivity
      rw [place,pow_succ',Int.fdiv_eq_ediv_of_nonneg _ (by positivity),Int.fdiv_eq_ediv_of_nonneg _ positive,
        Int.ediv_ediv_of_nonneg (by decide)]
    · rw [Nat.add_sub_cancel,Nat.sub_self,pow_zero,Int.fdiv_one]

theorem bitLength_bound (n : Int) : n.natAbs < 2 ^ bitLength n := by
  unfold bitLength
  split
  · rename_i zero
    subst zero
    decide
  · exact Nat.lt_log2_self

theorem signed_encoded (n : Int) : TwosComplement.signed (encoded n) = n := by
  unfold encoded
  split
  · rename_i zero
    subst zero
    decide
  · have bound := bitLength_bound n
    have room : 2 ^ (bitLength n + 1) ≤ 2 ^ (8 * ((bitLength n + 8) / 8)) := Nat.pow_le_pow_right (by decide) (by omega)
    have range : 2 * n.natAbs < 256 ^ ((bitLength n + 8) / 8) := by
      rw [show 256 = 2 ^ 8 from rfl,← pow_mul]
      rw [pow_succ] at room
      omega
    have wide : (2 * n.natAbs : Int) < 256 ^ ((bitLength n + 8) / 8) := by exact_mod_cast range
    rw [toBytes_encode]
    exact TwosComplement.signed_encode _ n (by omega) (by omega)

-- What is right of the integer that a value is converted to: there is one where the value
-- converts, and it is the value at the scale where that is whole and precise.
def Rightly (scale : Nat) (x : Rat) (converts precise : Prop) : Option Int → Prop
  | none => ¬converts
  | some n => converts ∧ ((n : Rat) = x * 10 ^ scale ↔ (∃ m : Int, x * 10 ^ scale = m) ∧ precise)

section Conversion
variable (registry : SchemaRegistry) (precision scale : Nat)

theorem decimal_rightly (coefficient exponent : Int) : Rightly scale (Decimal.quantity coefficient exponent)
    (|Decimal.quantity coefficient exponent * 10 ^ scale| < Decimal.limit)
    ((10 ^ Decimal.dropped (coefficient * 10 ^ scale) : Int) ∣ coefficient * 10 ^ scale)
    ((Decimal.times coefficient exponent (10 ^ scale)).map fun (product,power) => Decimal.truncate product power) := by
  have scaled : Decimal.quantity (coefficient * 10 ^ scale) exponent = Decimal.quantity coefficient exponent * 10 ^ scale := by
    unfold Decimal.quantity
    push_cast
    ring
  have overflows := Decimal.times_overflows coefficient exponent (10 ^ scale)
  have truncated := Decimal.kept_truncated (coefficient * 10 ^ scale) exponent
  rw [scaled] at overflows truncated
  cases made : Decimal.times coefficient exponent (10 ^ scale) with
  | none => exact not_lt.mpr (overflows.mp made)
  | some result =>
    refine ⟨lt_of_not_ge fun above => ?_,?_⟩
    · rw [overflows.mpr above] at made
      cases made
    · rw [Decimal.times_kept] at made
      split at made
      · cases made
      · cases made
        exact truncated

-- A float is cut to the integer before it, and is whole where the denominator divides.
theorem float_whole (q : Rat) : (((q.num * 10 ^ scale).tdiv q.den : Int) : Rat) = q * 10 ^ scale ↔ ∃ n : Int, q * 10 ^ scale = n := by
  constructor
  · intro exact
    exact ⟨_,exact.symm⟩
  · intro ⟨n,whole⟩
    have some : (q.den : Rat) ≠ 0 := by exact_mod_cast q.den_ne_zero
    have product : q.num * 10 ^ scale = n * q.den := by
      have cleared : (q.num : Rat) * 10 ^ scale = n * q.den := by
        rw [← whole,mul_right_comm,Rat.mul_den_eq_num]
      exact_mod_cast cleared
    rw [product,Int.mul_tdiv_cancel _ (by exact_mod_cast q.den_ne_zero),whole]

theorem float_overflows (q : Rat) : Decimal.maxExponent + 1 < Decimal.digitCount ((q.num * 10 ^ scale).tdiv q.den).natAbs ↔
    10 ^ (Decimal.maxExponent + 1) ≤ |q * 10 ^ scale| := by
  obtain ⟨most,same⟩ : ∃ most : Nat, Decimal.maxExponent + 1 = most := ⟨1000000,rfl⟩
  have positive : 0 < q.den := q.den_pos
  have size : |q * 10 ^ scale| = ((q.num * 10 ^ scale).natAbs : Rat) / q.den := by
    have some : (0 : Rat) < q.den := by exact_mod_cast positive
    have product : q * 10 ^ scale = ((q.num * 10 ^ scale : Int) : Rat) / q.den := by
      rw [eq_div_iff some.ne',mul_right_comm,Rat.mul_den_eq_num]
      push_cast
      rfl
    rw [product,abs_div,abs_of_pos some,Nat.cast_natAbs,Int.cast_abs]
  have cut : ((q.num * 10 ^ scale).tdiv q.den).natAbs = (q.num * 10 ^ scale).natAbs / q.den := by
    rw [Int.natAbs_tdiv,Int.natAbs_natCast]
    rfl
  rw [same,Nat.cast_lt,Decimal.lt_digitCount,cut,Nat.le_div_iff_mul_le positive,size,zpow_natCast,
    le_div_iff₀ (by exact_mod_cast positive)]
  exact_mod_cast Iff.rfl

end Conversion

def finished : Option Int → Except RegistryError (List UInt8)
  | none => .error .conversion
  | some n => .ok (encoded n)

-- What the conversion makes of a number with this value.
theorem faithful_of {a : Amount} {x : Rat} (named : a.number = some x) (outcome : Option Int)
    (bytes : a.toDecimalBytes registry precision scale = finished outcome)
    (law : Rightly scale x (a.Convertible scale) (a.Precise scale) outcome) :
    a.ExactOrRejected precision scale (a.toDecimalBytes registry precision scale) ↔ a.Faithful precision scale := by
  have ten : (10 : Rat) ^ scale ≠ 0 := by positivity
  have moved : ∀ n : Int, x = n / 10 ^ scale ↔ (n : Rat) = x * 10 ^ scale := by
    intro n
    rw [eq_div_iff ten,eq_comm]
  have representable : a.Representable precision scale ↔ ∃ n : Int, (n : Rat) = x * 10 ^ scale ∧ Decimal.digitCount n.natAbs ≤ precision := by
    unfold Representable
    rw [named]
    simp only [Option.some_inj,moved]
  rw [bytes]
  unfold Faithful
  cases outcome with
  | none =>
    have raises : ¬a.Convertible scale := law
    exact ⟨fun unfit => .inr ⟨unfit,raises⟩,fun either => either.elim (fun fits => absurd fits.2.2 raises) fun unfit => unfit.1⟩
  | some n =>
    obtain ⟨converts,exact⟩ := law
    unfold ExactOrRejected finished
    rw [named]
    simp only [signed_encoded,Option.some_inj,moved]
    constructor
    · intro ⟨same,few⟩
      exact .inl ⟨representable.mpr ⟨n,same,few⟩,(exact.mp same).2,converts⟩
    · rintro (⟨fits,precise,_⟩ | ⟨_,raises⟩)
      · obtain ⟨m,whole,few⟩ := representable.mp fits
        have same := exact.mpr ⟨⟨m,whole.symm⟩,precise⟩
        have equal : n = m := by exact_mod_cast same.trans whole.symm
        exact ⟨same,equal ▸ few⟩
      · exact absurd converts raises

-- A value without a number raises, and rightly.
theorem faithful_none {a : Amount} (nameless : a.number = none) (unconverted : ¬a.Convertible scale)
    (raised : a.toDecimalBytes registry precision scale = .error .conversion) :
    a.ExactOrRejected precision scale (a.toDecimalBytes registry precision scale) ↔ a.Faithful precision scale := by
  have unfit : ¬a.Representable precision scale := by
    rintro ⟨n,same,_⟩
    rw [nameless] at same
    cases same
  rw [raised]
  exact iff_of_true unfit (.inr ⟨unfit,unconverted⟩)

-- Every integer is recovered from its bytes, and the bytes of a number are its value, or
-- it has none and is rejected, exactly for the faithful ones.
theorem decimal_encoding_exact (registry : SchemaRegistry) (precision scale : Nat) :
    (∀ n : Int, TwosComplement.signed (encoded n) = n) ∧
      ∀ a : Amount, a.ExactOrRejected precision scale (a.toDecimalBytes registry precision scale) ↔ a.Faithful precision scale := by
  refine ⟨signed_encoded,?_⟩
  intro a
  cases a with
  | int i =>
    by_cases written : Decimal.digitCount i.natAbs ≤ 4300
    · have converted : registry.unscaled scale (.int i) =
          (Decimal.times i 0 (10 ^ scale)).map fun (product,power) => Decimal.truncate product power := if_neg (not_lt.mpr written)
      have right := decimal_rightly scale i 0
      rw [Decimal.quantity,zpow_zero,mul_one,← converted] at right
      refine faithful_of rfl (registry.unscaled scale (.int i)) rfl ?_
      have both : (Amount.int i).Convertible scale ↔ |(i * 10 ^ scale : Rat)| < Decimal.limit := and_iff_right written
      rwa [both]
    · have refused : (Amount.int i).toDecimalBytes registry precision scale = finished none := by
        rw [toDecimalBytes,SchemaRegistry.toDecimalBytes,SchemaRegistry.unscaled,if_pos (not_le.mp written)]
        rfl
      exact faithful_of rfl none refused fun converts => written converts.1
  | float x =>
    cases x with
    | finite q =>
      have overflows := float_overflows scale q
      refine faithful_of rfl (registry.unscaled scale (.float (.finite q))) rfl ?_
      rw [SchemaRegistry.unscaled]
      split
      · rename_i large
        exact not_lt.mpr (overflows.mp large)
      · rename_i under
        exact ⟨not_le.mp fun above => under (overflows.mpr above),(float_whole scale q).trans (iff_of_eq (and_true _).symm)⟩
    | nan => exact faithful_none rfl (fun none => none) rfl
    | infinity negative => exact faithful_none rfl (fun none => none) rfl
  | decimal coefficient exponent =>
    exact faithful_of rfl (registry.unscaled scale (.decimal coefficient exponent)) rfl (decimal_rightly scale coefficient exponent)
  | special => exact faithful_none rfl (fun none => none) rfl

-- A registry that has no writer, and reads no texts as numbers.
def plainRegistry : SchemaRegistry := ⟨fun _ _ => none,fun _ => none⟩

-- The float 125.555 is cut to 125.55.
theorem third_decimal_cut : ¬(Amount.float (.finite (25111 / 200))).ExactOrRejected 12 2
    ((Amount.float (.finite (25111 / 200))).toDecimalBytes plainRegistry 12 2) := by
  have cut : ((Amount.float (.finite (25111 / 200))).toDecimalBytes plainRegistry 12 2).toOption = some [49,11] := by decide +kernel
  cases made : (Amount.float (.finite (25111 / 200))).toDecimalBytes plainRegistry 12 2 with
  | error e =>
    rw [made] at cut
    cases cut
  | ok bytes =>
    rw [made] at cut
    cases cut
    intro exact
    have value : some (25111 / 200 : Rat) = some ((TwosComplement.signed [49,11] : Rat) / 10 ^ 2) := exact.1
    exact absurd value (by decide +kernel)

end Amount
end RiskPulse
