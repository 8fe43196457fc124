import Mathlib.Algebra.GroupWithZero.Nat
import Mathlib.Data.Nat.Basic

-- Numbers written out in decimal: with leading zeros to a width, with a mark between the
-- thousands, and read back.
namespace Decimal

-- The last digits of a number, as many as the width says.
def fixed : Nat → Nat → List Char
  | 0,_ => []
  | width + 1,n => fixed width (n / 10) ++ [(n % 10).digitChar]

def value (digits : List Char) : Nat := Nat.ofDigitChars 10 digits 0

def grouped (mark : Char) (n : Nat) : List Char :=
  if n < 1000 then Nat.toDigits 10 n else grouped mark (n / 1000) ++ mark :: fixed 3 n
termination_by n

@[simp] theorem length_fixed (width n : Nat) : (fixed width n).length = width := by
  induction width generalizing n with
  | zero => rfl
  | succ width ih => rw [fixed,List.length_append,ih,List.length_singleton]

theorem fixed_digits (width n : Nat) : ∀ c ∈ fixed width n, c.isDigit = true := by
  induction width generalizing n with
  | zero => exact fun _ member => by cases member
  | succ width ih =>
    intro c member
    rcases List.mem_append.mp member with earlier | last
    · exact ih _ c earlier
    · rw [List.mem_singleton.mp last,Nat.isDigit_digitChar]
      exact decide_eq_true (Nat.mod_lt n (by omega))

theorem toDigits_digits (n : Nat) : ∀ c ∈ Nat.toDigits 10 n, c.isDigit = true :=
  fun _ member => Nat.isDigit_of_mem_toDigits (by decide) (by decide) member

theorem value_append (first later : List Char) : value (first ++ later) = value first * 10 ^ later.length + value later := by
  rw [value,Nat.ofDigitChars_append,Nat.ofDigitChars_eq_ofDigitChars_zero,Nat.mul_comm]
  rfl

theorem value_digit (d : Nat) (digit : d < 10) : value [d.digitChar] = d := by
  rw [value,Nat.ofDigitChars_cons_digitChar_of_lt_ten digit,Nat.ofDigitChars_nil,Nat.mul_zero,Nat.zero_add]

theorem value_fixed (width n : Nat) : value (fixed width n) = n % 10 ^ width := by
  induction width generalizing n with
  | zero => rw [Nat.pow_zero,Nat.mod_one]; rfl
  | succ width ih =>
    rw [fixed,value_append,ih,value_digit _ (Nat.mod_lt n (by omega)),List.length_singleton,Nat.pow_one,Nat.pow_succ,
      Nat.mul_comm (10 ^ width),Nat.mod_mul]
    omega

theorem value_toDigits (n : Nat) : value (Nat.toDigits 10 n) = n := Nat.ofDigitChars_ten_toDigits

theorem value_fits (width n : Nat) (fits : n < 10 ^ width) : value (fixed width n) = n := by
  rw [value_fixed,Nat.mod_eq_of_lt fits]

-- A number is the digits of its front and the last ones.
theorem toDigits_split (width n : Nat) (long : 10 ^ width ≤ n) : Nat.toDigits 10 n = Nat.toDigits 10 (n / 10 ^ width) ++ fixed width n := by
  induction width generalizing n with
  | zero => simp [fixed]
  | succ width ih =>
    rw [Nat.pow_succ] at long
    have positive : 0 < 10 ^ width := Nat.pow_pos (by omega)
    have ten : 10 ≤ n := by omega
    have front : 10 ^ width ≤ n / 10 := by omega
    rw [Nat.toDigits_of_base_le (by omega) ten,ih (n / 10) front,Nat.div_div_eq_div_mul,Nat.mul_comm 10,← Nat.pow_succ,fixed,
      List.append_assoc]

-- A number of up to three digits, and then marked groups of three.
theorem grouped_groups (mark : Char) (n : Nat) :
    ∃ lead groups, lead < 1000 ∧ grouped mark n = Nat.toDigits 10 lead ++ (groups.flatMap fun g => mark :: fixed 3 g) ∧
      (groups = [] ↔ n < 1000) := by
  induction n using Nat.strongRecOn with
  | _ n ih =>
    rw [grouped]
    split
    · rename_i small
      exact ⟨n,[],small,(List.append_nil _).symm,fun _ => small,fun _ => rfl⟩
    · rename_i large
      obtain ⟨lead,groups,short,written,_⟩ := ih (n / 1000) (by omega)
      refine ⟨lead,groups ++ [n],short,?_,fun absurdity => ?_,fun small => absurd small large⟩
      · rw [written,List.flatMap_append,List.append_assoc]
        simp
      · cases List.append_eq_nil_iff.mp absurdity |>.2

theorem grouped_chars (mark : Char) (n : Nat) : ∀ c ∈ grouped mark n, c.isDigit = true ∨ c = mark := by
  obtain ⟨lead,groups,_,written,_⟩ := grouped_groups mark n
  rw [written]
  intro c member
  rcases List.mem_append.mp member with first | later
  · exact .inl (toDigits_digits lead c first)
  · obtain ⟨g,_,inside⟩ := List.mem_flatMap.mp later
    rcases List.mem_cons.mp inside with same | digit
    · exact .inr same
    · exact .inl (fixed_digits 3 g c digit)

theorem grouped_marked (mark : Char) (n : Nat) (plain : mark.isDigit = false) : mark ∈ grouped mark n ↔ 1000 ≤ n := by
  obtain ⟨lead,groups,_,written,small⟩ := grouped_groups mark n
  have absent : mark ∉ Nat.toDigits 10 lead := by
    intro member
    rw [toDigits_digits lead mark member] at plain
    cases plain
  rw [← not_lt,← small,written]
  cases groups with
  | nil => simp [absent]
  | cons g groups => simp

-- Without the marks the digits are left.
theorem grouped_unmarked (mark : Char) (n : Nat) (plain : mark.isDigit = false) :
    (grouped mark n).filter (fun c => decide (c ≠ mark)) = Nat.toDigits 10 n := by
  have kept : ∀ digits : List Char, (∀ c ∈ digits, c.isDigit = true) → digits.filter (fun c => decide (c ≠ mark)) = digits := by
    intro digits all
    rw [List.filter_eq_self]
    intro c member
    apply decide_eq_true
    rintro rfl
    rw [all c member] at plain
    cases plain
  induction n using Nat.strongRecOn with
  | _ n ih =>
    rw [grouped]
    split
    · exact kept _ (toDigits_digits n)
    · rename_i large
      rw [List.filter_append,List.filter_cons_of_neg (by simp),ih (n / 1000) (by omega),kept _ (fixed_digits 3 n)]
      exact (toDigits_split 3 n (by omega)).symm

end Decimal
