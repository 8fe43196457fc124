import Mathlib.Data.Int.Basic
import Mathlib.Data.Nat.Digits.Defs
import Mathlib.Tactic.Linarith
import Mathlib.Tactic.LinearCombination
import Mathlib.Tactic.Ring

-- The binary encoding of Avro data, as its specification gives it. A datum is what
-- a writer is handed; the numbers a double is written from are a parameter, and so
-- are the eight bytes of each. A decimal is the logical type over bytes.
namespace Avro

inductive Schema where
  | null
  | boolean
  | long
  | double
  | bytes
  | decimal (precision scale : Nat)
  | string
  | enum (symbols : List String)
  | union (branches : List Schema)
  | map (values : Schema)

inductive Datum (δ : Type) where
  | null
  | boolean (value : Bool)
  | long (value : Int)
  | double (value : δ)
  | bytes (content : List UInt8)
  | string (text : String)
  | map (entries : List (String × Datum δ))
  | other

def zigZag (i : Int) : Nat := if 0 ≤ i then 2 * i.toNat else 2 * (-i).toNat - 1

-- Seven bits a byte, the lowest first; all but the last byte have the top bit set.
def continued : List Nat → List UInt8
  | [] => [0]
  | [last] => [UInt8.ofNat last]
  | digit :: rest => UInt8.ofNat (digit + 128) :: continued rest

def long (i : Int) : List UInt8 := continued (Nat.digits 128 (zigZag i))

def block (content : List UInt8) : List UInt8 := long content.length ++ content

def utf8 (text : String) : List UInt8 := text.toList.flatMap String.utf8EncodeChar

-- The count of the entries and the entries, then an end of zero.
def blocks (parts : List (List UInt8)) : List UInt8 :=
  (if parts.isEmpty then [] else long parts.length ++ parts.flatten) ++ [0]

variable {δ : Type} (double : Datum δ → Option (List UInt8))

-- None when the datum is not of the schema. A union takes the first branch it is of.
mutual
def encode : Schema → Datum δ → Option (List UInt8)
  | .null,.null => some []
  | .boolean,.boolean b => some [if b then 1 else 0]
  | .long,.long i => if -2 ^ 63 ≤ i ∧ i < 2 ^ 63 then some (long i) else none
  | .long,.boolean b => some (long (if b then 1 else 0))
  | .double,datum => double datum
  | .bytes,.bytes content | .decimal _ _,.bytes content => some (block content)
  | .string,.string text => some (block (utf8 text))
  | .enum symbols,.string text => (symbols.finIdxOf? text).map fun i => long i.val
  | .union branches,datum => encodeBranch branches 0 datum
  | .map values,.map entries =>
    (entries.mapM fun entry => (encode values entry.2).map (block (utf8 entry.1) ++ ·)).map blocks
  | _,_ => none
def encodeBranch : List Schema → Nat → Datum δ → Option (List UInt8)
  | [],_,_ => none
  | first :: rest,index,datum =>
    match encode first datum with
    | some content => some (long index ++ content)
    | none => encodeBranch rest (index + 1) datum
end

def encodeRecord (datum : String → Datum δ) : List (String × Schema) → Option (List UInt8)
  | [] => some []
  | (name,schema) :: rest =>
    (encode double schema (datum name)).bind fun first => (encodeRecord datum rest).map (first ++ ·)

theorem encodeRecord_field {datum : String → Datum δ} (encoded : encodeRecord double datum fields = some content)
    (field : (name,schema) ∈ fields) :
    ∃ part, encode double schema (datum name) = some part ∧ ∀ b ∈ part, b ∈ content := by
  induction fields generalizing content with
  | nil => cases field
  | cons head rest ih =>
    obtain ⟨first,wrote,others⟩ := Option.bind_eq_some_iff.mp encoded
    obtain ⟨tail,later,rfl⟩ := Option.map_eq_some_iff.mp others
    rcases List.mem_cons.mp field with rfl | further
    · exact ⟨first,wrote,fun b member => List.mem_append_left _ member⟩
    · obtain ⟨part,same,inside⟩ := ih later further
      exact ⟨part,same,fun b member => List.mem_append_right _ (inside b member)⟩

theorem encode_enum {datum : Datum δ} (encoded : encode double (.enum symbols) datum = some part) :
    ∃ i < symbols.length, part = long i := by
  cases datum with
  | string text =>
    obtain ⟨i,found,rfl⟩ := Option.map_eq_some_iff.mp encoded
    exact ⟨i.val,i.isLt,rfl⟩
  | _ => cases encoded

theorem long_index (small : i < 64) : long (i : Nat) = [UInt8.ofNat (2 * i)] := by
  unfold long zigZag
  rw [if_pos (Int.natCast_nonneg i),Int.toNat_natCast]
  by_cases zero : i = 0
  · subst zero
    rfl
  · rw [Nat.digits_of_lt 128 (2 * i) (by omega) (by omega)]
    rfl

end Avro

-- Integers as bytes, the highest byte first, the sign in the highest bit.
namespace TwosComplement

def unsigned (bytes : List UInt8) : Nat := bytes.foldl (fun total byte => 256 * total + byte.toNat) 0

def signed (bytes : List UInt8) : Int :=
  if 2 * unsigned bytes < 256 ^ bytes.length then unsigned bytes else unsigned bytes - 256 ^ bytes.length

def encode : Nat → Int → List UInt8
  | 0,_ => []
  | length + 1,n => encode length (n / 256) ++ [UInt8.ofNat (n % 256).toNat]

@[simp] theorem length_encode (length : Nat) (n : Int) : (encode length n).length = length := by
  induction length generalizing n with
  | zero => rfl
  | succ length ih => rw [encode,List.length_append,ih,List.length_singleton]

theorem unsigned_concat (bytes : List UInt8) (last : UInt8) : unsigned (bytes ++ [last]) = 256 * unsigned bytes + last.toNat := by
  rw [unsigned,List.foldl_append]
  rfl

theorem last_byte (n : Int) : ((UInt8.ofNat (n % 256).toNat).toNat : Int) = n % 256 := by
  have least := Int.emod_nonneg n (by decide : (256 : Int) ≠ 0)
  have less := Int.emod_lt_of_pos n (by decide : (0 : Int) < 256)
  rw [UInt8.toNat_ofNat_of_lt' (by rw [UInt8.size]; omega),Int.toNat_of_nonneg least]

theorem emod_split (n m : Int) (positive : 0 < m) : n % (256 * m) = 256 * (n / 256 % m) + n % 256 := by
  have whole := Int.mul_ediv_add_emod n 256
  have upper := Int.mul_ediv_add_emod (n / 256) m
  have least := Int.emod_nonneg n (by decide : (256 : Int) ≠ 0)
  have less := Int.emod_lt_of_pos n (by decide : (0 : Int) < 256)
  have low := Int.emod_nonneg (n / 256) positive.ne'
  have high := Int.emod_lt_of_pos (n / 256) positive
  have parts : n = 256 * (n / 256 % m) + n % 256 + 256 * m * (n / 256 / m) := by linear_combination -whole - 256 * upper
  calc n % (256 * m) = (256 * (n / 256 % m) + n % 256 + 256 * m * (n / 256 / m)) % (256 * m) := by rw [← parts]
    _ = (256 * (n / 256 % m) + n % 256) % (256 * m) := Int.add_mul_emod_self_left _ _ _
    _ = 256 * (n / 256 % m) + n % 256 := Int.emod_eq_of_lt (by linarith) (by linarith)

-- The bytes hold the number modulo their range.
theorem unsigned_encode (length : Nat) (n : Int) : (unsigned (encode length n) : Int) = n % 256 ^ length := by
  induction length generalizing n with
  | zero => simp [encode,unsigned]
  | succ length ih =>
    rw [encode,unsigned_concat,Nat.cast_add,Nat.cast_mul,ih,last_byte,pow_succ',emod_split n _ (by positivity)]
    rfl

-- A number between half the range below zero and half above is read back.
theorem signed_encode (length : Nat) (n : Int) (low : -256 ^ length ≤ 2 * n) (high : 2 * n < 256 ^ length) :
    signed (encode length n) = n := by
  have held := unsigned_encode length n
  have positive : (0 : Int) < 256 ^ length := by positivity
  unfold signed
  rw [length_encode]
  by_cases negative : n < 0
  · have wrapped : n % 256 ^ length = n + 256 ^ length := by
      rw [← Int.add_emod_right,Int.emod_eq_of_lt (by linarith) (by linarith)]
    rw [wrapped] at held
    rw [if_neg,held,add_sub_cancel_right]
    intro small
    have half : (2 * unsigned (encode length n) : Int) < 256 ^ length := by exact_mod_cast small
    linarith
  · have same : n % 256 ^ length = n := Int.emod_eq_of_lt (by linarith) (by linarith)
    rw [same] at held
    rw [if_pos,held]
    have half : (2 * unsigned (encode length n) : Int) < 256 ^ length := by linarith
    exact_mod_cast half

end TwosComplement
