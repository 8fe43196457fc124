import Mathlib.Data.List.Infix

-- Glob patterns over bytes as a Redis server reads them: * is any run, ? any byte, [...]
-- a byte of a set, and a backslash takes the next byte as it is.
namespace Glob

inductive Item where
  | byte (b : UInt8)
  | range (first last : UInt8)
  deriving DecidableEq

inductive Token where
  | literal (b : UInt8)
  | one
  | star
  | set (negated : Bool) (chosen : List Item)
  deriving DecidableEq

-- Bytes are compared as signed ones, and a range may be given either way round.
def signed (b : UInt8) : Int := if b < 128 then b.toNat else (b.toNat : Int) - 256

def Item.holds (b : UInt8) : Item → Bool
  | .byte c => b = c
  | .range first last => decide (min (signed first) (signed last) ≤ signed b ∧ signed b ≤ max (signed first) (signed last))

-- A set up to its closing bracket, or to the end where it has none.
def items : List UInt8 → List Item × List UInt8
  | [] => ([],[])
  | 92 :: b :: rest => (.byte b :: (items rest).1,(items rest).2)
  | 93 :: rest => ([],rest)
  | first :: 45 :: last :: rest => (.range first last :: (items rest).1,(items rest).2)
  | b :: rest => (.byte b :: (items rest).1,(items rest).2)

-- The tokens of a pattern that is no longer than the number.
def tokens : Nat → List UInt8 → List Token
  | 0,_ => []
  | _ + 1,[] => []
  | n + 1,42 :: rest => .star :: tokens n rest
  | n + 1,63 :: rest => .one :: tokens n rest
  | n + 1,91 :: 94 :: rest => .set true (items rest).1 :: tokens n (items rest).2
  | n + 1,91 :: rest => .set false (items rest).1 :: tokens n (items rest).2
  | n + 1,92 :: b :: rest => .literal b :: tokens n rest
  | n + 1,b :: rest => .literal b :: tokens n rest

def Token.accepts (b : UInt8) : Token → Bool
  | .literal c => b = c
  | .one => true
  | .star => false
  | .set negated chosen => (chosen.any (Item.holds b)) != negated

def fits : List Token → List UInt8 → Bool
  | [],text => text.isEmpty
  | .star :: rest,text => text.tails.any (fits rest)
  | _ :: _,[] => false
  | token :: rest,b :: text => token.accepts b && fits rest text

def selects (pattern text : List UInt8) : Bool := fits (tokens pattern.length pattern) text

-- A text without a character that means something in a pattern.
def Plain (text : List UInt8) : Prop := ∀ b ∈ text, b ≠ 42 ∧ b ≠ 63 ∧ b ≠ 91 ∧ b ≠ 92

instance (text : List UInt8) : Decidable (Plain text) := inferInstanceAs (Decidable (∀ b ∈ text, _))

theorem tokens_literal (n : Nat) (rest : List UInt8) (star : b ≠ 42) (one : b ≠ 63) (set : b ≠ 91) (escape : b ≠ 92) :
    tokens (n + 1) (b :: rest) = .literal b :: tokens n rest := by
  simp_all [tokens]

theorem tokens_plain (text rest : List UInt8) (plain : Plain text) (n : Nat) :
    tokens (text.length + n) (text ++ rest) = text.map .literal ++ tokens n rest := by
  induction text with
  | nil => rw [List.length_nil,Nat.zero_add,List.nil_append,List.map_nil,List.nil_append]
  | cons b text ih =>
    obtain ⟨star,one,set,escape⟩ := plain b List.mem_cons_self
    have later := ih fun other member => plain other (List.mem_cons_of_mem _ member)
    rw [List.length_cons,Nat.succ_add,List.cons_append,tokens_literal _ _ star one set escape,later]
    rfl

theorem fits_literals (text : List UInt8) (rest : List Token) (key : List UInt8) :
    fits (text.map .literal ++ rest) key = true ↔ ∃ left, key = text ++ left ∧ fits rest left = true := by
  induction text generalizing key with
  | nil =>
    constructor
    · exact fun fit => ⟨key,rfl,fit⟩
    · intro found
      obtain ⟨left,rfl,fit⟩ := found
      exact fit
  | cons b text ih =>
    cases key with
    | nil =>
      constructor
      · intro fit
        cases fit
      · intro found
        obtain ⟨left,empty,_⟩ := found
        cases empty
    | cons first key =>
      have step : fits ((b :: text).map .literal ++ rest) (first :: key) = (decide (first = b) && fits (text.map .literal ++ rest) key) := rfl
      rw [step,Bool.and_eq_true,ih]
      constructor
      · intro both
        obtain ⟨same,left,rfl,fit⟩ := both
        cases of_decide_eq_true same
        exact ⟨left,rfl,fit⟩
      · intro found
        obtain ⟨left,whole,fit⟩ := found
        cases whole
        exact ⟨decide_eq_true rfl,left,rfl,fit⟩

theorem fits_star (text : List UInt8) : fits [.star] text = true := by
  rw [fits]
  exact List.any_eq_true.mpr ⟨[],(List.mem_tails _ _).mpr List.nil_suffix,rfl⟩

-- What begins with plain text selects only keys that begin with it.
theorem selects_begins (plain : Plain text) (selected : selects (text ++ rest) key = true) : text <+: key := by
  unfold selects at selected
  rw [List.length_append,tokens_plain text rest plain] at selected
  obtain ⟨left,rfl,_⟩ := (fits_literals text _ key).mp selected
  exact List.prefix_append text left

-- Plain text with a star selects the keys that begin with it, and alone itself.
theorem selects_plain_star (plain : Plain text) : selects (text ++ [42]) key = true ↔ text <+: key := by
  constructor
  · exact selects_begins plain
  · intro begins
    obtain ⟨left,rfl⟩ := begins
    unfold selects
    rw [List.length_append,tokens_plain text [42] plain]
    exact (fits_literals text _ _).mpr ⟨left,rfl,fits_star left⟩

end Glob
