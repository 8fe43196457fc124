import Mathlib.Data.Bool.AllAny
import RiskPulse.Library.JsonText
import RiskPulse.Library.Regex

-- The text of a JSON value without blanks, and where an expression can match in it: within
-- a number, or within what stands between the quotes of a string or of a key.
namespace Json

def escaped (text : String) : List Char := text.toList.flatMap escapeChar

mutual
def compact : Json → List Char
  | .null => ['n','u','l','l']
  | .bool true => ['t','r','u','e']
  | .bool false => ['f','a','l','s','e']
  | .int value => encodeInt value
  | .float text => text.toList
  | .str text => encodeString text
  | .array items => '[' :: ([','].intercalate (compactItems items) ++ [']'])
  | .object members => '\x7b' :: ([','].intercalate (compactMembers members) ++ ['\x7d'])
def compactItems : List Json → List (List Char)
  | [] => []
  | item :: rest => compact item :: compactItems rest
def compactMembers : List (String × Json) → List (List Char)
  | [] => []
  | (key,member) :: rest => (encodeString key ++ ':' :: compact member) :: compactMembers rest
end

-- The encoder with the separators "," and ":".
def dumpsCompact (v : Json) : String := String.ofList (compact v)

mutual
def tokens : Json → List (List Char)
  | .null | .bool _ => []
  | .int value => [encodeInt value]
  | .float text => [text.toList]
  | .str text => [escaped text]
  | .array items => itemTokens items
  | .object members => memberTokens members
def itemTokens : List Json → List (List Char)
  | [] => []
  | item :: rest => tokens item ++ itemTokens rest
def memberTokens : List (String × Json) → List (List Char)
  | [] => []
  | (key,member) :: rest => escaped key :: (tokens member ++ memberTokens rest)
end

def structural : List Char := ['"','[',']','\x7b','\x7d',',',':']

section Tokens
open Regex
variable {word : Char → Bool} {needed : Char → Prop} {core : Regex}

-- An expression that matches nothing of what JSON text is made of besides its tokens.
structure Within (word : Char → Bool) (needed : Char → Prop) (core : Regex) : Prop where
  sealed : ∀ c ∈ structural, Sealed c needed core ∧ word c = false
  literal : ∀ c ∈ ['n','u','l','t','r','e','f','a','s'], ¬needed c

variable (fits : Within word needed core)
include fits

theorem Within.mark (member : c ∈ structural) : Sealed c needed core := (fits.sealed c member).1

theorem Within.apart (member : c ∈ structural) : word c = false := (fits.sealed c member).2

theorem Within.separated (member : d ∈ structural) (a b : List Char) : Occurs word (bounded core) [] (a ++ d :: b) ↔
    Occurs word (bounded core) [] a ∨ Occurs word (bounded core) [] b :=
  occurs_separated word (fits.mark member) (fits.apart member) [] a b

theorem Within.nothing : ¬Occurs word (bounded core) [] [] :=
  occurs_needed word (fits.mark (show '"' ∈ structural by decide)) (by simp) []

theorem Within.enclosed (opens : c ∈ structural) (closes : d ∈ structural) (text : List Char) :
    Occurs word (bounded core) [] (c :: (text ++ [d])) ↔ Occurs word (bounded core) [] text := by
  have first := fits.separated opens [] (text ++ [d])
  rw [List.nil_append] at first
  rw [first,fits.separated closes text []]
  simp [fits.nothing]

theorem string_occurs (text : String) : Occurs word (bounded core) [] (encodeString text) ↔
    Occurs word (bounded core) [] (escaped text) := fits.enclosed (by decide) (by decide) _

theorem Within.literal_absent (plain : text ⊆ ['n','u','l','t','r','e','f','a','s']) : ¬Occurs word (bounded core) [] text :=
  occurs_needed word (fits.mark (show '"' ∈ structural by decide)) (fun c member => fits.literal c (plain member)) []

omit fits

-- By induction on the value: a match in the text is a match in one of its tokens.
mutual
theorem compact_occurs (fits : Within word needed core) : (v : Json) → (Occurs word (bounded core) [] (compact v) ↔ ∃ token ∈ tokens v, Occurs word (bounded core) [] token)
  | .null => by
    have absent : ¬Occurs word (bounded core) [] ['n','u','l','l'] := fits.literal_absent (by simp)
    simp [compact,tokens,absent]
  | .bool true => by
    have absent : ¬Occurs word (bounded core) [] ['t','r','u','e'] := fits.literal_absent (by simp)
    simp [compact,tokens,absent]
  | .bool false => by
    have absent : ¬Occurs word (bounded core) [] ['f','a','l','s','e'] := fits.literal_absent (by simp)
    simp [compact,tokens,absent]
  | .int value => by simp [compact,tokens]
  | .float text => by simp [compact,tokens]
  | .str text => by
    unfold compact tokens
    rw [string_occurs fits]
    simp
  | .array items => by
    unfold compact tokens
    rw [fits.enclosed (by decide) (by decide),occurs_joined word (fits.mark (by decide)) (fits.apart (by decide))]
    exact compactItems_occurs fits items
  | .object members => by
    unfold compact tokens
    rw [fits.enclosed (by decide) (by decide),occurs_joined word (fits.mark (by decide)) (fits.apart (by decide))]
    exact compactMembers_occurs fits members
theorem compactItems_occurs (fits : Within word needed core) : (items : List Json) → ((∃ part ∈ compactItems items, Occurs word (bounded core) [] part) ↔
    ∃ token ∈ itemTokens items, Occurs word (bounded core) [] token)
  | [] => by simp [compactItems,itemTokens]
  | item :: rest => by
    unfold compactItems itemTokens
    simp only [List.exists_mem_cons_iff,List.mem_append,or_and_right,exists_or]
    rw [compact_occurs fits item,compactItems_occurs fits rest]
theorem compactMembers_occurs (fits : Within word needed core) :
    (members : List (String × Json)) → ((∃ part ∈ compactMembers members, Occurs word (bounded core) [] part) ↔
    ∃ token ∈ memberTokens members, Occurs word (bounded core) [] token)
  | [] => by simp [compactMembers,memberTokens]
  | (key,member) :: rest => by
    unfold compactMembers memberTokens
    simp only [List.exists_mem_cons_iff,List.mem_append,or_and_right,exists_or]
    rw [fits.separated (by decide),string_occurs fits,compact_occurs fits member,compactMembers_occurs fits rest,or_assoc]
end

end Tokens

end Json
