import RiskPulse.Library.Decimal
import RiskPulse.Library.SqlText

-- Conditions as SQL reads them: comparisons of a column with a numbered parameter, joined by
-- AND, or TRUE.
namespace WhereText

abbrev Word := List Char

structure Comparison where
  column : Word
  operator : Word
  place : Nat
  deriving DecidableEq

def operators : List Word := ["=".toList,"<>".toList,"<".toList,">".toList,"<=".toList,">=".toList]

def wordAnd : Word := "AND".toList

def wordTrue : Word := "TRUE".toList

-- $1, $2 and so on.
def placeholder? : Word → Option Nat
  | '$' :: digits =>
    if digits ≠ [] ∧ digits.all Char.isDigit = true ∧ Decimal.value digits ≠ 0 then some (Decimal.value digits) else none
  | _ => none

def comparison? (column operator place : Word) : Option Comparison :=
  if SqlText.isIdentifier column = true ∧ operators.contains operator = true then (placeholder? place).map (Comparison.mk column operator) else none

def comparisons : List Word → Option (List Comparison)
  | [column,operator,place] => (comparison? column operator place).map fun only => [only]
  | column :: operator :: place :: word :: more =>
    if word = wordAnd then (comparison? column operator place).bind fun first => (comparisons more).map (first :: ·) else none
  | _ => none

def condition (text : List Char) : Option (List Comparison) :=
  let words := text.splitOn ' '
  if words = [wordTrue] then some [] else comparisons words

-- How a comparison and a placeholder are written.
def placeText (place : Nat) : Word := '$' :: Nat.toDigits 10 place

def Comparison.words (c : Comparison) : List Word := [c.column,c.operator,placeText c.place]

def spoken (words : List Word) : List Char := [' '].intercalate words

def conditionWords : List Comparison → List Word
  | [] => [wordTrue]
  | [c] => c.words
  | c :: rest => c.words ++ wordAnd :: conditionWords rest

structure Comparison.Written (c : Comparison) : Prop where
  column : SqlText.isIdentifier c.column = true
  operator : c.operator ∈ operators
  place : c.place ≠ 0

section Reading

theorem placeholder_placeText (place : Nat) (positive : place ≠ 0) : placeholder? (placeText place) = some place := by
  have some : Nat.toDigits 10 place ≠ [] := Nat.toDigits_ne_nil
  have digits : (Nat.toDigits 10 place).all Char.isDigit = true := List.all_eq_true.mpr (Decimal.toDigits_digits place)
  rw [placeText,placeholder?,Decimal.value_toDigits,if_pos ⟨some,digits,positive⟩]

theorem comparison_words (c : Comparison) (written : c.Written) : comparison? c.column c.operator (placeText c.place) = some c := by
  rw [comparison?,if_pos ⟨written.column,List.contains_iff_mem.mpr written.operator⟩,placeholder_placeText _ written.place]
  rfl

theorem comparisons_words (cs : List Comparison) (some : cs ≠ []) (written : ∀ c ∈ cs, c.Written) : comparisons (conditionWords cs) = .some cs := by
  induction cs with
  | nil => exact absurd rfl some
  | cons c cs ih =>
    have here := comparison_words c (written c List.mem_cons_self)
    cases cs with
    | nil => simp [conditionWords,Comparison.words,comparisons,here]
    | cons next later =>
      have more := ih (List.cons_ne_nil _ _) fun c member => written c (List.mem_cons_of_mem _ member)
      simp [conditionWords,Comparison.words,comparisons,here,more]

theorem identifier_unbroken (word : Word) (identifier : SqlText.isIdentifier word = true) : ' ' ∉ word := by
  cases word with
  | nil => exact List.not_mem_nil
  | cons first rest =>
    rw [SqlText.isIdentifier,Bool.and_eq_true,List.all_eq_true] at identifier
    intro member
    rcases List.mem_cons.mp member with rfl | later
    · exact absurd identifier.1 (by decide)
    · exact absurd (identifier.2 ' ' later) (by decide)

theorem words_unbroken (c : Comparison) (written : c.Written) : ∀ word ∈ c.words, ' ' ∉ word := by
  have unbroken : ∀ operator ∈ operators, ' ' ∉ operator := by decide
  intro word member
  simp only [Comparison.words,List.mem_cons,List.not_mem_nil,or_false] at member
  rcases member with rfl | rfl | rfl
  · exact identifier_unbroken _ written.column
  · exact unbroken _ written.operator
  · intro blank
    rcases List.mem_cons.mp blank with mark | digit
    · exact absurd mark (by decide)
    · exact absurd (Decimal.toDigits_digits c.place ' ' digit) (by decide)

theorem conditionWords_unbroken (cs : List Comparison) (written : ∀ c ∈ cs, c.Written) : ∀ word ∈ conditionWords cs, ' ' ∉ word := by
  induction cs with
  | nil => decide
  | cons c cs ih =>
    have here := words_unbroken c (written c List.mem_cons_self)
    cases cs with
    | nil => exact here
    | cons next later =>
      have more := ih fun c member => written c (List.mem_cons_of_mem _ member)
      intro word member
      simp only [conditionWords,List.mem_append,List.mem_cons] at member
      rcases member with first | rfl | after
      · exact here word first
      · decide
      · exact more word after

theorem conditionWords_some (cs : List Comparison) : conditionWords cs ≠ [] := by
  rcases cs with _ | ⟨c,_ | ⟨next,later⟩⟩ <;> simp [conditionWords,Comparison.words]

-- A condition is read as what it was written from.
theorem condition_spoken (cs : List Comparison) (written : ∀ c ∈ cs, c.Written) : condition (spoken (conditionWords cs)) = some cs := by
  have words : (spoken (conditionWords cs)).splitOn ' ' = conditionWords cs :=
    List.splitOn_intercalate ' ' (conditionWords_unbroken cs written) (conditionWords_some cs)
  rw [condition,words]
  cases cs with
  | nil => rfl
  | cons c cs =>
    have several : conditionWords (c :: cs) ≠ [wordTrue] := by
      cases cs <;> simp [conditionWords,Comparison.words]
    rw [if_neg several,comparisons_words _ (List.cons_ne_nil _ _) written]

-- Comparisons written one after the other with AND between them.
theorem spoken_conditions (cs : List Comparison) (some : cs ≠ []) :
    " AND ".toList.intercalate (cs.map fun c => spoken c.words) = spoken (conditionWords cs) := by
  have between : " AND ".toList = ' ' :: (wordAnd ++ [' ']) := rfl
  induction cs with
  | nil => exact absurd rfl some
  | cons c cs ih =>
    cases cs with
    | nil => rw [List.map_singleton,List.intercalate_singleton,conditionWords]
    | cons next later =>
      have more := ih (List.cons_ne_nil _ _)
      obtain ⟨word,words,begins⟩ := List.exists_cons_of_ne_nil (conditionWords_some (next :: later))
      have joined : conditionWords (c :: next :: later) = c.words ++ wordAnd :: conditionWords (next :: later) := rfl
      rw [List.map_cons] at more
      rw [List.map_cons,List.map_cons,List.intercalate_cons_cons,more,joined,begins,between]
      simp [spoken,Comparison.words]

end Reading

section Evaluation
variable {ρ δ : Type}

-- What the columns of a row hold and what the operators say of two values.
structure Engine (ρ δ : Type) where
  cell : ρ → Word → Option δ
  meets : Word → δ → δ → Bool

def Comparison.holds (e : Engine ρ δ) (params : List δ) (row : ρ) (c : Comparison) : Bool :=
  match e.cell row c.column,params[c.place - 1]? with
  | some cell,some value => e.meets c.operator cell value
  | _,_ => false

end Evaluation

end WhereText
