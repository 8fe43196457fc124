import Mathlib.Algebra.GroupWithZero.Nat
import Mathlib.Algebra.Order.BigOperators.Group.List
import Mathlib.Algebra.Order.Group.Nat
import Mathlib.Data.List.Chain
import RiskPulse.Library.Text

-- Texts without superfluous blanks, and texts that are weighed by their characters.
namespace Text

-- Every run of blanks becomes one space; the flag says that one has just been written.
def collapseFrom : Bool → List Char → List Char
  | _,[] => []
  | written,c :: rest =>
    if isSpace c then (if written then collapseFrom true rest else ' ' :: collapseFrom true rest) else c :: collapseFrom false rest

def collapse (text : List Char) : List Char := collapseFrom false text

def trim (text : List Char) : List Char := collapse (strip isSpace text)

-- No blank at an end, no two together, and no blank but the space.
structure Spaced (text : List Char) : Prop where
  first : ∀ c ∈ text.head?, isSpace c = false
  last : ∀ c ∈ text.getLast?, isSpace c = false
  spaces : ∀ c ∈ text, isSpace c = true → c = ' '
  single : text.IsChain fun a b => ¬(isSpace a = true ∧ isSpace b = true)

theorem collapseFrom_length (written : Bool) (text : List Char) : (collapseFrom written text).length ≤ text.length := by
  induction text generalizing written with
  | nil => exact Nat.le_refl 0
  | cons c rest ih =>
    have after := ih true
    have before := ih false
    unfold collapseFrom
    split
    · split
      · rw [List.length_cons]
        omega
      · rw [List.length_cons,List.length_cons]
        omega
    · rw [List.length_cons,List.length_cons]
      omega

theorem collapseFrom_fixed (written : Bool) (text : List Char) : collapseFrom written text = text ↔
    (∀ c ∈ text, isSpace c = true → c = ' ') ∧ text.IsChain (fun a b => ¬(isSpace a = true ∧ isSpace b = true)) ∧
      (written = true → ∀ c ∈ text.head?, isSpace c = false) := by
  induction text generalizing written with
  | nil => simp [collapseFrom]
  | cons c rest ih =>
    unfold collapseFrom
    by_cases blank : isSpace c = true
    · rw [if_pos blank]
      cases written with
      | true =>
        have shorter := collapseFrom_length true rest
        constructor
        · intro same
          simp only [if_true] at same
          rw [same,List.length_cons] at shorter
          omega
        · rintro ⟨_,_,visible⟩
          have first := visible rfl c rfl
          rw [blank] at first
          cases first
      | false =>
        simp only [Bool.false_eq_true,if_false,List.cons.injEq,ih true,List.forall_mem_cons,List.isChain_cons,blank,true_and,forall_const,
          false_implies,and_true]
        constructor
        · rintro ⟨space,spaces,single,visible⟩
          exact ⟨⟨space.symm,spaces⟩,fun d first => by rw [visible d first]; decide,single⟩
        · rintro ⟨⟨space,spaces⟩,next,single⟩
          exact ⟨space.symm,spaces,single,fun d first => Bool.eq_false_iff.mpr (next d first)⟩
    · rw [if_neg blank]
      simp only [List.cons.injEq,true_and,ih false,List.forall_mem_cons,List.isChain_cons,blank,Bool.false_eq_true,false_implies,false_and,
        not_false_eq_true,implies_true,and_true,true_and]
      constructor
      · rintro ⟨spaces,single⟩
        refine ⟨spaces,single,?_⟩
        intro _ d first
        cases first
        exact Bool.eq_false_iff.mpr blank
      · rintro ⟨spaces,single,_⟩
        exact ⟨spaces,single⟩

theorem strip_fixed (p : Char → Bool) (text : List Char) : strip p text = text ↔
    (∀ c ∈ text.head?, p c = false) ∧ ∀ c ∈ text.getLast?, p c = false := by
  have front : text.dropWhile p = text ↔ ∀ c ∈ text.head?, p c = false := by
    cases text with
    | nil => simp
    | cons c rest => simp [List.dropWhile_eq_self_iff]
  have back : text.reverse.dropWhile p = text.reverse ↔ ∀ c ∈ text.getLast?, p c = false := by
    rw [← List.head?_reverse]
    cases text.reverse with
    | nil => simp
    | cons c rest => simp [List.dropWhile_eq_self_iff]
  rw [← front,← back]
  constructor
  · intro same
    have kept : text.dropWhile p = text := by
      have whole := strip_sublist p text
      have shorter := (List.dropWhile_suffix (l := text) p).length_le
      have longer : (strip p text).length ≤ (text.dropWhile p).length := by
        rw [strip,List.length_reverse]
        exact (List.dropWhile_suffix p).length_le.trans (by rw [List.length_reverse])
      rw [same] at longer
      exact (List.dropWhile_suffix p).eq_of_length_le longer
    refine ⟨kept,?_⟩
    have reversed := congrArg List.reverse same
    rw [strip,kept,List.reverse_reverse] at reversed
    exact reversed
  · rintro ⟨one,other⟩
    rw [strip,one,other,List.reverse_reverse]

-- Trimming leaves the texts that have no superfluous blanks, and no others.
theorem trim_fixed (text : List Char) : trim text = text ↔ Spaced text := by
  constructor
  · intro same
    have shorter := (strip_sublist isSpace text).length_le
    have collapsed := collapseFrom_length false (strip isSpace text)
    have kept : strip isSpace text = text := by
      refine (strip_sublist isSpace text).eq_of_length_le ?_
      calc text.length = (trim text).length := by rw [same]
        _ ≤ (strip isSpace text).length := collapsed
    rw [trim,kept] at same
    obtain ⟨spaces,single,_⟩ := (collapseFrom_fixed false text).mp same
    obtain ⟨first,last⟩ := (strip_fixed isSpace text).mp kept
    exact ⟨first,last,spaces,single⟩
  · intro spaced
    rw [trim,(strip_fixed isSpace text).mpr ⟨spaced.first,spaced.last⟩]
    exact (collapseFrom_fixed false text).mpr ⟨spaced.spaces,spaced.single,fun absurdity => by cases absurdity⟩

theorem collapseFrom_chars (written : Bool) (text : List Char) : ∀ c ∈ collapseFrom written text, c = ' ' ∨ c ∈ text ∧ isSpace c = false := by
  induction text generalizing written with
  | nil => exact fun _ member => by cases member
  | cons d rest ih =>
    have later : ∀ written, ∀ c ∈ collapseFrom written rest, c = ' ' ∨ c ∈ d :: rest ∧ isSpace c = false := by
      intro written c member
      exact (ih written c member).imp_right fun ⟨inside,visible⟩ => ⟨List.mem_cons_of_mem _ inside,visible⟩
    intro c member
    unfold collapseFrom at member
    split at member
    · split at member
      · exact later true c member
      · rcases List.mem_cons.mp member with space | inside
        · exact .inl space
        · exact later true c inside
    · rename_i visible
      rcases List.mem_cons.mp member with rfl | inside
      · exact .inr ⟨List.mem_cons_self,Bool.eq_false_iff.mpr visible⟩
      · exact later false c inside

theorem trim_chars (text : List Char) : ∀ c ∈ trim text, c = ' ' ∨ c ∈ text ∧ isSpace c = false := by
  intro c member
  exact (collapseFrom_chars false _ c member).imp_right fun ⟨inside,visible⟩ => ⟨(strip_sublist isSpace text).subset inside,visible⟩

section Weight
variable {w : Char → Nat}

def weight (w : Char → Nat) (text : List Char) : Nat := (text.map w).sum

theorem weight_cons (c : Char) (text : List Char) : weight w (c :: text) = w c + weight w text := rfl

theorem weight_sublist {shorter text : List Char} (part : shorter.Sublist text) : weight w shorter ≤ weight w text :=
  (part.map w).sum_le_sum fun _ _ => Nat.zero_le _

-- A part of a text that weighs as much as the text is all of it.
theorem sublist_weight (positive : ∀ c, 0 < w c) {shorter text : List Char} (part : shorter.Sublist text)
    (same : weight w text ≤ weight w shorter) : shorter = text := by
  induction part with
  | slnil => rfl
  | @cons shorter text c part ih =>
    have less := weight_sublist (w := w) part
    have some_weight := positive c
    rw [weight_cons] at same
    omega
  | @cons_cons shorter text c part ih =>
    rw [weight_cons,weight_cons] at same
    rw [ih (by omega)]

def spaced (c : Char) : Char := if isSpace c then ' ' else c

-- Collapsing never adds weight, and where it takes none away it has only replaced blanks.
theorem collapseFrom_weight (blank : ∀ c, isSpace c = true → w c = 1) (written : Bool) (text : List Char) :
    weight w (collapseFrom written text) ≤ weight w text ∧
      (weight w text ≤ weight w (collapseFrom written text) → collapseFrom written text = text.map spaced) := by
  induction text generalizing written with
  | nil => exact ⟨Nat.le_refl _,fun _ => rfl⟩
  | cons c rest ih =>
    have space : w ' ' = 1 := blank ' ' (by decide)
    obtain ⟨after,afterSame⟩ := ih true
    obtain ⟨before,beforeSame⟩ := ih false
    unfold collapseFrom
    rw [List.map_cons,spaced]
    by_cases blanks : isSpace c = true
    · have one := blank c blanks
      rw [if_pos blanks,if_pos blanks]
      cases written with
      | true =>
        simp only [if_true,weight_cons,one]
        exact ⟨by omega,fun same => absurd same (by omega)⟩
      | false =>
        simp only [Bool.false_eq_true,if_false,weight_cons,one,space]
        exact ⟨by omega,fun same => by rw [afterSame (by omega)]⟩
    · rw [if_neg blanks,if_neg blanks]
      simp only [weight_cons]
      exact ⟨by omega,fun same => by rw [beforeSame (by omega)]⟩

-- So is it with trimming.
theorem trim_weight (positive : ∀ c, 0 < w c) (blank : ∀ c, isSpace c = true → w c = 1) (text : List Char) :
    weight w (trim text) ≤ weight w text ∧ (weight w text ≤ weight w (trim text) → trim text = text.map spaced) := by
  have part := strip_sublist isSpace text
  have less := weight_sublist (w := w) part
  obtain ⟨lighter,same⟩ := collapseFrom_weight blank false (strip isSpace text)
  refine ⟨lighter.trans less,?_⟩
  intro heavy
  have whole : strip isSpace text = text := sublist_weight positive part (heavy.trans lighter)
  rw [trim,collapse,same (less.trans heavy),whole]

end Weight

end Text
