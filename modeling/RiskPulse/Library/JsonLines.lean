import RiskPulse.Library.Fallible
import RiskPulse.Library.JsonText
import RiskPulse.Library.Text

-- A file of JSON objects, one on a line, that grows at its end; lines end as str.splitlines
-- has it.
namespace JsonLines

def isLineBreak (c : Char) : Bool := decide (c.toNat ∈ [0x0a,0x0b,0x0c,0x0d,0x1c,0x1d,0x1e,0x85,0x2028,0x2029])

-- The lines of a text behind what has been read of the first one.
def splitLines (line : List Char) : List Char → List (List Char)
  | [] => if line = [] then [] else [line]
  | '\r' :: '\n' :: rest => line :: splitLines [] rest
  | c :: rest => if isLineBreak c = true then line :: splitLines [] rest else splitLines (line ++ [c]) rest

def isBlankLine (line : List Char) : Bool := decide (Text.strip Text.isSpace line = [])

-- Lines of blanks are passed over; of the others the decoder gets what is made of them.
def load (limit : Nat) (line : List Char → List Char) (text : List Char) : Except Json.Error (List Json) :=
  ((splitLines [] text).filter fun found => !isBlankLine found).mapM fun found => Json.loads limit (String.ofList (line found))

def append (text : List Char) (members : List (String × Json)) : List Char :=
  text ++ (Json.encode Json.oneLine 0 (.object members) ++ ['\n'])

structure Legible (limit : Nat) (members : List (String × Json)) : Prop where
  fits : Json.representable (.object members) = true
  deep : Json.depth (.object members) ≤ limit

-- What is read of a text, which is empty or ends with its last line.
structure Denotes (limit : Nat) (line : List Char → List Char) (text : List Char) (rows : List Json) : Prop where
  ended : text = [] ∨ ∃ front, text = front ++ ['\n']
  loaded : load limit line text = .ok rows

section Printable

def Printable (c : Char) : Prop := 32 ≤ c.toNat ∧ c.toNat < 127

instance (c : Char) : Decidable (Printable c) := inferInstanceAs (Decidable (_ ∧ _))

theorem digit_printable (digit : Json.isDigit c = true) : Printable c := by
  have bounds : '0' ≤ c ∧ c ≤ '9' := of_decide_eq_true digit
  have low : 48 ≤ c.toNat := bounds.1
  have high : c.toNat ≤ 57 := bounds.2
  exact ⟨by omega,by omega⟩

theorem next_printable (part : Json.NumberPart) (went : part.next c = some after) : Printable c := by
  have point : Printable '.' ∧ Printable 'e' ∧ Printable 'E' ∧ Printable '+' ∧ Printable '-' ∧ Printable '0' := by decide
  by_cases digit : Json.isDigit c = true
  · exact digit_printable digit
  · cases part <;> simp only [Json.NumberPart.next,digit] at went <;> split at went <;> rename_i same <;> grind

theorem first_printable (first : Json.NumberPart.first c = some part) : Printable c := by
  have signs : Printable '-' ∧ Printable '0' := by decide
  by_cases digit : Json.isDigit c = true
  · exact digit_printable digit
  · simp only [Json.NumberPart.first,digit] at first
    grind

theorem scanned_printable (text : List Char) (scanned : text.foldlM Json.NumberPart.next part = some last) : ∀ c ∈ text, Printable c := by
  induction text generalizing part with
  | nil => exact List.forall_mem_nil _
  | cons c rest ih =>
    rw [List.foldlM_cons] at scanned
    obtain ⟨after,went,later⟩ := Option.bind_eq_some_iff.mp scanned
    exact List.forall_mem_cons.mpr ⟨next_printable part went,ih later⟩

theorem number_printable (text : List Char) (scanned : Json.numberPart text = some last) : ∀ c ∈ text, Printable c := by
  cases text with
  | nil => cases scanned
  | cons c rest =>
    obtain ⟨part,first,later⟩ := Option.bind_eq_some_iff.mp scanned
    exact List.forall_mem_cons.mpr ⟨first_printable first,scanned_printable rest later⟩

theorem codeUnit_printable (code : Nat) (small : code < 0x10000) : ∀ c ∈ Json.codeUnit code, Printable c := by
  have digits : ∀ d < 16, Printable d.digitChar := by decide
  intro c member
  simp only [Json.codeUnit,List.mem_cons,List.not_mem_nil,or_false] at member
  rcases member with rfl | rfl | rfl | rfl | rfl | rfl
  · decide
  · decide
  · exact digits _ (by omega)
  · exact digits _ (Nat.mod_lt _ (by omega))
  · exact digits _ (Nat.mod_lt _ (by omega))
  · exact digits _ (Nat.mod_lt _ (by omega))

theorem escapeChar_printable (c : Char) : ∀ d ∈ Json.escapeChar c, Printable d := by
  have shorts : ∀ pair ∈ Json.shortEscapes, Printable pair.2 := by decide
  have backslash : Printable '\\' := by decide
  unfold Json.escapeChar
  split
  · rename_i short found
    obtain ⟨before,after,parts,_⟩ := List.lookup_eq_some_iff.mp found
    have listed : (c,short) ∈ Json.shortEscapes := parts ▸ List.mem_append_right _ List.mem_cons_self
    exact List.forall_mem_cons.mpr ⟨backslash,List.forall_mem_singleton.mpr (shorts _ listed)⟩
  · split
    · rename_i plain
      exact List.forall_mem_singleton.mpr plain
    · split
      · rename_i small
        exact codeUnit_printable _ small
      · have bound : c.toNat < 0x110000 := by
          have code : c.toNat = c.val.toNat := rfl
          rcases c.valid with low | ⟨above,below⟩ <;> omega
        intro d member
        rcases List.mem_append.mp member with high | low
        · exact codeUnit_printable _ (by omega) d high
        · exact codeUnit_printable _ (by omega) d low

theorem string_printable (text : String) : ∀ c ∈ Json.encodeString text, Printable c := by
  have quote : Printable '"' := by decide
  intro c member
  simp only [Json.encodeString,List.mem_cons,List.mem_append,List.not_mem_nil,or_false,List.mem_flatMap] at member
  rcases member with rfl | ⟨d,_,inside⟩ | rfl
  · exact quote
  · exact escapeChar_printable d c inside
  · exact quote

theorem int_printable (n : Int) : ∀ c ∈ Json.encodeInt n, Printable c := by
  have digits : ∀ c ∈ Nat.toDigits 10 n.natAbs, Printable c := fun c member => digit_printable (Json.toDigits_digit member)
  unfold Json.encodeInt
  split
  · exact List.forall_mem_cons.mpr ⟨by decide,digits⟩
  · exact digits

theorem all_printable (printable : List.all text (decide <| Printable ·) = true) : ∀ c ∈ text, Printable c := by
  simpa using printable

theorem gaps (level : Nat) : Json.oneLine.opening level = [] ∧ Json.oneLine.between level = [' '] ∧ Json.oneLine.closing level = [] := ⟨rfl,rfl,rfl⟩

mutual
theorem encode_printable : (v : Json) → (level : Nat) → Json.representable v = true → ∀ c ∈ Json.encode Json.oneLine level v, Printable c
  | .null,_,_ => by rw [Json.encode]; exact all_printable (by decide)
  | .bool true,_,_ => by rw [Json.encode]; exact all_printable (by decide)
  | .bool false,_,_ => by rw [Json.encode]; exact all_printable (by decide)
  | .int n,_,_ => int_printable n
  | .float text,_,fits => by
    rcases of_decide_eq_true fits with scanned | scanned
    · exact number_printable _ scanned
    · exact number_printable _ scanned
  | .str text,_,_ => string_printable text
  | .array [],_,_ => by rw [Json.encode]; exact all_printable (by decide)
  | .array (first :: rest),level,fits => by
    obtain ⟨here,later⟩ := List.forall_mem_cons.mp ((Json.representableItems_exact _).mp fits)
    have own := encode_printable first (level + 1) here
    have more := items_printable rest (level + 1) later
    have brackets : Printable '[' ∧ Printable ']' := by decide
    rw [Json.encode,(gaps _).1,(gaps _).2.2]
    grind
  | .object [],_,_ => by rw [Json.encode]; exact all_printable (by decide)
  | .object ((key,first) :: rest),level,fits => by
    obtain ⟨here,later⟩ := List.forall_mem_cons.mp ((Json.representable_object _).mp fits).2
    have own := encode_printable first (level + 1) here
    have more := members_printable rest (level + 1) later
    have name := string_printable key
    have marks : Printable '\x7b' ∧ Printable '\x7d' ∧ Printable ':' ∧ Printable ' ' := by decide
    rw [Json.encode,(gaps _).1,(gaps _).2.2]
    grind
theorem items_printable : (items : List Json) → (level : Nat) → (∀ v ∈ items, Json.representable v = true) →
    ∀ c ∈ Json.encodeItems Json.oneLine level items, Printable c
  | [],_,_ => List.forall_mem_nil _
  | item :: rest,level,fits => by
    obtain ⟨here,later⟩ := List.forall_mem_cons.mp fits
    have own := encode_printable item level here
    have more := items_printable rest level later
    have marks : Printable ',' ∧ Printable ' ' := by decide
    rw [Json.encodeItems,(gaps _).2.1]
    grind
theorem members_printable : (members : List (String × Json)) → (level : Nat) → (∀ member ∈ members, Json.representable member.2 = true) →
    ∀ c ∈ Json.encodeMembers Json.oneLine level members, Printable c
  | [],_,_ => List.forall_mem_nil _
  | (key,member) :: rest,level,fits => by
    obtain ⟨here,later⟩ := List.forall_mem_cons.mp fits
    have own := encode_printable member level here
    have more := members_printable rest level later
    have name := string_printable key
    have marks : Printable ',' ∧ Printable ' ' ∧ Printable ':' := by decide
    rw [Json.encodeMembers,(gaps _).2.1]
    grind
end

end Printable

section Lines

theorem splitLines_other (line : List Char) (c : Char) (rest : List Char) (other : ¬(c = '\r' ∧ rest.head? = some '\n')) :
    splitLines line (c :: rest) = if isLineBreak c = true then line :: splitLines [] rest else splitLines (line ++ [c]) rest := by
  rw [splitLines]
  rintro more rfl rfl
  exact other ⟨rfl,rfl⟩

theorem splitLines_newline (line rest : List Char) : splitLines line ('\n' :: rest) = line :: splitLines [] rest :=
  splitLines_other line '\n' rest (by simp)

theorem splitLines_line (line text rest : List Char) (plain : ∀ c ∈ text, isLineBreak c = false) :
    splitLines line (text ++ '\n' :: rest) = (line ++ text) :: splitLines [] rest := by
  induction text generalizing line with
  | nil => rw [List.nil_append,List.append_nil,splitLines_newline]
  | cons c text ih =>
    obtain ⟨here,later⟩ := List.forall_mem_cons.mp plain
    have other : c ≠ '\r' := by
      rintro rfl
      cases here
    rw [List.cons_append,splitLines_other _ _ _ fun both => other both.1,here,if_neg (by simp),ih _ later,List.append_assoc,List.singleton_append]

-- What follows the end of a line is split by itself.
theorem splitLines_append (line front more : List Char) :
    splitLines line (front ++ '\n' :: more) = splitLines line (front ++ ['\n']) ++ splitLines [] more := by
  induction front using List.twoStepInduction generalizing line with
  | nil =>
    rw [List.nil_append,List.nil_append,splitLines_newline,splitLines_newline]
    rfl
  | singleton c =>
    by_cases return_ : c = '\r'
    · subst return_
      rfl
    · simp only [List.cons_append,List.nil_append]
      rw [splitLines_other _ _ _ fun both => return_ both.1,splitLines_other _ _ _ fun both => return_ both.1]
      split <;> simp [splitLines_newline,splitLines]
  | cons_cons c d rest after next =>
    by_cases both : c = '\r' ∧ d = '\n'
    · obtain ⟨rfl,rfl⟩ := both
      simp only [List.cons_append,splitLines]
      rw [after]
    · have other : ∀ tail, ¬(c = '\r' ∧ (d :: (rest ++ tail)).head? = some '\n') := by simpa using both
      simp only [List.cons_append] at next ⊢
      rw [splitLines_other _ _ _ (other _),splitLines_other _ _ _ (other _),next,next]
      split <;> rfl

theorem printable_unbroken (printable : Printable c) : isLineBreak c = false := by
  obtain ⟨low,high⟩ := printable
  apply decide_eq_false
  simp only [List.mem_cons,List.not_mem_nil,or_false]
  omega

theorem printable_brace (members : List (String × Json)) :
    ∃ inner, Json.encode Json.oneLine 0 (.object members) = '\x7b' :: (inner ++ ['\x7d']) := by
  rcases members with _ | ⟨⟨key,first⟩,rest⟩
  · exact ⟨[],by simp [Json.encode]⟩
  · refine ⟨Json.encodeString key ++ (':' :: ' ' :: (Json.encode Json.oneLine 1 first ++ Json.encodeMembers Json.oneLine 1 rest)),?_⟩
    simp [Json.encode,gaps]

end Lines

section Growth
variable {limit : Nat} {line : List Char → List Char}

-- A row that is appended is read behind the others.
theorem append_denotes (kept : ∀ inner, line ('\x7b' :: (inner ++ ['\x7d'])) = '\x7b' :: (inner ++ ['\x7d']))
    (denotes : Denotes limit line text rows) (legible : Legible limit members) :
    Denotes limit line (append text members) (rows ++ [.object members]) := by
  obtain ⟨ended,loaded⟩ := denotes
  obtain ⟨inner,braces⟩ := printable_brace members
  have printed := encode_printable (.object members) 0 legible.fits
  have own : splitLines [] (Json.encode Json.oneLine 0 (.object members) ++ ['\n']) = [Json.encode Json.oneLine 0 (.object members)] :=
    splitLines_line [] _ [] fun c member => printable_unbroken (printed c member)
  have split : splitLines [] (append text members) = splitLines [] text ++ [Json.encode Json.oneLine 0 (.object members)] := by
    rcases ended with rfl | ⟨front,rfl⟩
    · exact own
    · rw [append,List.append_assoc,List.singleton_append,splitLines_append,own]
  have shown : isBlankLine (Json.encode Json.oneLine 0 (.object members)) = false := by
    apply decide_eq_false
    rw [Text.strip_nil,braces]
    intro blank
    exact absurd (blank '\x7b' List.mem_cons_self) (by decide)
  have read : Json.loads limit (String.ofList (line (Json.encode Json.oneLine 0 (.object members)))) = .ok (.object members) := by
    rw [braces,kept,← braces]
    exact Json.loads_dumpsLine _ legible.fits limit legible.deep
  refine ⟨.inr ⟨text ++ Json.encode Json.oneLine 0 (.object members),(List.append_assoc _ _ _).symm⟩,?_⟩
  rw [load,split,List.filter_append,List.mapM_append]
  have last : [Json.encode Json.oneLine 0 (.object members)].filter (fun found => !isBlankLine found) = [Json.encode Json.oneLine 0 (.object members)] := by
    simp [shown]
  rw [load] at loaded
  rw [last,loaded,List.mapM_cons,read]
  rfl

end Growth

end JsonLines
