import RiskPulse.Library.Json
import Mathlib.Data.List.Nodup

-- The text that Python's encoder prints, with an indent of two or on one line, and
-- what its decoder reads of it.
namespace Json

def shortEscapes : List (Char × Char) :=
  [('\\','\\'),('"','"'),('\x08','b'),('\x0c','f'),('\n','n'),('\r','r'),('\t','t')]

def codeUnit (code : Nat) : List Char :=
  ['\\','u',(code / 4096).digitChar,(code / 256 % 16).digitChar,(code / 16 % 16).digitChar,(code % 16).digitChar]

-- What is not printable ASCII is escaped, from U+10000 on as two surrogates.
def escapeChar (c : Char) : List Char :=
  match shortEscapes.lookup c with
  | some short => ['\\',short]
  | none =>
    if 32 ≤ c.toNat ∧ c.toNat < 127 then [c]
    else if c.toNat < 0x10000 then codeUnit c.toNat
    else codeUnit (0xD800 + (c.toNat - 0x10000) / 0x400) ++ codeUnit (0xDC00 + (c.toNat - 0x10000) % 0x400)

def encodeString (text : String) : List Char := '"' :: (text.toList.flatMap escapeChar ++ ['"'])

def encodeInt (n : Int) : List Char := if n < 0 then '-' :: Nat.toDigits 10 n.natAbs else Nat.toDigits 10 n.natAbs

def newline (level : Nat) : List Char := '\n' :: List.replicate (2 * level) ' '

mutual
def iterencode (level : Nat) : Json → List Char
  | .null => ['n','u','l','l']
  | .bool true => ['t','r','u','e']
  | .bool false => ['f','a','l','s','e']
  | .int value => encodeInt value
  | .float text => text.toList
  | .str text => encodeString text
  | .array [] => ['[',']']
  | .array (first :: rest) =>
    '[' :: (newline (level + 1) ++ (iterencode (level + 1) first ++ (iterencodeItems (level + 1) rest ++ (newline level ++ [']']))))
  | .object [] => ['{','}']
  | .object ((key,first) :: rest) =>
    '{' :: (newline (level + 1) ++ (encodeString key ++ (':' :: ' ' :: (iterencode (level + 1) first ++
      (iterencodeMembers (level + 1) rest ++ (newline level ++ ['}']))))))
def iterencodeItems (level : Nat) : List Json → List Char
  | [] => []
  | item :: rest => ',' :: (newline level ++ (iterencode level item ++ iterencodeItems level rest))
def iterencodeMembers (level : Nat) : List (String × Json) → List Char
  | [] => []
  | (key,member) :: rest =>
    ',' :: (newline level ++ (encodeString key ++ (':' :: ' ' :: (iterencode level member ++ iterencodeMembers level rest))))
end

def dumps (v : Json) : String := String.ofList (iterencode 0 v)

-- The blanks an encoder puts after a bracket, after a comma and before the closing
-- bracket, by the level of what follows.
structure Layout where
  opening : Nat → List Char
  between : Nat → List Char
  closing : Nat → List Char
  blank : ∀ level, (∀ c ∈ opening level, isSpace c = true) ∧ (∀ c ∈ between level, isSpace c = true) ∧
    ∀ c ∈ closing level, isSpace c = true

mutual
def encode (l : Layout) (level : Nat) : Json → List Char
  | .null => ['n','u','l','l']
  | .bool true => ['t','r','u','e']
  | .bool false => ['f','a','l','s','e']
  | .int value => encodeInt value
  | .float text => text.toList
  | .str text => encodeString text
  | .array [] => ['[',']']
  | .array (first :: rest) =>
    '[' :: (l.opening (level + 1) ++ (encode l (level + 1) first ++ (encodeItems l (level + 1) rest ++ (l.closing level ++ [']']))))
  | .object [] => ['{','}']
  | .object ((key,first) :: rest) =>
    '{' :: (l.opening (level + 1) ++ (encodeString key ++ (':' :: ' ' :: (encode l (level + 1) first ++
      (encodeMembers l (level + 1) rest ++ (l.closing level ++ ['}']))))))
def encodeItems (l : Layout) (level : Nat) : List Json → List Char
  | [] => []
  | item :: rest => ',' :: (l.between level ++ (encode l level item ++ encodeItems l level rest))
def encodeMembers (l : Layout) (level : Nat) : List (String × Json) → List Char
  | [] => []
  | (key,member) :: rest =>
    ',' :: (l.between level ++ (encodeString key ++ (':' :: ' ' :: (encode l level member ++ encodeMembers l level rest))))
end

theorem newline_blank (level : Nat) : ∀ c ∈ newline level, isSpace c = true := by
  intro c member
  rcases List.mem_cons.mp member with rfl | inside
  · rfl
  · rw [List.eq_of_mem_replicate inside]
    rfl

def indented : Layout := ⟨newline,newline,newline,fun level => ⟨newline_blank level,newline_blank level,newline_blank level⟩⟩

theorem one_space : ∀ c ∈ [' '], isSpace c = true := by
  intro c member
  rw [List.mem_singleton.mp member]
  rfl

def oneLine : Layout where
  opening _ := []
  between _ := [' ']
  closing _ := []
  blank _ := ⟨List.forall_mem_nil _,one_space,List.forall_mem_nil _⟩

-- The encoder without an indent.
def dumpsLine (v : Json) : String := String.ofList (encode oneLine 0 v)

mutual
theorem encode_indented : (v : Json) → (level : Nat) → encode indented level v = iterencode level v
  | .null,_ | .bool true,_ | .bool false,_ | .array [],_ | .object [],_ => rfl
  | .int value,_ => by rw [encode,iterencode]
  | .float text,_ => by rw [encode,iterencode]
  | .str text,_ => by rw [encode,iterencode]
  | .array (first :: rest),level => by
    rw [encode,iterencode,encode_indented first,encodeItems_indented rest]
    rfl
  | .object ((key,first) :: rest),level => by
    rw [encode,iterencode,encode_indented first,encodeMembers_indented rest]
    rfl
theorem encodeItems_indented : (items : List Json) → (level : Nat) → encodeItems indented level items = iterencodeItems level items
  | [],_ => rfl
  | item :: rest,level => by
    rw [encodeItems,iterencodeItems,encode_indented item,encodeItems_indented rest]
    rfl
theorem encodeMembers_indented : (members : List (String × Json)) → (level : Nat) →
    encodeMembers indented level members = iterencodeMembers level members
  | [],_ => rfl
  | (key,member) :: rest,level => by
    rw [encodeMembers,iterencodeMembers,encode_indented member,encodeMembers_indented rest]
    rfl
end

def NumberPart.first (c : Char) : Option NumberPart :=
  if c = '-' then some .minus else if c = '0' then some .zero else if isDigit c then some .digits else none

def numberPart : List Char → Option NumberPart
  | [] => none
  | c :: rest => (NumberPart.first c).bind fun part => rest.foldlM NumberPart.next part

-- A value of JSON: an integer is one Python prints, a float has a finite decimal text,
-- and no key of an object comes twice.
mutual
def representable : Json → Bool
  | .null | .bool _ | .str _ => true
  | .int value => decide (((encodeInt value).filter isDigit).length ≤ 4300)
  | .float text => decide (numberPart text.toList = some .fraction ∨ numberPart text.toList = some .exponent)
  | .array items => representableItems items
  | .object members => decide (members.map Prod.fst).Nodup && representableMembers members
def representableItems : List Json → Bool
  | [] => true
  | item :: rest => representable item && representableItems rest
def representableMembers : List (String × Json) → Bool
  | [] => true
  | (_,member) :: rest => representable member && representableMembers rest
end

mutual
def depth : Json → Nat
  | .null | .bool _ | .int _ | .float _ | .str _ => 0
  | .array items => 1 + depthItems items
  | .object members => 1 + depthMembers members
def depthItems : List Json → Nat
  | [] => 0
  | item :: rest => max (depth item) (depthItems rest)
def depthMembers : List (String × Json) → Nat
  | [] => 0
  | (_,member) :: rest => max (depth member) (depthMembers rest)
end

theorem representableItems_exact (items : List Json) : representableItems items = true ↔ ∀ v ∈ items, representable v = true := by
  induction items with
  | nil => simp [representableItems]
  | cons item rest ih => simp [representableItems,ih]

theorem representableMembers_exact (members : List (String × Json)) :
    representableMembers members = true ↔ ∀ member ∈ members, representable member.2 = true := by
  induction members with
  | nil => simp [representableMembers]
  | cons head rest ih =>
    obtain ⟨key,member⟩ := head
    rw [representableMembers,Bool.and_eq_true,ih,List.forall_mem_cons]

theorem representable_object (members : List (String × Json)) : representable (.object members) = true ↔
    (members.map Prod.fst).Nodup ∧ ∀ member ∈ members, representable member.2 = true := by
  rw [representable,Bool.and_eq_true,decide_eq_true_iff,representableMembers_exact]

theorem depthItems_le (items : List Json) (n : Nat) : depthItems items ≤ n ↔ ∀ v ∈ items, depth v ≤ n := by
  induction items with
  | nil => simp [depthItems]
  | cons item rest ih => rw [depthItems,Nat.max_le,ih,List.forall_mem_cons]

theorem depthMembers_le (members : List (String × Json)) (n : Nat) :
    depthMembers members ≤ n ↔ ∀ member ∈ members, depth member.2 ≤ n := by
  induction members with
  | nil => simp [depthMembers]
  | cons head rest ih =>
    obtain ⟨key,member⟩ := head
    rw [depthMembers,Nat.max_le,ih,List.forall_mem_cons]

-- What the decoder gives for the rest of a text.
def reads (limit : Nat) (s : State) (text : List Char) : Except Error Json := (feed limit s text).bind finish

section Reading
variable {limit level : Nat} {l : Layout} {stack : List Frame} {rest : List Char}

theorem reads_step (text : List Char) (stepped : step limit s c = .ok t) : reads limit s (c :: text) = reads limit t text := by
  rw [reads,feed,stepped]
  rfl

theorem reads_nil : reads limit s [] = finish s := rfl

-- The phases that pass over blanks.
def Passes (s : State) : Prop :=
  match s.phase with
  | .value | .firstItem | .firstKey | .key | .colon | .after | .done _ => True
  | _ => False

theorem passes_blank (passes : Passes s) (blank : isSpace c = true) : step limit s c = .ok s := by
  obtain ⟨stack,phase⟩ := s
  cases phase <;> first | exact passes.elim | simp [step,follow,blank]

theorem passes_gap (blank : ∀ c ∈ gap, isSpace c = true) (text : List Char) (passes : Passes s) :
    reads limit s (gap ++ text) = reads limit s text := by
  induction gap with
  | nil => rfl
  | cons c gap ih =>
    have first := blank c List.mem_cons_self
    rw [List.cons_append,reads_step _ (passes_blank passes first)]
    exact ih fun d member => blank d (List.mem_cons_of_mem c member)

-- After a value the text goes on with a comma, a blank or a closing bracket, or is
-- at its end.
def Breaks (rest : List Char) : Prop := ∀ c text, rest = c :: text → c = ',' ∨ c = ']' ∨ c = '}' ∨ isSpace c = true

theorem breaks_nil : Breaks [] := by
  intro c text same
  cases same

theorem breaks_comma (text : List Char) : Breaks (',' :: text) := by
  intro c tail same
  exact .inl (List.cons.inj same).1.symm

theorem breaks_closing (blank : ∀ c ∈ gap, isSpace c = true) (text : List Char) (closes : d = ']' ∨ d = '}') :
    Breaks (gap ++ (d :: text)) := by
  intro c tail same
  cases gap with
  | nil =>
    rw [← (List.cons.inj same).1]
    exact .inr (closes.imp_right .inl)
  | cons first gap =>
    rw [← (List.cons.inj same).1]
    exact .inr (.inr (.inr (blank first List.mem_cons_self)))

theorem step_complete (v : Json) (stack : List Frame) (c : Char) : step limit (complete v stack) c = follow (complete v stack) c := by
  rcases stack with _ | ⟨frame,rest⟩
  · rfl
  · cases frame <;> rfl

theorem finish_complete (v : Json) (stack : List Frame) :
    finish (complete v stack) = if stack.isEmpty then .ok v else .error .decode := by
  rcases stack with _ | ⟨frame,rest⟩
  · rfl
  · cases frame <;> rfl

theorem next_break (part : NumberPart) (broken : c = ',' ∨ c = ']' ∨ c = '}' ∨ isSpace c = true) : part.next c = none := by
  simp only [isSpace,Bool.or_eq_true,decide_eq_true_eq] at broken
  rcases broken with rfl | rfl | rfl | ((rfl | rfl) | rfl) | rfl <;> cases part <;> rfl

theorem reads_numberEnd (ended : finishNumber part text = .ok v) (breaks : Breaks rest) :
    reads limit ⟨stack,.number part text⟩ rest = reads limit (complete v stack) rest := by
  cases rest with
  | nil =>
    rw [reads_nil,reads_nil,finish_complete]
    simp only [finish,ended]
    rfl
  | cons c tail =>
    have broken := breaks c tail rfl
    have other : c ≠ 'I' := by
      intro same
      rw [same] at broken
      exact absurd broken (by decide)
    have stepped : step limit ⟨stack,.number part text⟩ c = step limit (complete v stack) c := by
      rw [step_complete]
      simp only [step,next_break part broken,other,and_false,if_false,ended]
      rfl
    rw [reads,reads,feed,feed,stepped]

theorem begin_number (first : NumberPart.first c = some part) : beginValue limit stack c = .ok ⟨stack,.number part [c]⟩ := by
  unfold NumberPart.first at first
  have plain : ∀ d, NumberPart.first d = none → c ≠ d := by
    intro d none same
    rw [← same,NumberPart.first,first] at none
    cases none
  unfold beginValue
  rw [if_neg (plain '"' rfl),if_neg (plain '{' rfl),if_neg (plain '[' rfl),if_neg (plain 'n' rfl),if_neg (plain 't' rfl),
    if_neg (plain 'f' rfl),if_neg (plain 'N' rfl),if_neg (plain 'I' rfl)]
  split at first
  · cases first
    rw [if_pos ‹_›]
  · rw [if_neg ‹_›]
    split at first
    · cases first
      rw [if_pos ‹_›]
    · rw [if_neg ‹_›]
      split at first
      · cases first
        rw [if_pos ‹_›]
      · cases first

theorem first_plain (first : NumberPart.first c = some part) : isSpace c = false ∧ c ≠ ']' := by
  have plain : ∀ d, NumberPart.first d = none → c ≠ d := by
    intro d none same
    rw [← same,first] at none
    cases none
  refine ⟨?_,plain ']' rfl⟩
  simp [isSpace,plain ' ' rfl,plain '\t' rfl,plain '\n' rfl,plain '\r' rfl]

theorem reads_numberParts (more : List Char) (scanned : more.foldlM NumberPart.next part = some last) :
    reads limit ⟨stack,.number part text⟩ (more ++ rest) = reads limit ⟨stack,.number last (text ++ more)⟩ rest := by
  induction more generalizing part text with
  | nil =>
    cases scanned
    rw [List.nil_append,List.append_nil]
  | cons c more ih =>
    rw [List.foldlM_cons] at scanned
    obtain ⟨next,continued,later⟩ := Option.bind_eq_some_iff.mp scanned
    have stepped : step limit ⟨stack,.number part text⟩ c = .ok ⟨stack,.number next (text ++ [c])⟩ := by
      simp only [step,continued]
    rw [List.cons_append,reads_step _ stepped,ih later,List.append_assoc]
    rfl

theorem reads_number (scanned : numberPart text = some part) (ended : finishNumber part text = .ok v) (breaks : Breaks rest) :
    reads limit ⟨stack,.value⟩ (text ++ rest) = reads limit (complete v stack) rest := by
  cases text with
  | nil => cases scanned
  | cons c more =>
    obtain ⟨begun,first,later⟩ := Option.bind_eq_some_iff.mp scanned
    have stepped : step limit ⟨stack,.value⟩ c = .ok ⟨stack,.number begun [c]⟩ := by
      simp only [step,(first_plain first).1]
      exact begin_number first
    rw [List.cons_append,reads_step _ stepped,reads_numberParts more later]
    exact reads_numberEnd ended breaks

theorem isDigit_char (c : Char) : isDigit c = c.isDigit := by
  rw [Bool.eq_iff_iff,isDigit,decide_eq_true_iff,Char.isDigit_iff_toNat]
  exact Iff.rfl

theorem toDigits_digit (member : c ∈ Nat.toDigits 10 n) : isDigit c = true := by
  rw [isDigit_char]
  exact Nat.isDigit_of_mem_toDigits (by decide) (by decide) member

theorem scan_digits (more : List Char) (digits : ∀ c ∈ more, isDigit c = true) :
    more.foldlM NumberPart.next .digits = some .digits := by
  induction more with
  | nil => rfl
  | cons c more ih =>
    have next : NumberPart.next .digits c = some .digits := by
      simp [NumberPart.next,digits c List.mem_cons_self]
    rw [List.foldlM_cons,next]
    exact ih fun d member => digits d (List.mem_cons_of_mem c member)

-- No zero stands in front.
theorem toDigits_head (positive : 0 < n) (split : Nat.toDigits 10 n = c :: more) : c ≠ '0' := by
  induction n using Nat.strongRecOn generalizing c more with
  | ind n ih =>
    rw [Nat.toDigits_eq_if (by decide)] at split
    split at split
    · have digit := (List.cons.inj split).1
      intro zero
      rw [zero] at digit
      exact absurd (Nat.digitChar_eq_zero.mp digit) (by omega)
    · cases leading : Nat.toDigits 10 (n / 10) with
      | nil => exact absurd leading Nat.toDigits_ne_nil
      | cons d others =>
        rw [leading] at split
        rw [← (List.cons.inj split).1]
        exact ih (n / 10) (by omega) (by omega) leading

theorem scan_toDigits (n : Nat) : ∃ part, (part = .zero ∨ part = .digits) ∧ numberPart (Nat.toDigits 10 n) = some part ∧
    numberPart ('-' :: Nat.toDigits 10 n) = some part := by
  by_cases positive : 0 < n
  · cases split : Nat.toDigits 10 n with
    | nil => exact absurd split Nat.toDigits_ne_nil
    | cons c more =>
      have digits : ∀ d ∈ c :: more, isDigit d = true := by
        intro d member
        rw [← split] at member
        exact toDigits_digit member
      have digit := digits c List.mem_cons_self
      have others := scan_digits more fun d member => digits d (List.mem_cons_of_mem c member)
      have zero := toDigits_head positive split
      have minus : c ≠ '-' := by
        intro same
        rw [same] at digit
        cases digit
      have first : NumberPart.first c = some .digits := by simp [NumberPart.first,minus,zero,digit]
      have next : NumberPart.next .minus c = some .digits := by simp [NumberPart.next,zero,digit]
      refine ⟨.digits,.inr rfl,?_,?_⟩
      · rw [numberPart,first]
        exact others
      · show (c :: more).foldlM NumberPart.next .minus = _
        rw [List.foldlM_cons,next]
        exact others
  · have zero : n = 0 := by omega
    rw [zero]
    exact ⟨.zero,.inl rfl,rfl,rfl⟩

theorem fold_digits (text : List Char) (digits : ∀ c ∈ text, isDigit c = true) (n : Nat) :
    text.foldl (fun n c => if isDigit c then 10 * n + (c.toNat - 48) else n) n = Nat.ofDigitChars 10 text n := by
  induction text generalizing n with
  | nil => rfl
  | cons c text ih =>
    rw [List.foldl_cons,if_pos (digits c List.mem_cons_self),ih fun d member => digits d (List.mem_cons_of_mem c member),
      Nat.ofDigitChars_cons]
    rfl

theorem integerOf_encodeInt (value : Int) : integerOf (encodeInt value) = value := by
  have magnitude := fold_digits (Nat.toDigits 10 value.natAbs) (fun c member => toDigits_digit member) 0
  rw [Nat.ofDigitChars_ten_toDigits] at magnitude
  unfold encodeInt
  split
  · have skipped : isDigit '-' = false := rfl
    simp only [integerOf,List.foldl_cons,skipped,Bool.false_eq_true,if_false,magnitude,List.head?_cons,if_true]
    omega
  · have plain : (Nat.toDigits 10 value.natAbs).head? ≠ some '-' := by
      intro head
      have member := List.mem_of_mem_head? head
      exact absurd (toDigits_digit member) (by decide)
    simp only [integerOf,magnitude,plain,if_false]
    omega

theorem reads_int (printed : representable (.int value) = true) (breaks : Breaks rest) :
    reads limit ⟨stack,.value⟩ (encodeInt value ++ rest) = reads limit (complete (.int value) stack) rest := by
  obtain ⟨part,whole,plain,minus⟩ := scan_toDigits value.natAbs
  have scanned : numberPart (encodeInt value) = some part := by
    unfold encodeInt
    split
    · exact minus
    · exact plain
  have few : ¬4300 < ((encodeInt value).filter isDigit).length := Nat.not_lt.mpr (of_decide_eq_true printed)
  have read : (integer (encodeInt value)).map Json.int = .ok (.int value) := by
    rw [integer,if_neg few,integerOf_encodeInt]
    rfl
  refine reads_number scanned ?_ breaks
  rcases whole with rfl | rfl
  · exact read
  · exact read

theorem reads_float (finite : representable (.float text) = true) (breaks : Breaks rest) :
    reads limit ⟨stack,.value⟩ (text.toList ++ rest) = reads limit (complete (.float text) stack) rest := by
  have scanned : numberPart text.toList = some .fraction ∨ numberPart text.toList = some .exponent := of_decide_eq_true finite
  have kept : String.ofList text.toList = text := String.ofList_toList
  rcases scanned with scanned | scanned
  · exact reads_number scanned (by rw [finishNumber,kept]) breaks
  · exact reads_number scanned (by rw [finishNumber,kept]) breaks

theorem hexDigit_digitChar : ∀ d < 16, hexDigit d.digitChar = some d := by decide

-- The four digits of an escape are read as its code.
theorem reads_unit (isKey : Bool) (text : Text) (small : code < 0x10000) :
    reads limit ⟨stack,.string isKey text⟩ (codeUnit code ++ rest) =
      reads limit ⟨stack,.string isKey (text.pushUnit code)⟩ rest := by
  have read := fun d low => hexDigit_digitChar d low
  have escape : step limit ⟨stack,.string isKey text⟩ '\\' = .ok ⟨stack,.escape isKey text⟩ := rfl
  have unit : step limit ⟨stack,.escape isKey text⟩ 'u' = .ok ⟨stack,.unicode isKey text 0 0⟩ := rfl
  have digit : ∀ n code d, d < 16 → n ≠ 3 →
      step limit ⟨stack,.unicode isKey text n code⟩ d.digitChar = .ok ⟨stack,.unicode isKey text (n + 1) (16 * code + d)⟩ := by
    intro n code d low open_
    simp only [step,hexDigit_digitChar d low,if_neg open_]
  have last : ∀ code d, d < 16 →
      step limit ⟨stack,.unicode isKey text 3 code⟩ d.digitChar = .ok ⟨stack,.string isKey (text.pushUnit (16 * code + d))⟩ := by
    intro code d low
    simp only [step,hexDigit_digitChar d low,if_true]
  have whole : 16 * (16 * (16 * (16 * 0 + code / 4096) + code / 256 % 16) + code / 16 % 16) + code % 16 = code := by omega
  show reads limit _ ('\\' :: 'u' :: _ :: _ :: _ :: _ :: rest) = _
  rw [reads_step _ escape,reads_step _ unit,reads_step _ (digit 0 0 _ (by omega) (by decide)),
    reads_step _ (digit 1 _ _ (by omega) (by decide)),reads_step _ (digit 2 _ _ (by omega) (by decide)),
    reads_step _ (last _ _ (by omega)),whole]

theorem pushUnit_char (chars : List Char) (c : Char) : Text.pushUnit ⟨chars,none⟩ c.toNat = ⟨chars ++ [c],none⟩ := by
  have valid := c.valid
  have code : c.toNat = c.val.toNat := rfl
  have apart : ¬(0xD800 ≤ c.toNat ∧ c.toNat < 0xDC00) ∧ ¬(0xDC00 ≤ c.toNat ∧ c.toNat < 0xE000) := by
    rcases valid with low | ⟨above,below⟩ <;> omega
  rw [Text.pushUnit,if_neg apart.1,if_neg apart.2,Char.ofNat_toNat]
  rfl

theorem pushUnit_pair (chars : List Char) (c : Char) (large : 0x10000 ≤ c.toNat) :
    (Text.pushUnit ⟨chars,none⟩ (0xD800 + (c.toNat - 0x10000) / 0x400)).pushUnit
      (0xDC00 + (c.toNat - 0x10000) % 0x400) = ⟨chars ++ [c],none⟩ := by
  have bound : c.toNat < 0x110000 := by
    have code : c.toNat = c.val.toNat := rfl
    rcases c.valid with low | ⟨above,below⟩ <;> omega
  have high : Text.pushUnit ⟨chars,none⟩ (0xD800 + (c.toNat - 0x10000) / 0x400) =
      ⟨chars,some (0xD800 + (c.toNat - 0x10000) / 0x400)⟩ := by
    rw [Text.pushUnit,if_pos ⟨by omega,by omega⟩]
    simp [Text.flush]
  have whole : 0x10000 + (0xD800 + (c.toNat - 0x10000) / 0x400 - 0xD800) * 0x400 +
      (0xDC00 + (c.toNat - 0x10000) % 0x400 - 0xDC00) = c.toNat := by omega
  rw [high,Text.pushUnit,if_neg (by omega),if_pos ⟨by omega,by omega⟩]
  simp only [whole,Char.ofNat_toNat]

theorem reads_escapeChar (isKey : Bool) (chars : List Char) (c : Char) :
    reads limit ⟨stack,.string isKey ⟨chars,none⟩⟩ (escapeChar c ++ rest) =
      reads limit ⟨stack,.string isKey ⟨chars ++ [c],none⟩⟩ rest := by
  unfold escapeChar
  split
  · rename_i short escaped
    have known : ∀ pair ∈ shortEscapes, pair.2 ≠ 'u' ∧ escapes.lookup pair.2 = some pair.1 := by decide
    have back : short ≠ 'u' ∧ escapes.lookup short = some c := by
      obtain ⟨before,after,split,_⟩ := List.lookup_eq_some_iff.mp escaped
      exact known (c,short) (by rw [split]; simp)
    have escape : step limit ⟨stack,.string isKey ⟨chars,none⟩⟩ '\\' = .ok ⟨stack,.escape isKey ⟨chars,none⟩⟩ := rfl
    have read : step limit ⟨stack,.escape isKey ⟨chars,none⟩⟩ short = .ok ⟨stack,.string isKey ⟨chars ++ [c],none⟩⟩ := by
      simp only [step,if_neg back.1,back.2]
      rfl
    exact (reads_step _ escape).trans (reads_step _ read)
  · rename_i plain
    rw [List.lookup_eq_none_iff] at plain
    split
    · rename_i printed
      have quote : c ≠ '"' := by simpa using plain ('"','"') (by decide)
      have backslash : c ≠ '\\' := by simpa using plain ('\\','\\') (by decide)
      have read : step limit ⟨stack,.string isKey ⟨chars,none⟩⟩ c = .ok ⟨stack,.string isKey ⟨chars ++ [c],none⟩⟩ := by
        simp only [step,if_neg quote,if_neg backslash,if_neg (show ¬c.toNat < 32 by omega)]
        rfl
      exact reads_step _ read
    · split
      · rw [reads_unit isKey _ (by omega),pushUnit_char]
      · have bound : c.toNat < 0x110000 := by
          have code : c.toNat = c.val.toNat := rfl
          rcases c.valid with low | ⟨above,below⟩ <;> omega
        rw [List.append_assoc,reads_unit isKey _ (by omega),reads_unit isKey _ (by omega),pushUnit_pair chars c (by omega)]

theorem reads_chars (isKey : Bool) (chars text : List Char) :
    reads limit ⟨stack,.string isKey ⟨chars,none⟩⟩ (text.flatMap escapeChar ++ rest) =
      reads limit ⟨stack,.string isKey ⟨chars ++ text,none⟩⟩ rest := by
  induction text generalizing chars with
  | nil => rw [List.flatMap_nil,List.nil_append,List.append_nil]
  | cons c text ih =>
    rw [List.flatMap_cons,List.append_assoc,reads_escapeChar,ih,List.append_assoc]
    rfl

theorem reads_string (isKey : Bool) (text : String) :
    reads limit ⟨stack,.string isKey .empty⟩ (text.toList.flatMap escapeChar ++ '"' :: rest) =
      reads limit (finishString isKey ⟨text.toList,none⟩ stack) rest := by
  have close : step limit ⟨stack,.string isKey ⟨text.toList,none⟩⟩ '"' = .ok (finishString isKey ⟨text.toList,none⟩ stack) := rfl
  exact (reads_chars isKey [] text.toList).trans (reads_step _ close)

theorem reads_str (text : String) :
    reads limit ⟨stack,.value⟩ (encodeString text ++ rest) = reads limit (complete (.str text) stack) rest := by
  have opened : step limit ⟨stack,.value⟩ '"' = .ok ⟨stack,.string false .empty⟩ := rfl
  have kept : String.ofList text.toList = text := String.ofList_toList
  rw [encodeString,List.cons_append,List.append_assoc,reads_step _ opened,List.singleton_append,reads_string]
  simp only [finishString,Text.flush,kept,Bool.false_eq_true,if_false]

-- The key of a member, with the colon and the blank after it.
theorem reads_key (phase : Phase) (key : String) (members : List (String × Json)) (last : String)
    (starts : phase = .firstKey ∨ phase = .key) :
    reads limit ⟨.object members last :: stack,phase⟩ (encodeString key ++ (':' :: ' ' :: rest)) =
      reads limit ⟨.object members key :: stack,.value⟩ rest := by
  have opened : step limit ⟨.object members last :: stack,phase⟩ '"' = .ok ⟨.object members last :: stack,.string true .empty⟩ := by
    rcases starts with rfl | rfl <;> rfl
  have read : finishString true ⟨key.toList,none⟩ (.object members last :: stack) = ⟨.object members key :: stack,.colon⟩ := by
    simp only [finishString,Text.flush,String.ofList_toList,if_true]
  have colon : step limit ⟨.object members key :: stack,.colon⟩ ':' = .ok ⟨.object members key :: stack,.value⟩ := rfl
  have blank : step limit ⟨.object members key :: stack,.value⟩ ' ' = .ok ⟨.object members key :: stack,.value⟩ := rfl
  rw [encodeString,List.cons_append,List.append_assoc,reads_step _ opened,List.singleton_append,reads_string,read,
    reads_step _ colon,reads_step _ blank]

-- A value can begin where an array has just been opened.
theorem number_head (scanned : numberPart text = some part) : ∃ c more, text = c :: more ∧ isSpace c = false ∧ c ≠ ']' := by
  cases text with
  | nil => cases scanned
  | cons c more =>
    obtain ⟨begun,first,_⟩ := Option.bind_eq_some_iff.mp scanned
    exact ⟨c,more,rfl,first_plain first⟩

theorem encode_head (v : Json) (fits : representable v = true) :
    ∃ c more, encode l level v = c :: more ∧ isSpace c = false ∧ c ≠ ']' := by
  cases v with
  | null => exact ⟨_,_,rfl,rfl,by decide⟩
  | bool value => cases value <;> exact ⟨_,_,rfl,rfl,by decide⟩
  | int value =>
    obtain ⟨part,_,plain,minus⟩ := scan_toDigits value.natAbs
    rw [encode,encodeInt]
    split
    · exact number_head minus
    · exact number_head plain
  | float text =>
    have scanned : numberPart text.toList = some .fraction ∨ numberPart text.toList = some .exponent := of_decide_eq_true fits
    rw [encode]
    rcases scanned with scanned | scanned
    · exact number_head scanned
    · exact number_head scanned
  | str text => exact ⟨_,_,rfl,rfl,by decide⟩
  | array items => cases items <;> exact ⟨_,_,rfl,rfl,by decide⟩
  | object members => cases members <;> exact ⟨_,_,rfl,rfl,by decide⟩

theorem reads_firstItem (v : Json) (fits : representable v = true) :
    reads limit ⟨stack,.firstItem⟩ (encode l level v ++ rest) = reads limit ⟨stack,.value⟩ (encode l level v ++ rest) := by
  obtain ⟨c,more,text,space,plain⟩ : ∃ c more, encode l level v = c :: more ∧ isSpace c = false ∧ c ≠ ']' := encode_head v fits
  have same : step limit ⟨stack,.firstItem⟩ c = step limit ⟨stack,.value⟩ c := by
    simp [step,space,plain]
  rw [text,List.cons_append,reads,reads,feed,feed,same]

theorem reads_open (frame : Frame) (c : Char) (phase : Phase) (room : stack.length < limit)
    (opens : step limit ⟨stack,.value⟩ c = openFrame limit frame phase stack) (text : List Char) :
    reads limit ⟨stack,.value⟩ (c :: text) = reads limit ⟨frame :: stack,phase⟩ text := by
  apply reads_step
  rw [opens,openFrame,if_neg (Nat.not_le.mpr room)]

mutual
theorem reads_value : (v : Json) → (level : Nat) → (stack : List Frame) → (rest : List Char) → representable v = true →
    stack.length + depth v ≤ limit → Breaks rest →
      reads limit ⟨stack,.value⟩ (encode l level v ++ rest) = reads limit (complete v stack) rest
  | .null,_,_,_,_,_,_ => rfl
  | .bool true,_,_,_,_,_,_ => rfl
  | .bool false,_,_,_,_,_,_ => rfl
  | .int value,_,_,_,fits,_,breaks => by
    rw [encode]
    exact reads_int fits breaks
  | .float text,_,_,_,fits,_,breaks => by
    rw [encode]
    exact reads_float fits breaks
  | .str text,_,_,_,_,_,_ => by
    rw [encode]
    exact reads_str text
  | .array [],level,stack,rest,_,deep,_ => by
    rw [depth,depthItems] at deep
    have close : step limit ⟨.array [] :: stack,.firstItem⟩ ']' = .ok (complete (.array []) stack) := rfl
    rw [encode]
    exact (reads_open (.array []) '[' .firstItem (by omega) rfl _).trans (reads_step _ close)
  | .array (first :: more),level,stack,rest,fits,deep,_ => by
    obtain ⟨head,tail⟩ := (Bool.and_eq_true _ _).mp (show (representable first && representableItems more) = true from fits)
    rw [depth,depthItems] at deep
    have begun := reads_value first (level + 1) (.array [] :: stack)
      (encodeItems l (level + 1) more ++ (l.closing level ++ (']' :: rest))) head (by simp only [List.length_cons]; omega)
      (by
        cases more with
        | nil => exact breaks_closing (l.blank level).2.2 _ (.inl rfl)
        | cons item others => exact breaks_comma _)
    have later := reads_items more (level + 1) [first] stack (l.closing level ++ (']' :: rest)) tail (by omega) (breaks_closing (l.blank level).2.2 _ (.inl rfl))
    have close : step limit ⟨.array (first :: more) :: stack,.after⟩ ']' = .ok (complete (.array (first :: more)) stack) := rfl
    rw [encode,List.cons_append,reads_open (.array []) '[' .firstItem (by omega) rfl]
    simp only [List.append_assoc,List.singleton_append]
    rw [passes_gap (l.blank (level + 1)).1 _ (show Passes ⟨_,.firstItem⟩ from trivial),reads_firstItem first head,begun]
    exact later.trans ((passes_gap (l.blank level).2.2 _ (show Passes ⟨_,.after⟩ from trivial)).trans (reads_step _ close))
  | .object [],level,stack,rest,_,deep,_ => by
    rw [depth,depthMembers] at deep
    have close : step limit ⟨.object [] "" :: stack,.firstKey⟩ '}' = .ok (complete (.object []) stack) := rfl
    rw [encode]
    exact (reads_open (.object [] "") '{' .firstKey (by omega) rfl _).trans (reads_step _ close)
  | .object ((key,first) :: more),level,stack,rest,fits,deep,_ => by
    have inside : (representable first && representableMembers more) = true := ((Bool.and_eq_true _ _).mp fits).2
    obtain ⟨head,tail⟩ := (Bool.and_eq_true _ _).mp inside
    rw [depth,depthMembers] at deep
    have begun := reads_value first (level + 1) (.object [] key :: stack)
      (encodeMembers l (level + 1) more ++ (l.closing level ++ ('}' :: rest))) head (by simp only [List.length_cons]; omega)
      (by
        cases more with
        | nil => exact breaks_closing (l.blank level).2.2 _ (.inr rfl)
        | cons item others => exact breaks_comma _)
    obtain ⟨last,later⟩ := reads_members more (level + 1) [(key,first)] key stack (l.closing level ++ ('}' :: rest)) tail (by omega)
      (breaks_closing (l.blank level).2.2 _ (.inr rfl))
    have close : step limit ⟨.object ((key,first) :: more) last :: stack,.after⟩ '}' =
        .ok (complete (.object ((key,first) :: more)) stack) := rfl
    rw [encode,List.cons_append,reads_open (.object [] "") '{' .firstKey (by omega) rfl]
    simp only [List.append_assoc,List.cons_append,List.nil_append]
    rw [passes_gap (l.blank (level + 1)).1 _ (show Passes ⟨_,.firstKey⟩ from trivial),reads_key .firstKey key [] "" (.inl rfl),begun]
    exact later.trans ((passes_gap (l.blank level).2.2 _ (show Passes ⟨_,.after⟩ from trivial)).trans (reads_step _ close))
theorem reads_items : (items : List Json) → (level : Nat) → (read : List Json) → (stack : List Frame) → (rest : List Char) →
    representableItems items = true → stack.length + 1 + depthItems items ≤ limit → Breaks rest →
      reads limit ⟨.array read :: stack,.after⟩ (encodeItems l level items ++ rest) =
        reads limit ⟨.array (read ++ items) :: stack,.after⟩ rest
  | [],_,read,_,_,_,_,_ => by rw [encodeItems,List.nil_append,List.append_nil]
  | item :: more,level,read,stack,rest,fits,deep,breaks => by
    obtain ⟨head,tail⟩ := (Bool.and_eq_true _ _).mp (show (representable item && representableItems more) = true from fits)
    rw [depthItems] at deep
    have begun := reads_value item level (.array read :: stack) (encodeItems l level more ++ rest) head
      (by simp only [List.length_cons]; omega)
      (by
        cases more with
        | nil => exact breaks
        | cons item others => exact breaks_comma _)
    have later := reads_items more level (read ++ [item]) stack rest tail (by omega) breaks
    have comma : step limit ⟨.array read :: stack,.after⟩ ',' = .ok ⟨.array read :: stack,.value⟩ := rfl
    rw [List.append_assoc,List.singleton_append] at later
    rw [encodeItems,List.cons_append,reads_step _ comma,List.append_assoc,List.append_assoc,
      passes_gap (l.blank level).2.1 _ (show Passes ⟨_,.value⟩ from trivial),begun]
    exact later
theorem reads_members : (members : List (String × Json)) → (level : Nat) → (read : List (String × Json)) → (key : String) →
    (stack : List Frame) → (rest : List Char) → representableMembers members = true →
      stack.length + 1 + depthMembers members ≤ limit → Breaks rest →
        ∃ last, reads limit ⟨.object read key :: stack,.after⟩ (encodeMembers l level members ++ rest) =
          reads limit ⟨.object (read ++ members) last :: stack,.after⟩ rest
  | [],_,read,key,_,_,_,_,_ => ⟨key,by rw [encodeMembers,List.nil_append,List.append_nil]⟩
  | (name,member) :: more,level,read,key,stack,rest,fits,deep,breaks => by
    obtain ⟨head,tail⟩ := (Bool.and_eq_true _ _).mp (show (representable member && representableMembers more) = true from fits)
    rw [depthMembers] at deep
    have begun := reads_value member level (.object read name :: stack) (encodeMembers l level more ++ rest) head
      (by simp only [List.length_cons]; omega)
      (by
        cases more with
        | nil => exact breaks
        | cons item others => exact breaks_comma _)
    obtain ⟨last,later⟩ := reads_members more level (read ++ [(name,member)]) name stack rest tail (by omega) breaks
    have comma : step limit ⟨.object read key :: stack,.after⟩ ',' = .ok ⟨.object read key :: stack,.key⟩ := rfl
    rw [List.append_assoc,List.singleton_append] at later
    refine ⟨last,?_⟩
    rw [encodeMembers,List.cons_append,reads_step _ comma]
    simp only [List.append_assoc,List.cons_append]
    rw [passes_gap (l.blank level).2.1 _ (show Passes ⟨_,.key⟩ from trivial),reads_key .key name read key (.inr rfl),begun]
    exact later
end

theorem reads_encoded (v : Json) (fits : representable v = true) (deep : depth v ≤ limit) :
    loads limit (String.ofList (encode l 0 v)) = .ok v := by
  have read : reads limit ⟨[],.value⟩ (encode l 0 v ++ []) = reads limit (complete v []) [] :=
    reads_value v 0 [] [] fits (by simpa using deep) breaks_nil
  rw [List.append_nil] at read
  rw [loads,String.toList_ofList]
  exact read

end Reading

-- A printed value is read back, if it is nested no deeper than the decoder goes.
theorem loads_dumps (v : Json) (fits : representable v = true) (limit : Nat) (deep : depth v ≤ limit) :
    loads limit (dumps v) = .ok v := by
  rw [dumps,← encode_indented]
  exact reads_encoded v fits deep

theorem loads_dumpsLine (v : Json) (fits : representable v = true) (limit : Nat) (deep : depth v ≤ limit) :
    loads limit (dumpsLine v) = .ok v := reads_encoded v fits deep

end Json
