import Mathlib.Logic.Basic

-- JSON text read one character after the other, and accepted as Python's decoder
-- accepts it: NaN and the infinities are values, a control character in a string is
-- an error, and so are an integer of over 4300 digits and too deep a nesting. Of a
-- float the text is kept.
inductive Json where
  | null
  | bool (value : Bool)
  | int (value : Int)
  | float (text : String)
  | str (text : String)
  | array (items : List Json)
  | object (members : List (String × Json))

namespace Json

inductive Error where
  | decode
  | integerDigits
  | recursion
  deriving DecidableEq

-- A container that is open, with what it holds so far; of an object also the last
-- key read.
inductive Frame where
  | array (items : List Json)
  | object (members : List (String × Json)) (key : String)

inductive NumberPart where
  | minus
  | zero
  | digits
  | point
  | fraction
  | e
  | sign
  | exponent
  deriving DecidableEq

-- The characters of a string so far, and a high surrogate that waits for its low
-- one. A surrogate without the other stands as the replacement character.
structure Text where
  chars : List Char
  high : Option Nat

abbrev Letters := {text : List Char // text.all (fun c => 32 ≤ c.toNat) = true}

inductive Phase where
  | value
  | firstItem
  | firstKey
  | key
  | colon
  | string (isKey : Bool) (text : Text)
  | escape (isKey : Bool) (text : Text)
  | unicode (isKey : Bool) (text : Text) (digits code : Nat)
  | number (part : NumberPart) (text : List Char)
  | literal (rest : Letters) (result : Json)
  | after
  | done (result : Json)

structure State where
  stack : List Frame
  phase : Phase

def State.start : State := ⟨[],.value⟩

namespace Text

def empty : Text := ⟨[],none⟩

def flush (text : Text) : List Char :=
  match text.high with
  | none => text.chars
  | some _ => text.chars ++ ['\uFFFD']

def push (text : Text) (c : Char) : Text := ⟨text.flush ++ [c],none⟩

def pushUnit (text : Text) (code : Nat) : Text :=
  if 0xD800 ≤ code ∧ code < 0xDC00 then ⟨text.flush,some code⟩
  else if 0xDC00 ≤ code ∧ code < 0xE000 then
    match text.high with
    | some high => ⟨text.chars ++ [Char.ofNat (0x10000 + (high - 0xD800) * 0x400 + (code - 0xDC00))],none⟩
    | none => text.push '\uFFFD'
  else text.push (Char.ofNat code)

end Text

def isSpace (c : Char) : Bool := c = ' ' || c = '\t' || c = '\n' || c = '\r'

def isDigit (c : Char) : Bool := decide ('0' ≤ c ∧ c ≤ '9')

def hexDigit (c : Char) : Option Nat :=
  if isDigit c then some (c.toNat - 48)
  else if 'a' ≤ c ∧ c ≤ 'f' then some (c.toNat - 87)
  else if 'A' ≤ c ∧ c ≤ 'F' then some (c.toNat - 55)
  else none

def escapes : List (Char × Char) :=
  [('"','"'),('\\','\\'),('/','/'),('b','\x08'),('f','\x0c'),('n','\n'),('r','\r'),('t','\t')]

def NumberPart.next (part : NumberPart) (c : Char) : Option NumberPart :=
  match part with
  | .minus => if c = '0' then some .zero else if isDigit c then some .digits else none
  | .zero => if c = '.' then some .point else if c = 'e' ∨ c = 'E' then some .e else none
  | .digits =>
    if isDigit c then some .digits else if c = '.' then some .point else if c = 'e' ∨ c = 'E' then some .e else none
  | .point => if isDigit c then some .fraction else none
  | .fraction => if isDigit c then some .fraction else if c = 'e' ∨ c = 'E' then some .e else none
  | .e => if c = '+' ∨ c = '-' then some .sign else if isDigit c then some .exponent else none
  | .sign | .exponent => if isDigit c then some .exponent else none

def integerOf (text : List Char) : Int :=
  let magnitude : Nat := text.foldl (fun n c => if isDigit c then 10 * n + (c.toNat - 48) else n) 0
  if text.head? = some '-' then -magnitude else magnitude

def integer (text : List Char) : Except Error Int :=
  if 4300 < (text.filter isDigit).length then .error .integerDigits else .ok (integerOf text)

-- A number that breaks off is an error, after its longest part that is a number
-- has been read.
def finishNumber (part : NumberPart) (text : List Char) : Except Error Json :=
  match part with
  | .zero | .digits => (integer text).map .int
  | .fraction | .exponent => .ok (.float (String.ofList text))
  | .minus => .error .decode
  | .point | .e | .sign =>
    if part ≠ .point ∧ '.' ∈ text then .error .decode else (integer text).bind fun _ => .error .decode

def complete (result : Json) : List Frame → State
  | [] => ⟨[],.done result⟩
  | .array items :: rest => ⟨.array (items ++ [result]) :: rest,.after⟩
  | .object members key :: rest => ⟨.object (members ++ [(key,result)]) key :: rest,.after⟩

def closeFrame : List Frame → Except Error State
  | [] => .error .decode
  | .array items :: rest => .ok (complete (.array items) rest)
  | .object members _ :: rest => .ok (complete (.object members) rest)

def openFrame (limit : Nat) (frame : Frame) (phase : Phase) (stack : List Frame) : Except Error State :=
  if limit ≤ stack.length then .error .recursion else .ok ⟨frame :: stack,phase⟩

def finishString (isKey : Bool) (text : Text) (stack : List Frame) : State :=
  if isKey then
    match stack with
    | .object members _ :: rest => ⟨.object members (String.ofList text.flush) :: rest,.colon⟩
    | _ => ⟨stack,.colon⟩
  else complete (.str (String.ofList text.flush)) stack

def beginValue (limit : Nat) (stack : List Frame) (c : Char) : Except Error State :=
  if c = '"' then .ok ⟨stack,.string false .empty⟩
  else if c = '{' then openFrame limit (.object [] "") .firstKey stack
  else if c = '[' then openFrame limit (.array []) .firstItem stack
  else if c = 'n' then .ok ⟨stack,.literal ⟨['u','l','l'],rfl⟩ .null⟩
  else if c = 't' then .ok ⟨stack,.literal ⟨['r','u','e'],rfl⟩ (.bool true)⟩
  else if c = 'f' then .ok ⟨stack,.literal ⟨['a','l','s','e'],rfl⟩ (.bool false)⟩
  else if c = 'N' then .ok ⟨stack,.literal ⟨['a','N'],rfl⟩ (.float "NaN")⟩
  else if c = 'I' then .ok ⟨stack,.literal ⟨['n','f','i','n','i','t','y'],rfl⟩ (.float "Infinity")⟩
  else if c = '-' then .ok ⟨stack,.number .minus [c]⟩
  else if c = '0' then .ok ⟨stack,.number .zero [c]⟩
  else if isDigit c then .ok ⟨stack,.number .digits [c]⟩
  else .error .decode

def follow (s : State) (c : Char) : Except Error State :=
  if isSpace c then .ok s
  else
    match s.stack with
    | [] => .error .decode
    | .array _ :: _ => if c = ',' then .ok ⟨s.stack,.value⟩ else if c = ']' then closeFrame s.stack else .error .decode
    | .object _ _ :: _ => if c = ',' then .ok ⟨s.stack,.key⟩ else if c = '}' then closeFrame s.stack else .error .decode

def step (limit : Nat) (s : State) (c : Char) : Except Error State :=
  match s.phase with
  | .value => if isSpace c then .ok s else beginValue limit s.stack c
  | .firstItem =>
    if isSpace c then .ok s else if c = ']' then closeFrame s.stack else beginValue limit s.stack c
  | .firstKey =>
    if isSpace c then .ok s
    else if c = '}' then closeFrame s.stack
    else if c = '"' then .ok ⟨s.stack,.string true .empty⟩
    else .error .decode
  | .key => if isSpace c then .ok s else if c = '"' then .ok ⟨s.stack,.string true .empty⟩ else .error .decode
  | .colon => if isSpace c then .ok s else if c = ':' then .ok ⟨s.stack,.value⟩ else .error .decode
  | .string isKey text =>
    if c = '"' then .ok (finishString isKey text s.stack)
    else if c = '\\' then .ok ⟨s.stack,.escape isKey text⟩
    else if c.toNat < 32 then .error .decode
    else .ok ⟨s.stack,.string isKey (text.push c)⟩
  | .escape isKey text =>
    if c = 'u' then .ok ⟨s.stack,.unicode isKey text 0 0⟩
    else
      match escapes.lookup c with
      | some escaped => .ok ⟨s.stack,.string isKey (text.push escaped)⟩
      | none => .error .decode
  | .unicode isKey text digits code =>
    match hexDigit c with
    | none => .error .decode
    | some digit =>
      if digits = 3 then .ok ⟨s.stack,.string isKey (text.pushUnit (16 * code + digit))⟩
      else .ok ⟨s.stack,.unicode isKey text (digits + 1) (16 * code + digit)⟩
  | .number part text =>
    match part.next c with
    | some next => .ok ⟨s.stack,.number next (text ++ [c])⟩
    | none =>
      if part = .minus ∧ c = 'I' then .ok ⟨s.stack,.literal ⟨['n','f','i','n','i','t','y'],rfl⟩ (.float "-Infinity")⟩
      else (finishNumber part text).bind fun result => follow (complete result s.stack) c
  | .literal ⟨[],_⟩ _ => .error .decode
  | .literal ⟨d :: rest,plain⟩ result =>
    if c ≠ d then .error .decode
    else if rest.isEmpty then .ok (complete result s.stack)
    else .ok ⟨s.stack,.literal ⟨rest,(Bool.and_eq_true_iff.mp plain).2⟩ result⟩
  | .after | .done _ => follow s c

def finish (s : State) : Except Error Json :=
  match s.phase with
  | .done result => .ok result
  | .number part text => (finishNumber part text).bind fun result => if s.stack.isEmpty then .ok result else .error .decode
  | _ => .error .decode

def feed (limit : Nat) (s : State) : List Char → Except Error State
  | [] => .ok s
  | c :: rest => (step limit s c).bind fun t => feed limit t rest

def decodeUtf8 (bytes : List UInt8) : Option String := String.fromUTF8? bytes.toByteArray

def encodeUtf8 (text : String) : List UInt8 := text.toList.flatMap String.utf8EncodeChar

theorem decode_encodeUtf8 (text : String) : decodeUtf8 (encodeUtf8 text) = some text := by
  have bytes : (encodeUtf8 text).toByteArray = text.toByteArray := String.utf8Encode_toList
  have valid : text.toByteArray.IsValidUTF8 := text.isValidUTF8
  rw [decodeUtf8,bytes,String.fromUTF8?,dif_pos valid]
  rfl

def loads (limit : Nat) (text : String) : Except Error Json := (feed limit .start text.toList).bind finish

-- No part of a JSON text is a control character other than the blanks.
def Control (c : Char) : Prop := c.toNat < 32 ∧ isSpace c = false

section Control
variable {c : Char} (control : Control c)
include control

theorem control_ne (d : Char) (plain : 32 ≤ d.toNat) : c ≠ d := by
  rintro rfl
  have low := control.1
  omega

theorem control_digit : isDigit c = false := by
  have low := control.1
  have zero : ¬ '0' ≤ c := by
    intro above
    have order : 48 ≤ c.toNat := above
    omega
  simp [isDigit,zero]

theorem control_hexDigit : hexDigit c = none := by
  have low := control.1
  have lower : ¬ 'a' ≤ c := by
    intro above
    have order : 97 ≤ c.toNat := above
    omega
  have upper : ¬ 'A' ≤ c := by
    intro above
    have order : 65 ≤ c.toNat := above
    omega
  simp [hexDigit,control_digit control,lower,upper]

theorem control_escapes : escapes.lookup c = none := by
  rw [List.lookup_eq_none_iff]
  intro pair member
  have plain : escapes.all (fun pair => 32 ≤ pair.1.toNat) = true := rfl
  have printed : 32 ≤ pair.1.toNat := of_decide_eq_true (List.all_eq_true.mp plain pair member)
  simpa using control_ne control pair.1 printed

theorem control_number (part : NumberPart) : part.next c = none := by
  have digit := control_digit control
  have other := control_ne control
  cases part with
  | minus => simp [NumberPart.next,digit,other '0' (by decide)]
  | zero => simp [NumberPart.next,other '.' (by decide),other 'e' (by decide),other 'E' (by decide)]
  | digits => simp [NumberPart.next,digit,other '.' (by decide),other 'e' (by decide),other 'E' (by decide)]
  | point => simp [NumberPart.next,digit]
  | fraction => simp [NumberPart.next,digit,other 'e' (by decide),other 'E' (by decide)]
  | e => simp [NumberPart.next,digit,other '+' (by decide),other '-' (by decide)]
  | sign => simp [NumberPart.next,digit]
  | exponent => simp [NumberPart.next,digit]

theorem beginValue_control (limit : Nat) (stack : List Frame) : beginValue limit stack c = .error .decode := by
  have other := control_ne control
  unfold beginValue
  rw [if_neg (other '"' (by decide)),if_neg (other '{' (by decide)),if_neg (other '[' (by decide)),
    if_neg (other 'n' (by decide)),if_neg (other 't' (by decide)),if_neg (other 'f' (by decide)),
    if_neg (other 'N' (by decide)),if_neg (other 'I' (by decide)),if_neg (other '-' (by decide)),
    if_neg (other '0' (by decide)),control_digit control]
  rfl

theorem follow_control (s : State) : follow s c = .error .decode := by
  have other := control_ne control
  unfold follow
  rw [control.2]
  rcases s with ⟨_ | ⟨frame,rest⟩,phase⟩
  · rfl
  · cases frame with
    | array items => simp [other ',' (by decide),other ']' (by decide)]
    | object members key => simp [other ',' (by decide),other '}' (by decide)]

theorem step_control (limit : Nat) (s : State) : ∃ error, step limit s c = .error error := by
  have other := control_ne control
  rcases s with ⟨stack,phase⟩
  cases phase with
  | value => exact ⟨_,by simp only [step,control.2]; exact beginValue_control control limit stack⟩
  | firstItem =>
    refine ⟨.decode,?_⟩
    simp only [step,control.2]
    rw [if_neg (by simp),if_neg (other ']' (by decide))]
    exact beginValue_control control limit stack
  | firstKey => exact ⟨.decode,by simp [step,control.2,other '}' (by decide),other '"' (by decide)]⟩
  | key => exact ⟨.decode,by simp [step,control.2,other '"' (by decide)]⟩
  | colon => exact ⟨.decode,by simp [step,control.2,other ':' (by decide)]⟩
  | string isKey text =>
    exact ⟨.decode,by simp [step,other '"' (by decide),other '\\' (by decide),control.1]⟩
  | escape isKey text => exact ⟨.decode,by simp [step,other 'u' (by decide),control_escapes control]⟩
  | unicode isKey text digits code => exact ⟨.decode,by simp [step,control_hexDigit control]⟩
  | number part text =>
    simp only [step,control_number control,other 'I' (by decide),and_false,if_false]
    cases finishNumber part text with
    | error error => exact ⟨error,rfl⟩
    | ok result => exact ⟨.decode,follow_control control _⟩
  | literal rest result =>
    obtain ⟨text,plain⟩ := rest
    cases text with
    | nil => exact ⟨.decode,rfl⟩
    | cons d rest =>
      have printed : 32 ≤ d.toNat := of_decide_eq_true (Bool.and_eq_true_iff.mp plain).1
      exact ⟨.decode,by simp [step,other d printed]⟩
  | after => exact ⟨.decode,follow_control control _⟩
  | done result => exact ⟨.decode,follow_control control _⟩

theorem feed_control (limit : Nat) (s : State) (member : c ∈ text) : feed limit s text ≠ .ok t := by
  induction text generalizing s with
  | nil => cases member
  | cons first rest ih =>
    unfold feed
    rcases List.mem_cons.mp member with rfl | later
    · obtain ⟨error,stopped⟩ := step_control control limit s
      rw [stopped]
      intro fed
      cases fed
    · cases step limit s first with
      | error error =>
        intro fed
        cases fed
      | ok next => exact ih next later

theorem loads_control (limit : Nat) (text : String) (member : c ∈ text.toList) : loads limit text ≠ .ok result := by
  unfold loads
  cases fed : feed limit .start text.toList with
  | error error =>
    intro loaded
    cases loaded
  | ok t => exact absurd fed (feed_control control limit .start member)

end Control

theorem utf8EncodeChar_low (c : Char) (member : b ∈ String.utf8EncodeChar c) (low : b.toNat < 128) : c.toNat = b.toNat := by
  have code : c.val.toNat = c.toNat := rfl
  unfold String.utf8EncodeChar at member
  dsimp only at member
  split at member
  · rw [List.mem_singleton.mp member,UInt8.toNat_ofNat']
    omega
  · exfalso
    split at member
    · simp only [List.mem_cons,List.not_mem_nil,or_false] at member
      rcases member with rfl | rfl <;> rw [UInt8.toNat_ofNat'] at low <;> omega
    · split at member
      · simp only [List.mem_cons,List.not_mem_nil,or_false] at member
        rcases member with rfl | rfl | rfl <;> rw [UInt8.toNat_ofNat'] at low <;> omega
      · simp only [List.mem_cons,List.not_mem_nil,or_false] at member
        rcases member with rfl | rfl | rfl | rfl <;> rw [UInt8.toNat_ofNat'] at low <;> omega

theorem decodeUtf8_low (decoded : decodeUtf8 bytes = some text) (member : b ∈ bytes) (low : b.toNat < 128) :
    ∃ c ∈ text.toList, c.toNat = b.toNat := by
  have same : text.toByteArray = bytes.toByteArray := by
    unfold decodeUtf8 String.fromUTF8? at decoded
    split at decoded
    · cases decoded
      rfl
    · cases decoded
  rw [← String.utf8Encode_toList] at same
  have encoded : text.toList.flatMap String.utf8EncodeChar = bytes := by
    have arrays := congrArg ByteArray.data same
    simpa [List.utf8Encode] using arrays
  rw [← encoded] at member
  obtain ⟨c,inside,byte⟩ := List.mem_flatMap.mp member
  exact ⟨c,inside,utf8EncodeChar_low c byte low⟩

theorem decoded_control (limit : Nat) (decoded : decodeUtf8 bytes = some text) (member : b ∈ bytes) (low : b.toNat < 32)
    (notBlank : b.toNat ≠ 9 ∧ b.toNat ≠ 10 ∧ b.toNat ≠ 13) : loads limit text ≠ .ok result := by
  obtain ⟨c,inside,code⟩ := decodeUtf8_low decoded member (by omega)
  obtain ⟨tab,newline,carriage⟩ := notBlank
  apply loads_control ⟨by omega,?_⟩ limit text inside
  unfold isSpace
  have space : c ≠ ' ' := by rintro rfl; exact absurd code (by simp; omega)
  have apart : c ≠ '\t' ∧ c ≠ '\n' ∧ c ≠ '\r' := by
    refine ⟨?_,?_,?_⟩
    · rintro rfl; exact tab code.symm
    · rintro rfl; exact newline code.symm
    · rintro rfl; exact carriage code.symm
  simp [space,apart]

end Json
