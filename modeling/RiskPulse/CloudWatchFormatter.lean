import RiskPulse.Library.JsonTokens
import RiskPulse.Library.OrderedDict

namespace RiskPulse
namespace CloudWatchFormatter
open Regex

-- What the Unicode tables say of a character.
structure UnicodeTables where
  word : Char → Bool
  digit : Char → Bool
  ascii_word : ∀ c, c.toNat < 128 → word c = (c.isAlphanum || decide (c = '_'))
  ascii_digit : ∀ c, c.toNat < 128 → digit c = c.isDigit

-- What the formatter takes of Python's library: the tables, str.lower, the text of the
-- float that a numeral stands for, that of a moment, and the limit of json.loads.
structure LogHost where
  unicode : UnicodeTables
  lower : String → String
  reprFloat : String → String
  isoformat : Rat → String
  recursionLimit : Nat

variable (h : LogHost)

def digits (n : Nat) : Regex := .repeated false n (some n) (.one h.unicode.digit)

def emailLocal (c : Char) : Bool := letter c || c.isDigit || ['.','_','%','+','-'].contains c

def emailDomain (c : Char) : Bool := letter c || c.isDigit || ['.','-'].contains c

def emailCore : Regex :=
  .seq (someOf (.one emailLocal)) <| .seq (exactly '@') <| .seq (someOf (.one emailDomain)) <|
  .seq (exactly '.') (.repeated false 2 none (.one letter))

def ssnCore : Regex := .seq (digits h 3) <| .seq (exactly '-') <| .seq (digits h 2) <| .seq (exactly '-') (digits h 4)

def cardCore : Regex :=
  .repeated false 13 (some 19) (.seq (.one h.unicode.digit) (.repeated true 0 none (oneOf [' ','-'])))

def phoneCore : Regex :=
  .seq (maybe (.seq (maybe (exactly '+')) <| .seq (exactly '1') (maybe (oneOf ['-','.',' '])))) <|
  .seq (maybe (exactly '(')) <| .seq (digits h 3) <| .seq (maybe (exactly ')')) <|
  .seq (maybe (oneOf ['-','.',' '])) <| .seq (digits h 3) <| .seq (maybe (oneOf ['-','.',' '])) (digits h 4)

-- EMAIL_RE, SSN_RE, CARD_RE and PHONE_RE.
def emailRe : Regex := bounded emailCore

def ssnRe : Regex := bounded (ssnCore h)

def cardRe : Regex := bounded (cardCore h)

def phoneRe : Regex := bounded (phoneCore h)

def mask (label : String) : List Char := '*' :: (label.toList ++ ['*'])

def redactChars (value : List Char) : List Char :=
  let word := h.unicode.word
  let redacted := emailRe.sub word (mask "**REDACTED_EMAIL**") 0 [] value
  let redacted := (ssnRe h).sub word (mask "**REDACTED_SSN**") 0 [] redacted
  let redacted := (cardRe h).sub word (mask "**REDACTED_CARD**") 0 [] redacted
  (phoneRe h).sub word (mask "**REDACTED_PHONE**") 0 [] redacted

def redact (value : String) : String := String.ofList (redactChars h value.toList)

def sensitiveFieldNames : List String :=
  ["authorization","api_key","card_last_four","card_number","cvv","device_id","email","ip_address","password","phone",
    "secret","ssn","token"]

def sensitive (key : String) : Bool := sensitiveFieldNames.contains (h.lower key)

mutual
def scrubPii : Json → Json
  | .object members => .object (scrubMembers members)
  | .array items => .array (scrubItems items)
  | .str value => .str (redact h value)
  | value => value
def scrubItems : List Json → List Json
  | [] => []
  | item :: rest => scrubPii item :: scrubItems rest
def scrubMembers : List (String × Json) → List (String × Json)
  | [] => []
  | (key,item) :: rest => (key,if sensitive h key then .str "***REDACTED***" else scrubPii item) :: scrubMembers rest
end

-- What json.loads builds of the text read: of equal keys the last value stays, at the place
-- of the first, and a float is printed by its repr.
mutual
def decoded : Json → Json
  | .object members => .object (OrderedDict.ofList (decodedMembers members)).entries
  | .array items => .array (decodedItems items)
  | .float text => .float (h.reprFloat text)
  | value => value
def decodedItems : List Json → List Json
  | [] => []
  | item :: rest => decoded item :: decodedItems rest
def decodedMembers : List (String × Json) → List (String × Json)
  | [] => []
  | (key,item) :: rest => (key,decoded item) :: decodedMembers rest
end

abbrev Event := OrderedDict String Json

def Event.setDefault (event : Event) (key : String) (value : Json) : Event := if key ∈ event.keys then event else event.set key value

structure LogRecord where
  message : String
  name : String
  levelname : String
  created : Rat
  exception : Option String

structure CloudWatchJSONFormatter where
  service : String
  environment : String

-- A message that is not JSON is kept as it is; other errors of the decoder leave format.
def messageEvent (message : String) : Except Json.Error Event :=
  match Json.loads h.recursionLimit message with
  | .ok parsed =>
    match decoded h parsed with
    | .object members => .ok (.ofList members)
    | value => .ok (.ofList [("event",value)])
  | .error .decode => .ok (.ofList [("event",.str message)])
  | .error error => .error error

def withContext (f : CloudWatchJSONFormatter) (correlationId : Option String) (record : LogRecord) (event : Event) : Event :=
  let event := event.setDefault "service" (.str f.service)
  let event := event.setDefault "environment" (.str f.environment)
  let event := event.setDefault "logger" (.str record.name)
  let event := event.setDefault "level" (.str (h.lower record.levelname))
  let event := event.setDefault "timestamp" (.str (h.isoformat record.created))
  match correlationId with
  | some id => if id = "" then event else event.setDefault "correlation_id" (.str id)
  | none => event

def withException (record : LogRecord) (event : Event) : Event :=
  match record.exception with
  | some text => event.set "exception" (.str text)
  | none => event

def eventOf (f : CloudWatchJSONFormatter) (correlationId : Option String) (record : LogRecord) : Except Json.Error Event :=
  (messageEvent h record.message).map fun event => withException record (withContext h f correlationId record event)

def format (f : CloudWatchJSONFormatter) (correlationId : Option String) (record : LogRecord) : Except Json.Error String :=
  (eventOf h f correlationId record).map fun event => Json.dumpsCompact (scrubPii h (.object event.entries))

-- The asterisks of the masks, and what JSON text is made of besides its tokens.
def marks : List Char := '*' :: Json.structural

theorem mark_ascii : ∀ mark ∈ marks, mark.toNat < 128 := List.all_iff_forall_prop.mp (by decide)

theorem mark_word (member : mark ∈ marks) : h.unicode.word mark = false := by
  have plain : ∀ mark ∈ marks, (mark.isAlphanum || decide (mark = '_')) = false := List.all_iff_forall_prop.mp (by decide)
  rw [h.unicode.ascii_word mark (mark_ascii mark member),plain mark member]

theorem mark_digit (member : mark ∈ marks) : h.unicode.digit mark = false := by
  have plain : ∀ mark ∈ marks, mark.isDigit = false := List.all_iff_forall_prop.mp (by decide)
  rw [h.unicode.ascii_digit mark (mark_ascii mark member),plain mark member]

theorem one_within (accepts : Char → Bool) (outside : accepts mark = false) : (Regex.one accepts).Within (· ≠ mark) := by
  rintro c accepted rfl
  rw [outside] at accepted
  cases accepted

theorem email_sealed (member : mark ∈ marks) : Sealed mark (· = '@') emailCore := by
  have outside : ∀ mark ∈ marks, emailLocal mark = false ∧ emailDomain mark = false ∧ letter mark = false ∧
      decide (mark = '@') = false ∧ decide (mark = '.') = false := List.all_iff_forall_prop.mp (by decide)
  obtain ⟨localPart,domain,top,at_sign,dot⟩ := outside mark member
  refine ⟨⟨trivial,trivial,trivial,trivial,trivial⟩,?_,?_⟩
  · exact ⟨one_within _ localPart,one_within _ at_sign,one_within _ domain,one_within _ dot,one_within _ top⟩
  · exact .inr (.inl fun c accepted => of_decide_eq_true accepted)

theorem ssn_sealed (member : mark ∈ marks) : Sealed mark (fun c => h.unicode.digit c = true) (ssnCore h) := by
  have outside : ∀ mark ∈ marks, decide (mark = '-') = false := List.all_iff_forall_prop.mp (by decide)
  have digit := one_within _ (mark_digit h member)
  have hyphen := one_within (fun d => decide (d = '-')) (outside mark member)
  exact ⟨⟨trivial,trivial,trivial,trivial,trivial⟩,⟨digit,hyphen,digit,hyphen,digit⟩,.inl ⟨by decide,fun _ accepted => accepted⟩⟩

theorem card_sealed (member : mark ∈ marks) : Sealed mark (fun c => h.unicode.digit c = true) (cardCore h) := by
  have outside : ∀ mark ∈ marks, [' ','-'].contains mark = false := List.all_iff_forall_prop.mp (by decide)
  refine ⟨⟨trivial,trivial⟩,⟨one_within _ (mark_digit h member),one_within _ (outside mark member)⟩,by decide,.inl ?_⟩
  exact fun _ accepted => accepted

theorem phone_sealed (member : mark ∈ marks) : Sealed mark (fun c => h.unicode.digit c = true) (phoneCore h) := by
  have outside : ∀ mark ∈ marks, decide (mark = '+') = false ∧ decide (mark = '1') = false ∧ decide (mark = '(') = false ∧
      decide (mark = ')') = false ∧ ['-','.',' '].contains mark = false := List.all_iff_forall_prop.mp (by decide)
  obtain ⟨plus,one,opening,closing,space⟩ := outside mark member
  have digit := one_within _ (mark_digit h member)
  refine ⟨by simp [phoneCore,maybe,exactly,oneOf,digits,Free],?_,?_⟩
  · refine ⟨⟨one_within _ plus,one_within _ one,one_within _ space⟩,one_within _ opening,digit,one_within _ closing,?_⟩
    exact ⟨one_within _ space,digit,one_within _ space,digit⟩
  · exact .inr (.inr (.inl ⟨by decide,fun _ accepted => accepted⟩))

def labels : List String := ["**REDACTED_EMAIL**","**REDACTED_SSN**","**REDACTED_CARD**","**REDACTED_PHONE**"]

-- What is redacted has something that no label has.
structure Redaction (needed : Char → Prop) (core : Regex) : Prop where
  sealed : ∀ mark ∈ marks, Sealed mark needed core
  unlabelled : ∀ label ∈ labels, ∀ c ∈ label.toList, ¬needed c

theorem label_letters (named : label ∈ labels) (member : c ∈ label.toList) : c ≠ '@' ∧ c.toNat < 128 ∧ c.isDigit = false := by
  have letters : ∀ c ∈ labels.flatMap String.toList, c ≠ '@' ∧ c.toNat < 128 ∧ c.isDigit = false :=
    List.all_iff_forall_prop.mp (by decide)
  exact letters c (List.mem_flatMap.mpr ⟨label,named,member⟩)

theorem label_digit : ∀ label ∈ labels, ∀ c ∈ label.toList, ¬h.unicode.digit c = true := by
  intro label named c member digit
  obtain ⟨_,ascii,other⟩ := label_letters named member
  rw [h.unicode.ascii_digit c ascii,other] at digit
  cases digit

theorem email_redaction : Redaction (· = '@') emailCore :=
  ⟨fun _ => email_sealed,fun _ named _ member => (label_letters named member).1⟩

theorem ssn_redaction : Redaction (fun c => h.unicode.digit c = true) (ssnCore h) := ⟨fun _ => ssn_sealed h,label_digit h⟩

theorem card_redaction : Redaction (fun c => h.unicode.digit c = true) (cardCore h) := ⟨fun _ => card_sealed h,label_digit h⟩

theorem phone_redaction : Redaction (fun c => h.unicode.digit c = true) (phoneCore h) := ⟨fun _ => phone_sealed h,label_digit h⟩

theorem star_mark : '*' ∈ marks := List.mem_cons_self

theorem Redaction.leaves_none (redaction : Redaction needed core) (named : label ∈ labels) (value : List Char) :
    ¬Occurs h.unicode.word (bounded core) [] ((bounded core).sub h.unicode.word (mask label) 0 [] value) :=
  sub_none (redaction.sealed _ star_mark) (redaction.unlabelled label named) [] value

theorem Redaction.makes_none (redaction : Redaction needed core) (cuts : Redaction other cut) (named : label ∈ labels)
    (value : List Char) (absent : ¬Occurs h.unicode.word (bounded core) [] value) :
    ¬Occurs h.unicode.word (bounded core) [] ((bounded cut).sub h.unicode.word (mask label) 0 [] value) :=
  sub_makes_none (cuts.sealed _ star_mark) (redaction.sealed _ star_mark) (redaction.unlabelled label named) [] value absent

-- No match is left in a redacted text, whichever of the four it would be of.
structure Unmatched (value : List Char) : Prop where
  email : ¬Occurs h.unicode.word emailRe [] value
  ssn : ¬Occurs h.unicode.word (ssnRe h) [] value
  card : ¬Occurs h.unicode.word (cardRe h) [] value
  phone : ¬Occurs h.unicode.word (phoneRe h) [] value

theorem redacted_unmatched (value : List Char) : Unmatched h (redactChars h value) := by
  have mail := email_redaction
  have social := ssn_redaction h
  have card := card_redaction h
  have phone := phone_redaction h
  have first : "**REDACTED_EMAIL**" ∈ labels := by decide
  have second : "**REDACTED_SSN**" ∈ labels := by decide
  have third : "**REDACTED_CARD**" ∈ labels := by decide
  have fourth : "**REDACTED_PHONE**" ∈ labels := by decide
  have afterMail := mail.leaves_none h first value
  have afterSocial := social.leaves_none h second (emailRe.sub h.unicode.word (mask "**REDACTED_EMAIL**") 0 [] value)
  have afterCard := card.leaves_none h third ((ssnRe h).sub h.unicode.word (mask "**REDACTED_SSN**") 0 []
    (emailRe.sub h.unicode.word (mask "**REDACTED_EMAIL**") 0 [] value))
  refine ⟨?_,?_,?_,phone.leaves_none h fourth _⟩
  · exact mail.makes_none h phone fourth _ (mail.makes_none h card third _ (mail.makes_none h social second _ afterMail))
  · exact social.makes_none h phone fourth _ (social.makes_none h card third _ afterSocial)
  · exact card.makes_none h phone fourth _ afterCard

theorem redact_unmatched (value : List Char) (unmatched : Unmatched h value) : redactChars h value = value := by
  unfold redactChars
  dsimp only
  rw [emailRe,sub_same (email_redaction.sealed _ star_mark) _ _ _ unmatched.email]
  rw [ssnRe,sub_same ((ssn_redaction h).sealed _ star_mark) _ _ _ unmatched.ssn]
  rw [cardRe,sub_same ((card_redaction h).sealed _ star_mark) _ _ _ unmatched.card]
  rw [phoneRe,sub_same ((phone_redaction h).sealed _ star_mark) _ _ _ unmatched.phone]

theorem redact_twice (value : String) : redact h (redact h value) = redact h value := by
  unfold redact
  rw [String.toList_ofList,redact_unmatched h _ (redacted_unmatched h value.toList)]

mutual
theorem scrubPii_twice : (value : Json) → scrubPii h (scrubPii h value) = scrubPii h value
  | .null | .bool _ | .int _ | .float _ => rfl
  | .str value => congrArg Json.str (redact_twice h value)
  | .array items => congrArg Json.array (scrubItems_twice items)
  | .object members => congrArg Json.object (scrubMembers_twice members)
theorem scrubItems_twice : (items : List Json) → scrubItems h (scrubItems h items) = scrubItems h items
  | [] => rfl
  | item :: rest => congrArg₂ List.cons (scrubPii_twice item) (scrubItems_twice rest)
theorem scrubMembers_twice : (members : List (String × Json)) → scrubMembers h (scrubMembers h members) = scrubMembers h members
  | [] => rfl
  | (key,item) :: rest => by
    rw [scrubMembers,scrubMembers,scrubMembers_twice rest]
    split
    · rfl
    · rw [scrubPii_twice item]
end

-- The expressions that the lines are searched with.
def cores : List Regex := [emailCore,ssnCore h,cardCore h]

theorem cores_redaction (member : core ∈ cores h) : ∃ needed, Redaction needed core ∧ Json.Within h.unicode.word needed core := by
  have letters : ∀ c ∈ ['n','u','l','t','r','e','f','a','s'], c ≠ '@' ∧ c.toNat < 128 ∧ c.isDigit = false :=
    List.all_iff_forall_prop.mp (by decide)
  have digitless : ∀ c ∈ ['n','u','l','t','r','e','f','a','s'], ¬h.unicode.digit c = true := by
    intro c inside digit
    obtain ⟨_,ascii,other⟩ := letters c inside
    rw [h.unicode.ascii_digit c ascii,other] at digit
    cases digit
  have structural : ∀ needed core, Redaction needed core → ∀ c ∈ Json.structural, Sealed c needed core ∧ h.unicode.word c = false :=
    fun needed core redaction c inside => ⟨redaction.sealed c (List.mem_cons_of_mem _ inside),mark_word h (List.mem_cons_of_mem _ inside)⟩
  simp only [cores,List.mem_cons,List.not_mem_nil,or_false] at member
  rcases member with rfl | rfl | rfl
  · exact ⟨_,email_redaction,structural _ _ email_redaction,fun c inside => (letters c inside).1⟩
  · exact ⟨_,ssn_redaction h,structural _ _ (ssn_redaction h),digitless⟩
  · exact ⟨_,card_redaction h,structural _ _ (card_redaction h),digitless⟩

def leaks (text : List Char) : Bool := (cores h).any fun core => (bounded core).search h.unicode.word [] text

theorem leaks_occurs (text : List Char) : leaks h text = true ↔ ∃ core ∈ cores h, Occurs h.unicode.word (bounded core) [] text := by
  unfold leaks
  rw [List.any_eq_true]
  simp only [search_occurs]

theorem leaks_false (text : List Char) : leaks h text = false ↔ ∀ core ∈ cores h, ¬Occurs h.unicode.word (bounded core) [] text := by
  rw [← Bool.not_eq_true,leaks_occurs]
  simp only [not_exists,not_and]

theorem plain_leaks (plain : ∀ c ∈ text, c ≠ '@' ∧ ¬h.unicode.digit c = true) : leaks h text = false := by
  rw [Bool.eq_false_iff]
  intro found
  obtain ⟨core,member,occurs⟩ := (leaks_occurs h text).mp found
  simp only [cores,List.mem_cons,List.not_mem_nil,or_false] at member
  rcases member with rfl | rfl | rfl
  · exact occurs_needed _ (email_sealed star_mark) (fun c inside => (plain c inside).1) [] occurs
  · exact occurs_needed _ (ssn_sealed h star_mark) (fun c inside => (plain c inside).2) [] occurs
  · exact occurs_needed _ (card_sealed h star_mark) (fun c inside => (plain c inside).2) [] occurs

-- A number of as many digits as a card has.
def cardLength (value : Int) : Bool :=
  let digits := (Nat.toDigits 10 value.natAbs).length
  decide (13 ≤ digits ∧ digits ≤ 19)

mutual
def plain : Json → Bool
  | .null | .bool _ => true
  | .int value => !cardLength value
  | .float text => !leaks h text.toList
  | .str value => !leaks h (Json.escaped (redact h value))
  | .array items => plainItems items
  | .object members => plainMembers members
def plainItems : List Json → Bool
  | [] => true
  | item :: rest => plain item && plainItems rest
def plainMembers : List (String × Json) → Bool
  | [] => true
  | (key,item) :: rest => !leaks h (Json.escaped key) && (sensitive h key || plain item) && plainMembers rest
end

section Numbers

theorem digit_classes (digit : c.isDigit = true) : h.unicode.digit c = true ∧ h.unicode.word c = true := by
  have ascii : c.toNat < 128 := by
    simp only [Char.isDigit,Bool.and_eq_true,decide_eq_true_eq] at digit
    have above : c.toNat ≤ 57 := digit.2
    omega
  refine ⟨by rw [h.unicode.ascii_digit c ascii,digit],?_⟩
  rw [h.unicode.ascii_word c ascii]
  simp [Char.isAlphanum,digit]

-- In a run of digits a copy is one digit.
theorem copies_digits (n : Nat) (back m rest : List Char) (digit : ∀ c ∈ m, c.isDigit = true) :
    copies ((Regex.seq (.one h.unicode.digit) (.repeated true 0 none (oneOf [' ','-']))).Matches h.unicode.word) n back m rest ↔
      m.length = n := by
  induction n generalizing back m with
  | zero => exact List.length_eq_zero_iff.symm
  | succ n ih =>
    constructor
    · intro given
      obtain ⟨x,y,rfl,⟨_,spaces,rfl,⟨c,rfl,_⟩,blank⟩,later⟩ := given
      have nothing : spaces = [] := by
        rw [List.eq_nil_iff_forall_not_mem]
        intro d member
        have digits := digit d (by simp [member])
        have blanks := within_all _ (.repeated true 0 none (oneOf [' ','-'])) (p := fun c => [' ','-'].contains c = true)
          (fun _ accepted => accepted) _ _ _ blank d member
        simp only [List.contains_cons,List.contains_nil,Bool.or_false,Bool.or_eq_true,beq_iff_eq] at blanks
        rcases blanks with rfl | rfl
        · exact absurd digits (by decide)
        · exact absurd digits (by decide)
      subst nothing
      have rest := (ih _ y fun d member => digit d (by simp [member])).mp later
      simp [rest]
    · intro length
      cases m with
      | nil => cases length
      | cons c m =>
        refine ⟨[c],m,rfl,⟨[c],[],rfl,⟨c,rfl,(digit_classes h (digit c List.mem_cons_self)).1⟩,0,?_,rfl⟩,?_⟩
        · intro n member
          cases member
        · exact (ih _ m fun d member => digit d (List.mem_cons_of_mem c member)).mpr (by simpa using length)

theorem edge_head (word : Char → Bool) (words : ∀ c ∈ m, word c = true) (member : c ∈ m) (rest : List Char) (before : Option Char) :
    edge word before (m ++ rest).head? = !before.any word := by
  cases m with
  | nil => cases member
  | cons d m => simp [edge,words d List.mem_cons_self]

theorem digits_card (back text : List Char) (apart : back.head?.any h.unicode.word = false) (digit : ∀ c ∈ text, c.isDigit = true) :
    Occurs h.unicode.word (cardRe h) back text ↔ 13 ≤ text.length ∧ text.length ≤ 19 := by
  have sealed := card_sealed h star_mark
  have words : ∀ c ∈ text, h.unicode.word c = true := fun c member => (digit_classes h (digit c member)).2
  constructor
  · intro given
    obtain ⟨p,m,rest,rfl,matched⟩ := given
    obtain ⟨begins,middle,ends⟩ := (bounded_matches h.unicode.word _ sealed.free _ m rest).mp matched
    obtain ⟨c,member,_⟩ := sealed.has middle
    have inside : ∀ c ∈ m, h.unicode.word c = true := fun c member => words c (by simp [member])
    have first : p = [] := by
      rw [edge_head h.unicode.word inside member] at begins
      rcases List.eq_nil_or_concat p with nothing | ⟨before,last,rfl⟩
      · exact nothing
      · rw [List.concat_eq_append,List.reverse_append] at begins
        simp [words last (by simp)] at begins
    have final : rest = [] := by
      have turned : ∀ c ∈ m.reverse, h.unicode.word c = true := fun c member => inside c (List.mem_reverse.mp member)
      rw [edge,bne_comm] at ends
      have outer := (edge_head h.unicode.word turned (List.mem_reverse.mpr member) _ rest.head?).symm.trans ends
      cases rest with
      | nil => rfl
      | cons d rest => simp [words d (by simp)] at outer
    subst first final
    obtain ⟨more,few,copied⟩ := middle
    have length := (copies_digits h (13 + more) [] m [] fun c member => digit c (by simp [member])).mp copied
    have bound : more ≤ 6 := few 19 rfl
    simp only [List.nil_append,List.append_nil]
    omega
  · intro given
    obtain ⟨atLeast,atMost⟩ := given
    obtain ⟨c,member⟩ := List.exists_mem_of_length_pos (show 0 < text.length by omega)
    refine ⟨[],text,[],by simp,(bounded_matches h.unicode.word _ sealed.free _ text []).mpr ⟨?_,?_,?_⟩⟩
    · rw [edge_head h.unicode.word words member]
      simpa using apart
    · refine ⟨text.length - 13,?_,(copies_digits h _ [] text [] digit).mpr (by omega)⟩
      intro n among
      obtain rfl : 19 = n := Option.some.inj among
      omega
    · have turned : ∀ c ∈ text.reverse, h.unicode.word c = true := fun c member => words c (List.mem_reverse.mp member)
      have outer := edge_head h.unicode.word turned (List.mem_reverse.mpr member) ([].reverse ++ back) none
      rw [edge,bne_comm]
      exact outer

theorem minus_word : h.unicode.word '-' = false := by
  rw [h.unicode.ascii_word '-' (by decide)]
  decide

theorem minus_occurs (sealed : Sealed '*' needed core) (text : List Char) :
    Occurs h.unicode.word (bounded core) [] ('-' :: text) ↔ Occurs h.unicode.word (bounded core) ['-'] text := by
  refine (occurs_cons h.unicode.word _ [] '-' text).trans (or_iff_right ?_)
  intro given
  obtain ⟨m,rest,split,matched⟩ := given
  obtain ⟨begins,_,_⟩ := (bounded_matches h.unicode.word core sealed.free [] m rest).mp matched
  rw [← split] at begins
  simp [edge,minus_word] at begins

theorem int_leaks (value : Int) : leaks h (Json.encodeInt value) = cardLength value := by
  have digit : ∀ c ∈ Nat.toDigits 10 value.natAbs, c.isDigit = true := by
    intro c member
    rw [← Json.isDigit_char]
    exact Json.toDigits_digit member
  have mail : ∀ back, ¬Occurs h.unicode.word emailRe back (Nat.toDigits 10 value.natAbs) := by
    apply occurs_needed h.unicode.word (email_sealed star_mark)
    rintro c member rfl
    exact absurd (digit '@' member) (by decide)
  have hyphenated : Sealed '*' (· = '-') (ssnCore h) :=
    ⟨(ssn_sealed h star_mark).free,(ssn_sealed h star_mark).within,.inr (.inl fun c accepted => of_decide_eq_true accepted)⟩
  have social : ∀ back, ¬Occurs h.unicode.word (ssnRe h) back (Nat.toDigits 10 value.natAbs) := by
    apply occurs_needed h.unicode.word hyphenated
    rintro c member rfl
    exact absurd (digit '-' member) (by decide)
  have cards : ∀ back : List Char, back.head?.any h.unicode.word = false →
      (Occurs h.unicode.word (cardRe h) back (Nat.toDigits 10 value.natAbs) ↔ cardLength value = true) := by
    intro back apart
    rw [digits_card h back _ apart digit]
    exact decide_eq_true_iff.symm
  rw [Bool.eq_iff_iff,leaks_occurs]
  simp only [cores,List.mem_cons,List.not_mem_nil,or_false,exists_eq_or_imp,exists_eq_left]
  unfold Json.encodeInt
  split
  · rw [minus_occurs h (email_sealed star_mark),minus_occurs h (ssn_sealed h star_mark),minus_occurs h (card_sealed h star_mark)]
    have only := cards ['-'] (by simpa using minus_word h)
    exact ⟨fun found => only.mp (found.resolve_left (mail _) |>.resolve_left (social _)),fun long => .inr (.inr (only.mpr long))⟩
  · have only := cards [] rfl
    exact ⟨fun found => only.mp (found.resolve_left (mail _) |>.resolve_left (social _)),fun long => .inr (.inr (only.mpr long))⟩

end Numbers

theorem masked_leaks : leaks h (Json.escaped "***REDACTED***") = false := by
  have letters : ∀ c ∈ Json.escaped "***REDACTED***", c ≠ '@' ∧ c.toNat < 128 ∧ c.isDigit = false :=
    List.all_iff_forall_prop.mp (by decide)
  refine plain_leaks h fun c member => ⟨(letters c member).1,?_⟩
  rw [h.unicode.ascii_digit c (letters c member).2.1,(letters c member).2.2]
  decide

mutual
theorem tokens_plain : (value : Json) → ((∀ token ∈ Json.tokens (scrubPii h value), leaks h token = false) ↔ plain h value = true)
  | .null => by simp [scrubPii,Json.tokens,plain]
  | .bool _ => by simp [scrubPii,Json.tokens,plain]
  | .int value => by simp [scrubPii,Json.tokens,plain,int_leaks]
  | .float text => by simp [scrubPii,Json.tokens,plain]
  | .str value => by simp [scrubPii,Json.tokens,plain]
  | .array items => by
    unfold scrubPii Json.tokens plain
    exact itemTokens_plain items
  | .object members => by
    unfold scrubPii Json.tokens plain
    exact memberTokens_plain members
theorem itemTokens_plain : (items : List Json) →
    ((∀ token ∈ Json.itemTokens (scrubItems h items), leaks h token = false) ↔ plainItems h items = true)
  | [] => by simp [scrubItems,Json.itemTokens,plainItems]
  | item :: rest => by
    unfold scrubItems Json.itemTokens plainItems
    rw [List.forall_mem_append,tokens_plain item,itemTokens_plain rest,Bool.and_eq_true]
theorem memberTokens_plain : (members : List (String × Json)) →
    ((∀ token ∈ Json.memberTokens (scrubMembers h members), leaks h token = false) ↔ plainMembers h members = true)
  | [] => by simp [scrubMembers,Json.memberTokens,plainMembers]
  | (key,item) :: rest => by
    unfold scrubMembers Json.memberTokens plainMembers
    rw [List.forall_mem_cons,List.forall_mem_append,memberTokens_plain rest]
    cases secret : sensitive h key with
    | true => simp [Json.tokens,masked_leaks]
    | false =>
      rw [if_neg (by decide),tokens_plain item]
      simp [and_assoc]
end

section Printable

def Printable (c : Char) : Prop := 32 ≤ c.toNat ∧ c.toNat < 127 ∧ c ≠ '"' ∧ c ≠ '\\'

instance (c : Char) : Decidable (Printable c) := inferInstanceAs (Decidable (_ ∧ _))

theorem printable_escape (printable : Printable c) : Json.escapeChar c = [c] := by
  obtain ⟨low,high,quote,backslash⟩ := printable
  have short : Json.shortEscapes.lookup c = none := by
    rw [List.lookup_eq_none_iff]
    intro pair member
    simp only [Json.shortEscapes,List.mem_cons,List.not_mem_nil,or_false] at member
    have control : ∀ d : Char, d.toNat < 32 → c ≠ d := by
      rintro d below rfl
      omega
    rcases member with rfl | rfl | rfl | rfl | rfl | rfl | rfl
    · simpa using backslash
    · simpa using quote
    · simpa using control '\x08' (by decide)
    · simpa using control '\x0c' (by decide)
    · simpa using control '\n' (by decide)
    · simpa using control '\r' (by decide)
    · simpa using control '\t' (by decide)
  unfold Json.escapeChar
  rw [short]
  exact if_pos ⟨low,high⟩

theorem sub_printable (redaction : Redaction needed core) (named : label ∈ labels) (value : List Char)
    (printable : ∀ c ∈ value, Printable c) :
    ∀ c ∈ (bounded core).sub h.unicode.word (mask label) 0 [] value, Printable c := by
  have masks : ∀ c ∈ labels.flatMap mask, Printable c := List.all_iff_forall_prop.mp (by decide)
  intro c member
  rcases replaced_chars _ (sub_replaced _ _ (mask label) (redaction.sealed _ star_mark).visible [] value) c member with old | new
  · exact printable c old
  · exact masks c (List.mem_flatMap.mpr ⟨label,named,new⟩)

-- Text that JSON prints as it is loses every match.
theorem printable_plain (value : String) (printable : ∀ c ∈ value.toList, Printable c) : plain h (.str value) = true := by
  have redacted : ∀ c ∈ redactChars h value.toList, Printable c := by
    refine sub_printable h (phone_redaction h) (by decide) _ ?_
    refine sub_printable h (card_redaction h) (by decide) _ ?_
    refine sub_printable h (ssn_redaction h) (by decide) _ ?_
    exact sub_printable h email_redaction (by decide) _ printable
  have same : Json.escaped (redact h value) = redactChars h value.toList := by
    unfold Json.escaped redact
    rw [String.toList_ofList]
    exact (List.flatMap_congr fun c member => printable_escape (redacted c member)).trans (List.flatMap_singleton' _)
  have absent := redacted_unmatched h value.toList
  unfold plain
  rw [same,Bool.not_eq_true',leaks_false]
  intro core member
  simp only [cores,List.mem_cons,List.not_mem_nil,or_false] at member
  rcases member with rfl | rfl | rfl
  · exact absent.email
  · exact absent.ssn
  · exact absent.card

end Printable

section Lines

-- The line with a note at each character, whether it came from the message or the exception.
def memberText (member : String × Json) : List Char := Json.encodeString member.1 ++ ':' :: Json.compact member.2

def noted (came : Bool) (text : List Char) : List (Char × Bool) := text.map fun c => (c,came)

def tracedLine (came : String → Bool) (event : Event) : List (Char × Bool) :=
  ('\x7b',false) :: ([(',',false)].intercalate ((scrubMembers h event.entries).map fun member => noted (came member.1) (memberText member))
    ++ [('\x7d',false)])

def came (record : LogRecord) (key : String) : Bool :=
  (record.exception.isSome && decide (key = "exception")) ||
    match messageEvent h record.message with
    | .ok own => decide (key ∈ own.keys)
    | .error _ => false

def tracedFormat (f : CloudWatchJSONFormatter) (correlationId : Option String) (record : LogRecord) :
    Except Json.Error (List (Char × Bool)) :=
  (eventOf h f correlationId record).map (tracedLine h (came h record))

theorem noted_text (note : Bool) (text : List Char) : (noted note text).map Prod.fst = text := by
  unfold noted
  rw [List.map_map]
  exact List.map_id text

theorem joined_text (separator : Char × Bool) (parts : List (List (Char × Bool))) :
    ([separator].intercalate parts).map Prod.fst = [separator.1].intercalate (parts.map (List.map Prod.fst)) := by
  induction parts with
  | nil => rfl
  | cons part rest ih =>
    cases rest with
    | nil => simp [List.intercalate]
    | cons next rest =>
      simp only [List.intercalate,List.map_cons,List.intersperse,List.flatten_cons,List.map_append] at ih ⊢
      rw [ih]
      rfl

theorem members_text (members : List (String × Json)) : Json.compactMembers members = members.map memberText := by
  induction members with
  | nil => rfl
  | cons member rest ih =>
    rw [List.map_cons,← ih]
    rfl

theorem traced_text (came : String → Bool) (event : Event) :
    (tracedLine h came event).map Prod.fst = Json.compact (scrubPii h (.object event.entries)) := by
  unfold tracedLine scrubPii Json.compact
  rw [List.map_cons,List.map_append,joined_text,List.map_map,members_text]
  have parts : (scrubMembers h event.entries).map (List.map Prod.fst ∘ fun member => noted (came member.1) (memberText member)) =
      (scrubMembers h event.entries).map memberText :=
    List.map_congr_left fun member _ => noted_text _ _
  rw [parts]
  rfl

theorem format_traced (f : CloudWatchJSONFormatter) (correlationId : Option String) (record : LogRecord) :
    format h f correlationId record = (tracedFormat h f correlationId record).map fun line => String.ofList (line.map Prod.fst) := by
  unfold format tracedFormat
  cases eventOf h f correlationId record with
  | error error => rfl
  | ok event => exact congrArg (fun text => Except.ok (String.ofList text)) (traced_text h (came h record) event).symm

-- No match in the line has a character that came from the message or the exception.
def PiiFree (line : List (Char × Bool)) : Prop :=
  ∀ core ∈ cores h, ¬Touches h.unicode.word Prod.fst (fun c => c.2 = true) (bounded core) [] line

def plainMember (member : String × Json) : Bool :=
  !leaks h (Json.escaped member.1) && (sensitive h member.1 || plain h member.2)

theorem memberText_leaks (key : String) (item : Json) : (∀ core ∈ cores h, ¬Occurs h.unicode.word (bounded core) [] (memberText (key,item))) ↔
    leaks h (Json.escaped key) = false ∧ ∀ token ∈ Json.tokens item, leaks h token = false := by
  have each : ∀ core ∈ cores h, (¬Occurs h.unicode.word (bounded core) [] (memberText (key,item)) ↔
      ¬Occurs h.unicode.word (bounded core) [] (Json.escaped key) ∧
        ∀ token ∈ Json.tokens item, ¬Occurs h.unicode.word (bounded core) [] token) := by
    intro core member
    obtain ⟨needed,_,fits⟩ := cores_redaction h member
    rw [memberText,fits.separated (by decide),Json.string_occurs fits,Json.compact_occurs fits,not_or]
    simp only [not_exists,not_and]
  simp only [leaks_false]
  constructor
  · intro absent
    exact ⟨fun core member => ((each core member).mp (absent core member)).1,
      fun token inside core member => ((each core member).mp (absent core member)).2 token inside⟩
  · rintro ⟨keyAbsent,tokensAbsent⟩ core member
    exact (each core member).mpr ⟨keyAbsent core member,fun token inside => tokensAbsent token inside core member⟩

def scrubMember (member : String × Json) : String × Json :=
  (member.1,if sensitive h member.1 then .str "***REDACTED***" else scrubPii h member.2)

theorem scrubMembers_map (members : List (String × Json)) : scrubMembers h members = members.map (scrubMember h) := by
  induction members with
  | nil => rfl
  | cons member rest ih =>
    rw [List.map_cons,← ih]
    rfl

theorem scrubMember_leaks (member : String × Json) :
    (∀ core ∈ cores h, ¬Occurs h.unicode.word (bounded core) [] (memberText (scrubMember h member))) ↔ plainMember h member = true := by
  obtain ⟨key,item⟩ := member
  unfold scrubMember plainMember
  rw [memberText_leaks]
  cases secret : sensitive h key with
  | true => simp [Json.tokens,masked_leaks]
  | false =>
    rw [if_neg (by simp),tokens_plain]
    simp

theorem noted_touches (sealed : Sealed mark needed core) (note : Bool) (text : List Char) :
    Touches h.unicode.word Prod.fst (fun c : Char × Bool => c.2 = true) (bounded core) [] (noted note text) ↔
      note = true ∧ Occurs h.unicode.word (bounded core) [] text := by
  cases note with
  | true =>
    have all : ∀ c ∈ noted true text, c.2 = true := by
      intro c member
      obtain ⟨_,_,rfl⟩ := List.mem_map.mp member
      rfl
    rw [touches_all h.unicode.word Prod.fst _ sealed [] _ all,noted_text]
    exact (and_iff_right rfl).symm
  | false =>
    have none : ∀ c ∈ noted false text, ¬c.2 = true := by
      intro c member
      obtain ⟨_,_,rfl⟩ := List.mem_map.mp member
      exact Bool.false_ne_true
    exact iff_of_false (touches_none h.unicode.word Prod.fst _ _ [] _ none) fun both => absurd both.1 (by decide)

-- A match lies within one member, so the line is free where its members are.
theorem tracedLine_touches (came : String → Bool) (event : Event) (member : core ∈ cores h) :
    Touches h.unicode.word Prod.fst (fun c => c.2 = true) (bounded core) [] (tracedLine h came event) ↔
      ∃ entry ∈ event.entries, came entry.1 = true ∧ Occurs h.unicode.word (bounded core) [] (memberText (scrubMember h entry)) := by
  obtain ⟨needed,_,fits⟩ := cores_redaction h member
  have separated : ∀ c ∈ Json.structural, ∀ a b : List (Char × Bool), _ := fun c inside a b =>
    touches_separated h.unicode.word Prod.fst (fun c : Char × Bool => c.2 = true) (d := (c,false)) (fits.mark inside) (fits.apart inside) [] a b
  have opening := separated '\x7b' (by decide) []
  have closing := fun a => separated '\x7d' (by decide) a []
  have joined := touches_joined h.unicode.word Prod.fst (fun c : Char × Bool => c.2 = true) (d := (',',false))
    (fits.mark (show ',' ∈ Json.structural by decide)) (fits.apart (by decide))
  unfold tracedLine
  refine (opening _).trans ?_
  rw [closing,joined,scrubMembers_map]
  simp only [touches_nil h.unicode.word Prod.fst,false_or,or_false,List.map_map,List.mem_map,exists_exists_and_eq_and]
  refine exists_congr fun entry => and_congr_right fun _ => ?_
  exact noted_touches h (fits.mark (show ',' ∈ Json.structural by decide)) _ _

theorem tracedLine_free (came : String → Bool) (event : Event) : PiiFree h (tracedLine h came event) ↔
    ∀ entry ∈ event.entries, came entry.1 = true → plainMember h entry = true := by
  have touches : ∀ core ∈ cores h, (¬Touches h.unicode.word Prod.fst (fun c => c.2 = true) (bounded core) [] (tracedLine h came event) ↔
      ∀ entry ∈ event.entries, came entry.1 = true → ¬Occurs h.unicode.word (bounded core) [] (memberText (scrubMember h entry))) := by
    intro core member
    rw [tracedLine_touches h came event member]
    simp only [not_exists,not_and]
  constructor
  · intro free entry member origin
    exact (scrubMember_leaks h entry).mp fun core listed => (touches core listed).mp (free core listed) entry member origin
  · intro plains core listed
    exact (touches core listed).mpr fun entry member origin => (scrubMember_leaks h entry).mpr (plains entry member origin) core listed

-- The context never replaces a field of the message.
theorem setDefault_kept (event : Event) (key : String) (value : Json) (found : event.get? other = some item) :
    (event.setDefault key value).get? other = some item := by
  unfold Event.setDefault
  split
  · exact found
  · rename_i absent
    have different : other ≠ key := by
      rintro rfl
      exact absent ((event.mem_keys _).mpr ⟨item,found⟩)
    rw [OrderedDict.get?_set,if_neg different]
    exact found

theorem withContext_kept (f : CloudWatchJSONFormatter) (correlationId : Option String) (record : LogRecord) (own : Event)
    (found : own.get? key = some item) : (withContext h f correlationId record own).get? key = some item := by
  have timed := setDefault_kept _ "timestamp" (.str (h.isoformat record.created)) <|
    setDefault_kept _ "level" (.str (h.lower record.levelname)) <| setDefault_kept _ "logger" (.str record.name) <|
    setDefault_kept _ "environment" (.str f.environment) <| setDefault_kept own "service" (.str f.service) found
  unfold withContext
  cases correlationId with
  | none => exact timed
  | some id =>
    dsimp only
    split
    · exact timed
    · exact setDefault_kept _ _ _ timed

-- The fields that came from the record: those of the message that no exception replaces,
-- and the exception.
theorem eventOf_came (f : CloudWatchJSONFormatter) (correlationId : Option String) (record : LogRecord) (own : Event)
    (read : messageEvent h record.message = .ok own) (entry : String × Json) :
    entry ∈ (withException record (withContext h f correlationId record own)).entries ∧ came h record entry.1 = true ↔
      (entry ∈ own.entries ∧ ¬(record.exception.isSome = true ∧ entry.1 = "exception")) ∨
        ∃ text ∈ record.exception, entry = ("exception",.str text) := by
  obtain ⟨key,item⟩ := entry
  have origin : came h record key = true ↔ (record.exception.isSome = true ∧ key = "exception") ∨ ∃ v, own.get? key = some v := by
    unfold came
    rw [read,Bool.or_eq_true,Bool.and_eq_true,decide_eq_true_iff,decide_eq_true_iff,OrderedDict.mem_keys]
  rw [OrderedDict.get?_entry,OrderedDict.get?_entry,origin]
  unfold withException
  cases record.exception with
  | none =>
    simp only [Option.isSome_none,Bool.false_eq_true,false_and,false_or,not_false_eq_true,and_true,Option.not_mem_none,exists_false,or_false]
    constructor
    · intro given
      obtain ⟨there,v,found⟩ := given
      rw [withContext_kept h f correlationId record own found] at there
      rwa [← there]
    · intro found
      exact ⟨withContext_kept h f correlationId record own found,item,found⟩
  | some text =>
    dsimp only
    rw [OrderedDict.get?_set]
    by_cases replaced : key = "exception"
    · subst replaced
      simp [eq_comm]
    · simp only [replaced,if_false,and_false,false_or,not_false_eq_true,and_true,Prod.mk.injEq,false_and,exists_false,or_false]
      constructor
      · intro given
        obtain ⟨there,v,found⟩ := given
        rw [withContext_kept h f correlationId record own found] at there
        rwa [← there]
      · intro found
        exact ⟨withContext_kept h f correlationId record own found,item,found⟩

-- Every line that format gives is free of what came with the record.
def FreeLines (f : CloudWatchJSONFormatter) (correlationId : Option String) (record : LogRecord) : Prop :=
  ∀ line, format h f correlationId record = .ok line → ∀ traced, tracedFormat h f correlationId record = .ok traced →
    traced.map Prod.fst = line.toList ∧ PiiFree h traced

-- No field of the message and no exception has a key or a number that prints as a match,
-- or a redacted text that gets one from the escapes.
def PlainRecord (record : LogRecord) : Prop :=
  ∀ own, messageEvent h record.message = .ok own →
    (∀ entry ∈ own.entries, ¬(record.exception.isSome = true ∧ entry.1 = "exception") → plainMember h entry = true) ∧
      ∀ text ∈ record.exception, plainMember h ("exception",.str text) = true

theorem freeLines_event (f : CloudWatchJSONFormatter) (correlationId : Option String) (record : LogRecord) (own : Event)
    (read : messageEvent h record.message = .ok own) : FreeLines h f correlationId record ↔
      PiiFree h (tracedLine h (came h record) (withException record (withContext h f correlationId record own))) := by
  have traced : tracedFormat h f correlationId record =
      .ok (tracedLine h (came h record) (withException record (withContext h f correlationId record own))) := by
    unfold tracedFormat eventOf
    rw [read]
    rfl
  have printed := format_traced h f correlationId record
  rw [traced] at printed
  constructor
  · intro free
    exact (free _ printed _ traced).2
  · intro free line formatted other same
    rw [traced] at same
    cases same
    rw [printed] at formatted
    cases formatted
    exact ⟨String.toList_ofList.symm,free⟩

theorem log_lines_free (f : CloudWatchJSONFormatter) (correlationId : Option String) (record : LogRecord) :
    (FreeLines h f correlationId record ∧ ∀ value, scrubPii h (scrubPii h value) = scrubPii h value) ↔ PlainRecord h record := by
  rw [and_iff_left (scrubPii_twice h)]
  cases read : messageEvent h record.message with
  | error error =>
    have failed : format h f correlationId record = .error error := by
      unfold format eventOf
      rw [read]
      rfl
    refine iff_of_true ?_ ?_
    · intro line formatted
      rw [failed] at formatted
      cases formatted
    · intro own found
      rw [read] at found
      cases found
  | ok own =>
    rw [freeLines_event h f correlationId record own read,tracedLine_free]
    have fields := eventOf_came h f correlationId record own read
    constructor
    · intro free other found
      rw [read] at found
      cases found
      refine ⟨fun entry member kept => ?_,fun text raised => ?_⟩
      · obtain ⟨inside,origin⟩ := (fields entry).mpr (.inl ⟨member,kept⟩)
        exact free entry inside origin
      · obtain ⟨inside,origin⟩ := (fields _).mpr (.inr ⟨text,raised,rfl⟩)
        exact free _ inside origin
    · intro plains entry inside origin
      obtain ⟨ownPlain,exceptionPlain⟩ := plains own read
      rcases (fields entry).mp ⟨inside,origin⟩ with ⟨member,kept⟩ | ⟨text,raised,rfl⟩
      · exact ownPlain entry member kept
      · exact exceptionPlain text raised

end Lines

section Leak

def asciiTables : UnicodeTables where
  word c := c.isAlphanum || decide (c = '_')
  digit c := c.isDigit
  ascii_word _ _ := rfl
  ascii_digit _ _ := rfl

def asciiHost : LogHost := ⟨asciiTables,id,id,fun _ => "",100⟩

def cardMessage : LogRecord := ⟨Json.dumpsLine (.object [("pan",.int 4111111111111111)]),"api","INFO",0,none⟩

theorem cardMessage_read : messageEvent asciiHost cardMessage.message = .ok (.ofList [("pan",.int 4111111111111111)]) := by
  have loaded : Json.loads 100 cardMessage.message = .ok (.object [("pan",.int 4111111111111111)]) :=
    Json.loads_dumpsLine _ (by decide +kernel) 100 (by decide +kernel)
  unfold messageEvent
  rw [show asciiHost.recursionLimit = 100 from rfl,loaded]
  rfl

-- A card number that the message has as a JSON number.
theorem card_number_logged : ¬(FreeLines asciiHost ⟨"api","dev"⟩ none cardMessage ∧
    ∀ value, scrubPii asciiHost (scrubPii asciiHost value) = scrubPii asciiHost value) := by
  intro given
  obtain ⟨free,_⟩ := given
  have lines := (freeLines_event asciiHost ⟨"api","dev"⟩ none cardMessage _ cardMessage_read).mp free
  have field : ("pan",Json.int 4111111111111111) ∈ (OrderedDict.ofList [("pan",Json.int 4111111111111111)]).entries := List.mem_cons_self
  have noException : ¬(cardMessage.exception.isSome = true ∧ "pan" = "exception") := fun both => absurd both.1 (by decide)
  obtain ⟨inside,origin⟩ := (eventOf_came asciiHost ⟨"api","dev"⟩ none cardMessage _ cardMessage_read _).mpr (.inl ⟨field,noException⟩)
  have plains := (tracedLine_free asciiHost _ _).mp lines _ inside origin
  have leaked : plainMember asciiHost ("pan",.int 4111111111111111) = false := by decide +kernel
  rw [leaked] at plains
  cases plains

end Leak

end CloudWatchFormatter
end RiskPulse
