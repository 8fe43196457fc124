import Mathlib.Algebra.BigOperators.Group.List.Basic
import Mathlib.Data.List.Basic
import Mathlib.Tactic.Ring

-- A call as SQL reads it: its name, and string literals between parentheses. Inside a
-- literal a quote is doubled, and a backslash takes the next character with it.
namespace SqlText

def quote : Char := '\''

def backslash : Char := '\\'

def isBlank (c : Char) : Bool := decide (c = ' ' ∨ c = '\t' ∨ c = '\n' ∨ c = '\r')

-- What a backslash and a character stand for.
def escaped (c : Char) : Char :=
  if c = 'n' then '\n' else if c = 't' then '\t' else if c = 'r' then '\r'
  else if c = 'b' then '\x08' else if c = 'f' then '\x0c' else if c = '0' then '\x00' else c

inductive Token where
  | literal (text : List Char)
  | mark (c : Char)
  deriving DecidableEq

-- Between the tokens; in a literal that stands for a text so far; behind a backslash in
-- it; and behind a quote in it, which ends it unless another one follows.
inductive Scan where
  | outside
  | inside (text : List Char)
  | escaping (text : List Char)
  | closing (text : List Char)

def between (c : Char) : List Token × Scan :=
  if c = quote then ([],.inside []) else if isBlank c = true then ([],.outside) else ([.mark c],.outside)

def scan : Scan → Char → List Token × Scan
  | .outside,c => between c
  | .inside text,c =>
    if c = quote then ([],.closing text) else if c = backslash then ([],.escaping text) else ([],.inside (text ++ [c]))
  | .escaping text,c => ([],.inside (text ++ [escaped c]))
  | .closing text,c =>
    if c = quote then ([],.inside (text ++ [quote])) else (.literal text :: (between c).1,(between c).2)

def tokens : Scan → List Char → Option (List Token)
  | .outside,[] => some []
  | .closing text,[] => some [.literal text]
  | .inside _,[] | .escaping _,[] => none
  | s,c :: rest => (tokens (scan s c).2 rest).map ((scan s c).1 ++ ·)

def listed : List Token → Option (List (List Char))
  | [.literal text,.mark ')'] => some [text]
  | .literal text :: .mark ',' :: rest => (listed rest).map (text :: ·)
  | _ => none

def arguments : List Token → Option (List (List Char))
  | [.mark '(',.mark ')'] => some []
  | .mark '(' :: rest => listed rest
  | _ => none

def isNameStart (c : Char) : Bool := decide (('A' ≤ c ∧ c ≤ 'Z') ∨ ('a' ≤ c ∧ c ≤ 'z') ∨ c = '_')

def isNameChar (c : Char) : Bool := isNameStart c || decide (('0' ≤ c ∧ c ≤ '9') ∨ c = '$')

def isIdentifier : List Char → Bool
  | [] => false
  | c :: rest => isNameStart c && rest.all isNameChar

-- Identifiers with dots between them.
def isName (text : List Char) : Bool := (text.splitOn '.').all isIdentifier

def inName (c : Char) : Bool := isNameChar c || decide (c = '.')

def callWord : List Char := ['C','A','L','L',' ']

-- One CALL, and nothing after it.
def call (text : List Char) : Option (List Char × List (List Char)) :=
  let rest := text.drop callWord.length
  let name := rest.takeWhile inName
  if callWord <+: text ∧ isName name = true then
    ((tokens .outside (rest.drop name.length)).bind arguments).map fun texts => (name,texts)
  else none

def Plain (text : List Char) : Prop := quote ∉ text ∧ backslash ∉ text

instance (text : List Char) : Decidable (Plain text) := inferInstanceAs (Decidable (_ ∧ _))

section Reading

theorem tokens_cons (s : Scan) (c : Char) (rest : List Char) :
    tokens s (c :: rest) = (tokens (scan s c).2 rest).map ((scan s c).1 ++ ·) := by
  cases s <;> rfl

theorem tokens_plain (start text rest : List Char) (plain : Plain text) :
    tokens (.inside start) (text ++ rest) = tokens (.inside (start ++ text)) rest := by
  induction text generalizing start with
  | nil => rw [List.nil_append,List.append_nil]
  | cons c text ih =>
    have other : c ≠ quote ∧ c ≠ backslash :=
      ⟨fun same => plain.1 (same ▸ List.mem_cons_self),fun same => plain.2 (same ▸ List.mem_cons_self)⟩
    have later : Plain text := ⟨fun member => plain.1 (List.mem_cons_of_mem _ member),fun member => plain.2 (List.mem_cons_of_mem _ member)⟩
    rw [List.cons_append,tokens_cons,scan,if_neg other.1,if_neg other.2,ih _ later,List.append_assoc,List.singleton_append]
    exact Option.map_id' ..

-- A plain text between quotes stands for itself, when what follows is no quote.
theorem tokens_literal (text : List Char) (plain : Plain text) (c : Char) (rest : List Char) (ends : c ≠ quote) :
    tokens .outside (quote :: (text ++ quote :: c :: rest)) = (tokens .outside (c :: rest)).map (.literal text :: ·) := by
  have opened : tokens .outside (quote :: (text ++ quote :: c :: rest)) = tokens (.inside []) (text ++ quote :: c :: rest) := by
    rw [tokens_cons]
    exact Option.map_id' ..
  rw [opened,tokens_plain _ _ _ plain,List.nil_append,tokens_cons,scan,if_pos rfl,tokens_cons,scan,if_neg ends,tokens_cons,scan]
  simp only [Option.map_map]
  rfl

end Reading

section Weight

-- Every character that can not stand between two arguments.
def weight (c : Char) : Nat := if c = ',' ∨ isBlank c = true then 0 else 1

def textWeight (text : List Char) : Nat := (text.map weight).sum

def Token.weight : Token → Nat
  | .literal text => 2 + textWeight text
  | .mark c => SqlText.weight c

def tokensWeight (found : List Token) : Nat := (found.map Token.weight).sum

-- The weight of what the state has read of a token.
def Scan.weight : Scan → Nat
  | .outside => 0
  | .inside text => 1 + textWeight text
  | .escaping text | .closing text => 2 + textWeight text

theorem textWeight_append (a b : List Char) : textWeight (a ++ b) = textWeight a + textWeight b := by
  rw [textWeight,List.map_append,List.sum_append]
  rfl

theorem textWeight_cons (c : Char) (text : List Char) : textWeight (c :: text) = weight c + textWeight text := by
  rw [textWeight,List.map_cons,List.sum_cons]
  rfl

theorem textWeight_snoc (text : List Char) (c : Char) : textWeight (text ++ [c]) = textWeight text + weight c :=
  textWeight_append text [c]

theorem tokensWeight_append (a b : List Token) : tokensWeight (a ++ b) = tokensWeight a + tokensWeight b := by
  rw [tokensWeight,List.map_append,List.sum_append]
  rfl

theorem weight_blank (c : Char) (blank : isBlank c = true) : weight c = 0 := if_pos (.inr blank)

theorem weight_quote : weight quote = 1 := by decide

theorem weight_backslash : weight backslash = 1 := by decide

theorem weight_escaped (c : Char) : weight (escaped c) ≤ weight c := by
  unfold escaped
  repeat'
    split
    · rename_i same
      rw [same]
      decide
  exact le_rfl

theorem between_weight (c : Char) : tokensWeight (between c).1 + (between c).2.weight = weight c := by
  unfold between
  split
  · rename_i same
    rw [same]
    rfl
  · split
    · rename_i blank
      rw [weight_blank c blank]
      rfl
    · rfl

-- A step keeps the weight, or loses some of it.
theorem scan_weight (s : Scan) (c : Char) : tokensWeight (scan s c).1 + (scan s c).2.weight ≤ s.weight + weight c := by
  have nothing : tokensWeight [] = 0 := rfl
  cases s with
  | outside =>
    rw [scan,between_weight]
    exact Nat.le_add_left _ _
  | inside text =>
    rw [scan]
    split
    · rename_i same
      rw [same,weight_quote,nothing,Scan.weight,Scan.weight]
      omega
    · split
      · rename_i same
        rw [same,weight_backslash,nothing,Scan.weight,Scan.weight]
        omega
      · rw [nothing,Scan.weight,Scan.weight,textWeight_snoc]
        omega
  | escaping text =>
    have less := weight_escaped c
    rw [scan,nothing,Scan.weight,Scan.weight,textWeight_snoc]
    omega
  | closing text =>
    rw [scan]
    split
    · rename_i same
      rw [same,weight_quote,nothing,Scan.weight,Scan.weight,textWeight_snoc,weight_quote]
      omega
    · have rest := between_weight c
      change 2 + textWeight text + tokensWeight (between c).1 + (between c).2.weight ≤ 2 + textWeight text + weight c
      omega

theorem tokens_weight (s : Scan) (text : List Char) (found : List Token) (read : tokens s text = some found) :
    tokensWeight found ≤ s.weight + textWeight text := by
  induction text generalizing s found with
  | nil =>
    cases s with
    | outside =>
      cases read
      exact Nat.zero_le _
    | closing text =>
      cases read
      exact le_rfl
    | inside text => cases read
    | escaping text => cases read
  | cons c text ih =>
    rw [tokens_cons] at read
    obtain ⟨later,rest,rfl⟩ := Option.map_eq_some_iff.mp read
    have step := scan_weight s c
    have others := ih _ _ rest
    rw [tokensWeight_append,textWeight_cons]
    omega

-- An escape always loses some of it.
theorem tokens_escaping (start text : List Char) (found : List Token) (read : tokens (.escaping start) text = some found) :
    tokensWeight found < 2 + textWeight start + textWeight text := by
  cases text with
  | nil => cases read
  | cons c text =>
    rw [tokens_cons,scan] at read
    obtain ⟨later,rest,rfl⟩ := Option.map_eq_some_iff.mp read
    have others := tokens_weight _ _ _ rest
    have less := weight_escaped c
    rw [Scan.weight,textWeight_snoc] at others
    rw [List.nil_append,textWeight_cons]
    omega

def Scan.Clean : Scan → Prop
  | .outside => True
  | .inside text | .closing text => Plain text
  | .escaping _ => False

theorem between_clean (c : Char) : (between c).2.Clean ∧ ∀ text, .literal text ∉ (between c).1 := by
  unfold between
  split
  · exact ⟨⟨by simp,by simp⟩,by simp⟩
  · split
    · exact ⟨trivial,by simp⟩
    · exact ⟨trivial,by simp⟩

-- Where nothing is lost, no quote was doubled and nothing escaped.
theorem tokens_clean (s : Scan) (text : List Char) (found : List Token) (read : tokens s text = some found)
    (whole : s.weight + textWeight text ≤ tokensWeight found) (clean : s.Clean) : ∀ t, .literal t ∈ found → Plain t := by
  induction text generalizing s found with
  | nil =>
    cases s with
    | outside =>
      cases read
      intro t member
      cases member
    | closing text =>
      cases read
      intro t member
      cases List.mem_singleton.mp member
      exact clean
    | inside text => cases read
    | escaping text => cases read
  | cons c text ih =>
    rw [tokens_cons] at read
    obtain ⟨later,rest,rfl⟩ := Option.map_eq_some_iff.mp read
    have step := scan_weight s c
    rw [tokensWeight_append,textWeight_cons] at whole
    have kept : (scan s c).2.weight + textWeight text ≤ tokensWeight later := by omega
    have next : (scan s c).2.Clean → ∀ t, .literal t ∈ later → Plain t := ih _ _ rest kept
    clear ih
    cases s with
    | outside =>
      intro t member
      rcases List.mem_append.mp member with here | further
      · exact absurd here ((between_clean c).2 t)
      · exact next (between_clean c).1 t further
    | inside start =>
      have moved : (scan (.inside start) c).2.Clean := by
        rw [scan] at rest ⊢
        split
        · exact clean
        · rename_i other
          rw [if_neg other] at rest
          split
          · rename_i escape
            rw [scan,if_neg other,if_pos escape] at kept
            rw [if_pos escape] at rest
            have lost := tokens_escaping _ _ _ rest
            rw [Scan.weight] at kept
            omega
          · rename_i plain
            refine ⟨?_,?_⟩
            · simpa using ⟨clean.1,Ne.symm other⟩
            · simpa using ⟨clean.2,Ne.symm plain⟩
      have none : (scan (.inside start) c).1 = [] := by
        rw [scan]
        split
        · rfl
        · split <;> rfl
      rw [none,List.nil_append]
      exact next moved
    | escaping start => exact clean.elim
    | closing start =>
      by_cases again : c = quote
      · have others := tokens_weight _ _ _ rest
        rw [scan,if_pos again] at others whole
        rw [again,weight_quote,Scan.weight] at whole
        rw [Scan.weight,textWeight_snoc,weight_quote] at others
        have nothing : tokensWeight [] = 0 := rfl
        rw [nothing] at whole
        omega
      · rw [scan,if_neg again] at next ⊢
        intro t member
        rcases List.mem_cons.mp member with same | member
        · cases same
          exact clean
        · rcases List.mem_append.mp member with here | further
          · exact absurd here ((between_clean c).2 t)
          · exact next (between_clean c).1 t further

end Weight

section Call

def literalText (text : List Char) : List Char := quote :: (text ++ [quote])

-- A text between quotes for each argument, as it is.
def callText (name : List Char) (texts : List (List Char)) : List Char :=
  callWord ++ (name ++ '(' :: ([',',' '].intercalate (texts.map literalText) ++ [')']))

theorem literalText_weight (text : List Char) : textWeight (literalText text) = 2 + textWeight text := by
  rw [literalText,textWeight_cons,textWeight_snoc,weight_quote]
  omega

theorem literals_weight (texts : List (List Char)) :
    textWeight ([',',' '].intercalate (texts.map literalText)) = (texts.map fun text => 2 + textWeight text).sum := by
  have separator : textWeight [',',' '] = 0 := by decide
  induction texts with
  | nil => rfl
  | cons text rest ih =>
    cases rest with
    | nil =>
      rw [List.map_singleton,List.intercalate_singleton,literalText_weight]
      rfl
    | cons next rest =>
      rw [List.map_cons,List.map_cons] at ih ⊢
      rw [List.intercalate_cons_cons,textWeight_append,textWeight_append,separator,literalText_weight,ih,List.map_cons,List.sum_cons]
      rfl

theorem listed_holds (found : List Token) (texts : List (List Char)) (read : listed found = some texts) :
    (∀ text ∈ texts, .literal text ∈ found) ∧ tokensWeight found = 1 + (texts.map fun text => 2 + textWeight text).sum := by
  fun_induction listed found generalizing texts with
  | case1 text =>
    cases read
    refine ⟨by simp,?_⟩
    change 2 + textWeight text + 1 = 1 + (2 + textWeight text)
    omega
  | case2 text rest ih =>
    obtain ⟨others,later,rfl⟩ := Option.map_eq_some_iff.mp read
    obtain ⟨held,weighed⟩ := ih others later
    constructor
    · intro other member
      rcases List.mem_cons.mp member with rfl | further
      · exact List.mem_cons_self
      · exact List.mem_cons_of_mem _ (List.mem_cons_of_mem _ (held other further))
    · rw [List.map_cons,List.sum_cons]
      change 2 + textWeight text + (0 + tokensWeight rest) = _
      omega
  | case3 => cases read

theorem arguments_holds (found : List Token) (texts : List (List Char)) (read : arguments found = some texts) :
    (∀ text ∈ texts, .literal text ∈ found) ∧ tokensWeight found = 2 + (texts.map fun text => 2 + textWeight text).sum := by
  unfold arguments at read
  split at read
  · cases read
    exact ⟨by simp,rfl⟩
  · rename_i rest _
    obtain ⟨held,weighed⟩ := listed_holds rest texts read
    refine ⟨fun text member => List.mem_cons_of_mem _ (held text member),?_⟩
    change 1 + tokensWeight rest = _
    omega
  · cases read

def listTokens : List (List Char) → List Token
  | [] => [.mark ')']
  | [text] => [.literal text,.mark ')']
  | text :: next :: rest => .literal text :: .mark ',' :: listTokens (next :: rest)

theorem listed_tokens (text : List Char) (rest : List (List Char)) : listed (listTokens (text :: rest)) = some (text :: rest) := by
  induction rest generalizing text with
  | nil => rfl
  | cons next rest ih =>
    rw [listTokens,listed,ih]
    rfl

theorem tokens_list (texts : List (List Char)) (plain : ∀ text ∈ texts, Plain text) :
    tokens .outside ([',',' '].intercalate (texts.map literalText) ++ [')']) = some (listTokens texts) := by
  induction texts with
  | nil => rfl
  | cons text rest ih =>
    have here := plain text List.mem_cons_self
    have later := ih fun other member => plain other (List.mem_cons_of_mem _ member)
    cases rest with
    | nil =>
      have shape : [',',' '].intercalate (List.map literalText [text]) ++ [')'] = quote :: (text ++ quote :: ')' :: []) := by
        rw [List.map_singleton,List.intercalate_singleton,literalText]
        simp
      rw [shape,tokens_literal text here ')' [] (by decide)]
      rfl
    | cons next rest =>
      have shape : [',',' '].intercalate ((text :: next :: rest).map literalText) ++ [')'] =
          quote :: (text ++ quote :: ',' :: (' ' :: ([',',' '].intercalate ((next :: rest).map literalText) ++ [')']))) := by
        rw [List.map_cons,List.map_cons,List.intercalate_cons_cons,← List.map_cons,literalText]
        simp
      rw [shape,tokens_literal text here ',' _ (by decide),tokens_cons,tokens_cons]
      change ((((tokens .outside _).map _).map _).map _) = _
      rw [later]
      rfl

theorem mem_intercalate (separator : List α) (parts : List (List α)) (c : α) (member : c ∈ separator.intercalate parts) :
    c ∈ separator ∨ ∃ part ∈ parts, c ∈ part := by
  induction parts with
  | nil => cases member
  | cons part rest ih =>
    cases rest with
    | nil =>
      rw [List.intercalate_singleton] at member
      exact .inr ⟨part,List.mem_cons_self,member⟩
    | cons next rest =>
      rw [List.intercalate_cons_cons,List.mem_append,List.mem_append] at member
      rcases member with (here | between) | later
      · exact .inr ⟨part,List.mem_cons_self,here⟩
      · exact .inl between
      · rcases ih later with between | ⟨other,among,inside⟩
        · exact .inl between
        · exact .inr ⟨other,List.mem_cons_of_mem _ among,inside⟩

theorem name_chars (name : List Char) (named : isName name = true) : ∀ c ∈ name, inName c = true := by
  intro c member
  have joined : ['.'].intercalate (name.splitOn '.') = name := List.intercalate_splitOn '.'
  rw [← joined] at member
  rcases mem_intercalate _ _ c member with dot | ⟨part,among,inside⟩
  · rw [List.mem_singleton.mp dot]
    rfl
  · have identifier := List.all_eq_true.mp named part among
    cases part with
    | nil => cases inside
    | cons first rest =>
      rw [isIdentifier,Bool.and_eq_true,List.all_eq_true] at identifier
      rcases List.mem_cons.mp inside with rfl | later
      · simp [inName,isNameChar,identifier.1]
      · simp [inName,identifier.2 c later]

theorem call_parts (name : List Char) (texts : List (List Char)) (shown : List Char) (read : List (List Char))
    (called : call (callText name texts) = some (shown,read)) (same : shown = name) :
    isName name = true ∧ (tokens .outside ('(' :: ([',',' '].intercalate (texts.map literalText) ++ [')']))).bind arguments = some read := by
  unfold call at called
  simp only at called
  split at called
  · rename_i holds
    obtain ⟨found,arguments,parts⟩ := Option.map_eq_some_iff.mp called
    cases parts
    have after : (callText name texts).drop callWord.length =
        name ++ '(' :: ([',',' '].intercalate (texts.map literalText) ++ [')']) := List.drop_left
    rw [after] at same arguments holds
    rw [same,List.drop_left] at arguments
    rw [same] at holds
    exact ⟨holds.2,arguments⟩
  · cases called

-- The call is read as it was meant exactly when its name is one and its texts are plain.
theorem call_exact (name : List Char) (texts : List (List Char)) :
    call (callText name texts) = some (name,texts) ↔ isName name = true ∧ ∀ text ∈ texts, Plain text := by
  constructor
  · intro called
    obtain ⟨named,read⟩ := call_parts name texts name texts called rfl
    obtain ⟨found,scanned,listed⟩ := Option.bind_eq_some_iff.mp read
    obtain ⟨held,weighed⟩ := arguments_holds found texts listed
    have whole : Scan.outside.weight + textWeight ('(' :: ([',',' '].intercalate (texts.map literalText) ++ [')'])) ≤
        tokensWeight found := by
      have opening : weight '(' = 1 := by decide
      have ending : weight ')' = 1 := by decide
      rw [textWeight_cons,textWeight_snoc,literals_weight,weighed,opening,ending,Scan.weight]
      omega
    have clean := tokens_clean .outside _ found scanned whole trivial
    exact ⟨named,fun text member => clean text (held text member)⟩
  · rintro ⟨named,plain⟩
    have after : (callText name texts).drop callWord.length =
        name ++ '(' :: ([',',' '].intercalate (texts.map literalText) ++ [')']) := List.drop_left
    have front : (name ++ '(' :: ([',',' '].intercalate (texts.map literalText) ++ [')'])).takeWhile inName = name := by
      rw [List.takeWhile_append_of_pos (name_chars name named),List.takeWhile_cons_of_neg (by decide),List.append_nil]
    have begins : callWord <+: callText name texts := List.prefix_append _ _
    have scanned : tokens .outside ('(' :: ([',',' '].intercalate (texts.map literalText) ++ [')'])) =
        some (.mark '(' :: listTokens texts) := by
      rw [tokens_cons]
      change (tokens .outside _).map _ = _
      rw [tokens_list texts plain]
      rfl
    have read : arguments (.mark '(' :: listTokens texts) = some texts := by
      cases texts with
      | nil => rfl
      | cons text rest =>
        have listed := listed_tokens text rest
        cases rest with
        | nil => exact listed
        | cons next rest => exact listed
    unfold call
    simp only [after]
    change (if callWord <+: _ ∧ isName (List.takeWhile inName _) = true then _ else _) = _
    rw [front,if_pos ⟨begins,named⟩,List.drop_left,scanned]
    change (arguments _).map _ = _
    rw [read]
    rfl

end Call
end SqlText
