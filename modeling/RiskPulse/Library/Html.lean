import Mathlib.Data.List.Basic

-- How a browser reads the text of an HTML document: one character at a time into characters
-- of text, tags with their attributes, comments and the document type. A character reference
-- stays as it is written, for it stands for characters of the text or the value it is in.
namespace Html

structure Tag where
  closing : Bool
  name : List Char
  attributes : List (List Char × List Char)
  deriving DecidableEq

inductive Token where
  | text (c : Char)
  | tag (tag : Tag) (selfClosing : Bool)
  | comment (source : List Char)
  | doctype (source : List Char)
  -- An end tag with no name: it is dropped.
  | dropped
  deriving DecidableEq

inductive State where
  | data
  | tagOpen
  | endTagOpen
  | tagName (tag : Tag)
  | beforeAttributeName (tag : Tag)
  | attributeName (tag : Tag) (name : List Char)
  | afterAttributeName (tag : Tag) (name : List Char)
  | beforeAttributeValue (tag : Tag) (name : List Char)
  | quotedValue (quote : Char) (tag : Tag) (name value : List Char)
  | unquotedValue (tag : Tag) (name value : List Char)
  | afterValue (tag : Tag)
  | selfClosing (tag : Tag)
  | markupDeclaration (seen : List Char)
  | comment (source : List Char)
  | bogusComment (source : List Char)
  | doctype (source : List Char)

def blank (c : Char) : Bool := c = ' ' || c = '\t' || c = '\n' || c = '\x0c' || c = '\r'

-- What makes a tag, a comment or a document type of the < before it.
def opener (c : Char) : Bool := c.isAlpha || c = '/' || c = '!' || c = '?'

def Tag.named (tag : Tag) (c : Char) : Tag := {tag with name := tag.name ++ [c.toLower]}

-- The first attribute of a name is the one that counts.
def Tag.attribute (tag : Tag) (name value : List Char) : Tag :=
  if name ∈ tag.attributes.map Prod.fst then tag else {tag with attributes := tag.attributes ++ [(name,value)]}

def inTagName (tag : Tag) (c : Char) : State × List Token :=
  if blank c then (.beforeAttributeName tag,[])
  else if c = '/' then (.selfClosing tag,[])
  else if c = '>' then (.data,[.tag tag false])
  else (.tagName (tag.named c),[])

def inBeforeAttributeName (tag : Tag) (c : Char) : State × List Token :=
  if blank c then (.beforeAttributeName tag,[])
  else if c = '/' then (.selfClosing tag,[])
  else if c = '>' then (.data,[.tag tag false])
  else (.attributeName tag [c.toLower],[])

def inAfterAttributeName (tag : Tag) (name : List Char) (c : Char) : State × List Token :=
  if blank c then (.afterAttributeName tag name,[])
  else if c = '/' then (.selfClosing (tag.attribute name []),[])
  else if c = '=' then (.beforeAttributeValue tag name,[])
  else if c = '>' then (.data,[.tag (tag.attribute name []) false])
  else (.attributeName (tag.attribute name []) [c.toLower],[])

def inAttributeName (tag : Tag) (name : List Char) (c : Char) : State × List Token :=
  if blank c || c = '/' || c = '=' || c = '>' then inAfterAttributeName tag name c
  else (.attributeName tag (name ++ [c.toLower]),[])

def inUnquotedValue (tag : Tag) (name value : List Char) (c : Char) : State × List Token :=
  if blank c then (.beforeAttributeName (tag.attribute name value),[])
  else if c = '>' then (.data,[.tag (tag.attribute name value) false])
  else (.unquotedValue tag name (value ++ [c]),[])

def inBeforeAttributeValue (tag : Tag) (name : List Char) (c : Char) : State × List Token :=
  if blank c then (.beforeAttributeValue tag name,[])
  else if c = '"' || c = '\'' then (.quotedValue c tag name [],[])
  else inUnquotedValue tag name [] c

def inSelfClosing (tag : Tag) (c : Char) : State × List Token :=
  if c = '>' then (.data,[.tag tag true]) else inBeforeAttributeName tag c

def inBogusComment (source : List Char) (c : Char) : State × List Token :=
  if c = '>' then (.data,[.comment source]) else (.bogusComment (source ++ [c]),[])

-- Two dashes begin a comment and the word doctype, in any case, the document type.
def inMarkupDeclaration (seen : List Char) (c : Char) : State × List Token :=
  let word := (seen ++ [c]).map Char.toLower
  if word = ['-','-'] then (.comment [],[])
  else if word = ['d','o','c','t','y','p','e'] then (.doctype [],[])
  else if word = ['-'] || word.isPrefixOf ['d','o','c','t','y','p','e'] then (.markupDeclaration (seen ++ [c]),[])
  else inBogusComment seen c

def closesComment (source : List Char) : Bool :=
  source = [] || source = ['-'] || ['-','-'].isSuffixOf source || ['-','-','!'].isSuffixOf source

def inData (c : Char) : State × List Token :=
  if c = '<' then (.tagOpen,[]) else (.data,[.text c])

def inTagOpen (c : Char) : State × List Token :=
  if c.isAlpha then (.tagName ⟨false,[c.toLower],[]⟩,[])
  else if c = '/' then (.endTagOpen,[])
  else if c = '!' then (.markupDeclaration [],[])
  else if c = '?' then (.bogusComment [c],[])
  else if c = '<' then (.tagOpen,[.text '<'])
  else (.data,[.text '<',.text c])

def inEndTagOpen (c : Char) : State × List Token :=
  if c.isAlpha then (.tagName ⟨true,[c.toLower],[]⟩,[])
  else if c = '>' then (.data,[.dropped])
  else (.bogusComment [c],[])

def step : State → Char → State × List Token
  | .data,c => inData c
  | .tagOpen,c => inTagOpen c
  | .endTagOpen,c => inEndTagOpen c
  | .tagName tag,c => inTagName tag c
  | .beforeAttributeName tag,c => inBeforeAttributeName tag c
  | .attributeName tag name,c => inAttributeName tag name c
  | .afterAttributeName tag name,c => inAfterAttributeName tag name c
  | .beforeAttributeValue tag name,c => inBeforeAttributeValue tag name c
  | .quotedValue quote tag name value,c =>
    if c = quote then (.afterValue (tag.attribute name value),[]) else (.quotedValue quote tag name (value ++ [c]),[])
  | .unquotedValue tag name value,c => inUnquotedValue tag name value c
  | .afterValue tag,c => inBeforeAttributeName tag c
  | .selfClosing tag,c => inSelfClosing tag c
  | .markupDeclaration seen,c => inMarkupDeclaration seen c
  | .comment source,c =>
    if c = '>' && closesComment source then (.data,[.comment source]) else (.comment (source ++ [c]),[])
  | .bogusComment source,c => inBogusComment source c
  | .doctype source,c => if c = '>' then (.data,[.doctype source]) else (.doctype (source ++ [c]),[])

-- What the end of the document leaves: an unfinished tag is dropped.
def finish : State → List Token
  | .tagOpen => [.text '<']
  | .endTagOpen => [.text '<',.text '/']
  | .markupDeclaration seen => [.comment seen]
  | .comment source | .bogusComment source => [.comment source]
  | .doctype source => [.doctype source]
  | _ => []

def read : State → List Char → List Token
  | s,[] => finish s
  | s,c :: rest => (step s c).2 ++ read (step s c).1 rest

-- The state and the tokens after a part of a document.
def through : State → List Char → State × List Token
  | s,[] => (s,[])
  | s,c :: rest => ((through (step s c).1 rest).1,(step s c).2 ++ (through (step s c).1 rest).2)

def tags (tokens : List Token) : List Token :=
  tokens.filter fun token => match token with
    | .tag _ _ => true
    | _ => false

-- Outside of text: no character is shown before the construct comes to its end.
def State.inside : State → Bool
  | .data | .tagOpen | .endTagOpen => false
  | _ => true

def shows : List Token → Bool
  | .text _ :: _ => true
  | _ => false

-- A step within a construct stays within it, or ends it with a token that is not text.
def Stays (result : State × List Token) : Prop :=
  result.1.inside = true ∧ result.2 = [] ∨ ∃ token, result.2 = [token] ∧ shows [token] = false

theorem Stays.within (within : s.inside = true) : Stays (s,[]) := Or.inl ⟨within,rfl⟩

theorem Stays.ends (quiet : shows [token] = false) : Stays (s,[token]) := Or.inr ⟨token,rfl,quiet⟩

theorem stays_ite (condition : Prop) [Decidable condition] {a b : State × List Token} (yes : Stays a) (no : Stays b) :
    Stays (if condition then a else b) := by
  split
  · exact yes
  · exact no

theorem beforeAttributeName_stays (tag : Tag) (c : Char) : Stays (inBeforeAttributeName tag c) := by
  unfold inBeforeAttributeName
  apply stays_ite _ (.within rfl)
  apply stays_ite _ (.within rfl)
  exact stays_ite _ (.ends rfl) (.within rfl)

theorem afterAttributeName_stays (tag : Tag) (name : List Char) (c : Char) : Stays (inAfterAttributeName tag name c) := by
  unfold inAfterAttributeName
  apply stays_ite _ (.within rfl)
  apply stays_ite _ (.within rfl)
  apply stays_ite _ (.within rfl)
  exact stays_ite _ (.ends rfl) (.within rfl)

theorem unquotedValue_stays (tag : Tag) (name value : List Char) (c : Char) : Stays (inUnquotedValue tag name value c) := by
  unfold inUnquotedValue
  apply stays_ite _ (.within rfl)
  exact stays_ite _ (.ends rfl) (.within rfl)

theorem bogusComment_stays (source : List Char) (c : Char) : Stays (inBogusComment source c) :=
  stays_ite _ (.ends rfl) (.within rfl)

theorem markupDeclaration_stays (seen : List Char) (c : Char) : Stays (inMarkupDeclaration seen c) := by
  unfold inMarkupDeclaration
  apply stays_ite _ (.within rfl)
  apply stays_ite _ (.within rfl)
  exact stays_ite _ (.within rfl) (bogusComment_stays seen c)

theorem step_stays (s : State) (c : Char) (within : s.inside = true) : Stays (step s c) := by
  cases s with
  | data | tagOpen | endTagOpen => cases within
  | tagName tag =>
    apply stays_ite _ (.within rfl)
    apply stays_ite _ (.within rfl)
    exact stays_ite _ (.ends rfl) (.within rfl)
  | beforeAttributeName tag | afterValue tag => exact beforeAttributeName_stays tag c
  | attributeName tag name => exact stays_ite _ (afterAttributeName_stays tag name c) (.within rfl)
  | afterAttributeName tag name => exact afterAttributeName_stays tag name c
  | beforeAttributeValue tag name =>
    apply stays_ite _ (.within rfl)
    exact stays_ite _ (.within rfl) (unquotedValue_stays tag name [] c)
  | quotedValue quote tag name value => exact stays_ite _ (.within rfl) (.within rfl)
  | unquotedValue tag name value => exact unquotedValue_stays tag name value c
  | selfClosing tag => exact stays_ite _ (.ends rfl) (beforeAttributeName_stays tag c)
  | markupDeclaration seen => exact markupDeclaration_stays seen c
  | comment source => exact stays_ite _ (.ends rfl) (.within rfl)
  | bogusComment source => exact bogusComment_stays source c
  | doctype source => exact stays_ite _ (.ends rfl) (.within rfl)

-- By induction on what is left of the document.
theorem inside_quiet (s : State) (rest : List Char) (within : s.inside = true) : shows (read s rest) = false := by
  induction rest generalizing s with
  | nil => cases s <;> first | rfl | cases within
  | cons c rest ih =>
    unfold read
    obtain ⟨stays,empty⟩ | ⟨token,single,quiet⟩ := step_stays s c within
    · rw [empty,List.nil_append]
      exact ih _ stays
    · rw [single,List.singleton_append]
      cases token with
      | text shown => cases quiet
      | _ => rfl

def opens : List Char → Bool
  | [] => false
  | c :: _ => opener c

-- A text in which no < begins a tag, a comment or a document type.
def inert : List Char → Bool
  | [] => true
  | c :: rest => !(c = '<' && opens rest) && inert rest

theorem inert_exact (text : List Char) : inert text = true ↔ ∀ before c after,
    text = before ++ '<' :: c :: after → opener c = false := by
  induction text with
  | nil => simp [inert]
  | cons head rest ih =>
    unfold inert
    rw [Bool.and_eq_true,ih]
    constructor
    · intro given before c after split
      cases before with
      | nil =>
        injection split with isHead isRest
        subst isHead isRest
        simpa [opens] using given.1
      | cons first before =>
        injection split with _ isRest
        exact given.2 before c after isRest
    · intro quiet
      refine ⟨?_,fun before c after split => quiet (head :: before) c after (by rw [split]; rfl)⟩
      cases rest with
      | nil => simp [opens]
      | cons c rest =>
        by_cases less : head = '<'
        · have closed := quiet [] c rest (by rw [less]; rfl)
          simp [opens,closed]
        · simp [less]

theorem inert_plain (text : List Char) (plain : '<' ∉ text) : inert text = true := by
  apply (inert_exact text).mpr
  intro before c after split
  exact absurd (by rw [split]; simp) plain

theorem opener_cases (begins : opener c = true) : c.isAlpha = true ∨ c = '/' ∨ c = '!' ∨ c = '?' := by
  simpa [opener,or_assoc] using begins

theorem endTagOpen_quiet (rest : List Char) (more : rest ≠ []) : shows (read .endTagOpen rest) = false := by
  cases rest with
  | nil => exact absurd rfl more
  | cons c rest =>
    change shows ((inEndTagOpen c).2 ++ read (inEndTagOpen c).1 rest) = false
    unfold inEndTagOpen
    by_cases letter : c.isAlpha = true
    · rw [if_pos letter]
      exact inside_quiet _ rest rfl
    · rw [if_neg letter]
      by_cases ends : c = '>'
      · rw [if_pos ends]
        rfl
      · rw [if_neg ends]
        exact inside_quiet _ rest rfl

theorem opened_quiet (c : Char) (rest : List Char) (begins : opener c = true) (more : rest ≠ []) :
    shows (read .tagOpen (c :: rest)) = false := by
  change shows ((inTagOpen c).2 ++ read (inTagOpen c).1 rest) = false
  obtain letter | rfl | rfl | rfl := opener_cases begins
  · unfold inTagOpen
    rw [if_pos letter]
    exact inside_quiet _ rest rfl
  · exact endTagOpen_quiet rest more
  · exact inside_quiet (.markupDeclaration []) rest rfl
  · exact inside_quiet (.bogusComment ['?']) rest rfl

theorem tagOpen_plain (rest : List Char) (closed : opens rest = false) :
    read .tagOpen rest = .text '<' :: read .data rest := by
  cases rest with
  | nil => rfl
  | cons c rest =>
    simp only [opens,opener,Bool.or_eq_false_iff,decide_eq_false_iff_not] at closed
    obtain ⟨⟨⟨letter,slash⟩,mark⟩,question⟩ := closed
    by_cases less : c = '<'
    · subst less
      rfl
    · simp [read,step,inTagOpen,inData,letter,slash,mark,question,less]

-- A text shows as it is exactly when it is inert, by induction on the text; what follows
-- must not complete a < at its end.
theorem text_read (text rest : List Char) (shown : List Token) (more : rest ≠ []) (apart : opens rest = false) :
    read .data (text ++ rest) = text.map .text ++ shown ↔ inert text = true ∧ read .data rest = shown := by
  induction text with
  | nil => simp [inert]
  | cons c text ih =>
    by_cases less : c = '<'
    · subst less
      have entered : read .data ('<' :: text ++ rest) = read .tagOpen (text ++ rest) := rfl
      rw [entered]
      have later : opens (text ++ rest) = opens text := by
        cases text with
        | nil => exact apart
        | cons d text => rfl
      by_cases begins : opens text = true
      · have broken : inert ('<' :: text) = false := by simp [inert,begins]
        rw [broken]
        have quiet : shows (read .tagOpen (text ++ rest)) = false := by
          cases text with
          | nil => cases begins
          | cons d text => exact opened_quiet d (text ++ rest) begins (by simp [more])
        constructor
        · intro same
          rw [same] at quiet
          cases quiet
        · intro given
          cases given.1
      · rw [Bool.not_eq_true] at begins
        rw [tagOpen_plain _ (later.trans begins)]
        simp [inert,begins,ih]
    · have entered : read .data (c :: text ++ rest) = .text c :: read .data (text ++ rest) := by
        simp [read,step,inData,less]
      rw [entered]
      simp [inert,less,ih]

theorem read_append (s : State) (a b : List Char) : read s (a ++ b) = (through s a).2 ++ read (through s a).1 b := by
  induction a generalizing s with
  | nil => rfl
  | cons c a ih => simp [read,through,ih]

def closed (source : List Char) : Bool :=
  match (through .data source).1 with
  | .data => true
  | _ => false

theorem closed_data (given : closed source = true) : (through .data source).1 = .data := by
  unfold closed at given
  split at given
  · assumption
  · cases given

-- Markup that begins and ends outside of any tag and does not complete a < before it.
def whole (source : List Char) : Bool := closed source && !opens source && !source.isEmpty

abbrev Markup := {source : List Char // whole source = true}

theorem Markup.closed (m : Markup) : (through .data m.val).1 = .data := by
  have parts := m.property
  unfold whole at parts
  simp only [Bool.and_eq_true] at parts
  exact closed_data parts.1.1

theorem Markup.apart (m : Markup) (rest : List Char) : m.val ++ rest ≠ [] ∧ opens (m.val ++ rest) = false := by
  obtain ⟨source,parts⟩ := m
  cases source with
  | nil => cases parts
  | cons c source =>
    refine ⟨List.cons_ne_nil _ _,?_⟩
    unfold whole at parts
    simp only [Bool.and_eq_true,Bool.not_eq_true'] at parts
    exact parts.1.2

theorem whole_literal (source : List Char) (given : whole source = true) : whole (String.ofList source).toList = true := by
  rw [String.toList_ofList]
  exact given

theorem whole_literals (a b c : List Char) (given : whole (a ++ b ++ c) = true) :
    whole (String.ofList a ++ String.ofList b ++ String.ofList c).toList = true := by
  simpa only [String.toList_append,String.toList_ofList] using given

-- A document with texts to be shown as they are, each with the markup that follows it.
structure Template where
  head : Markup
  fields : List (List Char × Markup)

def filled (fields : List (List Char × Markup)) : List Char := fields.flatMap fun field => field.1 ++ field.2.val

def meantFields (fields : List (List Char × Markup)) : List Token :=
  fields.flatMap fun field => field.1.map .text ++ (through .data field.2.val).2

def Template.source (t : Template) : List Char := t.head.val ++ filled t.fields

-- The tokens of the document when every text of it is only text.
def Template.meant (t : Template) : List Token := (through .data t.head.val).2 ++ meantFields t.fields

-- By induction on the fields.
theorem fields_read (fields : List (List Char × Markup)) :
    read .data (filled fields) = meantFields fields ↔ ∀ field ∈ fields, inert field.1 = true := by
  induction fields with
  | nil => simp [filled,meantFields,read,finish]
  | cons field rest ih =>
    have document : filled (field :: rest) = field.1 ++ (field.2.val ++ filled rest) := by simp [filled]
    have tokens : meantFields (field :: rest) = field.1.map .text ++ ((through .data field.2.val).2 ++ meantFields rest) := by
      simp [meantFields]
    obtain ⟨more,apart⟩ := field.2.apart (filled rest)
    rw [document,tokens,text_read field.1 _ _ more apart,read_append,field.2.closed,List.append_cancel_left_eq,ih,
      List.forall_mem_cons]

theorem Template.read_meant (t : Template) : read .data t.source = t.meant ↔ ∀ field ∈ t.fields, inert field.1 = true := by
  unfold Template.source Template.meant
  rw [read_append,t.head.closed,List.append_cancel_left_eq]
  exact fields_read t.fields

theorem tags_append (a b : List Token) : tags (a ++ b) = tags a ++ tags b := List.filter_append ..

theorem tags_text (shown : List Char) : tags (shown.map .text) = [] := by simp [tags]

def markupTags (m : Markup) : List Token := tags (through .data m.val).2

theorem fields_tags (fields : List (List Char × Markup)) :
    tags (meantFields fields) = (fields.map Prod.snd).flatMap markupTags := by
  induction fields with
  | nil => rfl
  | cons field rest ih =>
    have tokens : meantFields (field :: rest) = field.1.map .text ++ ((through .data field.2.val).2 ++ meantFields rest) := by
      simp [meantFields]
    rw [tokens,tags_append,tags_append,tags_text,ih]
    rfl

-- The texts of a document have no part in the tags it is meant to have.
theorem meant_tags (t u : Template) (head : t.head = u.head) (same : t.fields.map Prod.snd = u.fields.map Prod.snd) :
    tags t.meant = tags u.meant := by
  unfold Template.meant
  rw [tags_append,tags_append,fields_tags,fields_tags,head,same]

-- Markup after markup is markup.
theorem through_append (s : State) (a b : List Char) :
    through s (a ++ b) = ((through (through s a).1 b).1,(through s a).2 ++ (through (through s a).1 b).2) := by
  induction a generalizing s with
  | nil => rfl
  | cons c a ih => simp [through,ih]

theorem append_whole (a b : Markup) : whole (a.val ++ b.val) = true := by
  obtain ⟨some,apart⟩ := a.apart b.val
  have ends : closed (a.val ++ b.val) = true := by
    unfold closed
    rw [through_append,a.closed,b.closed]
  unfold whole
  simp only [ends,apart,Bool.true_and,Bool.not_false,Bool.not_eq_true',List.isEmpty_eq_false_iff]
  exact some

def Markup.append (a b : Markup) : Markup := ⟨a.val ++ b.val,append_whole a b⟩

theorem append_tags (a b : Markup) : markupTags (a.append b) = markupTags a ++ markupTags b := by
  unfold markupTags Markup.append
  rw [through_append,a.closed,tags_append]

-- A text that is markup itself is read as markup, for all that the document means it as text.
theorem injected (head m hostile : Markup) (before after : List (List Char × Markup))
    (quietBefore : ∀ field ∈ before, inert field.1 = true) (quietAfter : ∀ field ∈ after, inert field.1 = true) :
    tags (read .data (Template.mk head (before ++ (hostile.val,m) :: after)).source) =
      markupTags head ++ (before.map Prod.snd).flatMap markupTags ++ markupTags hostile ++
        markupTags m ++ (after.map Prod.snd).flatMap markupTags := by
  let t : Template := ⟨head,before ++ ([],hostile.append m) :: after⟩
  have same : (Template.mk head (before ++ (hostile.val,m) :: after)).source = t.source := by
    simp [t,Template.source,filled,Markup.append]
  have quiet : ∀ field ∈ t.fields, inert field.1 = true := by
    intro field member
    obtain old | isNew | later := List.mem_append.mp member |>.imp_right List.mem_cons.mp
    · exact quietBefore field old
    · subst isNew
      rfl
    · exact quietAfter field later
  rw [same,t.read_meant.mpr quiet]
  unfold Template.meant
  rw [tags_append,fields_tags,List.map_append,List.map_cons,List.flatMap_append,List.flatMap_cons,append_tags]
  change markupTags head ++ _ = _
  simp only [List.append_assoc]

end Html
