import RiskPulse.Library.Fallible
import RiskPulse.Library.Json
import RiskPulse.Library.OrderedDict
import RiskPulse.Library.Regex
import RiskPulse.Library.Text

namespace RiskPulse
namespace InputSanitization
open Regex

-- The characters of words, as the Unicode tables have them.
variable (word : Char → Bool)

def controlChar (c : Char) : Bool :=
  let n := c.toNat
  decide (n ≤ 0x08 ∨ n = 0x0b ∨ n = 0x0c ∨ (0x0e ≤ n ∧ n ≤ 0x1f) ∨ n = 0x7f)

def controlCharsRe : Regex := .one controlChar

def spaces : Regex := manyOf (.one Text.isSpace)

def eitherOf (first : Regex) (rest : List Regex) : Regex := rest.foldl .alt first

def keyword (text : String) : Regex := bounded (anyCase text.toList)

-- or 1=1 and and 1=1.
def tautology (connective : String) : Regex :=
  .seq .boundary <| .seq (anyCase connective.toList) <| .seq (someOf (.one Text.isSpace)) <| .seq (exactly '1') <| .seq spaces <|
  .seq (exactly '=') <| .seq spaces <| .seq (exactly '1') .boundary

def sqliPatterns : List Regex :=
  [eitherOf (anyCase "--".toList) [anyCase "/*".toList,anyCase "*/".toList,anyCase ";".toList,keyword "union",keyword "select",
      keyword "insert",keyword "update",keyword "delete",keyword "drop",keyword "alter"],
    tautology "or",tautology "and"]

def scriptPatterns : List Regex :=
  [.seq (exactly '<') <| .seq spaces <| .seq (maybe (exactly '/')) <| .seq spaces <| .seq (anyCase "script".toList) .boundary,
    .seq (anyCase "javascript".toList) <| .seq spaces (exactly ':'),
    .seq (anyCase "on".toList) <| .seq (eitherOf (anyCase "error".toList) [anyCase "load".toList,anyCase "click".toList]) <|
      .seq spaces (exactly '=')]

def cleaned (value : String) : String :=
  String.ofList (Text.strip Text.isSpace (controlCharsRe.sub word [] 0 [] value.toList))

def found (patterns : List Regex) (text : String) : Bool := patterns.any fun pattern => pattern.search word [] text.toList

def sanitizeString (maxLength : Option Nat) (rejectSqlTokens : Bool) (value : String) : Except String String :=
  let cleaned := cleaned word value
  if maxLength.any fun n => decide (n < cleaned.length) then .error ("Value exceeds maximum length " ++ toString (maxLength.getD 0))
  else if found word scriptPatterns cleaned then .error "Unsafe script pattern detected"
  else if rejectSqlTokens && found word sqliPatterns cleaned then .error "Unsafe input pattern detected"
  else .ok cleaned

def safeKey (key : String) : Except String String := sanitizeString word (some 64) true key

def safeText (text : String) : Except String String := sanitizeString word (some 2048) false text

-- An element of a list: only a string is looked at.
def sanitizeElement : Json → Except String Json
  | .str text => (safeText word text).map .str
  | element => .ok element

-- The loop over the entries, and what becomes of the item of an entry; maxDepth is the
-- configured depth, and depth that of the mapping the item is in.
mutual
def sanitizeItem (maxDepth depth : Int) : Json → Except String Json
  | .str text => (safeText word text).map .str
  | .object members =>
    if maxDepth < depth + 1 then .error "Metadata exceeds maximum nesting depth"
    else (sanitizeEntries maxDepth (depth + 1) members .empty).map fun sanitized => .object sanitized.entries
  | .array items => ((items.take 100).mapM (sanitizeElement word)).map .array
  | item => .ok item
def sanitizeEntries (maxDepth depth : Int) : List (String × Json) → OrderedDict String Json → Except String (OrderedDict String Json)
  | [],sanitized => .ok sanitized
  | (key,item) :: rest,sanitized => do
    let safe ← safeKey word key
    let sanitizedItem ← sanitizeItem maxDepth depth item
    sanitizeEntries maxDepth depth rest (sanitized.set safe sanitizedItem)
end

def sanitizeMapping (maxDepth depth : Int) (value : List (String × Json)) : Except String (OrderedDict String Json) :=
  if maxDepth < depth then .error "Metadata exceeds maximum nesting depth"
  else sanitizeEntries word maxDepth depth value .empty

theorem sanitizeItem_object (maxDepth depth : Int) (members : List (String × Json)) :
    sanitizeItem word maxDepth depth (.object members) =
      (sanitizeMapping word maxDepth (depth + 1) members).map fun sanitized => .object sanitized.entries := by
  unfold sanitizeItem sanitizeMapping
  split
  · rfl
  · rfl

-- Text as it has to be once it is sanitized.
structure Sanitized (maxLength : Option Nat) (rejectSqlTokens : Bool) (text : String) : Prop where
  controls : ∀ c ∈ text.toList, controlChar c = false
  stripped : Text.strip Text.isSpace text.toList = text.toList
  length : ∀ n ∈ maxLength, text.length ≤ n
  script : ∀ pattern ∈ scriptPatterns, ¬Occurs word pattern [] text.toList
  sql : rejectSqlTokens = true → ∀ pattern ∈ sqliPatterns, ¬Occurs word pattern [] text.toList

theorem cleaned_toList (value : String) : (cleaned word value).toList =
    Text.strip Text.isSpace (value.toList.filter fun c => !controlChar c) := by
  rw [cleaned,String.toList_ofList,controlCharsRe,sub_one]

theorem found_none (patterns : List Regex) (text : String) : found word patterns text = false ↔
    ∀ pattern ∈ patterns, ¬Occurs word pattern [] text.toList := by
  rw [found,List.any_eq_false]
  simp only [search_occurs]

theorem sanitizeString_ok (maxLength : Option Nat) (rejectSqlTokens : Bool) (value : String)
    (accepted : sanitizeString word maxLength rejectSqlTokens value = .ok text) :
    text = cleaned word value ∧ Sanitized word maxLength rejectSqlTokens text := by
  unfold sanitizeString at accepted
  dsimp only at accepted
  split at accepted
  · cases accepted
  · rename_i short
    split at accepted
    · cases accepted
    · rename_i noScript
      split at accepted
      · cases accepted
      · rename_i noSql
        cases accepted
        refine ⟨rfl,?_,?_,?_,?_,?_⟩
        · intro c member
          rw [cleaned_toList] at member
          have kept := (List.mem_filter.mp ((Text.strip_sublist _ _).subset member)).2
          simpa using kept
        · rw [cleaned_toList,Text.strip_twice]
        · intro n limit
          rw [Option.mem_def.mp limit] at short
          simpa using short
        · exact (found_none word _ _).mp (by simpa using noScript)
        · intro rejects
          rw [rejects,Bool.true_and] at noSql
          exact (found_none word _ _).mp (by simpa using noSql)

-- And such text is left as it is.
theorem sanitized_kept (sanitized : Sanitized word maxLength rejectSqlTokens text) :
    sanitizeString word maxLength rejectSqlTokens text = .ok text := by
  have same : cleaned word text = text := by
    have clear : text.toList.filter (fun c => !controlChar c) = text.toList :=
      List.filter_eq_self.mpr fun c member => by simp [sanitized.controls c member]
    rw [← String.toList_inj,cleaned_toList,clear,sanitized.stripped]
  unfold sanitizeString
  dsimp only
  rw [same,if_neg,if_neg,if_neg]
  · cases rejects : rejectSqlTokens with
    | false => simp
    | true => simp [(found_none word _ _).mpr (sanitized.sql rejects)]
  · simp [(found_none word _ _).mpr sanitized.script]
  · cases limit : maxLength with
    | none => simp
    | some n => simpa using sanitized.length n limit

-- Every string of a value is sanitized, its keys included.
mutual
def Clean : Json → Prop
  | .str text => Sanitized word (some 2048) false text
  | .array items => CleanItems items
  | .object members => CleanMembers members
  | _ => True
def CleanItems : List Json → Prop
  | [] => True
  | item :: rest => Clean item ∧ CleanItems rest
def CleanMembers : List (String × Json) → Prop
  | [] => True
  | (key,item) :: rest => Sanitized word (some 64) true key ∧ Clean item ∧ CleanMembers rest
end

-- No mapping in a value is deeper than the configured depth, through lists or not; the
-- depth is that of the value itself, and a list may count as a level of its own.
section Nesting
variable (levels : Bool) (maxDepth : Int)

def insideList (depth : Int) : Int := if levels then depth + 1 else depth

mutual
def Nested (depth : Int) : Json → Prop
  | .array items => (levels = true → depth ≤ maxDepth) ∧ NestedItems (insideList levels depth) items
  | .object members => depth ≤ maxDepth ∧ NestedMembers (depth + 1) members
  | _ => True
def NestedItems (depth : Int) : List Json → Prop
  | [] => True
  | item :: rest => Nested depth item ∧ NestedItems depth rest
def NestedMembers (depth : Int) : List (String × Json) → Prop
  | [] => True
  | (_,item) :: rest => Nested depth item ∧ NestedMembers depth rest
end

end Nesting

-- Every entry and every element has its own place in the result, an entry under its key
-- or its cleaned key.
mutual
def Carried : Json → Json → Prop
  | .str _,.str _ => True
  | .array items,.array others => CarriedItems items others
  | .object members,.object others => CarriedMembers members others
  | item,other => item = other
def CarriedItems : List Json → List Json → Prop
  | [],[] => True
  | item :: rest,other :: others => Carried item other ∧ CarriedItems rest others
  | _,_ => False
def CarriedMembers : List (String × Json) → List (String × Json) → Prop
  | [],[] => True
  | (key,item) :: rest,(safe,other) :: others => (safe = key ∨ safe = cleaned word key) ∧ Carried item other ∧ CarriedMembers rest others
  | _,_ => False
end

-- What a list may hold, since its elements other than strings are left as they are.
def Bearable (levels : Bool) (maxDepth depth : Int) : Json → Prop
  | .str _ => True
  | element => Clean word element ∧ Nested levels maxDepth depth element

-- The values that are sanitized wholly: the cleaned keys of a mapping are distinct, and a
-- list has at most a hundred elements, all bearable.
mutual
def Handled (levels : Bool) (maxDepth depth : Int) : Json → Prop
  | .array items => items.length ≤ 100 ∧ (levels = true → depth ≤ maxDepth) ∧
      ∀ item ∈ items, Bearable word levels maxDepth (insideList levels depth) item
  | .object members => (members.map fun member => cleaned word member.1).Nodup ∧ HandledMembers levels maxDepth (depth + 1) members
  | _ => True
def HandledMembers (levels : Bool) (maxDepth depth : Int) : List (String × Json) → Prop
  | [] => True
  | (_,item) :: rest => Handled levels maxDepth depth item ∧ HandledMembers levels maxDepth depth rest
end

mutual
theorem carried_refl : (item : Json) → Carried word item item
  | .null | .bool _ | .int _ | .float _ => rfl
  | .str _ => trivial
  | .array items => carriedItems_refl items
  | .object members => carriedMembers_refl members
theorem carriedItems_refl : (items : List Json) → CarriedItems word items items
  | [] => trivial
  | item :: rest => ⟨carried_refl item,carriedItems_refl rest⟩
theorem carriedMembers_refl : (members : List (String × Json)) → CarriedMembers word members members
  | [] => trivial
  | (_,item) :: rest => ⟨.inl rfl,carried_refl item,carriedMembers_refl rest⟩
end

theorem carriedItems_length (items others : List Json) (carried : CarriedItems word items others) : items.length = others.length := by
  induction items generalizing others with
  | nil =>
    cases others with
    | nil => rfl
    | cons other others => exact carried.elim
  | cons item rest ih =>
    cases others with
    | nil => exact carried.elim
    | cons other others => rw [List.length_cons,List.length_cons,ih others carried.2]

theorem carriedMembers_length (members others : List (String × Json)) (carried : CarriedMembers word members others) :
    members.length = others.length := by
  induction members generalizing others with
  | nil =>
    cases others with
    | nil => rfl
    | cons other others => exact carried.elim
  | cons member rest ih =>
    cases others with
    | nil => exact carried.elim
    | cons other others => rw [List.length_cons,List.length_cons,ih others carried.2.2]

-- What the loop makes of one entry, and of all of them.
def Made (maxDepth depth : Int) (member made : String × Json) : Prop :=
  safeKey word member.1 = .ok made.1 ∧ sanitizeItem word maxDepth depth member.2 = .ok made.2

theorem sanitizeEntries_made (maxDepth depth : Int) (members : List (String × Json)) (sanitized : OrderedDict String Json)
    (accepted : sanitizeEntries word maxDepth depth members sanitized = .ok result) :
    ∃ made, List.Forall₂ (Made word maxDepth depth) members made ∧
      result = made.foldl (fun built entry => built.set entry.1 entry.2) sanitized := by
  induction members generalizing sanitized with
  | nil =>
    cases accepted
    exact ⟨[],.nil,rfl⟩
  | cons member rest ih =>
    obtain ⟨key,item⟩ := member
    unfold sanitizeEntries at accepted
    obtain ⟨safe,keyed,later⟩ := Fallible.bind_ok.mp accepted
    obtain ⟨sanitizedItem,itemized,last⟩ := Fallible.bind_ok.mp later
    obtain ⟨made,all,folded⟩ := ih _ last
    exact ⟨(safe,sanitizedItem) :: made,.cons ⟨keyed,itemized⟩ all,folded⟩

theorem made_keys (made : List.Forall₂ (Made word maxDepth depth) members results) :
    results.map Prod.fst = members.map fun member => cleaned word member.1 := by
  induction made with
  | nil => rfl
  | cons first _ ih => rw [List.map_cons,List.map_cons,ih,(sanitizeString_ok word (some 64) true _ first.1).1]

variable (levels : Bool) (maxDepth : Int)

theorem element_complete (depth : Int) (item other : Json) (made : sanitizeElement word item = .ok other) :
    (Clean word other ∧ Nested levels maxDepth depth item ∧ Carried word item other) ↔ Bearable word levels maxDepth depth item := by
  have left : other = item → ((Clean word other ∧ Nested levels maxDepth depth item ∧ Carried word item other) ↔
      Clean word item ∧ Nested levels maxDepth depth item) := by
    intro same
    rw [same]
    exact and_congr_right fun _ => and_iff_left (carried_refl word item)
  cases item with
  | str text =>
    unfold sanitizeElement at made
    obtain ⟨cleanText,accepted,rfl⟩ := Fallible.map_ok.mp made
    exact iff_of_true ⟨(sanitizeString_ok word (some 2048) false text accepted).2,trivial,trivial⟩ trivial
  | null => exact left (Except.ok.inj made).symm
  | bool value => exact left (Except.ok.inj made).symm
  | int value => exact left (Except.ok.inj made).symm
  | float text => exact left (Except.ok.inj made).symm
  | array items => exact left (Except.ok.inj made).symm
  | object members => exact left (Except.ok.inj made).symm

theorem elements_complete (depth : Int) (made : List.Forall₂ (fun item other => sanitizeElement word item = .ok other) items others) :
    (CleanItems word others ∧ NestedItems levels maxDepth depth items ∧ CarriedItems word items others) ↔
      ∀ item ∈ items, Bearable word levels maxDepth depth item := by
  induction made with
  | nil => exact iff_of_true ⟨trivial,trivial,trivial⟩ fun _ member => absurd member List.not_mem_nil
  | @cons item other rest others first _ ih =>
    rw [List.forall_mem_cons,← ih,← element_complete word levels maxDepth depth item other first]
    constructor
    · intro given
      obtain ⟨⟨clean,cleanRest⟩,⟨nested,nestedRest⟩,carried,carriedRest⟩ := given
      exact ⟨⟨clean,nested,carried⟩,cleanRest,nestedRest,carriedRest⟩
    · intro given
      obtain ⟨⟨clean,nested,carried⟩,cleanRest,nestedRest,carriedRest⟩ := given
      exact ⟨⟨clean,cleanRest⟩,⟨nested,nestedRest⟩,carried,carriedRest⟩

theorem array_complete (depth : Int) (items others : List Json) (made : (items.take 100).mapM (sanitizeElement word) = .ok others) :
    (Clean word (.array others) ∧ Nested levels maxDepth depth (.array items) ∧ Carried word (.array items) (.array others)) ↔
      Handled word levels maxDepth depth (.array items) := by
  have elements := Fallible.mapM_ok made
  have length := elements.length_eq
  rw [List.length_take] at length
  by_cases short : items.length ≤ 100
  · rw [List.take_of_length_le short] at elements
    have complete := elements_complete word levels maxDepth (insideList levels depth) elements
    constructor
    · intro given
      obtain ⟨clean,⟨counted,nested⟩,carried⟩ := given
      exact ⟨short,counted,complete.mp ⟨clean,nested,carried⟩⟩
    · intro given
      obtain ⟨_,counted,bearable⟩ := given
      obtain ⟨clean,nested,carried⟩ := complete.mpr bearable
      exact ⟨clean,⟨counted,nested⟩,carried⟩
  · constructor
    · intro given
      obtain ⟨_,_,carried⟩ := given
      have same := carriedItems_length word items others carried
      omega
    · intro handled
      exact absurd handled.1 short

theorem object_complete (depth : Int) (shallow : depth ≤ maxDepth) (members made : List (String × Json))
    (keys : made.map Prod.fst = members.map fun member => cleaned word member.1)
    (each : (CleanMembers word made ∧ NestedMembers levels maxDepth (depth + 1) members ∧ CarriedMembers word members made) ↔
      HandledMembers word levels maxDepth (depth + 1) members) :
    (Clean word (.object (OrderedDict.ofList made).entries) ∧ Nested levels maxDepth depth (.object members) ∧
      Carried word (.object members) (.object (OrderedDict.ofList made).entries)) ↔ Handled word levels maxDepth depth (.object members) := by
  have length := congrArg List.length keys
  rw [List.length_map,List.length_map] at length
  constructor
  · intro given
    obtain ⟨clean,⟨_,nested⟩,carried⟩ := given
    have all := carriedMembers_length word members _ carried
    have unique : (made.map Prod.fst).Nodup := OrderedDict.ofList_length made (by rw [← all,length])
    simp only [OrderedDict.ofList_entries made unique] at clean carried
    exact ⟨keys ▸ unique,each.mp ⟨clean,nested,carried⟩⟩
  · intro given
    obtain ⟨unique,handled⟩ := given
    obtain ⟨clean,nested,carried⟩ := each.mpr handled
    rw [OrderedDict.ofList_entries made (keys ▸ unique)]
    exact ⟨clean,⟨shallow,nested⟩,carried⟩

-- By induction on the value: sanitized, nested and carried wholly is what is handled.
mutual
theorem item_complete : (item : Json) → (depth : Int) → (result : Json) → sanitizeItem word maxDepth depth item = .ok result →
    ((Clean word result ∧ Nested levels maxDepth (depth + 1) item ∧ Carried word item result) ↔
      Handled word levels maxDepth (depth + 1) item)
  | .null | .bool _ | .int _ | .float _ => by
    intro depth result accepted
    unfold sanitizeItem at accepted
    cases accepted
    simp [Clean,Nested,Carried,Handled]
  | .str text => by
    intro depth result accepted
    unfold sanitizeItem at accepted
    obtain ⟨cleanText,safe,rfl⟩ := Fallible.map_ok.mp accepted
    simp [Clean,Nested,Carried,Handled,(sanitizeString_ok word (some 2048) false text safe).2]
  | .array items => by
    intro depth result accepted
    unfold sanitizeItem at accepted
    obtain ⟨others,made,rfl⟩ := Fallible.map_ok.mp accepted
    exact array_complete word levels maxDepth (depth + 1) items others made
  | .object members => by
    intro depth result accepted
    unfold sanitizeItem at accepted
    split at accepted
    · cases accepted
    · rename_i shallow
      obtain ⟨sanitized,looped,rfl⟩ := Fallible.map_ok.mp accepted
      obtain ⟨made,all,rfl⟩ := sanitizeEntries_made word maxDepth (depth + 1) members .empty looped
      exact object_complete word levels maxDepth (depth + 1) (Int.not_lt.mp shallow) members made (made_keys word all)
        (members_complete members (depth + 1) made all)
theorem members_complete : (members : List (String × Json)) → (depth : Int) → (made : List (String × Json)) →
    List.Forall₂ (Made word maxDepth depth) members made →
    ((CleanMembers word made ∧ NestedMembers levels maxDepth (depth + 1) members ∧ CarriedMembers word members made) ↔
      HandledMembers word levels maxDepth (depth + 1) members)
  | [],_,_,.nil => iff_of_true ⟨trivial,trivial,trivial⟩ trivial
  | (key,item) :: rest,depth,(safe,other) :: others,.cons ⟨keyed,itemized⟩ all => by
    obtain ⟨named,sanitized⟩ := sanitizeString_ok word (some 64) true key keyed
    have first := item_complete item depth other itemized
    have later := members_complete rest depth others all
    constructor
    · intro given
      obtain ⟨⟨_,clean,cleanRest⟩,⟨nested,nestedRest⟩,_,carried,carriedRest⟩ := given
      exact ⟨first.mp ⟨clean,nested,carried⟩,later.mp ⟨cleanRest,nestedRest,carriedRest⟩⟩
    · intro given
      obtain ⟨handled,handledRest⟩ := given
      obtain ⟨clean,nested,carried⟩ := first.mpr handled
      obtain ⟨cleanRest,nestedRest,carriedRest⟩ := later.mpr handledRest
      exact ⟨⟨sanitized,clean,cleanRest⟩,⟨nested,nestedRest⟩,.inr named,carried,carriedRest⟩
end

-- Every string of the result is sanitized, no mapping is too deep, and nothing is lost.
structure Complete (depth : Int) (value : List (String × Json)) (result : OrderedDict String Json) : Prop where
  clean : Clean word (.object result.entries)
  nested : Nested levels maxDepth depth (.object value)
  carried : Carried word (.object value) (.object result.entries)

theorem sanitization_complete (depth : Int) (value : List (String × Json)) (result : OrderedDict String Json)
    (accepted : sanitizeMapping word maxDepth depth value = .ok result) :
    Complete word levels maxDepth depth value result ↔ Handled word levels maxDepth depth (.object value) := by
  have object : sanitizeItem word maxDepth (depth - 1) (.object value) = .ok (.object result.entries) := by
    rw [sanitizeItem_object,sub_add_cancel,accepted]
    rfl
  have complete := item_complete word levels maxDepth (.object value) (depth - 1) (.object result.entries) object
  rw [sub_add_cancel] at complete
  rw [← complete]
  exact ⟨fun all => ⟨all.clean,all.nested,all.carried⟩,fun all => ⟨all.1,all.2.1,all.2.2⟩⟩

section Listed

def asciiWord (c : Char) : Bool := c.isAlphanum || decide (c = '_')

def listedMapping (text : String) : List (String × Json) := [("k",.array [.object [("x",.str text)]])]

theorem key_kept : safeKey asciiWord "k" = .ok "k" := by decide +kernel

theorem listed_accepted (text : String) :
    sanitizeMapping asciiWord 5 0 (listedMapping text) = .ok (.ofList (listedMapping text)) := by
  unfold sanitizeMapping listedMapping
  rw [if_neg (by decide),sanitizeEntries,key_kept]
  rfl

theorem listed_complete : Complete asciiWord false 5 0 (listedMapping "a") (.ofList (listedMapping "a")) ↔
    Handled asciiWord false 5 0 (.object (listedMapping "a")) :=
  sanitization_complete asciiWord false 5 0 (listedMapping "a") _ (listed_accepted "a")

-- A string in a mapping in a list.
theorem listed_script_kept : sanitizeMapping asciiWord 5 0 (listedMapping "<script>") = .ok (.ofList (listedMapping "<script>")) ∧
    ¬Complete asciiWord false 5 0 (listedMapping "<script>") (.ofList (listedMapping "<script>")) := by
  refine ⟨listed_accepted "<script>",fun complete => ?_⟩
  obtain ⟨_,⟨⟨_,raw,_⟩,_⟩,_⟩ := complete.clean
  have pattern : ∃ pattern ∈ scriptPatterns, pattern.search asciiWord [] "<script>".toList = true := ⟨_,List.mem_cons_self,by decide +kernel⟩
  obtain ⟨script,member,searched⟩ := pattern
  exact raw.script script member ((search_occurs asciiWord script [] _).mp searched)

end Listed

end InputSanitization
end RiskPulse
