import RiskPulse.DataCleaner
import RiskPulse.Library.Regex

namespace RiskPulse
open Regex

-- A loop over record.items() that rewrites the texts and notes which it has changed.
def rewriteTexts (rewrite : String → String) (label : String) (record : Record) : Record × List String :=
  (record.mapValues fun value => match value with
    | .str text => .str (rewrite text)
    | other => other,
  record.entries.filterMap fun entry => match entry.2 with
    | .str text => if rewrite text = text then none else some s!"{label}:{entry.1}"
    | _ => none)

theorem rewriteTexts_value (rewrite : String → String) (label : String) (record : Record) (key : String) :
    Record.value (rewriteTexts rewrite label record).1 key =
      match record.value key with
      | .str text => .str (rewrite text)
      | other => other := by
  rw [Record.value,OrderedDict.getD,rewriteTexts,OrderedDict.get?_mapValues,Record.value,OrderedDict.getD]
  cases record.get? key with
  | none => rfl
  | some value => rfl

namespace DataCleaner
variable (word : Char → Bool) {back text result m : List Char}

-- <[^>]+>
def tagRe : Regex := .seq (exactly '<') (.seq (someOf (.one fun c => decide (c ≠ '>'))) (exactly '>'))

def stripTags (value : String) : String := String.ofList (tagRe.sub word [] 0 [] value.toList)

def sanitizeStringsStep : CleaningStep := fun record => .ok (rewriteTexts (stripTags word) "html_stripped" record)

def IsTag (text : List Char) : Prop := ∃ inner, text = '<' :: (inner ++ ['>']) ∧ inner ≠ [] ∧ '>' ∉ inner

theorem tagRe_matches (back m rest : List Char) : tagRe.Matches word back m rest ↔ IsTag m := by
  constructor
  · rintro ⟨x,y,rfl,⟨c,rfl,opens⟩,inner,z,rfl,⟨more,_,copied⟩,d,rfl,closes⟩
    obtain ⟨long,all⟩ := (copies_one word _ _ _ _ _).mp copied
    have opening : c = '<' := of_decide_eq_true opens
    have closing : d = '>' := of_decide_eq_true closes
    subst opening closing
    refine ⟨inner,rfl,?_,?_⟩
    · rintro rfl
      rw [List.length_nil] at long
      omega
    · intro inside
      exact of_decide_eq_true (all _ inside) rfl
  · rintro ⟨inner,rfl,some,outside⟩
    refine ⟨['<'],_,rfl,⟨_,rfl,rfl⟩,inner,['>'],rfl,⟨inner.length - 1,(fun _ absurdity => by cases absurdity),?_⟩,'>',rfl,rfl⟩
    rw [copies_one]
    have long := List.length_pos_of_ne_nil some
    refine ⟨by omega,?_⟩
    intro c member
    apply decide_eq_true
    rintro rfl
    exact outside member

theorem tagRe_visible (back rest : List Char) : ¬tagRe.Matches word back [] rest := by
  rw [tagRe_matches]
  rintro ⟨inner,absurdity,_⟩
  cases absurdity

-- A tag begins with the first character and is a prefix of the text.
theorem tag_first {c : Char} (tag : IsTag m) (begins : m <+: c :: text) :
    c = '<' ∧ ∃ inner, inner ++ ['>'] <+: text ∧ inner ≠ [] ∧ '>' ∉ inner := by
  obtain ⟨inner,rfl,some,outside⟩ := tag
  obtain ⟨same,later⟩ := List.cons_prefix_cons.mp begins
  exact ⟨same.symm,inner,later,some,outside⟩

-- Where a text has a closing bracket somewhere after its first character, an opening bracket
-- before the text begins a tag.
theorem tag_begins (c : Char) (text : List Char) (other : c ≠ '>') (closed : '>' ∈ text) :
    ∃ m rest, '<' :: c :: text = m ++ rest ∧ IsTag m := by
  obtain ⟨inner,rest,rfl,outside⟩ := List.eq_append_cons_of_mem closed
  refine ⟨'<' :: (c :: inner ++ ['>']),rest,by simp,c :: inner,rfl,List.cons_ne_nil _ _,?_⟩
  intro inside
  rcases List.mem_cons.mp inside with same | later
  · exact other same.symm
  · exact outside later

-- By induction on what the substitution has done. A bracket that was kept began no tag: it
-- is followed by a closing bracket at once, which is kept too, or by none at all.
theorem replaced_untagged (replaced : Replaced word tagRe [] back text result) : ∀ m, IsTag m → ¬m <:+: result := by
  induction replaced with
  | stop =>
    intro m tag inside
    obtain ⟨inner,rfl,_⟩ := tag
    cases List.infix_nil.mp inside
  | @keep back text result c unmatched later ih =>
    intro m tag inside
    rcases List.infix_cons_iff.mp inside with begins | further
    · obtain ⟨rfl,inner,closing,some,outside⟩ := tag_first tag begins
      have closed : '>' ∈ result := closing.subset (by simp)
      cases later with
      | stop => cases closed
      | @keep _ text result d unmatchedNext later =>
        by_cases closes : d = '>'
        · subst closes
          obtain ⟨e,inner,rfl⟩ := List.exists_cons_of_ne_nil some
          rw [List.cons_append] at closing
          obtain ⟨rfl,_⟩ := List.cons_prefix_cons.mp closing
          exact outside List.mem_cons_self
        · have left : '>' ∈ text := by
            rcases List.mem_cons.mp closed with same | more
            · exact absurd same.symm closes
            · exact (replaced_chars word later _ more).resolve_right (by simp)
          obtain ⟨m,rest,split,tag⟩ := tag_begins d text closes left
          exact unmatched m rest split ((tagRe_matches word _ _ _).mpr tag)
      | @cut _ rest result m matched later =>
        obtain ⟨inner,rfl,some,outside⟩ := (tagRe_matches word _ _ _).mp matched
        obtain ⟨m,left,split,tag⟩ := tag_begins '<' (inner ++ '>' :: rest) (by decide) (by simp)
        refine unmatched m left ?_ ((tagRe_matches word _ _ _).mpr tag)
        rw [← split]
        simp
    · exact ih m tag further
  | cut m matched later ih => simpa using ih

-- A text is pieces that stay, each with a tag after it, and an end that stays.
def TagsRemoved (text result : List Char) : Prop :=
  ∃ (pieces : List (List Char × List Char)) (last : List Char), (∀ piece ∈ pieces, IsTag piece.2) ∧
    text = (pieces.flatMap fun piece => piece.1 ++ piece.2) ++ last ∧ result = pieces.flatMap Prod.fst ++ last

theorem replaced_removed (replaced : Replaced word tagRe [] back text result) : TagsRemoved text result := by
  induction replaced with
  | stop => exact ⟨[],[],(fun _ member => by cases member),rfl,rfl⟩
  | keep c unmatched later ih =>
    obtain ⟨pieces,last,tags,split,kept⟩ := ih
    cases pieces with
    | nil => exact ⟨[],c :: last,tags,congrArg (c :: ·) split,congrArg (c :: ·) kept⟩
    | cons piece pieces =>
      obtain ⟨here,others⟩ := List.forall_mem_cons.mp tags
      exact ⟨(c :: piece.1,piece.2) :: pieces,last,List.forall_mem_cons.mpr ⟨here,others⟩,congrArg (c :: ·) split,congrArg (c :: ·) kept⟩
  | cut m matched later ih =>
    obtain ⟨pieces,last,tags,split,kept⟩ := ih
    refine ⟨([],m) :: pieces,last,List.forall_mem_cons.mpr ⟨(tagRe_matches word _ _ _).mp matched,tags⟩,?_,?_⟩
    · rw [split]
      simp
    · rw [kept]
      simp

theorem stripTags_replaced (value : String) : Replaced word tagRe [] [] value.toList (stripTags word value).toList := by
  rw [stripTags,String.toList_ofList]
  exact sub_replaced word tagRe [] (tagRe_visible word) [] value.toList

-- Every text of the record is left without a tag, with the characters around the tags in
-- their order; everything else is left as it is.
theorem tags_stripped (record : Record) :
    ∃ sanitized changes, sanitizeStringsStep word record = .ok (sanitized,changes) ∧ sanitized.keys = record.keys ∧
      ∀ key, match record.value key with
        | .str text => ∃ left : String, Record.value sanitized key = .str left ∧ (∀ m, IsTag m → ¬m <:+: left.toList) ∧
            TagsRemoved text.toList left.toList
        | other => Record.value sanitized key = other := by
  refine ⟨_,_,rfl,OrderedDict.keys_mapValues _ record,?_⟩
  intro key
  have rewritten := rewriteTexts_value (stripTags word) "html_stripped" record key
  cases held : record.value key with
  | str text =>
    rw [held] at rewritten
    have replaced := stripTags_replaced word text
    exact ⟨stripTags word text,rewritten,replaced_untagged word replaced,replaced_removed word replaced⟩
  | _ => rwa [held] at rewritten

end DataCleaner
end RiskPulse
