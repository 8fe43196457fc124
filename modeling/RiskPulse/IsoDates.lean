import Mathlib.Data.Bool.AllAny
import Mathlib.Tactic.IntervalCases
import RiskPulse.DatePreservation
import RiskPulse.RecordCleaning

namespace RiskPulse
open Regex Calendar
namespace DataCleaner

section Formats
variable (h : DateHost)

theorem formatWays_first {directive : Directive} {format : List Directive} {text : List Char} {way : List (Directive × List Char) × List Char}
    (found : way ∈ formatWays h (directive :: format) text) :
    ∃ m left more, text = m ++ left ∧ (directiveRe h directive).Matches (fun _ => false) [] m left ∧ more ∈ formatWays h format left := by
  rw [formatWays] at found
  obtain ⟨⟨m,left⟩,member,later⟩ := List.mem_flatMap.mp found
  obtain ⟨more,inside,_⟩ := List.mem_map.mp later
  obtain ⟨split,matched⟩ := (finds_ways (fun _ => false) (directiveRe h directive) [] text m left).mp member
  exact ⟨m,left,more,split,matched,inside⟩

-- A month or a day has a character, and none of the marks between them.
def Unmarked (c : Char) : Prop := c ≠ '-' ∧ c ≠ '/'

theorem between_unmarked (first last : Char) (low : 47 < first.toNat) : (between first last).Within Unmarked := by
  intro c inside
  have above : first.toNat ≤ c.toNat := UInt32.le_iff_toNat_le.mp (of_decide_eq_true inside).1
  constructor
  · rintro rfl
    exact absurd (lt_of_lt_of_le low above) (by decide)
  · rintro rfl
    exact absurd (lt_of_lt_of_le low above) (by decide)

theorem digit_unmarked : (anyDigit h).Within Unmarked := by
  intro c (digit : (digitValue h c).isSome = true)
  constructor
  · rintro rfl
    rw [digitValue_mark h '-' (by decide) (by decide)] at digit
    cases digit
  · rintro rfl
    rw [digitValue_mark h '/' (by decide) (by decide)] at digit
    cases digit

theorem exactly_unmarked (c : Char) (other : Unmarked c) : (exactly c).Within Unmarked := by
  intro d same
  rw [of_decide_eq_true same]
  exact other

theorem pair_unmarked {letter : Char} (letters : letter = 'm' ∨ letter = 'd') : (directiveRe h (.field letter)).Within Unmarked := by
  have digits : ∀ c ∈ ['0','1','3',' '], (exactly c).Within Unmarked := by
    have unmarked : ∀ c ∈ ['0','1','3',' '], c ≠ '-' ∧ c ≠ '/' := List.all_iff_forall_prop.mp (by decide)
    intro c member
    exact exactly_unmarked c (unmarked c member)
  have ranges : ∀ c ∈ ['0','1'], ∀ last, (between c last).Within Unmarked := by
    have low : ∀ c ∈ ['0','1'], 47 < c.toNat := List.all_iff_forall_prop.mp (by decide)
    intro c member last
    exact between_unmarked c last (low c member)
  rcases letters with rfl | rfl
  · exact ⟨⟨digits _ (by decide),ranges _ (by decide) _⟩,⟨digits _ (by decide),ranges _ (by decide) _⟩,ranges _ (by decide) _⟩
  · exact ⟨⟨digits _ (by decide),ranges _ (by decide) _⟩,⟨ranges _ (by decide) _,digit_unmarked h⟩,
      ⟨digits _ (by decide),ranges _ (by decide) _⟩,ranges _ (by decide) _,digits _ (by decide),ranges _ (by decide) _⟩

theorem field_needs {letter : Char} (letters : letter = 'Y' ∨ letter = 'm' ∨ letter = 'd') :
    (directiveRe h (.field letter)).Needs (fun _ => True) := by
  have one : ∀ accepts, (Regex.one accepts).Needs fun _ => True := fun _ _ _ => trivial
  rcases letters with rfl | rfl | rfl
  · exact .inl (one _)
  · exact ⟨.inl (one _),.inl (one _),one _⟩
  · exact ⟨.inl (one _),.inl (one _),.inl (one _),one _,.inl (one _)⟩

-- How the formats begin.
theorem formats_begin : ∀ format ∈ dateFormats, (∃ rest, directives format.toList = .field 'Y' :: rest) ∨
    (∃ letter rest, directives format.toList = .field letter :: .literal '/' :: rest ∧ (letter = 'm' ∨ letter = 'd')) ∨
      directives format.toList = [.field 'd',.literal '-',.field 'm',.literal '-',.field 'Y'] := by
  intro format listed
  simp only [dateFormats,List.mem_cons,List.not_mem_nil,or_false] at listed
  rcases listed with rfl | rfl | rfl | rfl | rfl | rfl | rfl | rfl | rfl | rfl | rfl | rfl | rfl | rfl | rfl
  all_goals first
    | exact .inl ⟨_,rfl⟩
    | exact .inr (.inl ⟨'m',_,rfl,.inl rfl⟩)
    | exact .inr (.inl ⟨'d',_,rfl,.inr rfl⟩)
    | exact .inr (.inr rfl)

theorem strptime_empty (value : List Char) (format : String) (none : formatWays h (directives format.toList) value = []) :
    strptime h value format = .none := by
  rw [strptime,none]
  rfl

-- Nothing but blanks is no date.
theorem tryParseDate_blank (text : List Char) (blank : Text.strip Text.isSpace text = []) : tryParseDate h text = .ok none := by
  have unread : ∀ format ∈ dateFormats, strptime h [] format = none := by
    intro format listed
    obtain ⟨letter,rest,parsed,letters⟩ : ∃ letter rest, directives format.toList = .field letter :: rest ∧
        (letter = 'Y' ∨ letter = 'm' ∨ letter = 'd') := by
      rcases formats_begin format listed with ⟨rest,parsed⟩ | ⟨letter,rest,parsed,letters⟩ | parsed
      · exact ⟨'Y',rest,parsed,.inl rfl⟩
      · exact ⟨letter,_,parsed,.inr letters⟩
      · exact ⟨'d',_,parsed,.inr (.inr rfl)⟩
    refine strptime_empty h [] format ?_
    rw [parsed,List.eq_nil_iff_forall_not_mem]
    intro way member
    obtain ⟨m,left,_,split,matched,_⟩ := formatWays_first h member
    obtain ⟨c,inside,_⟩ := needs_some _ _ (field_needs h letters) _ _ _ matched
    rw [(List.append_eq_nil_iff.mp split.symm).1] at inside
    cases inside
  have all : dateFormats.findSome? (strptime h []) = none := List.findSome?_eq_none_iff.mpr unread
  rw [tryParseDate,blank]
  simp only [all]
  rfl

end Formats

section Unpadded
variable (h : DateHost)

-- The ISO text of a moment, with its year as it is written.
def stampText (year : List Char) (moment : Calendar.Moment) : List Char :=
  year ++ '-' :: (Decimal.fixed 2 moment.date.month ++ '-' :: (Decimal.fixed 2 moment.date.day ++ 'T' :: (timeText moment ++ ['Z'])))

theorem split_mark {c : Char} {front front' back back' : List Char} (same : front ++ c :: back = front' ++ c :: back') (absent : c ∉ front)
    (absent' : c ∉ front') : front = front' ∧ back = back' := by
  have before : ∀ (xs ys : List Char), c ∉ xs → (xs ++ c :: ys).takeWhile (fun d => decide (d ≠ c)) = xs := by
    intro xs ys outside
    rw [List.takeWhile_append_of_pos]
    · simp
    · intro d member
      apply decide_eq_true
      rintro rfl
      exact outside member
  have fronts : front = front' := by rw [← before front back absent,same,before front' back' absent']
  subst fronts
  exact ⟨rfl,(List.cons.inj (List.append_cancel_left same)).2⟩

theorem digits_unmarked {text : List Char} (digits : ∀ c ∈ text, c.isDigit = true) : '-' ∉ text := by
  intro member
  exact absurd (digits _ member) (by decide)

-- The characters of an ISO text.
def IsoChar (c : Char) : Prop := c.isDigit = true ∨ c ∈ ['-','T',':','Z']

-- What each of them satisfies.
theorem isoChar_all (p : Char → Prop) [DecidablePred p]
    (each : (['0','1','2','3','4','5','6','7','8','9','-','T',':','Z'].all fun c => p c) = true) {c : Char} (iso : IsoChar c) : p c := by
  apply List.all_iff_forall_prop.mp each
  rcases iso with digit | marked
  · have bounds : 48 ≤ c.toNat ∧ c.toNat ≤ 57 := Char.isDigit_iff_toNat.mp digit
    rw [← Char.ofNat_toNat c]
    generalize c.toNat = n at bounds
    obtain ⟨low,high⟩ := bounds
    interval_cases n <;> decide
  · exact List.mem_append_right ['0','1','2','3','4','5','6','7','8','9'] marked

theorem time_isoChars (moment : Calendar.Moment) : ∀ c ∈ timeText moment ++ ['Z'], IsoChar c := by
  intro c member
  simp only [timeText,List.mem_append,List.mem_cons,List.not_mem_nil,or_false] at member
  rcases member with (digit | rfl | digit | rfl | digit) | rfl
  · exact .inl (Decimal.fixed_digits _ _ c digit)
  · exact .inr (by decide)
  · exact .inl (Decimal.fixed_digits _ _ c digit)
  · exact .inr (by decide)
  · exact .inl (Decimal.fixed_digits _ _ c digit)
  · exact .inr (by decide)

theorem stamp_isoChars (year : List Char) (digits : ∀ c ∈ year, c.isDigit = true) (moment : Calendar.Moment) :
    ∀ c ∈ stampText year moment, IsoChar c := by
  intro c member
  rcases List.mem_append.mp member with digit | member
  · exact .inl (digits c digit)
  · rcases List.mem_cons.mp member with rfl | member
    · exact .inr (by decide)
    · rcases List.mem_append.mp member with digit | member
      · exact .inl (Decimal.fixed_digits _ _ c digit)
      · rcases List.mem_cons.mp member with rfl | member
        · exact .inr (by decide)
        · rcases List.mem_append.mp member with digit | member
          · exact .inl (Decimal.fixed_digits _ _ c digit)
          · rcases List.mem_cons.mp member with rfl | member
            · exact .inr (by decide)
            · exact time_isoChars moment c member

-- The only mark of the formats among them is the hyphen.
theorem isoChar_mark {c : Char} (iso : IsoChar c) : foldCase c ≠ foldCase '/' ∧ (foldCase c = foldCase '-' → c = '-') :=
  isoChar_all (fun c => foldCase c ≠ foldCase '/' ∧ (foldCase c = foldCase '-' → c = '-')) (by decide) iso

theorem marked_read {letter mark : Char} (letters : letter = 'm' ∨ letter = 'd') (plain : Text.isSpace mark = false)
    {format : List Directive} {text : List Char} {way : List (Directive × List Char) × List Char}
    (found : way ∈ formatWays h (.field letter :: .literal mark :: format) text) :
    ∃ m c left more, text = m ++ c :: left ∧ '-' ∉ m ∧ foldCase c = foldCase mark ∧ more ∈ formatWays h format left := by
  obtain ⟨m,left,more,rfl,matched,later⟩ := formatWays_first h found
  obtain ⟨_,rest,last,rfl,sep,inside⟩ := formatWays_first h later
  simp only [directiveRe,plain] at sep
  obtain ⟨c,rfl,same⟩ := sep
  exact ⟨m,c,rest,last,rfl,fun member => (within_all _ _ (pair_unmarked h letters) _ _ _ matched _ member).1 rfl,of_decide_eq_true same,inside⟩

-- Four digits are the year.
theorem year_read {format : List Directive} {text : List Char} {way : List (Directive × List Char) × List Char}
    (found : way ∈ formatWays h (.field 'Y' :: format) text) :
    ∃ m left, text = m ++ left ∧ m.length = 4 ∧ ∀ c ∈ m, (digitValue h c).isSome = true := by
  obtain ⟨m,left,_,rfl,matched,_⟩ := formatWays_first h found
  obtain ⟨_,_,rfl,⟨a,rfl,first⟩,_,_,rfl,⟨b,rfl,second⟩,_,_,rfl,⟨c,rfl,third⟩,d,rfl,fourth⟩ := matched
  refine ⟨_,left,rfl,rfl,?_⟩
  intro x member
  simp only [List.cons_append,List.nil_append,List.mem_cons,List.not_mem_nil,or_false] at member
  rcases member with rfl | rfl | rfl | rfl
  · exact first
  · exact second
  · exact third
  · exact fourth

-- A year of fewer digits is read by no format.
theorem unpadded_unread (year : List Char) (digits : ∀ c ∈ year, c.isDigit = true) (short : year.length < 4) (moment : Calendar.Moment) (format : String)
    (listed : format ∈ dateFormats) : strptime h (stampText year moment) format = none := by
  have chars := stamp_isoChars year digits moment
  refine strptime_empty h _ format ?_
  rw [List.eq_nil_iff_forall_not_mem]
  intro way member
  rcases formats_begin format listed with ⟨rest,parsed⟩ | ⟨letter,rest,parsed,letters⟩ | parsed
  · rw [parsed] at member
    obtain ⟨m,left,split,four,read⟩ := year_read h member
    have inside : '-' ∈ m := by
      have front : m = (stampText year moment).take 4 := by rw [split,← four,List.take_left]
      rw [front,stampText,List.take_append]
      obtain ⟨n,more⟩ := Nat.exists_eq_add_of_lt short
      have room : 4 - year.length = n + 1 := by omega
      rw [room,List.take_succ_cons]
      exact List.mem_append_right _ List.mem_cons_self
    have none := digitValue_mark h '-' (by decide) (by decide)
    have some_ := read '-' inside
    rw [none] at some_
    cases some_
  · rw [parsed] at member
    obtain ⟨m,c,left,_,split,_,same,_⟩ := marked_read h letters (by decide) member
    have inside : c ∈ stampText year moment := by
      rw [split]
      exact List.mem_append_right _ List.mem_cons_self
    exact (isoChar_mark (chars c inside)).1 same
  · rw [parsed] at member
    obtain ⟨m,c,left,more,split,absent,same,later⟩ := marked_read h (.inr rfl) (by decide) member
    have hyphen : c = '-' := by
      refine (isoChar_mark (chars c ?_)).2 same
      rw [split]
      exact List.mem_append_right _ List.mem_cons_self
    subst hyphen
    obtain ⟨_,rest⟩ := split_mark split (digits_unmarked digits) absent
    obtain ⟨m',c',left',more',split',absent',same',later'⟩ := marked_read h (.inl rfl) (by decide) later
    rw [← rest] at split'
    have hyphen' : c' = '-' := by
      refine (isoChar_mark (chars c' ?_)).2 same'
      rw [stampText,split']
      simp
    subst hyphen'
    obtain ⟨_,rest'⟩ := split_mark split' (digits_unmarked (Decimal.fixed_digits 2 _)) absent'
    rw [← rest',formatWays_unyeared h _ 'T' (digitValue_mark h 'T' (by decide) (by decide))] at later'
    cases later'

theorem fromisoformat_unpadded (year : List Char) (digits : ∀ c ∈ year, c.isDigit = true) (short : year.length < 4) (moment : Calendar.Moment) :
    fromisoformat h (stampText year moment) = none := by
  have week : (stampText year moment)[5]? ≠ some 'W' := by
    intro found
    have iso := stamp_isoChars year digits moment 'W' (List.mem_of_getElem? found)
    revert iso
    unfold IsoChar
    decide
  have inside : '-' ∈ (stampText year moment).take 4 := by
    rw [stampText,List.take_append]
    obtain ⟨n,more⟩ := Nat.exists_eq_add_of_lt short
    have room : 4 - year.length = n + 1 := by omega
    rw [room,List.take_succ_cons]
    exact List.mem_append_right _ List.mem_cons_self
  have none : isoDigits 4 (stampText year moment) = none := by
    rw [isoDigits]
    refine if_neg ?_
    rintro ⟨_,all⟩
    exact absurd (List.all_eq_true.mp all '-' inside) (by decide)
  rw [fromisoformat,if_neg week,none]
  rfl

end Unpadded

section Written
variable (h : CleaningHost)

theorem strftime_stamp (dates : DateHost) (moment : Calendar.Moment) (offset : Option Int) :
    strftime dates isoFormat moment offset = stampText (dates.year moment.date.year) moment := by
  have format : directives isoFormat.toList = [.field 'Y',.literal '-',.field 'm',.literal '-',.field 'd',.literal 'T',.field 'H',
      .literal ':',.field 'M',.literal ':',.field 'S',.literal 'Z'] := by decide +kernel
  rw [strftime,format]
  simp [writeDirective,stampText,timeText]

def isoOf (wall : Int) : List Char := strftime h.dates isoFormat (ofMicroseconds wall) none

-- A year is written with four digits or with as many as it has.
theorem year_text (y : Nat) (low : 1 ≤ y) (high : y ≤ 9999) : h.dates.year y = Decimal.fixed 4 y ∨
    (h.dates.year y = Nat.toDigits 10 y ∧ (Nat.toDigits 10 y).length < 4) := by
  rcases Nat.lt_or_ge y 1000 with small | large
  · refine (h.early y low small).imp_right fun written => ⟨written,?_⟩
    have three := (Nat.length_toDigits_le_iff (show 1 < 10 by decide) (show 0 < 3 by decide)).mpr (show y < 10 ^ 3 by omega)
    omega
  · exact .inl (h.dates.fourDigits y large high)

theorem year_digits (y : Nat) (low : 1 ≤ y) (high : y ≤ 9999) : ∀ c ∈ h.dates.year y, c.isDigit = true := by
  rcases year_text h y low high with written | ⟨written,_⟩
  · rw [written]
    exact Decimal.fixed_digits 4 y
  · rw [written]
    exact Decimal.toDigits_digits y

variable (wall : Int)

theorem isoOf_hyphen : '-' ∈ isoOf h wall := by
  rw [isoOf,strftime_stamp,stampText]
  exact List.mem_append_right _ List.mem_cons_self

-- The microseconds are not written.
theorem isoOf_seconds : isoOf h (wall / 1000000 * 1000000) = isoOf h wall := by
  have whole : wall / 1000000 * 1000000 / 1000000 = wall / 1000000 := by omega
  rw [isoOf,isoOf,strftime_stamp,strftime_stamp]
  unfold ofMicroseconds stampText timeText
  simp only [whole]

variable (inside : Representable wall)
include inside

theorem isoOf_isoChars : ∀ c ∈ isoOf h wall, IsoChar c := by
  have year := (toMicroseconds_ofMicroseconds wall inside).1.date.year
  rw [isoOf,strftime_stamp]
  exact stamp_isoChars _ (year_digits h _ year.1 year.2) _

theorem isoOf_stripped : Text.strip Text.isSpace (isoOf h wall) = isoOf h wall := by
  have visible : ∀ c ∈ isoOf h wall, Text.isSpace c = false := by
    intro c member
    exact isoChar_all (fun c => Text.isSpace c = false) (by decide) (isoOf_isoChars h wall inside c member)
  exact (Text.strip_fixed _ _).mpr ⟨fun c first => visible c (List.mem_of_mem_head? first),fun c last => visible c (List.mem_of_mem_getLast? last)⟩

-- What has been written as ISO text is read as its second, or not at all.
theorem isoOf_read : tryParseDate h.dates (isoOf h wall) = .ok (some (wall / 1000000 * 1000000,0)) ∨
    tryParseDate h.dates (isoOf h wall) = .ok none := by
  obtain ⟨valid,_⟩ := toMicroseconds_ofMicroseconds wall inside
  have year := valid.date.year
  have stripped := isoOf_stripped h wall inside
  rcases year_text h _ year.1 year.2 with padded | ⟨unpadded,short⟩
  · left
    obtain ⟨proper,counted⟩ := atSecond_time wall inside
    have read := fromisoformat_time h.dates (atSecond (ofMicroseconds wall)) proper 'T' [] ['Z'] (some 0) rfl (fun _ none => (nomatch none))
      (by intro c first; cases first; decide) rfl
    have shape : isoOf h wall = dateText (atSecond (ofMicroseconds wall)) ++ 'T' :: (timeText (atSecond (ofMicroseconds wall)) ++ ([] ++ ['Z'])) := by
      rw [isoOf,strftime_stamp,padded]
      simp [stampText,dateText,timeText,atSecond]
    rw [← shape,counted] at read
    have hyphen := (year_next (atSecond (ofMicroseconds wall)) ('T' :: (timeText (atSecond (ofMicroseconds wall)) ++ ([] ++ ['Z'])))).1
    rw [← shape] at hyphen
    exact tryParseDate_iso h.dates _ stripped hyphen read
  · right
    have digits := Decimal.toDigits_digits (ofMicroseconds wall).date.year
    have shape : isoOf h wall = stampText (Nat.toDigits 10 (ofMicroseconds wall).date.year) (ofMicroseconds wall) := by
      rw [isoOf,strftime_stamp,unpadded]
    have mark := allDigits_mark h.dates (isoOf h wall) '-' (isoOf_hyphen h wall) (by decide) (by decide)
    have iso : fromisoformat h.dates (isoOf h wall) = none := by
      rw [shape]
      exact fromisoformat_unpadded h.dates _ digits short _
    have formats : dateFormats.findSome? (strptime h.dates (isoOf h wall)) = none := by
      rw [List.findSome?_eq_none_iff,shape]
      exact unpadded_unread h.dates _ digits short _
    rw [tryParseDate,stripped]
    simp only [mark,iso,formats,ite_self]
    rfl

theorem isoOf_dated : datedValue h (.str (String.ofList (isoOf h wall))) = .ok (.str (String.ofList (isoOf h wall))) := by
  have filled : String.ofList (isoOf h wall) ≠ "" := by
    intro empty
    have nil : isoOf h wall = [] := by rw [← String.toList_ofList (l := isoOf h wall),empty]; rfl
    have hyphen := isoOf_hyphen h wall
    rw [nil] at hyphen
    cases hyphen
  unfold datedValue
  simp only [if_neg filled,String.toList_ofList]
  rcases isoOf_read h wall inside with read | unread
  · rw [read]
    have proper : Representable (wall / 1000000 * 1000000 - 0) := by
      obtain ⟨low,high⟩ := inside
      constructor <;> omega
    simp only [if_pos proper]
    rw [sub_zero]
    exact congrArg (fun text => Except.ok (Value.str (String.ofList text))) (isoOf_seconds h wall)
  · rw [unread]

end Written

end DataCleaner
end RiskPulse
