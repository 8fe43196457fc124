import Mathlib.Tactic.IntervalCases
import RiskPulse.DateReading

namespace RiskPulse
open Calendar
namespace DataCleaner
variable (h : DateHost)

section Rendering
variable (moment : Moment) (offset : Option Int)

-- 20240229, 030405
def compactDate : List Char :=
  Decimal.fixed 4 moment.date.year ++ (Decimal.fixed 2 moment.date.month ++ Decimal.fixed 2 moment.date.day)

def compactTime : List Char := Decimal.fixed 2 moment.hour ++ (Decimal.fixed 2 moment.minute ++ Decimal.fixed 2 moment.second)

-- The text of a moment in UTC.
def isoText : List Char := dateText moment ++ 'T' :: (timeText moment ++ ['Z'])

variable (low : 1000 ≤ moment.date.year) (high : moment.date.year ≤ 9999)
include low high

theorem strftime_iso : strftime h isoFormat moment offset = isoText moment := by
  have format : directives isoFormat.toList = [.field 'Y',.literal '-',.field 'm',.literal '-',.field 'd',.literal 'T',.field 'H',
      .literal ':',.field 'M',.literal ':',.field 'S',.literal 'Z'] := rfl
  rw [strftime,format]
  simp [writeDirective,h.fourDigits _ low high,isoText,dateText,timeText]

-- What a moment is written as in the formats that begin with a year and a hyphen.
theorem strftime_time (separator : Char) (fraction zone : List Directive)
    (format : String) (parsed : directives format.toList = ([.field 'Y',.literal '-',.field 'm',.literal '-',.field 'd',.literal separator,
      .field 'H',.literal ':',.field 'M',.literal ':',.field 'S'] : List Directive) ++ (fraction ++ zone)) :
    strftime h format moment offset = dateText moment ++ separator :: (timeText moment ++
      (fraction.flatMap (writeDirective h moment offset) ++ zone.flatMap (writeDirective h moment offset))) := by
  rw [strftime,parsed,List.flatMap_append,List.flatMap_append]
  simp [writeDirective,h.fourDigits _ low high,dateText,timeText]

theorem strftime_date : strftime h "%Y-%m-%d" moment offset = dateText moment := by
  have format : directives "%Y-%m-%d".toList = [.field 'Y',.literal '-',.field 'm',.literal '-',.field 'd'] := rfl
  rw [strftime,format]
  simp [writeDirective,h.fourDigits _ low high,dateText]

theorem strftime_slashTime : strftime h "%m/%d/%Y %H:%M:%S" moment offset = slashText moment ++ ' ' :: timeText moment := by
  have format : directives "%m/%d/%Y %H:%M:%S".toList =
      [.field 'm',.literal '/',.field 'd',.literal '/',.field 'Y',.literal ' ',.field 'H',.literal ':',.field 'M',.literal ':',.field 'S'] :=
    rfl
  rw [strftime,format]
  simp [writeDirective,h.fourDigits _ low high,slashText,timeText]

theorem strftime_slash : strftime h "%m/%d/%Y" moment offset = slashText moment := by
  have format : directives "%m/%d/%Y".toList = [.field 'm',.literal '/',.field 'd',.literal '/',.field 'Y'] := rfl
  rw [strftime,format]
  simp [writeDirective,h.fourDigits _ low high,slashText]

theorem strftime_dayFirst : strftime h "%d-%m-%Y" moment offset = dayFirstText moment := by
  have format : directives "%d-%m-%Y".toList = [.field 'd',.literal '-',.field 'm',.literal '-',.field 'Y'] := rfl
  rw [strftime,format]
  simp [writeDirective,h.fourDigits _ low high,dayFirstText]

theorem strftime_compact : strftime h "%Y%m%d%H%M%S" moment offset = compactDate moment ++ compactTime moment ∧
    strftime h "%Y%m%d" moment offset = compactDate moment := by
  have format : directives "%Y%m%d%H%M%S".toList = [.field 'Y',.field 'm',.field 'd',.field 'H',.field 'M',.field 'S'] := rfl
  have shorter : directives "%Y%m%d".toList = [.field 'Y',.field 'm',.field 'd'] := rfl
  rw [strftime,format,strftime,shorter]
  simp [writeDirective,h.fourDigits _ low high,compactDate,compactTime]

end Rendering

section Denotation

-- The ISO text with suffix Z of the instant, in seconds since 1970.
def Denotes (text : String) (t : Int) : Prop :=
  ∃ moment : Moment, moment.Valid ∧ moment.microsecond = 0 ∧ text.toList = isoText moment ∧ moment.toMicroseconds = t * 1000000

theorem fixed_injective {size n m : Nat} (first : n < 10 ^ size) (second : m < 10 ^ size) (same : Decimal.fixed size n = Decimal.fixed size m) :
    n = m := by
  rw [← Decimal.value_fits size n first,same,Decimal.value_fits size m second]

-- A text denotes one moment.
theorem isoText_injective {one other : Moment} (valid : one.Valid) (proper : other.Valid) (same : isoText one = isoText other)
    (whole : one.microsecond = other.microsecond) : one = other := by
  obtain ⟨year,month,day⟩ := date_digits one valid
  obtain ⟨year',month',day'⟩ := date_digits other proper
  have hours := valid.hour
  have hours' := proper.hour
  have minutes := valid.minute
  have minutes' := proper.minute
  have seconds := valid.second
  have seconds' := proper.second
  simp only [isoText,dateText,timeText,List.append_assoc,List.cons_append] at same
  obtain ⟨y,same⟩ := List.append_inj same (by simp)
  obtain ⟨m,same⟩ := List.append_inj (List.cons.inj same).2 (by simp)
  obtain ⟨d,same⟩ := List.append_inj (List.cons.inj same).2 (by simp)
  obtain ⟨hh,same⟩ := List.append_inj (List.cons.inj same).2 (by simp)
  obtain ⟨mm,same⟩ := List.append_inj (List.cons.inj same).2 (by simp)
  obtain ⟨ss,_⟩ := List.append_inj (List.cons.inj same).2 (by simp)
  have equal := fixed_injective year year' y
  have equalMonth := fixed_injective month month' m
  have equalDay := fixed_injective day day' d
  have equalHour := fixed_injective (show one.hour < 10 ^ 2 by omega) (show other.hour < 10 ^ 2 by omega) hh
  have equalMinute := fixed_injective (show one.minute < 10 ^ 2 by omega) (show other.minute < 10 ^ 2 by omega) mm
  have equalSecond := fixed_injective (show one.second < 10 ^ 2 by omega) (show other.second < 10 ^ 2 by omega) ss
  obtain ⟨⟨_,_,_⟩,_,_,_,_⟩ := one
  obtain ⟨⟨_,_,_⟩,_,_,_,_⟩ := other
  simp_all

-- The second of a time.
theorem atSecond_time (wall : Int) (inside : Representable wall) :
    (atSecond (ofMicroseconds wall)).Valid ∧ (atSecond (ofMicroseconds wall)).toMicroseconds = wall / 1000000 * 1000000 := by
  obtain ⟨valid,same⟩ := toMicroseconds_ofMicroseconds wall inside
  refine ⟨⟨valid.date,valid.hour,valid.minute,valid.second,Nat.succ_pos _⟩,?_⟩
  have micro : ((ofMicroseconds wall).microsecond : Int) = wall % 1000000 := Int.toNat_of_nonneg (by omega)
  unfold Moment.toMicroseconds at same ⊢
  simp only [atSecond]
  omega

-- What is written of a time denotes its whole seconds.
theorem denotes_written (wall t : Int) (inside : Representable wall) (low : 1000 ≤ (ofMicroseconds wall).date.year) :
    Denotes (String.ofList (strftime h isoFormat (ofMicroseconds wall) none)) t ↔ wall / 1000000 = t := by
  obtain ⟨second,floor⟩ := atSecond_time wall inside
  have high : (ofMicroseconds wall).date.year ≤ 9999 := second.date.year.2
  rw [strftime_iso h _ none low high]
  constructor
  · rintro ⟨moment,proper,whole,text,counted⟩
    rw [String.toList_ofList] at text
    have shown : isoText (atSecond (ofMicroseconds wall)) = isoText moment := text
    have equal := isoText_injective second proper shown whole.symm
    rw [equal,counted] at floor
    omega
  · rintro rfl
    exact ⟨_,second,rfl,String.toList_ofList,floor⟩

end Denotation

section Instants

-- The whole seconds of the years 1000 to 9999.
structure Instant (t : Int) : Prop where
  inside : Representable (t * 1000000)
  year : 1000 ≤ (ofMicroseconds (t * 1000000)).date.year

def momentOf (t : Int) : Moment := ofMicroseconds (t * 1000000)

theorem momentOf_whole (t : Int) : (momentOf t).microsecond = 0 := by
  change (t * 1000000 % 1000000).toNat = 0
  omega

variable {t : Int} (instant : Instant t)
include instant

theorem momentOf_valid : (momentOf t).Valid := (toMicroseconds_ofMicroseconds _ instant.inside).1

theorem momentOf_time : (momentOf t).toMicroseconds = t * 1000000 := (toMicroseconds_ofMicroseconds _ instant.inside).2

theorem momentOf_second : (atSecond (momentOf t)).toMicroseconds = t * 1000000 := by
  have same : atSecond (momentOf t) = momentOf t := by
    rw [atSecond,← momentOf_whole t]
  rw [same,momentOf_time instant]

theorem momentOf_midnight (midnight : 86400 ∣ t) : (atMidnight (momentOf t)).toMicroseconds = t * 1000000 := by
  have time : (momentOf t).hour = 0 ∧ (momentOf t).minute = 0 ∧ (momentOf t).second = 0 := by
    change (t * 1000000 / 1000000 % 86400).toNat / 3600 = 0 ∧ (t * 1000000 / 1000000 % 86400).toNat / 60 % 60 = 0 ∧
      (t * 1000000 / 1000000 % 86400).toNat % 60 = 0
    omega
  have same : atMidnight (momentOf t) = momentOf t := by
    rw [atMidnight]
    conv_rhs => rw [show momentOf t = ⟨(momentOf t).date,(momentOf t).hour,(momentOf t).minute,(momentOf t).second,(momentOf t).microsecond⟩ from rfl,
      time.1,time.2.1,time.2.2,momentOf_whole]
  rw [same,momentOf_time instant]

end Instants

-- The formats that write an offset, and those that write a time of day.
def zonedFormats : List String := ["%Y-%m-%dT%H:%M:%S%z","%Y-%m-%dT%H:%M:%S.%f%z"]

def dateOnlyFormats : List String := ["%Y-%m-%d","%m/%d/%Y","%d-%m-%Y","%Y%m%d"]

def dayFirstSlash : List String := ["%d/%m/%Y %H:%M:%S","%d/%m/%Y"]

def compactFormats : List String := ["%Y%m%d%H%M%S","%Y%m%d"]

-- A format as one of its kinds.
theorem format_cases {format : String} (listed : format ∈ dateFormats) (other : format ∉ dayFirstSlash) (spaced : format ∉ compactFormats) :
    (∃ separator fraction zone, directives format.toList = ([.field 'Y',.literal '-',.field 'm',.literal '-',.field 'd',.literal separator,
          .field 'H',.literal ':',.field 'M',.literal ':',.field 'S'] : List Directive) ++ (fraction ++ zone) ∧
        (fraction = [] ∨ fraction = [.literal '.',.field 'f']) ∧
        ((zone = [] ∨ zone = [.literal 'Z']) ∧ format ∉ zonedFormats ∨ zone = [.field 'z'])) ∨
      (format = "%Y-%m-%d" ∨ format = "%m/%d/%Y %H:%M:%S" ∨ format = "%m/%d/%Y" ∨ format = "%d-%m-%Y") := by
  simp only [dateFormats,List.mem_cons,List.not_mem_nil,or_false] at listed
  rcases listed with rfl | rfl | rfl | rfl | rfl | rfl | rfl | rfl | rfl | rfl | rfl | rfl | rfl | rfl | rfl
  · exact .inl ⟨'T',[],[.literal 'Z'],rfl,.inl rfl,.inl ⟨.inr rfl,by decide⟩⟩
  · exact .inl ⟨'T',[.literal '.',.field 'f'],[.literal 'Z'],rfl,.inr rfl,.inl ⟨.inr rfl,by decide⟩⟩
  · exact .inl ⟨'T',[],[.field 'z'],rfl,.inl rfl,.inr rfl⟩
  · exact .inl ⟨'T',[.literal '.',.field 'f'],[.field 'z'],rfl,.inr rfl,.inr rfl⟩
  · exact .inl ⟨'T',[],[],rfl,.inl rfl,.inl ⟨.inl rfl,by decide⟩⟩
  · exact .inl ⟨' ',[],[],rfl,.inl rfl,.inl ⟨.inl rfl,by decide⟩⟩
  · exact .inl ⟨' ',[.literal '.',.field 'f'],[],rfl,.inr rfl,.inl ⟨.inl rfl,by decide⟩⟩
  · exact .inr (.inl rfl)
  · exact .inr (.inr (.inl rfl))
  · exact .inr (.inr (.inr (.inl rfl)))
  · exact absurd (by decide) other
  · exact absurd (by decide) other
  · exact .inr (.inr (.inr (.inr rfl)))
  · exact absurd (by decide) spaced
  · exact absurd (by decide) spaced

section Rendered

theorem isDigit_visible (c : Char) : c.isDigit = true → Text.isSpace c = false := by
  refine Text.ascii_cases (fun c => c.isDigit = true → Text.isSpace c = false) (by decide +kernel) ?_ c
  intro c large digit
  have bounds : 48 ≤ c.toNat ∧ c.toNat ≤ 57 := Char.isDigit_iff_toNat.mp digit
  omega

theorem fixed_visible (size n : Nat) : ∀ c ∈ Decimal.fixed size n, Text.isSpace c = false :=
  fun c member => isDigit_visible c (Decimal.fixed_digits size n c member)

theorem timeText_visible (moment : Moment) : ∀ c ∈ timeText moment, Text.isSpace c = false := by
  intro c member
  simp only [timeText,List.mem_append,List.mem_cons] at member
  rcases member with digit | rfl | digit | rfl | digit
  · exact fixed_visible _ _ c digit
  · decide
  · exact fixed_visible _ _ c digit
  · decide
  · exact fixed_visible _ _ c digit

theorem offsetText_visible (offset : Option Int) : ∀ c ∈ offsetText offset, Text.isSpace c = false := by
  intro c member
  cases offset with
  | none => cases member
  | some o =>
    simp only [offsetText,List.mem_cons,List.mem_append] at member
    rcases member with sign | (digit | digit) | rest
    · rw [sign]
      split <;> decide
    · exact fixed_visible _ _ c digit
    · exact fixed_visible _ _ c digit
    · split at rest
      · cases rest
      · exact fixed_visible _ _ c rest

-- A text that begins with a number and ends visibly.
theorem strip_number (size n : Nat) (front back : List Char) (visible : ∀ c ∈ back, Text.isSpace c = false) (long : back ≠ []) :
    Text.strip Text.isSpace (Decimal.fixed (size + 1) n ++ (front ++ back)) = Decimal.fixed (size + 1) n ++ (front ++ back) := by
  apply strip_visible
  · intro c first
    obtain ⟨d,more,shape⟩ := List.exists_cons_of_length_eq_add_one (Decimal.length_fixed (size + 1) n)
    rw [shape] at first
    cases first
    exact fixed_visible _ n c (shape ▸ List.mem_cons_self)
  · intro c last
    rw [← List.append_assoc,List.getLast?_append_of_ne_nil _ long] at last
    exact visible c (List.mem_of_getLast? last)

variable {t o : Int} (wall : Instant (t + o)) (day : |o| < 86400)
include wall day

-- A rendering with a hyphen after the year and a time of day is read as its moment.
theorem read_time (format : String) (separator : Char) (fraction zone : List Directive)
    (parsed : directives format.toList = ([.field 'Y',.literal '-',.field 'm',.literal '-',.field 'd',.literal separator,
      .field 'H',.literal ':',.field 'M',.literal ':',.field 'S'] : List Directive) ++ (fraction ++ zone))
    (fractions : fraction = [] ∨ fraction = [.literal '.',.field 'f'])
    (zones : (zone = [] ∨ zone = [.literal 'Z']) ∧ o = 0 ∨ zone = [.field 'z']) :
    tryParseDate h (strftime h format (momentOf (t + o)) (some o)) = .ok (some ((t + o) * 1000000,o * 1000000)) := by
  have valid := momentOf_valid wall
  have whole := momentOf_whole (t + o)
  rw [strftime_time h (momentOf (t + o)) (some o) wall.year valid.date.year.2 separator fraction zone format parsed]
  obtain ⟨written,wrote,read,apart,shown⟩ : ∃ written, fraction.flatMap (writeDirective h (momentOf (t + o)) (some o)) = written ∧
      isoFraction written = some (momentOf (t + o)).microsecond ∧ (∀ c ∈ written, (!beginsZone c) = true) ∧
      ∀ c ∈ written, Text.isSpace c = false := by
    rcases fractions with rfl | rfl
    · refine ⟨[],rfl,by rw [whole]; rfl,?_,?_⟩ <;> intro c member <;> cases member
    · refine ⟨'.' :: Decimal.fixed 6 (momentOf (t + o)).microsecond,?_,isoFraction_fixed _ valid.microsecond,?_,?_⟩
      · simp [writeDirective]
      · intro c member
        rcases List.mem_cons.mp member with rfl | digit
        · decide
        · exact digits_apart _ 6 c digit
      · intro c member
        rcases List.mem_cons.mp member with rfl | digit
        · decide
        · exact fixed_visible _ _ c digit
  obtain ⟨offset,zoned,begins,visible,same⟩ : ∃ offset, isoZone (zone.flatMap (writeDirective h (momentOf (t + o)) (some o))) = some offset ∧
      (∀ c ∈ (zone.flatMap (writeDirective h (momentOf (t + o)) (some o))).head?, beginsZone c = true) ∧
      (∀ c ∈ zone.flatMap (writeDirective h (momentOf (t + o)) (some o)), Text.isSpace c = false) ∧ offset.getD 0 = o * 1000000 := by
    rcases zones with ⟨rfl | rfl,rfl⟩ | rfl
    · exact ⟨none,rfl,fun _ none => (nomatch none),fun _ none => (nomatch none),rfl⟩
    · refine ⟨some 0,rfl,?_,?_,rfl⟩
      · intro c first
        cases first
        decide
      · intro c member
        rw [List.mem_singleton.mp member]
        decide
    · have text : [Directive.field 'z'].flatMap (writeDirective h (momentOf (t + o)) (some o)) = offsetText (some o) := by simp [writeDirective]
      rw [text]
      refine ⟨some (o * 1000000),isoZone_offset o day,?_,offsetText_visible _,rfl⟩
      intro c first
      cases first
      split <;> decide
  rw [wrote]
  have time := fromisoformat_time h (momentOf (t + o)) valid separator written _ offset read apart begins zoned
  have stripped := strip_number 3 (momentOf (t + o)).date.year
    ('-' :: (Decimal.fixed 2 (momentOf (t + o)).date.month ++ '-' :: Decimal.fixed 2 (momentOf (t + o)).date.day) ++ [separator])
    (timeText (momentOf (t + o)) ++ (written ++ zone.flatMap (writeDirective h (momentOf (t + o)) (some o))))
    (by
      intro c member
      rcases List.mem_append.mp member with inside | later
      · exact timeText_visible _ c inside
      · rcases List.mem_append.mp later with inside | inside
        · exact shown c inside
        · exact visible c inside)
    (by simp [timeText])
  have shape : ∀ rest : List Char, Decimal.fixed 4 (momentOf (t + o)).date.year ++
      (('-' :: (Decimal.fixed 2 (momentOf (t + o)).date.month ++ '-' :: Decimal.fixed 2 (momentOf (t + o)).date.day) ++ [separator]) ++ rest) =
        dateText (momentOf (t + o)) ++ separator :: rest := by
    intro rest
    simp [dateText]
  rw [shape] at stripped
  rw [tryParseDate_iso h _ stripped (year_next _ _).1 time,same,momentOf_time wall]

end Rendered

section Formats

theorem digitValue_mark (c : Char) (small : c.toNat < 128) (mark : c.isDigit = false) : digitValue h c = none := by
  rw [digitValue,if_pos small,if_neg (by rw [mark]; decide)]

-- Two numbers of two digits at the beginning have no hyphen in the fifth place.
theorem fifth_digit (a b : Nat) (c : Char) (rest : List Char) : (Decimal.fixed 2 a ++ c :: (Decimal.fixed 2 b ++ rest))[4]? ≠ some '-' := by
  have fifth : (Decimal.fixed 2 a ++ c :: (Decimal.fixed 2 b ++ rest))[4]? = some (b % 10).digitChar := rfl
  rw [fifth]
  intro same
  have digit := Decimal.fixed_digits 2 b (b % 10).digitChar (List.mem_append_right _ (List.mem_singleton.mpr rfl))
  rw [Option.some.inj same] at digit
  exact absurd digit (by decide)

-- The first eight formats begin with a year.
theorem formats_yeared (n : Nat) (c : Char) (mark : digitValue h c = none) (rest : List Char) :
    dateFormats.findSome? (strptime h (Decimal.fixed 2 n ++ c :: rest)) =
      (dateFormats.drop 8).findSome? (strptime h (Decimal.fixed 2 n ++ c :: rest)) := by
  have yeared : ∀ format ∈ dateFormats.take 8, (directives format.toList).head? = some (.field 'Y') := by decide
  have none : (dateFormats.take 8).findSome? (strptime h (Decimal.fixed 2 n ++ c :: rest)) = none := by
    rw [List.findSome?_eq_none_iff]
    intro format member
    exact strptime_unyeared h n c mark rest format (yeared format member)
  conv_lhs => rw [← List.take_append_drop 8 dateFormats,List.findSome?_append,none]
  rfl

-- Two numbers of two digits with a mark between them are left to the formats after those.
theorem read_marked (a b : Nat) (c : Char) (rest : List Char) (small : c.toNat < 128) (mark : c.isDigit = false) {text : List Char}
    (shape : text = Decimal.fixed 2 a ++ c :: (Decimal.fixed 2 b ++ rest)) (stripped : Text.strip Text.isSpace text = text)
    (read : (dateFormats.drop 8).findSome? (strptime h text) = some (wall,none)) : tryParseDate h text = .ok (some (wall,0)) := by
  have formats := formats_yeared h a c (digitValue_mark h c small mark) (Decimal.fixed 2 b ++ rest)
  have other := fifth_digit a b c rest
  have member : c ∈ text := by
    rw [shape]
    exact List.mem_append_right _ List.mem_cons_self
  rw [← shape] at formats other
  rw [read] at formats
  exact tryParseDate_formats h text stripped c member small mark other formats

variable {t : Int} (instant : Instant t)
include instant

theorem read_date (midnight : 86400 ∣ t) : tryParseDate h (dateText (momentOf t)) = .ok (some (t * 1000000,0)) := by
  have valid := momentOf_valid instant
  have stripped := strip_number 3 (momentOf t).date.year ('-' :: (Decimal.fixed 2 (momentOf t).date.month ++ ['-']))
    (Decimal.fixed 2 (momentOf t).date.day) (fixed_visible _ _) (List.ne_nil_of_length_eq_add_one (Decimal.length_fixed 2 _))
  have shape : Decimal.fixed 4 (momentOf t).date.year ++ ('-' :: (Decimal.fixed 2 (momentOf t).date.month ++ ['-']) ++
      Decimal.fixed 2 (momentOf t).date.day) = dateText (momentOf t) := by simp [dateText]
  rw [shape] at stripped
  have hyphen := (year_next (momentOf t) []).1
  rw [List.append_nil] at hyphen
  have time := momentOf_midnight instant midnight
  rw [atMidnight] at time
  have read := fromisoformat_midnight h (momentOf t) valid
  rw [time] at read
  exact tryParseDate_iso h _ stripped hyphen read

theorem read_slashTime : tryParseDate h (slashText (momentOf t) ++ ' ' :: timeText (momentOf t)) = .ok (some (t * 1000000,0)) := by
  have valid := momentOf_valid instant
  have shape : slashText (momentOf t) ++ ' ' :: timeText (momentOf t) = Decimal.fixed 2 (momentOf t).date.month ++ '/' ::
      (Decimal.fixed 2 (momentOf t).date.day ++ ('/' :: (Decimal.fixed 4 (momentOf t).date.year ++ ' ' :: timeText (momentOf t)))) := by
    simp [slashText]
  have stripped := strip_number 1 (momentOf t).date.month ('/' :: (Decimal.fixed 2 (momentOf t).date.day ++ ('/' ::
    (Decimal.fixed 4 (momentOf t).date.year ++ [' '])))) (timeText (momentOf t)) (timeText_visible _) (by simp [timeText])
  have parts : Decimal.fixed 2 (momentOf t).date.month ++ ('/' :: (Decimal.fixed 2 (momentOf t).date.day ++ ('/' ::
      (Decimal.fixed 4 (momentOf t).date.year ++ [' ']))) ++ timeText (momentOf t)) = slashText (momentOf t) ++ ' ' :: timeText (momentOf t) := by
    simp [slashText]
  rw [parts] at stripped
  have read := strptime_slashTime h (momentOf t) valid
  rw [momentOf_second instant] at read
  refine read_marked h _ _ '/' _ (by decide) (by decide) shape stripped ?_
  exact (List.findSome?_cons_of_isSome (by rw [read]; rfl)).trans read

theorem read_slash (midnight : 86400 ∣ t) : tryParseDate h (slashText (momentOf t)) = .ok (some (t * 1000000,0)) := by
  have valid := momentOf_valid instant
  have shape : slashText (momentOf t) = Decimal.fixed 2 (momentOf t).date.month ++ '/' ::
      (Decimal.fixed 2 (momentOf t).date.day ++ ('/' :: Decimal.fixed 4 (momentOf t).date.year)) := by
    simp [slashText]
  have stripped := strip_number 1 (momentOf t).date.month ('/' :: (Decimal.fixed 2 (momentOf t).date.day ++ ['/']))
    (Decimal.fixed 4 (momentOf t).date.year) (fixed_visible _ _) (List.ne_nil_of_length_eq_add_one (Decimal.length_fixed 4 _))
  have parts : Decimal.fixed 2 (momentOf t).date.month ++ ('/' :: (Decimal.fixed 2 (momentOf t).date.day ++ ['/']) ++
      Decimal.fixed 4 (momentOf t).date.year) = slashText (momentOf t) := by simp [slashText]
  rw [parts] at stripped
  obtain ⟨read,longer⟩ := strptime_slash h (momentOf t) valid
  rw [momentOf_midnight instant midnight] at read
  refine read_marked h _ _ '/' _ (by decide) (by decide) shape stripped ?_
  exact (List.findSome?_cons_of_isNone (by rw [longer]; rfl)).trans ((List.findSome?_cons_of_isSome (by rw [read]; rfl)).trans read)

theorem read_dayFirst (midnight : 86400 ∣ t) : tryParseDate h (dayFirstText (momentOf t)) = .ok (some (t * 1000000,0)) := by
  have valid := momentOf_valid instant
  have shape : dayFirstText (momentOf t) = Decimal.fixed 2 (momentOf t).date.day ++ '-' ::
      (Decimal.fixed 2 (momentOf t).date.month ++ ('-' :: Decimal.fixed 4 (momentOf t).date.year)) := by
    simp [dayFirstText]
  have stripped := strip_number 1 (momentOf t).date.day ('-' :: (Decimal.fixed 2 (momentOf t).date.month ++ ['-']))
    (Decimal.fixed 4 (momentOf t).date.year) (fixed_visible _ _) (List.ne_nil_of_length_eq_add_one (Decimal.length_fixed 4 _))
  have parts : Decimal.fixed 2 (momentOf t).date.day ++ ('-' :: (Decimal.fixed 2 (momentOf t).date.month ++ ['-']) ++
      Decimal.fixed 4 (momentOf t).date.year) = dayFirstText (momentOf t) := by simp [dayFirstText]
  rw [parts] at stripped
  have read := strptime_dayFirst h (momentOf t) valid
  rw [momentOf_midnight instant midnight] at read
  have slashed : ∀ format ∈ (dateFormats.drop 8).take 4, ∃ letter, (letter = 'm' ∨ letter = 'd') ∧
      (directives format.toList).take 2 = [.field letter,.literal '/'] := by
    intro format member
    simp only [dateFormats,List.drop_succ_cons,List.drop_zero,List.take_succ_cons,List.take_zero,List.mem_cons,List.not_mem_nil,or_false] at member
    rcases member with rfl | rfl | rfl | rfl
    · exact ⟨'m',.inl rfl,rfl⟩
    · exact ⟨'m',.inl rfl,rfl⟩
    · exact ⟨'d',.inr rfl,rfl⟩
    · exact ⟨'d',.inr rfl,rfl⟩
  have none : ((dateFormats.drop 8).take 4).findSome? (strptime h (dayFirstText (momentOf t))) = none := by
    rw [List.findSome?_eq_none_iff]
    intro format member
    obtain ⟨letter,letters,begins⟩ := slashed format member
    rw [shape]
    exact strptime_unslashed h _ _ format letter letters begins
  refine read_marked h _ _ '-' _ (by decide) (by decide) shape stripped ?_
  rw [← List.take_append_drop 4 (dateFormats.drop 8),List.findSome?_append,none]
  exact (List.findSome?_cons_of_isSome (by rw [read]; rfl)).trans read

end Formats

section Compact

theorem digitValue_fixed (size n : Nat) : ∀ c ∈ Decimal.fixed size n, (digitValue h c).isSome = true := by
  induction size generalizing n with
  | zero => exact fun _ member => nomatch member
  | succ size ih =>
    intro c member
    rcases List.mem_append.mp member with earlier | last
    · exact ih _ c earlier
    · rw [List.mem_singleton.mp last]
      exact digit_read h n

-- A text of digits alone is seconds or milliseconds.
theorem read_digits (text : List Char) (stripped : Text.strip Text.isSpace text = text) (long : text ≠ [])
    (digits : ∀ c ∈ text, (digitValue h c).isSome = true) :
    tryParseDate h text = .ok ((epochTime (readInt h text)).map fun wall => (wall,0)) := by
  have all : allDigits h text = true := by
    rw [allDigits,Bool.and_eq_true,List.all_eq_true]
    exact ⟨by simp [long],fun c member => by rw [digits c member,Bool.true_or]⟩
  rw [tryParseDate,stripped]
  simp only [all,if_true,List.all_eq_true.mpr digits]

def compactNumber (moment : Moment) : Nat := moment.date.year * 10000 + moment.date.month * 100 + moment.date.day

def compactClock (moment : Moment) : Nat := moment.hour * 10000 + moment.minute * 100 + moment.second

theorem readInt_compact (moment : Moment) (valid : moment.Valid) : readInt h (compactDate moment) = compactNumber moment ∧
    readInt h (compactDate moment ++ compactTime moment) = compactNumber moment * 1000000 + compactClock moment := by
  obtain ⟨year,month,day⟩ := date_digits moment valid
  have hour := valid.hour
  have minute := valid.minute
  have second := valid.second
  have date : readInt h (compactDate moment) = compactNumber moment := by
    simp only [compactDate,readInt_append,List.length_append,Decimal.length_fixed,readInt_fixed h _ _ year,readInt_fixed h _ _ month,
      readInt_fixed h _ _ day,compactNumber]
    omega
  have clock : readInt h (compactTime moment) = compactClock moment := by
    simp only [compactTime,readInt_append,List.length_append,Decimal.length_fixed,readInt_fixed h 2 _ (show moment.hour < 10 ^ 2 by omega),
      readInt_fixed h 2 _ (show moment.minute < 10 ^ 2 by omega),readInt_fixed h 2 _ (show moment.second < 10 ^ 2 by omega),compactClock]
    omega
  refine ⟨date,?_⟩
  rw [readInt_append,date,clock]
  simp [compactTime]

theorem daysBeforeMonth_small (leap : Bool) (month : Nat) (low : 1 ≤ month) (high : month ≤ 12) : daysBeforeMonth leap month ≤ 335 := by
  revert month
  cases leap <;> decide

-- A date read as seconds is a day of 1970, and no midnight.
theorem compact_date_other (moment : Moment) (valid : moment.Valid) (midnight : moment.toMicroseconds / 1000000 % 86400 = 0) :
    moment.toMicroseconds / 1000000 ≠ compactNumber moment := by
  have year := valid.date.year
  have month := valid.date.month
  have hour := valid.hour
  have minute := valid.minute
  have second := valid.second
  have small := valid.microsecond
  obtain ⟨dayLow,dayHigh⟩ := day_bound moment valid
  have months := daysBeforeMonth_small (isLeap moment.date.year) moment.date.month month.1 month.2
  unfold Moment.toMicroseconds Date.toOrdinal daysBeforeYear compactNumber at *
  simp only at *
  omega

-- The second of the year 2883 that its own digits count, in milliseconds.
theorem compact_crossing (month day hour minute second preceding : Nat) (months : 1 ≤ month ∧ month ≤ 12) (days : 1 ≤ day ∧ day ≤ 31)
    (hours : hour < 24) (minutes : minute < 60) (seconds : second < 60)
    (before : preceding = [0,31,59,90,120,151,181,212,243,273,304,334].getD (month - 1) 0) (t : Int)
    (time : t = ((1052629 - 719163 + preceding + day) * 24 + hour) * 3600 + minute * 60 + second)
    (met : (((28830000 + month * 100 + day) * 1000000 + (hour * 10000 + minute * 100 + second)) / 1000 : Nat) = t ∨ t = 28830811224) :
    month = 8 ∧ day = 11 ∧ hour = 22 ∧ minute = 40 ∧ second = 24 := by
  have august : month = 8 := by
    obtain ⟨first,last⟩ := months
    interval_cases month <;> simp only [Nat.reduceSub,List.getD_cons_succ,List.getD_cons_zero] at before <;> omega
  subst august
  simp only [Nat.reduceSub,List.getD_cons_succ,List.getD_cons_zero] at before
  have eleventh : day = 11 := by omega
  subst eleventh
  have late : hour = 22 := by omega
  subst late
  have forty : minute = 40 := by omega
  subst forty
  exact ⟨rfl,rfl,rfl,rfl,by omega⟩

-- A date and a time read as milliseconds are themselves at that second only.
theorem compact_time_instant (moment : Moment) (valid : moment.Valid) :
    (((compactNumber moment * 1000000 + compactClock moment) / 1000 : Nat) : Int) = moment.toMicroseconds / 1000000 ↔
      moment.toMicroseconds / 1000000 = 28830811224 := by
  have year := valid.date.year
  have month := valid.date.month
  have small := valid.microsecond
  obtain ⟨dayLow,dayHigh⟩ := day_bound moment valid
  have months := daysBeforeMonth_small (isLeap moment.date.year) moment.date.month month.1 month.2
  have hour := valid.hour
  have minute := valid.minute
  have second := valid.second
  have chosen : (((compactNumber moment * 1000000 + compactClock moment) / 1000 : Nat) : Int) = moment.toMicroseconds / 1000000 ∨
      moment.toMicroseconds / 1000000 = 28830811224 → moment.date.year = 2883 := by
    unfold Moment.toMicroseconds Date.toOrdinal daysBeforeYear compactNumber compactClock
    simp only
    omega
  by_cases then_ : moment.date.year = 2883
  · have before : ∀ month, 1 ≤ month ∧ month ≤ 12 →
        daysBeforeMonth (isLeap 2883) month = [0,31,59,90,120,151,181,212,243,273,304,334].getD (month - 1) 0 := by
      rintro month ⟨first,last⟩
      revert month
      decide
    have found := compact_crossing moment.date.month moment.date.day moment.hour moment.minute moment.second
      (daysBeforeMonth (isLeap 2883) moment.date.month) month ⟨dayLow,dayHigh⟩ hour minute second (before _ month)
      (moment.toMicroseconds / 1000000) (by
        unfold Moment.toMicroseconds Date.toOrdinal daysBeforeYear
        simp only [then_]
        omega)
    unfold compactNumber compactClock
    rw [then_]
    constructor
    · intro same
      obtain ⟨a,b,c,d,e⟩ := found (.inl same)
      rw [← same,a,b,c,d,e]
      rfl
    · intro same
      obtain ⟨a,b,c,d,e⟩ := found (.inr same)
      rw [same,a,b,c,d,e]
      rfl
  · exact ⟨fun same => absurd (chosen (.inl same)) then_,fun same => absurd (chosen (.inr same)) then_⟩

end Compact

section Storing

-- The step stores the ISO text of the instant.
def Stored (record : Record) (t : Int) : Prop :=
  ∃ cleaned changes text, parseDatesStep h record = .ok (cleaned,changes) ∧ cleaned.value "transaction_timestamp" = .str text ∧ Denotes text t

theorem stored_text (record cleaned : Record) (changes : List String) (text : String) (t : Int)
    (run : parseDatesStep h record = .ok (cleaned,changes)) (written : cleaned.value "transaction_timestamp" = .str text) :
    Stored h record t ↔ Denotes text t := by
  constructor
  · rintro ⟨other,more,found,same,value,denotes⟩
    rw [run] at same
    cases same
    rw [written] at value
    cases value
    exact denotes
  · exact fun denotes => ⟨cleaned,changes,text,run,written,denotes⟩

-- What a text is read as is what is stored, to the second.
theorem stored_read (record : Record) (text : List Char) (t : Int) (value : record.value "transaction_timestamp" = .str (String.ofList text))
    (long : text ≠ []) (read : tryParseDate h text = .ok (some (wall,offset))) (inside : Representable (wall - offset))
    (low : 1000 ≤ (ofMicroseconds (wall - offset)).date.year) : Stored h record t ↔ (wall - offset) / 1000000 = t := by
  have filled : String.ofList text ≠ "" := by
    intro empty
    apply long
    rw [← String.toList_ofList (l := text),empty]
    rfl
  have run : ∃ changes, parseDatesStep h record = .ok (record.set "transaction_timestamp"
      (.str (String.ofList (strftime h isoFormat (ofMicroseconds (wall - offset)) none))),changes) := by
    simp only [parseDatesStep,value,if_neg filled,String.toList_ofList,read]
    exact ⟨_,if_pos inside⟩
  obtain ⟨changes,run⟩ := run
  rw [stored_text h record _ _ _ t run (by rw [Record.value_set,if_pos rfl]),denotes_written h _ t inside low]

-- So is the wall clock of a datetime.
theorem stored_datetime (record : Record) (wall t : Int) (offset : Option Int)
    (value : record.value "transaction_timestamp" = .datetime wall offset) (inside : Representable wall)
    (low : 1000 ≤ (ofMicroseconds wall).date.year) : Stored h record t ↔ wall / 1000000 = t := by
  have run : parseDatesStep h record = .ok (record.set "transaction_timestamp"
      (.str (String.ofList (strftime h isoFormat (ofMicroseconds wall) none))),["datetime_to_iso:transaction_timestamp"]) := by
    simp only [parseDatesStep,value]
    rfl
  rw [stored_text h record _ _ _ t run (by rw [Record.value_set,if_pos rfl]),denotes_written h wall t inside low]

-- A number of digits is a time from 1970 on.
theorem ofMicroseconds_year (wall : Int) (positive : 0 ≤ wall) : 1000 ≤ (ofMicroseconds wall).date.year := by
  change 1000 ≤ (ofOrdinal (wall / 1000000 / 86400 + 719163).toNat).year
  have late : 719163 ≤ (wall / 1000000 / 86400 + 719163).toNat := by omega
  generalize (wall / 1000000 / 86400 + 719163).toNat = ordinal at late
  unfold ofOrdinal
  simp only
  split
  · change 1000 ≤ _ - 1
    omega
  · change 1000 ≤ _ + _
    omega

theorem stored_digits (record : Record) (text : List Char) (t : Int) (value : record.value "transaction_timestamp" = .str (String.ofList text))
    (stripped : Text.strip Text.isSpace text = text) (long : text ≠ []) (digits : ∀ c ∈ text, (digitValue h c).isSome = true)
    (read : epochTime (readInt h text) = some wall) (inside : Representable wall) (positive : 0 ≤ wall) :
    Stored h record t ↔ wall / 1000000 = t := by
  have number := read_digits h text stripped long digits
  rw [read] at number
  have stored := stored_read h record text t value long number (by rw [sub_zero]; exact inside) (by rw [sub_zero]; exact ofMicroseconds_year wall positive)
  rw [sub_zero] at stored
  exact stored

variable {t : Int} (record : Record) (instant : Instant t)
include instant

theorem stored_compactDate (midnight : 86400 ∣ t) (value : record.value "transaction_timestamp" = .str (String.ofList (compactDate (momentOf t)))) :
    ¬Stored h record t := by
  have valid := momentOf_valid instant
  have same := momentOf_time instant
  have number := (readInt_compact h (momentOf t) valid).1
  obtain ⟨year,month,day⟩ := date_digits (momentOf t) valid
  have fits : compactNumber (momentOf t) < 100000000 := by
    unfold compactNumber
    omega
  have inside : Representable (compactNumber (momentOf t) * 1000000 : Int) := ⟨by omega,by omega⟩
  have read : epochTime (readInt h (compactDate (momentOf t))) = some (compactNumber (momentOf t) * 1000000 : Int) := by
    have seconds : ¬10000000000 < compactNumber (momentOf t) := by omega
    simp only [number,epochTime,if_neg seconds]
    exact if_pos inside
  have stripped := strip_number 3 (momentOf t).date.year (Decimal.fixed 2 (momentOf t).date.month) (Decimal.fixed 2 (momentOf t).date.day)
    (fixed_visible _ _) (List.ne_nil_of_length_eq_add_one (Decimal.length_fixed 2 _))
  have digits : ∀ c ∈ compactDate (momentOf t), (digitValue h c).isSome = true := by
    intro c member
    simp only [compactDate,List.mem_append] at member
    rcases member with inside | inside | inside <;> exact digitValue_fixed h _ _ c inside
  have long : compactDate (momentOf t) ≠ [] := by
    refine List.ne_nil_of_length_pos ?_
    simp [compactDate]
  rw [stored_digits h record _ t value stripped long digits read inside (by omega)]
  have other := compact_date_other (momentOf t) valid
  rw [same] at other
  intro met
  apply other
  · omega
  · omega

theorem stored_compactTime (value : record.value "transaction_timestamp" =
    .str (String.ofList (compactDate (momentOf t) ++ compactTime (momentOf t)))) : Stored h record t ↔ t = 28830811224 := by
  have valid := momentOf_valid instant
  have same := momentOf_time instant
  have number := (readInt_compact h (momentOf t) valid).2
  have year := valid.date.year
  have low := instant.year
  obtain ⟨_,month,day⟩ := date_digits (momentOf t) valid
  have hour := valid.hour
  have minute := valid.minute
  have second := valid.second
  have fits : compactNumber (momentOf t) * 1000000 + compactClock (momentOf t) < 100000000000000 ∧
      10000000000 < compactNumber (momentOf t) * 1000000 + compactClock (momentOf t) := by
    change 1000 ≤ (momentOf t).date.year at low
    unfold compactNumber compactClock
    omega
  generalize whole : compactNumber (momentOf t) * 1000000 + compactClock (momentOf t) = n at fits number
  have inside : Representable (n * 1000 : Int) := ⟨by omega,by omega⟩
  have read : epochTime (readInt h (compactDate (momentOf t) ++ compactTime (momentOf t))) = some (n * 1000 : Int) := by
    simp only [number,epochTime,if_pos fits.2]
    exact if_pos inside
  have stripped := strip_number 3 (momentOf t).date.year (Decimal.fixed 2 (momentOf t).date.month ++ (Decimal.fixed 2 (momentOf t).date.day ++
    (Decimal.fixed 2 (momentOf t).hour ++ Decimal.fixed 2 (momentOf t).minute))) (Decimal.fixed 2 (momentOf t).second)
    (fixed_visible _ _) (List.ne_nil_of_length_eq_add_one (Decimal.length_fixed 2 _))
  have shape : Decimal.fixed (3 + 1) (momentOf t).date.year ++ (Decimal.fixed 2 (momentOf t).date.month ++ (Decimal.fixed 2 (momentOf t).date.day ++
      (Decimal.fixed 2 (momentOf t).hour ++ Decimal.fixed 2 (momentOf t).minute)) ++ Decimal.fixed 2 (momentOf t).second) =
        compactDate (momentOf t) ++ compactTime (momentOf t) := by
    simp [compactDate,compactTime]
  rw [shape] at stripped
  have digits : ∀ c ∈ compactDate (momentOf t) ++ compactTime (momentOf t), (digitValue h c).isSome = true := by
    intro c member
    simp only [compactDate,compactTime,List.mem_append] at member
    rcases member with (inside | inside | inside) | inside | inside | inside <;> exact digitValue_fixed h _ _ c inside
  have long : compactDate (momentOf t) ++ compactTime (momentOf t) ≠ [] := by
    refine List.ne_nil_of_length_pos ?_
    simp [compactDate]
  rw [stored_digits h record _ t value stripped long digits read inside (by omega)]
  have only := compact_time_instant (momentOf t) valid
  rw [whole,same] at only
  omega

-- What is read as the instant, at an offset or not, is stored as the instant.
theorem stored_instant (text : List Char) (o : Int) (value : record.value "transaction_timestamp" = .str (String.ofList text)) (long : text ≠ [])
    (read : tryParseDate h text = .ok (some ((t + o) * 1000000,o * 1000000))) : Stored h record t := by
  have shift : (t + o) * 1000000 - o * 1000000 = t * 1000000 := by omega
  have stored := stored_read h record text t value long read (by rw [shift]; exact instant.inside) (by rw [shift]; exact instant.year)
  rw [shift] at stored
  exact stored.mpr (by omega)

theorem stored_formatted {o : Int} (wall : Instant (t + o)) (day : |o| < 86400) (format : String) (listed : format ∈ dateFormats)
    (other : format ∉ dayFirstSlash) (spaced : format ∉ compactFormats) (zoned : format ∈ zonedFormats ∨ o = 0)
    (midnight : format ∈ dateOnlyFormats → 86400 ∣ t)
    (value : record.value "transaction_timestamp" = .str (String.ofList (strftime h format (momentOf (t + o)) (some o)))) : Stored h record t := by
  have valid := momentOf_valid wall
  have low : 1000 ≤ (momentOf (t + o)).date.year := wall.year
  have high := valid.date.year.2
  rcases format_cases listed other spaced with ⟨separator,fraction,zone,parsed,fractions,zones⟩ | dated
  · have read := read_time h wall day format separator fraction zone parsed fractions
      (zones.imp_left fun ⟨marked,unzoned⟩ => ⟨marked,zoned.resolve_left unzoned⟩)
    have long : strftime h format (momentOf (t + o)) (some o) ≠ [] := by
      rw [strftime_time h _ _ low high separator fraction zone format parsed]
      simp [dateText]
    exact stored_instant h record instant _ o value long read
  · have naive : o = 0 := by
      refine zoned.resolve_left ?_
      rcases dated with rfl | rfl | rfl | rfl <;> decide
    subst naive
    rw [add_zero] at value valid low high
    have whole : t * 1000000 = (t + 0) * 1000000 := by omega
    rcases dated with rfl | rfl | rfl | rfl
    · have read := read_date h instant (midnight (by decide))
      rw [strftime_date h _ _ low high] at value
      exact stored_instant h record instant _ 0 value (by simp [dateText]) (by rw [read,whole]; rfl)
    · have read := read_slashTime h instant
      rw [strftime_slashTime h _ _ low high] at value
      exact stored_instant h record instant _ 0 value (by simp [slashText]) (by rw [read,whole]; rfl)
    · have read := read_slash h instant (midnight (by decide))
      rw [strftime_slash h _ _ low high] at value
      exact stored_instant h record instant _ 0 value (by simp [slashText]) (by rw [read,whole]; rfl)
    · have read := read_dayFirst h instant (midnight (by decide))
      rw [strftime_dayFirst h _ _ low high] at value
      exact stored_instant h record instant _ 0 value (by simp [dayFirstText]) (by rw [read,whole]; rfl)

-- A rendered instant is kept unless digits alone were written, and a datetime unless its
-- offset is not zero.
theorem dates_preserved {o : Int} (wall : Instant (t + o)) (day : |o| < 86400) :
    (∀ format ∈ dateFormats, format ∉ dayFirstSlash → (format ∈ zonedFormats ∨ o = 0) → (format ∈ dateOnlyFormats → 86400 ∣ t) →
      record.value "transaction_timestamp" = .str (String.ofList (strftime h format (momentOf (t + o)) (some o))) →
      (Stored h record t ↔ format ≠ "%Y%m%d" ∧ (format = "%Y%m%d%H%M%S" → t = 28830811224))) ∧
    (record.value "transaction_timestamp" = .datetime ((t + o) * 1000000) (some o) → (Stored h record t ↔ o = 0)) ∧
    (record.value "transaction_timestamp" = .datetime (t * 1000000) none → Stored h record t) := by
  refine ⟨?_,?_,?_⟩
  · intro format listed other zoned midnight value
    by_cases compact : format ∈ compactFormats
    · have naive : o = 0 := by
        refine zoned.resolve_left ?_
        rcases List.mem_pair.mp compact with rfl | rfl <;> decide
      subst naive
      rw [add_zero] at value wall
      have low : 1000 ≤ (momentOf t).date.year := wall.year
      have high := (momentOf_valid wall).date.year.2
      rcases List.mem_pair.mp compact with rfl | rfl
      · rw [(strftime_compact h (momentOf t) (some 0) low high).1] at value
        rw [stored_compactTime h record instant value]
        simp
      · rw [(strftime_compact h (momentOf t) (some 0) low high).2] at value
        have never := stored_compactDate h record instant (midnight (by decide)) value
        simp [never]
    · have kept := stored_formatted h record instant wall day format listed other compact zoned midnight value
      have plain : format ≠ "%Y%m%d" ∧ format ≠ "%Y%m%d%H%M%S" := by
        constructor
        · rintro rfl
          exact compact (by decide)
        · rintro rfl
          exact compact (by decide)
      exact iff_of_true kept ⟨plain.1,fun same => absurd same plain.2⟩
  · intro value
    rw [stored_datetime h record _ t _ value wall.inside wall.year]
    omega
  · intro value
    rw [stored_datetime h record _ t _ value instant.inside instant.year]
    omega

end Storing

-- A machine whose years have no leading zeros and whose digits are those of ASCII.
def exampleDates : DateHost where
  year y := if 1000 ≤ y ∧ y ≤ 9999 then Decimal.fixed 4 y else Nat.toDigits 10 y
  digit _ := none
  digitLike _ := false
  isoWeek _ := none
  fourDigits _ low high := if_pos ⟨low,high⟩

def dated (v : Value) : Record := .ofList [("transaction_timestamp",v)]

-- The fourth second after four minutes past three in the morning of a leap day.
theorem leapInstant : Instant 1709175844 := ⟨by decide +kernel,by decide +kernel⟩

theorem dates_preserved_leap : Stored exampleDates (dated (.str "2024-02-29T05:04:04+0200")) 1709175844 := by
  have eastern : Instant (1709175844 + 7200) := ⟨by decide +kernel,by decide +kernel⟩
  have written : String.ofList (strftime exampleDates "%Y-%m-%dT%H:%M:%S%z" (momentOf (1709175844 + 7200)) (some 7200)) =
      "2024-02-29T05:04:04+0200" := by decide +kernel
  refine ((dates_preserved exampleDates (dated (.str "2024-02-29T05:04:04+0200")) leapInstant eastern (by decide)).1 "%Y-%m-%dT%H:%M:%S%z"
    (by decide) (by decide) (.inl (by decide)) (fun dateOnly => absurd dateOnly (by decide)) ?_).mpr
    ⟨by decide,fun same => absurd same (by decide)⟩
  rw [written]
  rfl

-- The digits of a date are seconds, those of a date and a time milliseconds, and an aware
-- datetime keeps its wall clock.
theorem digits_and_offsets_moved :
    String.ofList (strftime exampleDates "%Y%m%d" (momentOf 1709164800) none) = "20240229" ∧
    ((parseDatesStep exampleDates (dated (.str "20240229"))).toOption.map fun r => r.1.value "transaction_timestamp") =
      some (.str "1970-08-23T06:17:09Z") ∧
    ¬Stored exampleDates (dated (.str "20240229")) 1709164800 ∧
    String.ofList (strftime exampleDates "%Y%m%d%H%M%S" (momentOf 1709175844) none) = "20240229030404" ∧
    ((parseDatesStep exampleDates (dated (.str "20240229030404"))).toOption.map fun r => r.1.value "transaction_timestamp") =
      some (.str "2611-05-22T21:50:30Z") ∧
    ¬Stored exampleDates (dated (.str "20240229030404")) 1709175844 ∧
    ((parseDatesStep exampleDates (dated (.datetime 1709183044000000 (some 7200)))).toOption.map fun r => r.1.value "transaction_timestamp") =
      some (.str "2024-02-29T05:04:04Z") ∧
    ¬Stored exampleDates (dated (.datetime 1709183044000000 (some 7200))) 1709175844 := by
  have midnight : Instant 1709164800 := ⟨by decide +kernel,by decide +kernel⟩
  have compact : String.ofList (compactDate (momentOf 1709164800)) = "20240229" := by decide +kernel
  have longer : String.ofList (compactDate (momentOf 1709175844) ++ compactTime (momentOf 1709175844)) = "20240229030404" := by decide +kernel
  refine ⟨by decide +kernel,by decide +kernel,?_,by decide +kernel,by decide +kernel,?_,by decide +kernel,?_⟩
  · refine stored_compactDate exampleDates _ midnight ⟨19782,rfl⟩ ?_
    rw [compact]
    rfl
  · rw [stored_compactTime exampleDates _ leapInstant (by rw [longer]; rfl)]
    decide
  · rw [stored_datetime exampleDates _ 1709183044000000 1709175844 (some 7200) rfl (by decide +kernel) (by decide +kernel)]
    decide

end DataCleaner
end RiskPulse
