import Mathlib.Tactic.Linarith
import RiskPulse.DateParsing

namespace RiskPulse
open Regex Calendar
namespace DataCleaner
variable (h : DateHost)

section Fromisoformat

theorem isoDigits_fixed (size n : Nat) (rest : List Char) (fits : n < 10 ^ size) :
    isoDigits size (Decimal.fixed size n ++ rest) = some (n,rest) := by
  have front : (Decimal.fixed size n ++ rest).take size = Decimal.fixed size n := List.take_left' (Decimal.length_fixed size n)
  have back : (Decimal.fixed size n ++ rest).drop size = rest := List.drop_left' (Decimal.length_fixed size n)
  rw [isoDigits]
  simp only [front,back]
  rw [if_pos ⟨Decimal.length_fixed size n,List.all_eq_true.mpr (Decimal.fixed_digits size n)⟩,Decimal.value_fits size n fits]

theorem isoFraction_fixed (n : Nat) (fits : n < 1000000) : isoFraction ('.' :: Decimal.fixed 6 n) = some n := by
  have filled : Decimal.fixed 6 n ≠ [] := List.ne_nil_of_length_eq_add_one (Decimal.length_fixed 6 n)
  rw [isoFraction,if_pos ⟨.inl rfl,filled,List.all_eq_true.mpr (Decimal.fixed_digits 6 n)⟩]
  have whole : (Decimal.fixed 6 n).take 6 = Decimal.fixed 6 n := List.take_of_length_le (Decimal.length_fixed 6 n).le
  rw [whole,Decimal.length_fixed,Decimal.value_fits 6 n fits,Nat.sub_self,Nat.pow_zero,Nat.mul_one]

-- 2024-02-29, 03:04:05
def dateText (moment : Moment) : List Char :=
  Decimal.fixed 4 moment.date.year ++ '-' :: (Decimal.fixed 2 moment.date.month ++ '-' :: Decimal.fixed 2 moment.date.day)

def timeText (moment : Moment) : List Char :=
  Decimal.fixed 2 moment.hour ++ ':' :: (Decimal.fixed 2 moment.minute ++ ':' :: Decimal.fixed 2 moment.second)

theorem isoClock_time (moment : Moment) (valid : moment.Valid) (fraction : List Char) (read : isoFraction fraction = some n) :
    isoClock (timeText moment ++ fraction) = some (moment.hour,moment.minute,moment.second,n) := by
  have hour := valid.hour
  have minute := valid.minute
  have second := valid.second
  have text : timeText moment ++ fraction =
      Decimal.fixed 2 moment.hour ++ (':' :: (Decimal.fixed 2 moment.minute ++ ':' :: (Decimal.fixed 2 moment.second ++ fraction))) := by
    simp [timeText]
  rw [text,isoClock]
  simp [isoDigits_fixed 2 _ _ (show moment.hour < 10 ^ 2 by omega),isoDigits_fixed 2 _ _ (show moment.minute < 10 ^ 2 by omega),
    isoDigits_fixed 2 _ _ (show moment.second < 10 ^ 2 by omega),read]

theorem fixed_head (n : Nat) (rest : List Char) (c : Char) (mark : c.isDigit = false) : (Decimal.fixed 2 n ++ rest).head? ≠ some c := by
  intro first
  obtain ⟨d,more,shape⟩ := List.exists_cons_of_length_eq_add_one (Decimal.length_fixed 2 n)
  rw [shape] at first
  cases first
  have digit := Decimal.fixed_digits 2 n c (shape ▸ List.mem_cons_self)
  rw [digit] at mark
  cases mark

-- Digits without colons, as in an offset.
theorem isoClock_minutes (a b : Nat) (hours : a < 100) (minutes : b < 100) :
    isoClock (Decimal.fixed 2 a ++ Decimal.fixed 2 b) = some (a,b,0,0) := by
  have mark := fixed_head b [] ':' (by decide)
  rw [List.append_nil] at mark
  have last := isoDigits_fixed 2 b [] (by omega)
  rw [List.append_nil] at last
  have long : Decimal.fixed 2 b ≠ [] := List.ne_nil_of_length_eq_add_one (Decimal.length_fixed 2 b)
  rw [isoClock]
  simp [isoDigits_fixed 2 a _ (show a < 10 ^ 2 by omega),last,mark,long]

theorem isoClock_seconds (a b c : Nat) (hours : a < 100) (minutes : b < 100) (seconds : c < 100) :
    isoClock (Decimal.fixed 2 a ++ (Decimal.fixed 2 b ++ Decimal.fixed 2 c)) = some (a,b,c,0) := by
  have mark := fixed_head b [] ':' (by decide)
  rw [List.append_nil] at mark
  have last := isoDigits_fixed 2 c [] (by omega)
  rw [List.append_nil] at last
  have long : Decimal.fixed 2 b ≠ [] := List.ne_nil_of_length_eq_add_one (Decimal.length_fixed 2 b)
  have longer : Decimal.fixed 2 c ≠ [] := List.ne_nil_of_length_eq_add_one (Decimal.length_fixed 2 c)
  rw [isoClock]
  simp [isoDigits_fixed 2 a _ (show a < 10 ^ 2 by omega),isoDigits_fixed 2 b _ (show b < 10 ^ 2 by omega),last,mark,long,longer,isoFraction]

theorem isoZone_signed (sign : Char) (text : List Char) (signs : sign = '-' ∨ sign = '+') (read : isoClock text = some (a,b,c,0)) :
    isoZone (sign :: text) =
      (properOffset (if sign = '-' then -((((a * 60 + b) * 60 + c : Nat) : Int) * 1000000) else (((a * 60 + b) * 60 + c : Nat) : Int) * 1000000)).bind
        fun offset => some (some offset) := by
  have other : sign ≠ 'Z' := by rcases signs with rfl | rfl <;> decide
  have size : (((a : Int) * 60 + b) * 60 + c) * 1000000 + (0 : Nat) = (((a * 60 + b) * 60 + c : Nat) : Int) * 1000000 := by
    push_cast
    ring
  rw [isoZone]
  · rw [read,← size]
    rfl
  · intro z
    exact absurd z other
  · intro z
    exact absurd z other

-- An offset in seconds is read back from what is written of it.
theorem isoZone_offset (o : Int) (day : |o| < 86400) : isoZone (offsetText (some o)) = some (some (o * 1000000)) := by
  obtain ⟨low,high⟩ := abs_lt.mp day
  have proper : properOffset (o * 1000000) = some (o * 1000000) := if_pos (abs_lt.mpr ⟨by omega,by omega⟩)
  have clock : isoClock (Decimal.fixed 2 (o.natAbs / 3600) ++ Decimal.fixed 2 (o.natAbs / 60 % 60) ++
      if o.natAbs % 60 = 0 then [] else Decimal.fixed 2 (o.natAbs % 60)) =
        some (o.natAbs / 3600,o.natAbs / 60 % 60,o.natAbs % 60,0) := by
    by_cases whole : o.natAbs % 60 = 0
    · rw [if_pos whole,List.append_nil,isoClock_minutes _ _ (by omega) (by omega),whole]
    · rw [if_neg whole,List.append_assoc,isoClock_seconds _ _ _ (by omega) (by omega) (by omega)]
  rw [offsetText]
  by_cases negative : o < 0
  · rw [if_pos negative,isoZone_signed '-' _ (.inl rfl) clock,if_pos rfl]
    have total : -((((o.natAbs / 3600 * 60 + o.natAbs / 60 % 60) * 60 + o.natAbs % 60 : Nat) : Int) * 1000000) = o * 1000000 := by omega
    rw [total,proper]
    rfl
  · rw [if_neg negative,isoZone_signed '+' _ (.inr rfl) clock,if_neg (by decide)]
    have total : (((o.natAbs / 3600 * 60 + o.natAbs / 60 % 60) * 60 + o.natAbs % 60 : Nat) : Int) * 1000000 = o * 1000000 := by omega
    rw [total,proper]
    rfl

theorem year_next (moment : Moment) (rest : List Char) : (dateText moment ++ rest)[4]? = some '-' ∧ (dateText moment ++ rest)[5]? ≠ some 'W' := by
  have text : dateText moment ++ rest =
      Decimal.fixed 4 moment.date.year ++ '-' :: (Decimal.fixed 2 moment.date.month ++ ('-' :: Decimal.fixed 2 moment.date.day ++ rest)) := by
    simp [dateText]
  have after : ∀ n, (dateText moment ++ rest)[4 + n]? =
      ('-' :: (Decimal.fixed 2 moment.date.month ++ ('-' :: Decimal.fixed 2 moment.date.day ++ rest)))[n]? := by
    intro n
    rw [text,List.getElem?_append_right (by rw [Decimal.length_fixed]; omega),Decimal.length_fixed,Nat.add_sub_cancel_left]
  refine ⟨after 0,?_⟩
  rw [after 1,List.getElem?_cons_succ,← List.head?_eq_getElem?]
  exact fixed_head _ _ 'W' (by decide)

theorem digits_apart (n size : Nat) : ∀ c ∈ Decimal.fixed size n, (!beginsZone c) = true := by
  intro c member
  have digit := Decimal.fixed_digits size n c member
  have other : ∀ d : Char, d.isDigit = false → c ≠ d := by
    rintro d mark rfl
    rw [digit] at mark
    cases mark
  simp [beginsZone,other '+' (by decide),other '-' (by decide),other 'Z' (by decide)]

theorem time_apart (moment : Moment) : ∀ c ∈ timeText moment, (!beginsZone c) = true := by
  intro c member
  rw [timeText] at member
  rcases List.mem_append.mp member with digit | later
  · exact digits_apart _ 2 c digit
  · rcases List.mem_cons.mp later with rfl | later
    · decide
    · rcases List.mem_append.mp later with digit | later
      · exact digits_apart _ 2 c digit
      · rcases List.mem_cons.mp later with rfl | digit
        · decide
        · exact digits_apart _ 2 c digit

theorem date_digits (moment : Moment) (valid : moment.Valid) :
    moment.date.year < 10 ^ 4 ∧ moment.date.month < 10 ^ 2 ∧ moment.date.day < 10 ^ 2 := by
  have year := valid.date.year
  have month := valid.date.month
  have day := valid.date.day
  have days : daysInMonth (isLeap moment.date.year) moment.date.month ≤ 31 := by
    unfold daysInMonth
    split
    · split <;> omega
    · split <;> omega
  omega

-- A date of a moment and what follows it.
theorem fromisoformat_date (moment : Moment) (valid : moment.Valid) (rest : List Char) :
    fromisoformat h (dateText moment ++ rest) = do
      let (hour,minute,second,microsecond) ←
        if rest.tail = [] then some (0,0,0,0) else isoClock (rest.tail.takeWhile fun c => !beginsZone c)
      let offset ← isoZone (rest.tail.dropWhile fun c => !beginsZone c)
      let wall ← datetimeOf ⟨moment.date,hour,minute,second,microsecond⟩
      return (wall,offset) := by
  obtain ⟨year,month,day⟩ := date_digits moment valid
  have text : dateText moment ++ rest =
      Decimal.fixed 4 moment.date.year ++ ('-' :: (Decimal.fixed 2 moment.date.month ++ ('-' :: (Decimal.fixed 2 moment.date.day ++ rest)))) := by
    simp [dateText]
  rw [fromisoformat,if_neg (year_next moment rest).2,text]
  simp [isoDigits_fixed 4 _ _ year,isoDigits_fixed 2 _ _ month,isoDigits_fixed 2 _ _ day]

theorem datetimeOf_valid (moment : Moment) (valid : moment.Valid) : datetimeOf moment = some moment.toMicroseconds := if_pos valid

theorem fromisoformat_midnight (moment : Moment) (valid : moment.Valid) :
    fromisoformat h (dateText moment) = some ((Moment.mk moment.date 0 0 0 0).toMicroseconds,none) := by
  have midnight : (Moment.mk moment.date 0 0 0 0).Valid := ⟨valid.date,Nat.succ_pos _,Nat.succ_pos _,Nat.succ_pos _,Nat.succ_pos _⟩
  have read := fromisoformat_date h moment valid []
  rw [List.append_nil] at read
  rw [read]
  simp [datetimeOf_valid _ midnight,isoZone]

theorem fromisoformat_time (moment : Moment) (valid : moment.Valid) (separator : Char) (fraction zone : List Char) (offset : Option Int)
    (read : isoFraction fraction = some moment.microsecond) (apart : ∀ c ∈ fraction, (!beginsZone c) = true)
    (begins : ∀ c ∈ zone.head?, beginsZone c = true) (zoned : isoZone zone = some offset) :
    fromisoformat h (dateText moment ++ separator :: (timeText moment ++ (fraction ++ zone))) = some (moment.toMicroseconds,offset) := by
  have all : ∀ c ∈ timeText moment ++ fraction, (!beginsZone c) = true := by
    intro c member
    rcases List.mem_append.mp member with time | later
    · exact time_apart moment c time
    · exact apart c later
  have stops : zone.takeWhile (fun c => !beginsZone c) = [] ∧ zone.dropWhile (fun c => !beginsZone c) = zone := by
    cases zone with
    | nil => exact ⟨rfl,rfl⟩
    | cons c rest =>
      have first := begins c rfl
      exact ⟨List.takeWhile_cons_of_neg (by simp [first]),List.dropWhile_cons_of_neg (by simp [first])⟩
  have some_time : timeText moment ++ (fraction ++ zone) ≠ [] := by simp [timeText]
  rw [fromisoformat_date h moment valid,List.tail_cons,if_neg some_time,← List.append_assoc,List.takeWhile_append_of_pos all,
    List.dropWhile_append_of_pos all,stops.1,stops.2,List.append_nil,isoClock_time moment valid fraction read,zoned]
  simp [datetimeOf_valid _ valid]

end Fromisoformat

section Strptime
variable {w : Char → Bool}

theorem ways_one (p : Char → Bool) (back : List Char) (a : Char) (rest : List Char) :
    (Regex.one p).ways w back (a :: rest) = if p a then [([a],rest)] else [] := rfl

theorem ways_pair (p q : Char → Bool) (back : List Char) (a b : Char) (rest : List Char) :
    (Regex.seq (.one p) (.one q)).ways w back (a :: b :: rest) = if p a ∧ q b then [([a,b],rest)] else [] := by
  rw [Regex.ways,ways_one]
  cases first : p a with
  | false => simp [andThen]
  | true => cases second : q b <;> simp [andThen,ways_one,second]

theorem digitValue_digit (d : Nat) (digit : d < 10) : digitValue h d.digitChar = some d := by
  have small : d.digitChar.toNat < 128 ∧ d.digitChar.isDigit = true ∧ d.digitChar.toNat - 48 = d := by
    revert d
    decide
  rw [digitValue,if_pos small.1,if_pos small.2.1,small.2.2]

theorem digit_read (n : Nat) : (digitValue h (n % 10).digitChar).isSome = true := by
  rw [digitValue_digit h _ (Nat.mod_lt n (by decide))]
  rfl

-- A directive that reads two digits first, and then perhaps the first of them only.
def ReadsPair (r : Regex) (n : Nat) : Prop :=
  ∀ (w : Char → Bool) (rest : List Char), ∃ more, r.ways w [] (Decimal.fixed 2 n ++ rest) = (Decimal.fixed 2 n,rest) :: more ∧
    ∀ way ∈ more, way.2 = (n % 10).digitChar :: rest

theorem fixed_pair (n : Nat) (small : n < 100) : Decimal.fixed 2 n = [(n / 10).digitChar,(n % 10).digitChar] := by
  change [((n / 10) % 10).digitChar] ++ [(n % 10).digitChar] = _
  rw [Nat.mod_eq_of_lt (show n / 10 < 10 by omega)]
  rfl

theorem ways_alt (r s : Regex) (back text : List Char) : (Regex.alt r s).ways w back text = r.ways w back text ++ s.ways w back text := rfl

-- Where the open ways are one that reads both digits and perhaps one that reads the first.
theorem reads_pair {r : Regex} (n : Nat) (small : n < 100) (single : Char → Bool) (pairs : List Bool)
    (ways : ∀ (w : Char → Bool) (rest : List Char), r.ways w [] ((n / 10).digitChar :: (n % 10).digitChar :: rest) =
      (pairs.flatMap fun reads => if reads then [([(n / 10).digitChar,(n % 10).digitChar],rest)] else []) ++
        if single (n / 10).digitChar then [([(n / 10).digitChar],(n % 10).digitChar :: rest)] else [])
    (one : pairs.filter id = [true]) : ReadsPair r n := by
  intro w rest
  have chosen : ∀ way : List Char × List Char, (pairs.flatMap fun reads => if reads then [way] else []) = [way] := by
    intro way
    have only : ∀ pairs : List Bool, (pairs.flatMap fun reads => if reads then [way] else []) = (pairs.filter id).map fun _ => way := by
      intro pairs
      induction pairs with
      | nil => rfl
      | cons reads pairs ih => cases reads <;> simp [ih]
    rw [only,one]
    rfl
  rw [fixed_pair n small,List.cons_append,List.cons_append,List.nil_append,ways,chosen]
  refine ⟨_,rfl,?_⟩
  intro way member
  split at member
  · rw [List.mem_singleton.mp member]
  · cases member

theorem month_reads (n : Nat) (low : 1 ≤ n) (high : n ≤ 12) : ReadsPair (directiveRe h (.field 'm')) n := by
  apply reads_pair n (by omega) (fun a => decide ('1' ≤ a ∧ a ≤ '9'))
    [decide ((n / 10).digitChar = '1' ∧ '0' ≤ (n % 10).digitChar ∧ (n % 10).digitChar ≤ '2'),
      decide ((n / 10).digitChar = '0' ∧ '1' ≤ (n % 10).digitChar ∧ (n % 10).digitChar ≤ '9')]
  · intro w rest
    generalize (n / 10).digitChar = a
    generalize (n % 10).digitChar = b
    simp [directiveRe,between,exactly,ways_alt,ways_pair,ways_one]
  · revert n
    decide

theorem day_reads (n : Nat) (low : 1 ≤ n) (high : n ≤ 31) : ReadsPair (directiveRe h (.field 'd')) n := by
  have unit := digitValue_digit h (n % 10) (by omega)
  have blank : (n / 10).digitChar ≠ ' ' := by
    clear unit
    revert n
    decide
  apply reads_pair n (by omega) (fun a => decide ('1' ≤ a ∧ a ≤ '9'))
    [decide ((n / 10).digitChar = '3' ∧ '0' ≤ (n % 10).digitChar ∧ (n % 10).digitChar ≤ '1'),
      decide ('1' ≤ (n / 10).digitChar ∧ (n / 10).digitChar ≤ '2'),
      decide ((n / 10).digitChar = '0' ∧ '1' ≤ (n % 10).digitChar ∧ (n % 10).digitChar ≤ '9')]
  · intro w rest
    generalize (n / 10).digitChar = a at blank
    generalize (n % 10).digitChar = b at unit
    simp [directiveRe,between,exactly,anyDigit,ways_alt,ways_pair,ways_one,unit,blank]
  · clear unit blank
    revert n
    decide

theorem hour_reads (n : Nat) (high : n < 24) : ReadsPair (directiveRe h (.field 'H')) n := by
  have unit := digitValue_digit h (n % 10) (by omega)
  have ten := digitValue_digit h (n / 10) (by omega)
  apply reads_pair n (by omega) (fun _ => true)
    [decide ((n / 10).digitChar = '2' ∧ '0' ≤ (n % 10).digitChar ∧ (n % 10).digitChar ≤ '3'),
      decide ('0' ≤ (n / 10).digitChar ∧ (n / 10).digitChar ≤ '1')]
  · intro w rest
    generalize (n / 10).digitChar = a at ten
    generalize (n % 10).digitChar = b at unit
    simp [directiveRe,between,exactly,anyDigit,ways_alt,ways_pair,ways_one,unit,ten]
  · clear unit ten
    revert n
    decide

theorem minute_reads (n : Nat) (high : n < 60) : ReadsPair (directiveRe h (.field 'M')) n := by
  have unit := digitValue_digit h (n % 10) (by omega)
  have ten := digitValue_digit h (n / 10) (by omega)
  apply reads_pair n (by omega) (fun _ => true) [decide ('0' ≤ (n / 10).digitChar ∧ (n / 10).digitChar ≤ '5')]
  · intro w rest
    generalize (n / 10).digitChar = a at ten
    generalize (n % 10).digitChar = b at unit
    simp [directiveRe,between,anyDigit,ways_alt,ways_pair,ways_one,unit,ten]
  · clear unit ten
    revert n
    decide

theorem second_reads (n : Nat) (high : n < 60) : ReadsPair (directiveRe h (.field 'S')) n := by
  have unit := digitValue_digit h (n % 10) (by omega)
  have ten := digitValue_digit h (n / 10) (by omega)
  have leap : (n / 10).digitChar ≠ '6' := by
    clear unit ten
    revert n
    decide
  apply reads_pair n (by omega) (fun _ => true) [decide ('0' ≤ (n / 10).digitChar ∧ (n / 10).digitChar ≤ '5')]
  · intro w rest
    generalize (n / 10).digitChar = a at ten leap
    generalize (n % 10).digitChar = b at unit
    simp [directiveRe,between,exactly,anyDigit,ways_alt,ways_pair,ways_one,unit,ten,leap]
  · clear unit ten leap
    revert n
    decide

theorem ways_literal {c : Char} (plain : Text.isSpace c = false) (d : Char) (rest : List Char) :
    (directiveRe h (.literal c)).ways w [] (d :: rest) = if foldCase d = foldCase c then [([d],rest)] else [] := by
  simp [directiveRe,plain,ways_one]

-- A separator that no digit is.
structure Mark (c : Char) : Prop where
  plain : Text.isSpace c = false
  apart : ∀ d < 10, foldCase d.digitChar ≠ foldCase c

theorem formatWays_pair {letter c : Char} {n : Nat} (reads : ReadsPair (directiveRe h (.field letter)) n) (mark : Mark c)
    (format : List Directive) (rest : List Char) :
    formatWays h (.field letter :: .literal c :: format) (Decimal.fixed 2 n ++ c :: rest) =
      (formatWays h format rest).map fun found => ((.field letter,Decimal.fixed 2 n) :: (.literal c,[c]) :: found.1,found.2) := by
  obtain ⟨more,found,others⟩ := reads (fun _ => false) (c :: rest)
  have next : formatWays h (.literal c :: format) (c :: rest) =
      (formatWays h format rest).map fun found => ((.literal c,[c]) :: found.1,found.2) := by
    rw [formatWays,ways_literal h mark.plain,if_pos rfl,List.flatMap_singleton]
  have none : ∀ way ∈ more, formatWays h (.literal c :: format) way.2 = [] := by
    intro way member
    rw [others way member,formatWays,ways_literal h mark.plain,if_neg (mark.apart _ (Nat.mod_lt n (by decide))),List.flatMap_nil]
  rw [formatWays,found,List.flatMap_cons,next,List.map_map]
  have nothing : (more.flatMap fun way => (formatWays h (.literal c :: format) way.2).map fun found =>
      ((Directive.field letter,way.1) :: found.1,found.2)) = [] := by
    rw [List.flatMap_eq_nil_iff]
    intro way member
    rw [none way member,List.map_nil]
  rw [nothing,List.append_nil]
  rfl

theorem formatWays_last {letter : Char} {n : Nat} (reads : ReadsPair (directiveRe h (.field letter)) n) :
    (formatWays h [.field letter] (Decimal.fixed 2 n)).head? = some ([(.field letter,Decimal.fixed 2 n)],[]) := by
  obtain ⟨more,found,_⟩ := reads (fun _ => false) []
  rw [List.append_nil] at found
  rw [formatWays,found]
  rfl

theorem formatWays_year (y : Nat) (format : List Directive) (rest : List Char) :
    formatWays h (.field 'Y' :: format) (Decimal.fixed 4 y ++ rest) =
      (formatWays h format rest).map fun found => ((.field 'Y',Decimal.fixed 4 y) :: found.1,found.2) := by
  have digits : Decimal.fixed 4 y =
      [(y / 10 / 10 / 10 % 10).digitChar,(y / 10 / 10 % 10).digitChar,(y / 10 % 10).digitChar,(y % 10).digitChar] := rfl
  have ways : (directiveRe h (.field 'Y')).ways (fun _ => false) [] (Decimal.fixed 4 y ++ rest) = [(Decimal.fixed 4 y,rest)] := by
    rw [digits]
    simp [directiveRe,anyDigit,Regex.ways,andThen,digit_read]
  rw [formatWays,ways,List.flatMap_singleton]

theorem formatWays_blank (format : List Directive) (rest : List Char) (stops : ∀ c ∈ rest.head?, Text.isSpace c = false) :
    formatWays h (.literal ' ' :: format) (' ' :: rest) =
      (formatWays h format rest).map fun found => ((.literal ' ',[' ']) :: found.1,found.2) := by
  have ways : (directiveRe h (.literal ' ')).ways (fun _ => false) [] (' ' :: rest) = [([' '],rest)] := by
    have blank : Text.isSpace ' ' = true := by decide
    cases rest with
    | nil => simp [directiveRe,blank,someOf,Regex.ways,times,andThen,upTo]
    | cons c rest =>
      have visible := stops c rfl
      simp [directiveRe,blank,someOf,Regex.ways,times,andThen,upTo,visible]
  rw [formatWays,ways,List.flatMap_singleton]

theorem formatWays_blankless (format : List Directive) : formatWays h (.literal ' ' :: format) [] = [] := by
  rw [formatWays]
  rfl

-- A year is four digits, so a mark after two is none.
theorem formatWays_unyeared (n : Nat) (c : Char) (mark : digitValue h c = none) (format : List Directive) (rest : List Char) :
    formatWays h (.field 'Y' :: format) (Decimal.fixed 2 n ++ c :: rest) = [] := by
  have digits : Decimal.fixed 2 n = [(n / 10 % 10).digitChar,(n % 10).digitChar] := rfl
  have ways : (directiveRe h (.field 'Y')).ways (fun _ => false) [] (Decimal.fixed 2 n ++ c :: rest) = [] := by
    rw [digits]
    simp [directiveRe,anyDigit,Regex.ways,andThen,digit_read,mark]
  rw [formatWays,ways,List.flatMap_nil]

-- A month or a day is one or two digits, so another mark than the format's is none.
theorem formatWays_unmarked {letter c d : Char} (letters : letter = 'm' ∨ letter = 'd') (n : Nat) (mark : Mark c) (other : foldCase d ≠ foldCase c)
    (format : List Directive) (rest : List Char) :
    formatWays h (.field letter :: .literal c :: format) (Decimal.fixed 2 n ++ d :: rest) = [] := by
  have digits : Decimal.fixed 2 n = [(n / 10 % 10).digitChar,(n % 10).digitChar] := rfl
  have left : ∀ way ∈ (directiveRe h (.field letter)).ways (fun _ => false) [] (Decimal.fixed 2 n ++ d :: rest),
      way.2 = d :: rest ∨ way.2 = (n % 10).digitChar :: d :: rest := by
    rw [digits]
    generalize (n / 10 % 10).digitChar = a
    generalize (n % 10).digitChar = b
    intro way member
    rcases letters with rfl | rfl
    · simp only [directiveRe,between,exactly,ways_alt,List.cons_append,List.nil_append,ways_pair,ways_one] at member
      simp only [List.mem_append] at member
      rcases member with one | two | three
      all_goals
        split at *
        all_goals simp_all
    · simp only [directiveRe,between,exactly,anyDigit,ways_alt,List.cons_append,List.nil_append,ways_pair,ways_one] at member
      simp only [List.mem_append] at member
      rcases member with one | two | three | four | five
      all_goals
        split at *
        all_goals simp_all
  rw [formatWays,List.flatMap_eq_nil_iff]
  intro way member
  have none : formatWays h (.literal c :: format) way.2 = [] := by
    rcases left way member with same | same
    · rw [same,formatWays,ways_literal h mark.plain,if_neg other,List.flatMap_nil]
    · rw [same,formatWays,ways_literal h mark.plain,if_neg (mark.apart _ (Nat.mod_lt n (by decide))),List.flatMap_nil]
  rw [none,List.map_nil]

theorem readInt_append (first later : List Char) : readInt h (first ++ later) = readInt h first * 10 ^ later.length + readInt h later := by
  have from_ : ∀ (text : List Char) (start : Nat), text.foldl (fun n c => 10 * n + (digitValue h c).getD 0) start =
      start * 10 ^ text.length + readInt h text := by
    intro text
    induction text with
    | nil => intro start; simp [readInt]
    | cons c text ih =>
      intro start
      have whole : readInt h (c :: text) = (10 * 0 + (digitValue h c).getD 0) * 10 ^ text.length + readInt h text := ih _
      rw [List.foldl_cons,ih,whole,List.length_cons,Nat.pow_succ]
      ring
  rw [readInt,List.foldl_append,from_]
  rfl

theorem readInt_fixed (size n : Nat) (fits : n < 10 ^ size) : readInt h (Decimal.fixed size n) = n := by
  induction size generalizing n with
  | zero =>
    have zero : n = 0 := by omega
    rw [zero]
    rfl
  | succ size ih =>
    rw [Nat.pow_succ] at fits
    have digit : readInt h [(n % 10).digitChar] = n % 10 := by
      rw [readInt,List.foldl_cons,digitValue_digit h _ (Nat.mod_lt n (by decide))]
      exact Nat.zero_add _
    rw [Decimal.fixed,readInt_append,ih (n / 10) (by omega),digit]
    change n / 10 * 10 ^ 1 + n % 10 = n
    omega

theorem slash_mark : Mark '/' := ⟨by decide,by decide⟩

theorem hyphen_mark : Mark '-' := ⟨by decide,by decide⟩

theorem colon_mark : Mark ':' := ⟨by decide,by decide⟩

-- 02/29/2024, 29-02-2024
def slashText (moment : Moment) : List Char :=
  Decimal.fixed 2 moment.date.month ++ '/' :: (Decimal.fixed 2 moment.date.day ++ '/' :: Decimal.fixed 4 moment.date.year)

def dayFirstText (moment : Moment) : List Char :=
  Decimal.fixed 2 moment.date.day ++ '-' :: (Decimal.fixed 2 moment.date.month ++ '-' :: Decimal.fixed 4 moment.date.year)

variable (moment : Moment) (valid : moment.Valid)

theorem day_bound (valid : moment.Valid) : 1 ≤ moment.date.day ∧ moment.date.day ≤ 31 := by
  have day := valid.date.day
  have days : daysInMonth (isLeap moment.date.year) moment.date.month ≤ 31 := by
    unfold daysInMonth
    split
    · split <;> omega
    · split <;> omega
  omega

-- The moment to the second, and to the day.
def atSecond : Moment := {moment with microsecond := 0}

def atMidnight : Moment := ⟨moment.date,0,0,0,0⟩

theorem digit_visible (n : Nat) : Text.isSpace (n % 10).digitChar = false := by
  have below : n % 10 < 10 := Nat.mod_lt n (by decide)
  revert below
  generalize n % 10 = d
  revert d
  decide

theorem formatWays_wholeYear (y : Nat) : formatWays h [.field 'Y'] (Decimal.fixed 4 y) = [([(.field 'Y',Decimal.fixed 4 y)],[])] := by
  have ways := formatWays_year h y [] []
  rw [List.append_nil] at ways
  rw [ways]
  rfl

include valid

theorem strptime_slashTime : strptime h (slashText moment ++ ' ' :: timeText moment) "%m/%d/%Y %H:%M:%S" =
    some ((atSecond moment).toMicroseconds,none) := by
  have format : directives "%m/%d/%Y %H:%M:%S".toList =
      [.field 'm',.literal '/',.field 'd',.literal '/',.field 'Y',.literal ' ',.field 'H',.literal ':',.field 'M',.literal ':',.field 'S'] :=
    rfl
  have text : slashText moment ++ ' ' :: timeText moment =
      Decimal.fixed 2 moment.date.month ++ '/' :: (Decimal.fixed 2 moment.date.day ++ '/' :: (Decimal.fixed 4 moment.date.year ++
        ' ' :: (Decimal.fixed 2 moment.hour ++ ':' :: (Decimal.fixed 2 moment.minute ++ ':' :: Decimal.fixed 2 moment.second)))) := by
    simp [slashText,timeText]
  obtain ⟨dayLow,dayHigh⟩ := day_bound moment valid
  obtain ⟨year,month,day⟩ := date_digits moment valid
  have second : moment.second < 10 ^ 2 := by have := valid.second; omega
  have minute : moment.minute < 10 ^ 2 := by have := valid.minute; omega
  have hour : moment.hour < 10 ^ 2 := by have := valid.hour; omega
  have visible : ∀ c ∈ (Decimal.fixed 2 moment.hour ++ ':' :: (Decimal.fixed 2 moment.minute ++ ':' :: Decimal.fixed 2 moment.second)).head?,
      Text.isSpace c = false := by
    intro c first
    cases first
    exact digit_visible _
  have instant : (atSecond moment).Valid := ⟨valid.date,valid.hour,valid.minute,valid.second,Nat.succ_pos _⟩
  rw [strptime,format,text,formatWays_pair h (month_reads h _ valid.date.month.1 valid.date.month.2) slash_mark,
    formatWays_pair h (day_reads h _ dayLow dayHigh) slash_mark,formatWays_year,formatWays_blank h _ _ visible,
    formatWays_pair h (hour_reads h _ valid.hour) colon_mark,formatWays_pair h (minute_reads h _ valid.minute) colon_mark]
  simp only [List.head?_map,formatWays_last h (second_reads h _ valid.second),Option.map_some]
  simp [groupInt,group,readInt_fixed h _ _ year,readInt_fixed h _ _ month,readInt_fixed h _ _ day,readInt_fixed h _ _ hour,
    readInt_fixed h _ _ minute,readInt_fixed h _ _ second]
  change (datetimeOf (atSecond moment)).bind _ = _
  rw [datetimeOf_valid _ instant]
  rfl

theorem strptime_slash : strptime h (slashText moment) "%m/%d/%Y" = some ((atMidnight moment).toMicroseconds,none) ∧
    strptime h (slashText moment) "%m/%d/%Y %H:%M:%S" = none := by
  have format : directives "%m/%d/%Y".toList = [.field 'm',.literal '/',.field 'd',.literal '/',.field 'Y'] := rfl
  have longer : directives "%m/%d/%Y %H:%M:%S".toList =
      [.field 'm',.literal '/',.field 'd',.literal '/',.field 'Y',.literal ' ',.field 'H',.literal ':',.field 'M',.literal ':',.field 'S'] :=
    rfl
  obtain ⟨dayLow,dayHigh⟩ := day_bound moment valid
  obtain ⟨year,month,day⟩ := date_digits moment valid
  have instant : (atMidnight moment).Valid := ⟨valid.date,Nat.succ_pos _,Nat.succ_pos _,Nat.succ_pos _,Nat.succ_pos _⟩
  have monthly := month_reads h _ valid.date.month.1 valid.date.month.2
  have daily := day_reads h _ dayLow dayHigh
  constructor
  · rw [strptime,format,slashText,formatWays_pair h monthly slash_mark,formatWays_pair h daily slash_mark,formatWays_wholeYear h]
    simp [groupInt,group,readInt_fixed h _ _ year,readInt_fixed h _ _ month,readInt_fixed h _ _ day]
    change (datetimeOf (atMidnight moment)).bind _ = _
    rw [datetimeOf_valid _ instant]
    rfl
  · have ways := formatWays_year h moment.date.year [.literal ' ',.field 'H',.literal ':',.field 'M',.literal ':',.field 'S'] []
    rw [List.append_nil,formatWays_blankless] at ways
    rw [strptime,longer,slashText,formatWays_pair h monthly slash_mark,formatWays_pair h daily slash_mark,ways]
    rfl

theorem strptime_dayFirst : strptime h (dayFirstText moment) "%d-%m-%Y" = some ((atMidnight moment).toMicroseconds,none) := by
  have format : directives "%d-%m-%Y".toList = [.field 'd',.literal '-',.field 'm',.literal '-',.field 'Y'] := rfl
  obtain ⟨dayLow,dayHigh⟩ := day_bound moment valid
  obtain ⟨year,month,day⟩ := date_digits moment valid
  have instant : (atMidnight moment).Valid := ⟨valid.date,Nat.succ_pos _,Nat.succ_pos _,Nat.succ_pos _,Nat.succ_pos _⟩
  rw [strptime,format,dayFirstText,formatWays_pair h (day_reads h _ dayLow dayHigh) hyphen_mark,
    formatWays_pair h (month_reads h _ valid.date.month.1 valid.date.month.2) hyphen_mark,formatWays_wholeYear h]
  simp [groupInt,group,readInt_fixed h _ _ year,readInt_fixed h _ _ month,readInt_fixed h _ _ day]
  change (datetimeOf (atMidnight moment)).bind _ = _
  rw [datetimeOf_valid _ instant]
  rfl

omit valid in
-- The formats that begin with a year read no text with a mark after two digits, and those
-- that begin with a month or a day and a slash none with a hyphen there.
theorem strptime_unyeared (n : Nat) (c : Char) (mark : digitValue h c = none) (rest : List Char) (format : String)
    (yeared : (directives format.toList).head? = some (.field 'Y')) : strptime h (Decimal.fixed 2 n ++ c :: rest) format = none := by
  obtain ⟨later,shape⟩ := List.head?_eq_some_iff.mp yeared
  rw [strptime,shape,formatWays_unyeared h n c mark]
  rfl

omit valid in
theorem strptime_unslashed (n : Nat) (rest : List Char) (format : String) (letter : Char) (letters : letter = 'm' ∨ letter = 'd')
    (slashed : (directives format.toList).take 2 = [.field letter,.literal '/']) : strptime h (Decimal.fixed 2 n ++ '-' :: rest) format = none := by
  have shape := List.take_append_drop 2 (directives format.toList)
  rw [slashed] at shape
  rw [strptime,← shape,List.cons_append,List.cons_append,List.nil_append,formatWays_unmarked h letters n slash_mark (by decide)]
  rfl

end Strptime

section Reading

-- What begins and ends with a visible character has nothing to strip.
theorem strip_visible (text : List Char) (first : ∀ c ∈ text.head?, Text.isSpace c = false) (last : ∀ c ∈ text.getLast?, Text.isSpace c = false) :
    Text.strip Text.isSpace text = text := by
  have front : text.dropWhile Text.isSpace = text := by
    cases text with
    | nil => rfl
    | cons c rest => exact List.dropWhile_cons_of_neg (by rw [first c rfl]; decide)
  rw [Text.strip,front]
  have back : text.reverse.dropWhile Text.isSpace = text.reverse := by
    cases shape : text.reverse with
    | nil => rfl
    | cons c rest =>
      have end_ : text.getLast? = some c := by
        rw [← List.head?_reverse,shape]
        rfl
      exact List.dropWhile_cons_of_neg (by rw [last c end_]; decide)
  rw [back,List.reverse_reverse]

theorem allDigits_mark (text : List Char) (c : Char) (member : c ∈ text) (small : c.toNat < 128) (mark : c.isDigit = false) :
    allDigits h text = false := by
  have none : digitValue h c = none := by rw [digitValue,if_pos small,if_neg (by rw [mark]; decide)]
  rw [allDigits,Bool.and_eq_false_iff]
  right
  rw [List.all_eq_false]
  exact ⟨c,member,by simp [none]; omega⟩

-- A text with a hyphen after the year that fromisoformat reads.
theorem tryParseDate_iso (text : List Char) (stripped : Text.strip Text.isSpace text = text) (hyphen : text[4]? = some '-')
    (read : fromisoformat h text = some (wall,offset)) : tryParseDate h text = .ok (some (wall,offset.getD 0)) := by
  have mark := allDigits_mark h text '-' (List.mem_of_getElem? hyphen) (by decide) (by decide)
  rw [tryParseDate,stripped]
  simp only [mark,hyphen,read]
  rfl

-- A text with no hyphen there goes to the formats.
theorem tryParseDate_formats (text : List Char) (stripped : Text.strip Text.isSpace text = text) (c : Char) (member : c ∈ text)
    (small : c.toNat < 128) (mark : c.isDigit = false) (other : text[4]? ≠ some '-')
    (read : dateFormats.findSome? (strptime h text) = some (wall,offset)) : tryParseDate h text = .ok (some (wall,offset.getD 0)) := by
  have marked := allDigits_mark h text c member small mark
  rw [tryParseDate,stripped]
  simp only [marked,other,read]
  rfl

end Reading

end DataCleaner
end RiskPulse
