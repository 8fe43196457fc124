import Mathlib.Tactic.FieldSimp
import Mathlib.Tactic.Linarith
import RiskPulse.DataCleaner
import RiskPulse.FeatureStore
import RiskPulse.Library.Decimal
import RiskPulse.Library.Regex

namespace RiskPulse
open Regex

-- What the parsing of an amount takes of the language: the decimal digits beyond ASCII, the
-- float nearest to a number, round, float() of an int and of a text that is no plain decimal
-- (none where it raises ValueError).
structure AmountHost where
  word : Char → Bool
  digit : Char → Bool
  nearest : Rat → PyFloat
  round : PyFloat → Nat → PyFloat
  floatOfInt : Int → Except String PyFloat
  readFloat : List Char → Option PyFloat

namespace DataCleaner
variable (h : AmountHost)

def isDecimal (c : Char) : Bool := if c.toNat < 128 then c.isDigit else h.digit c

-- [$ €£¥₹\s]
def strippedSymbol (c : Char) : Bool := ['$',' ','€','£','¥','₹'].contains c || Text.isSpace c

-- \d{1,3}(\.\d{3})+(,\d+)?
def europeanRe : Regex :=
  .seq (.repeated false 1 (some 3) (.one (isDecimal h))) <|
    .seq (someOf (.seq (exactly '.') (.repeated false 3 (some 3) (.one (isDecimal h))))) <|
      maybe (.seq (exactly ',') (someOf (.one (isDecimal h))))

-- re.match with ^ and $, on a text without a line feed.
def matchesWhole (r : Regex) (text : List Char) : Bool := (r.ways h.word [] text).any fun way => way.2.isEmpty

def removeChar (c : Char) (text : List Char) : List Char := text.filter fun x => decide (x ≠ c)

def replaceChar (c d : Char) (text : List Char) : List Char := text.map fun x => if x = c then d else x

-- The text that is given to float().
def amountText (value : List Char) : List Char :=
  let cleaned := (Regex.one strippedSymbol).sub h.word [] 0 [] value
  if matchesWhole h (europeanRe h) cleaned then replaceChar ',' '.' (removeChar '.' cleaned)
  else if ',' ∈ cleaned ∧ '.' ∉ cleaned then replaceChar ',' '.' cleaned
  else if ',' ∈ cleaned ∧ '.' ∈ cleaned then removeChar ',' cleaned
  else cleaned

def unsignedDecimal (text : List Char) : Option Rat :=
  let whole := text.takeWhile Char.isDigit
  match text.dropWhile Char.isDigit with
  | [] => if whole = [] then none else some (Decimal.value whole)
  | '.' :: fraction =>
    if fraction.all Char.isDigit = true ∧ (whole ≠ [] ∨ fraction ≠ []) then
      some (Decimal.value whole + Decimal.value fraction / 10 ^ fraction.length)
    else none
  | _ => none

def plainDecimal : List Char → Option Rat
  | '-' :: rest => (unsignedDecimal rest).map fun q => -q
  | '+' :: rest => unsignedDecimal rest
  | text => unsignedDecimal text

def floatText (text : List Char) : Option PyFloat :=
  match plainDecimal text with
  | some q => some (h.nearest q)
  | none => h.readFloat text

def parseAmount : Value → Except String (Option PyFloat)
  | .bool b => .ok (some (h.round (.ofBool b) 4))
  | .int n => (h.floatOfInt n).map fun x => some (h.round x 4)
  | .float x => .ok (some (h.round x 4))
  | .str text => .ok ((floatText h (amountText h text.toList)).map fun x => h.round x 4)
  | _ => .ok none

end DataCleaner

-- What is relied on of double precision: numbers of up to fifteen digits are held as they
-- are, rounding to four digits keeps what has no more and keeps the order, and no numeral has
-- two points.
structure DoublePrecision (h : AmountHost) : Prop where
  held : ∀ m : Int, |m| < 10 ^ 15 → h.nearest (m / 10 ^ 5) = .finite (m / 10 ^ 5)
  settled : ∀ m : Int, h.round (h.nearest (m / 10 ^ 4)) 4 = h.nearest (m / 10 ^ 4)
  ordered : ∀ a b : Rat, a ≤ b → (h.round (.finite a) 4).greater (h.round (.finite b) 4) = false
  points : ∀ text, 1 < text.count '.' → h.readFloat text = none

namespace DataCleaner
variable (h : AmountHost)

-- Signed cents as they are written in the two ways.
def signOf (n : Int) : List Char := if n < 0 then ['-'] else []

def usRendering (n : Int) : List Char := signOf n ++ (Decimal.grouped ',' (n.natAbs / 100) ++ '.' :: Decimal.fixed 2 n.natAbs)

def europeanRendering (n : Int) : List Char := signOf n ++ (Decimal.grouped '.' (n.natAbs / 100) ++ ',' :: Decimal.fixed 2 n.natAbs)

theorem unsigned_point (whole fraction : List Char) (digits : ∀ c ∈ whole, c.isDigit = true) (some_digit : whole ≠ [])
    (decimals : ∀ c ∈ fraction, c.isDigit = true) :
    unsignedDecimal (whole ++ '.' :: fraction) =
      some ((Decimal.value whole : Rat) + (Decimal.value fraction : Rat) / 10 ^ fraction.length) := by
  have front : (whole ++ '.' :: fraction).takeWhile Char.isDigit = whole := by
    rw [List.takeWhile_append_of_pos digits]
    simp
  have back : (whole ++ '.' :: fraction).dropWhile Char.isDigit = '.' :: fraction := by
    rw [List.dropWhile_append_of_pos digits]
    simp
  unfold unsignedDecimal
  simp only [front,back]
  rw [if_pos ⟨List.all_eq_true.mpr decimals,.inl some_digit⟩]

-- A text with a second point is no plain decimal.
theorem unsigned_points (text : List Char) (points : 1 < text.count '.') : unsignedDecimal text = none := by
  have split := List.takeWhile_append_dropWhile (p := Char.isDigit) (l := text)
  have front : (text.takeWhile Char.isDigit).count '.' = 0 := by
    rw [List.count_eq_zero]
    intro member
    exact absurd (List.mem_takeWhile_imp member) (by decide)
  rw [← split,List.count_append,front,Nat.zero_add] at points
  unfold unsignedDecimal
  dsimp only
  split
  · rename_i none
    rw [none] at points
    cases points
  · rename_i fraction rest
    rw [rest,List.count_cons_self] at points
    have more : '.' ∈ fraction := List.count_pos_iff.mp (by omega)
    rw [if_neg]
    intro both
    exact absurd (List.all_eq_true.mp both.1 '.' more) (by decide)
  · rfl

theorem plain_sign (n : Int) (c : Char) (rest : List Char) (digit : c.isDigit = true) :
    plainDecimal (signOf n ++ c :: rest) = (unsignedDecimal (c :: rest)).map fun q => if n < 0 then -q else q := by
  unfold signOf
  by_cases negative : n < 0
  · simp only [if_pos negative]
    rfl
  · simp only [if_neg negative,List.nil_append,Option.map_id']
    have minus : c ≠ '-' := by rintro rfl; cases digit
    have plus : c ≠ '+' := by rintro rfl; cases digit
    unfold plainDecimal
    split
    · rename_i same; exact absurd (List.cons.inj same).1 minus
    · rename_i same; exact absurd (List.cons.inj same).1 plus
    · rfl

theorem digit_ascii (c : Char) (digit : c.isDigit = true) : isDecimal h c = true := by
  have small : c.toNat < 128 := by
    have bound : c.toNat ≤ 57 := (Char.isDigit_iff_toNat.mp digit).2
    omega
  rw [isDecimal,if_pos small,digit]

theorem mark_not_decimal : isDecimal h '.' = false ∧ isDecimal h ',' = false ∧ isDecimal h '-' = false := by
  refine ⟨?_,?_,?_⟩ <;> rw [isDecimal,if_pos (by decide)] <;> decide

theorem matchesWhole_iff (r : Regex) (text : List Char) : matchesWhole h r text = true ↔ r.Matches h.word [] text [] := by
  rw [matchesWhole,List.any_eq_true]
  constructor
  · rintro ⟨⟨m,rest⟩,member,ended⟩
    obtain ⟨split,matched⟩ := (finds_ways h.word r [] text m rest).mp member
    have nothing : rest = [] := List.isEmpty_iff.mp ended
    subst nothing
    rw [List.append_nil] at split
    rwa [split]
  · intro matched
    exact ⟨(text,[]),(finds_ways h.word r [] text text []).mpr ⟨(List.append_nil _).symm,matched⟩,rfl⟩

-- What the European expression matches begins with a digit, and has three characters or
-- more after its last point.
theorem european_shape {text : List Char} (matched : (europeanRe h).Matches h.word [] text []) :
    (∃ c rest, text = c :: rest ∧ isDecimal h c = true) ∧ ∃ front back, text = front ++ '.' :: back ∧ '.' ∉ back ∧ 3 ≤ back.length := by
  obtain ⟨lead,later,rfl,⟨more,_,leading⟩,groups,tail,rfl,⟨count,_,grouping⟩,cents⟩ := matched
  obtain ⟨long,digits⟩ := (copies_one h.word _ _ _ _ _).mp leading
  have begins : ∃ c rest, lead ++ (groups ++ tail) = c :: rest ∧ isDecimal h c = true := by
    cases lead with
    | nil => rw [List.length_nil] at long; omega
    | cons c lead => exact ⟨c,_,rfl,digits c List.mem_cons_self⟩
  refine ⟨begins,?_⟩
  rw [Nat.add_comm 1 count] at grouping
  obtain ⟨earlier,last,rfl,_,one⟩ := (copies_add count 1 _ _ _).mp grouping
  obtain ⟨point,none,rfl,⟨dot,three,rfl,⟨d,rfl,isDot⟩,⟨extra,few,triple⟩⟩,rfl⟩ := one
  have same : d = '.' := of_decide_eq_true isDot
  subst same
  have exactlyThree : extra = 0 := Nat.le_zero.mp (few 3 rfl)
  subst exactlyThree
  obtain ⟨length,decimals⟩ := (copies_one h.word _ _ _ _ _).mp triple
  have noPoint : ∀ part : List Char, (∀ c ∈ part, isDecimal h c = true) → '.' ∉ part := by
    intro part all member
    have decimal := all '.' member
    rw [(mark_not_decimal h).1] at decimal
    cases decimal
  have centsPlain : '.' ∉ tail := by
    obtain ⟨times,_,copied⟩ := cents
    have inside : ∀ c ∈ tail, c ≠ '.' := by
      refine copies_all (p := (· ≠ '.')) ?_ _ _ _ _ copied
      rintro back m rest ⟨x,y,rfl,⟨e,rfl,isComma⟩,⟨again,_,decimals⟩⟩
      obtain ⟨_,all⟩ := (copies_one h.word _ _ _ _ _).mp decimals
      have comma : e = ',' := of_decide_eq_true isComma
      subst comma
      intro c member same
      subst same
      rcases List.mem_cons.mp member with absurdity | later
      · exact absurd absurdity (by decide)
      · exact noPoint y all later
    exact fun member => inside '.' member rfl
  refine ⟨lead ++ earlier,three ++ tail,by simp,?_,?_⟩
  · intro member
    rcases List.mem_append.mp member with here | there
    · exact noPoint three decimals here
    · exact centsPlain there
  · rw [List.length_append,length]
    omega

theorem copies_decimals (digits : List Char) (all : ∀ c ∈ digits, c.isDigit = true) (back rest : List Char) :
    copies ((Regex.one (isDecimal h)).Matches h.word) digits.length back digits rest :=
  (copies_one h.word _ _ _ _ _).mpr ⟨rfl,fun c member => digit_ascii h c (all c member)⟩

-- An amount with groups is written as the European expression says.
theorem european_grouped (m cents : Nat) (large : 1000 ≤ m) :
    (europeanRe h).Matches h.word [] (Decimal.grouped '.' m ++ ',' :: Decimal.fixed 2 cents) [] := by
  obtain ⟨lead,groups,short,written,none⟩ := Decimal.grouped_groups '.' m
  have filled : 0 < groups.length := by
    apply List.length_pos_of_ne_nil
    intro empty
    exact absurd (none.mp empty) (Nat.not_lt.mpr large)
  have most : (Nat.toDigits 10 lead).length ≤ 3 := (Nat.length_toDigits_le_iff (by decide) (by decide)).mpr short
  have least : 0 < (Nat.toDigits 10 lead).length := Nat.length_toDigits_pos
  rw [written,List.append_assoc]
  refine ⟨Nat.toDigits 10 lead,_,rfl,⟨(Nat.toDigits 10 lead).length - 1,?_,?_⟩,
    groups.flatMap (fun g => '.' :: Decimal.fixed 3 g),',' :: Decimal.fixed 2 cents,rfl,⟨groups.length - 1,?_,?_⟩,⟨1,?_,?_⟩⟩
  · rintro n ⟨⟩
    omega
  · rw [show 1 + ((Nat.toDigits 10 lead).length - 1) = (Nat.toDigits 10 lead).length from by omega]
    exact copies_decimals h _ (Decimal.toDigits_digits lead) _ _
  · rintro n ⟨⟩
  · have blocks : ∀ back rest, copies ((Regex.seq (exactly '.') (.repeated false 3 (some 3) (.one (isDecimal h)))).Matches h.word)
        (groups.map fun g => '.' :: Decimal.fixed 3 g).length back (groups.map fun g => '.' :: Decimal.fixed 3 g).flatten rest :=
      copies_blocks (groups.map fun g => '.' :: Decimal.fixed 3 g) ?_
    · rw [show 1 + (groups.length - 1) = (groups.map fun g => '.' :: Decimal.fixed 3 g).length from by rw [List.length_map]; omega]
      exact blocks _ _
    · intro block member back rest
      obtain ⟨g,_,rfl⟩ := List.mem_map.mp member
      refine ⟨['.'],Decimal.fixed 3 g,rfl,⟨'.',rfl,rfl⟩,0,fun _ _ => Nat.zero_le _,?_⟩
      have three := copies_decimals h (Decimal.fixed 3 g) (Decimal.fixed_digits 3 g) ('.' :: back) rest
      rwa [Decimal.length_fixed] at three
  · rintro n ⟨⟩
    omega
  · refine ⟨',' :: Decimal.fixed 2 cents,[],(List.append_nil _).symm,⟨[','],Decimal.fixed 2 cents,rfl,⟨',',rfl,rfl⟩,1,?_,?_⟩,rfl⟩
    · rintro n ⟨⟩
    · have two := copies_decimals h (Decimal.fixed 2 cents) (Decimal.fixed_digits 2 cents)
      rw [Decimal.length_fixed] at two
      exact two _ _

theorem plain_symbol (c : Char) (plain : c.isDigit = true ∨ c ∈ ['.',',','-']) : strippedSymbol c = false := by
  have codes : 44 ≤ c.toNat ∧ c.toNat ≤ 57 := by
    rcases plain with digit | mark
    · have bounds : 48 ≤ c.toNat ∧ c.toNat ≤ 57 := Char.isDigit_iff_toNat.mp digit
      omega
    · simp only [List.mem_cons,List.not_mem_nil,or_false] at mark
      rcases mark with rfl | rfl | rfl <;> decide
  unfold strippedSymbol Text.isSpace
  rw [Bool.or_eq_false_iff]
  constructor
  · rw [Bool.eq_false_iff]
    intro listed
    simp only [List.contains_iff_mem,List.mem_cons,List.not_mem_nil,or_false] at listed
    rcases listed with rfl | rfl | rfl | rfl | rfl | rfl <;> exact absurd codes (by decide)
  · apply decide_eq_false
    simp only [List.mem_cons,List.not_mem_nil,or_false]
    omega

-- The symbols before a rendering go, and nothing of it.
theorem symbols_removed (lead written : List Char) (stripped : ∀ c ∈ lead, strippedSymbol c = true)
    (plain : ∀ c ∈ written, c.isDigit = true ∨ c ∈ ['.',',','-']) :
    (Regex.one strippedSymbol).sub h.word [] 0 [] (lead ++ written) = written := by
  rw [sub_one,List.filter_append,List.filter_eq_nil_iff.mpr,List.nil_append,List.filter_eq_self.mpr]
  · intro c member
    rw [plain_symbol c (plain c member)]
    rfl
  · intro c member
    simp [stripped c member]

theorem last_mark (mark : Char) (a b c d : List Char) (same : a ++ mark :: b = c ++ mark :: d) (first : mark ∉ b) (second : mark ∉ d) :
    b = d := by
  have until_mark : ∀ front back : List Char, mark ∉ back →
      (front ++ mark :: back).reverse.takeWhile (fun x => decide (x ≠ mark)) = back.reverse := by
    intro front back absent
    rw [List.reverse_append,List.reverse_cons,List.append_assoc,List.takeWhile_append_of_pos]
    · simp
    · intro x member
      apply decide_eq_true
      rintro rfl
      exact absent (List.mem_reverse.mp member)
  have ends := congrArg (fun text => text.reverse.takeWhile fun x => decide (x ≠ mark)) same
  rw [until_mark a b first,until_mark c d second] at ends
  exact List.reverse_inj.mp ends

theorem no_mark (mark : Char) (plain : mark.isDigit = false) (digits : List Char) (all : ∀ c ∈ digits, c.isDigit = true) : mark ∉ digits := by
  intro member
  rw [all mark member] at plain
  cases plain

theorem cents_value (n : Int) :
    (if n < 0 then -(((n.natAbs / 100 : Nat) : Rat) + ((n.natAbs % 10 ^ 2 : Nat) : Rat) / 10 ^ 2)
      else ((n.natAbs / 100 : Nat) : Rat) + ((n.natAbs % 10 ^ 2 : Nat) : Rat) / 10 ^ 2) = (n : Rat) / 100 := by
  have whole : ((n.natAbs / 100 : Nat) : Rat) + ((n.natAbs % 10 ^ 2 : Nat) : Rat) / 10 ^ 2 = (n.natAbs : Rat) / 100 := by
    have split : ((100 * (n.natAbs / 100) + n.natAbs % 100 : Nat) : Rat) = n.natAbs := by rw [Nat.div_add_mod]
    push_cast at split ⊢
    linarith
  rw [whole]
  by_cases negative : n < 0
  · have abs : (n.natAbs : Rat) = -(n : Rat) := by
      calc (n.natAbs : Rat) = ((n.natAbs : Int) : Rat) := (Int.cast_natCast _).symm
        _ = ((-n : Int) : Rat) := by rw [Int.ofNat_natAbs_of_nonpos negative.le]
        _ = -(n : Rat) := Int.cast_neg n
    rw [if_pos negative,abs]
    ring
  · have abs : (n.natAbs : Rat) = (n : Rat) := by
      calc (n.natAbs : Rat) = ((n.natAbs : Int) : Rat) := (Int.cast_natCast _).symm
        _ = (n : Rat) := by rw [Int.natAbs_of_nonneg (not_lt.mp negative)]
    rw [if_neg negative,abs]

-- Signed digits with a point before the cents.
def pointed (n : Int) : List Char := signOf n ++ (Nat.toDigits 10 (n.natAbs / 100) ++ '.' :: Decimal.fixed 2 n.natAbs)

theorem pointed_float (n : Int) : floatText h (pointed n) = some (h.nearest (n / 100)) := by
  have digits := Decimal.toDigits_digits (n.natAbs / 100)
  have filled : Nat.toDigits 10 (n.natAbs / 100) ≠ [] := Nat.toDigits_ne_nil
  have read := unsigned_point _ _ digits filled (Decimal.fixed_digits 2 n.natAbs)
  rw [Decimal.value_toDigits,Decimal.value_fixed,Decimal.length_fixed] at read
  obtain ⟨c,rest,begins⟩ := List.exists_cons_of_ne_nil filled
  have decimal : plainDecimal (pointed n) = some ((n : Rat) / 100) := by
    unfold pointed
    rw [begins] at read digits ⊢
    rw [List.cons_append,plain_sign n c _ (digits c List.mem_cons_self),← List.cons_append,read,Option.map_some,cents_value]
  rw [floatText,decimal]

theorem rendering_chars (mark point : Char) (n : Int) (marks : mark ∈ ['.',',','-']) (points : point ∈ ['.',',','-']) :
    ∀ c ∈ signOf n ++ (Decimal.grouped mark (n.natAbs / 100) ++ point :: Decimal.fixed 2 n.natAbs),
      c.isDigit = true ∨ c ∈ ['.',',','-'] := by
  intro c member
  rcases List.mem_append.mp member with sign | body
  · unfold signOf at sign
    split at sign
    · rw [List.mem_singleton.mp sign]
      exact .inr (by decide)
    · cases sign
  · rcases List.mem_append.mp body with group | cents
    · rcases Decimal.grouped_chars mark _ c group with digit | same
      · exact .inl digit
      · exact .inr (same ▸ marks)
    · rcases List.mem_cons.mp cents with same | digit
      · exact .inr (same ▸ points)
      · exact .inl (Decimal.fixed_digits 2 _ c digit)

theorem removeChar_absent (c : Char) (part : List Char) (absent : c ∉ part) : removeChar c part = part := by
  rw [removeChar,List.filter_eq_self]
  intro x member
  apply decide_eq_true
  rintro rfl
  exact absent member

theorem removeChar_append (c : Char) (a b : List Char) : removeChar c (a ++ b) = removeChar c a ++ removeChar c b := List.filter_append ..

theorem sign_unmarked (n : Int) (mark : Char) (other : mark ≠ '-') : mark ∉ signOf n := by
  unfold signOf
  split <;> simp [other]

theorem us_text (lead : List Char) (stripped : ∀ c ∈ lead, strippedSymbol c = true) (n : Int) :
    amountText h (lead ++ usRendering n) = pointed n := by
  have cents : ∀ mark : Char, mark.isDigit = false → mark ∉ Decimal.fixed 2 n.natAbs :=
    fun mark plain => no_mark mark plain _ (Decimal.fixed_digits 2 n.natAbs)
  have unmatched : matchesWhole h (europeanRe h) (usRendering n) = false := by
    rw [Bool.eq_false_iff]
    intro matched
    obtain ⟨_,front,back,split,plain,long⟩ := european_shape h ((matchesWhole_iff h _ _).mp matched)
    have same := last_mark '.' _ _ front back (by rw [← split,usRendering,← List.append_assoc]) (cents '.' (by decide)) plain
    rw [← same,Decimal.length_fixed] at long
    omega
  have point : '.' ∈ usRendering n := by simp [usRendering]
  have unmarked : removeChar ',' (usRendering n) = pointed n := by
    have last : ',' ∉ '.' :: Decimal.fixed 2 n.natAbs :=
      fun member => (List.mem_cons.mp member).elim (by decide) (cents ',' (by decide))
    rw [usRendering,removeChar_append,removeChar_append,removeChar_absent ',' _ (sign_unmarked n ',' (by decide)),
      removeChar_absent ',' _ last,removeChar,Decimal.grouped_unmarked ',' _ (by decide),pointed]
  unfold amountText
  dsimp only
  rw [symbols_removed h lead (usRendering n) stripped (rendering_chars ',' '.' n (by decide) (by decide)),if_neg (by rw [unmatched]; decide),
    if_neg fun both => both.2 point]
  by_cases comma : ',' ∈ usRendering n
  · rw [if_pos ⟨comma,point⟩,unmarked]
  · rw [if_neg fun both => comma both.1,← unmarked,removeChar_absent ',' _ comma]

-- The European rendering comes out so where it has no groups, or groups and no sign.
theorem european_text (lead : List Char) (stripped : ∀ c ∈ lead, strippedSymbol c = true) (n : Int)
    (readable : -100000 < n) : amountText h (lead ++ europeanRendering n) = pointed n := by
  have cents : ∀ mark : Char, mark.isDigit = false → mark ∉ Decimal.fixed 2 n.natAbs :=
    fun mark plain => no_mark mark plain _ (Decimal.fixed_digits 2 n.natAbs)
  have digits : ∀ mark : Char, mark.isDigit = false → mark ∉ Nat.toDigits 10 (n.natAbs / 100) :=
    fun mark plain => no_mark mark plain _ (Decimal.toDigits_digits _)
  have replaced : ∀ part : List Char, ',' ∉ part → replaceChar ',' '.' (part ++ ',' :: Decimal.fixed 2 n.natAbs) =
      part ++ '.' :: Decimal.fixed 2 n.natAbs := by
    have kept : ∀ part : List Char, ',' ∉ part → part.map (fun x => if x = ',' then '.' else x) = part := by
      intro part absent
      refine (List.map_congr_left ?_).trans (List.map_id part)
      intro x member
      apply if_neg
      rintro rfl
      exact absent member
    intro part absent
    rw [replaceChar,List.map_append,List.map_cons,kept part absent,kept _ (cents ',' (by decide)),if_pos rfl]
  unfold amountText
  dsimp only
  rw [symbols_removed h lead (europeanRendering n) stripped (rendering_chars '.' ',' n (by decide) (by decide))]
  by_cases large : 1000 ≤ n.natAbs / 100
  · have positive : 0 ≤ n := by omega
    have unsigned : signOf n = [] := if_neg (not_lt.mpr positive)
    have matched : matchesWhole h (europeanRe h) (europeanRendering n) = true := by
      rw [matchesWhole_iff,europeanRendering,unsigned]
      exact european_grouped h _ _ large
    have last : '.' ∉ ',' :: Decimal.fixed 2 n.natAbs :=
      fun member => (List.mem_cons.mp member).elim (by decide) (cents '.' (by decide))
    rw [if_pos matched,europeanRendering,unsigned,List.nil_append,removeChar_append,removeChar_absent '.' _ last,removeChar,
      Decimal.grouped_unmarked '.' _ (by decide),replaced _ (digits ',' (by decide)),pointed,unsigned,List.nil_append]
  · have small : Decimal.grouped '.' (n.natAbs / 100) = Nat.toDigits 10 (n.natAbs / 100) := by
      rw [Decimal.grouped,if_pos (by omega)]
    have pointless : '.' ∉ europeanRendering n := by
      rw [europeanRendering,small]
      intro member
      rcases List.mem_append.mp member with sign | body
      · exact sign_unmarked n '.' (by decide) sign
      · rcases List.mem_append.mp body with whole | rest
        · exact digits '.' (by decide) whole
        · exact (List.mem_cons.mp rest).elim (by decide) (cents '.' (by decide))
    have unmatched : matchesWhole h (europeanRe h) (europeanRendering n) = false := by
      rw [Bool.eq_false_iff]
      intro matched
      obtain ⟨_,front,back,split,_⟩ := european_shape h ((matchesWhole_iff h _ _).mp matched)
      exact pointless (by rw [split]; simp)
    have comma : ',' ∈ europeanRendering n := by simp [europeanRendering]
    rw [if_neg (by rw [unmatched]; decide),if_pos ⟨comma,pointless⟩,europeanRendering,small,← List.append_assoc,replaced,pointed,
      List.append_assoc]
    intro member
    rcases List.mem_append.mp member with sign | whole
    · exact sign_unmarked n ',' (by decide) sign
    · exact digits ',' (by decide) whole

-- With a sign the groups are not recognised, and the decimal comma goes instead.
theorem signed_groups_text (lead : List Char) (stripped : ∀ c ∈ lead, strippedSymbol c = true) (n : Int) (grouped : n ≤ -100000) :
    amountText h (lead ++ europeanRendering n) = signOf n ++ (Decimal.grouped '.' (n.natAbs / 100) ++ Decimal.fixed 2 n.natAbs) := by
  have negative : signOf n = ['-'] := if_pos (by omega)
  have unmatched : matchesWhole h (europeanRe h) (europeanRendering n) = false := by
    rw [Bool.eq_false_iff]
    intro matched
    obtain ⟨⟨c,rest,begins,digit⟩,_⟩ := european_shape h ((matchesWhole_iff h _ _).mp matched)
    rw [europeanRendering,negative] at begins
    obtain ⟨rfl,_⟩ := List.cons.inj begins
    rw [(mark_not_decimal h).2.2] at digit
    cases digit
  have comma : ',' ∈ europeanRendering n := by simp [europeanRendering]
  have point : '.' ∈ europeanRendering n := by
    have inside := (Decimal.grouped_marked '.' (n.natAbs / 100) (by decide)).mpr (by omega)
    simp [europeanRendering,inside]
  have groups : ',' ∉ Decimal.grouped '.' (n.natAbs / 100) := by
    intro member
    rcases Decimal.grouped_chars '.' _ _ member with digit | same
    · exact absurd digit (by decide)
    · exact absurd same (by decide)
  have removed : removeChar ',' (',' :: Decimal.fixed 2 n.natAbs) = Decimal.fixed 2 n.natAbs := by
    rw [removeChar,List.filter_cons_of_neg (by simp)]
    exact removeChar_absent ',' _ (no_mark ',' (by decide) _ (Decimal.fixed_digits 2 n.natAbs))
  unfold amountText
  dsimp only
  rw [symbols_removed h lead (europeanRendering n) stripped (rendering_chars '.' ',' n (by decide) (by decide)),
    if_neg (by rw [unmatched]; decide),if_neg fun both => both.2 point,if_pos ⟨comma,point⟩,europeanRendering,removeChar_append,
    removeChar_append,removeChar_absent ',' _ (sign_unmarked n ',' (by decide)),removeChar_absent ',' _ groups,removed]

-- One group: the number comes out a thousand times too small.
theorem one_group_float (n : Int) (grouped : n ≤ -100000) (one : -100000000 < n) :
    floatText h (signOf n ++ (Decimal.grouped '.' (n.natAbs / 100) ++ Decimal.fixed 2 n.natAbs)) = some (h.nearest (n / 10 ^ 5)) := by
  have groups : Decimal.grouped '.' (n.natAbs / 100) =
      Nat.toDigits 10 (n.natAbs / 100 / 1000) ++ '.' :: Decimal.fixed 3 (n.natAbs / 100) := by
    rw [Decimal.grouped,if_neg (by omega),Decimal.grouped,if_pos (by omega)]
  have digits := Decimal.toDigits_digits (n.natAbs / 100 / 1000)
  have filled : Nat.toDigits 10 (n.natAbs / 100 / 1000) ≠ [] := Nat.toDigits_ne_nil
  have decimals : ∀ c ∈ Decimal.fixed 3 (n.natAbs / 100) ++ Decimal.fixed 2 n.natAbs, c.isDigit = true := by
    intro c member
    exact (List.mem_append.mp member).elim (Decimal.fixed_digits 3 _ c) (Decimal.fixed_digits 2 _ c)
  have read := unsigned_point _ _ digits filled decimals
  rw [Decimal.value_toDigits,Decimal.value_append,Decimal.value_fixed,Decimal.value_fixed,List.length_append,Decimal.length_fixed,
    Decimal.length_fixed] at read
  have number : -(((n.natAbs / 100 / 1000 : Nat) : Rat) + ((n.natAbs / 100 % 10 ^ 3 * 10 ^ 2 + n.natAbs % 10 ^ 2 : Nat) : Rat) / 10 ^ (3 + 2)) =
      (n : Rat) / 10 ^ 5 := by
    have whole : ((n.natAbs / 100 / 1000 * 10 ^ 5 + (n.natAbs / 100 % 10 ^ 3 * 10 ^ 2 + n.natAbs % 10 ^ 2) : Nat) : Rat) = -(n : Rat) := by
      have same : ((n.natAbs / 100 / 1000 * 10 ^ 5 + (n.natAbs / 100 % 10 ^ 3 * 10 ^ 2 + n.natAbs % 10 ^ 2) : Nat) : Int) = -n := by omega
      calc _ = (((n.natAbs / 100 / 1000 * 10 ^ 5 + (n.natAbs / 100 % 10 ^ 3 * 10 ^ 2 + n.natAbs % 10 ^ 2) : Nat) : Int) : Rat) :=
            (Int.cast_natCast _).symm
        _ = -(n : Rat) := by rw [same,Int.cast_neg]
    rw [Nat.cast_add,Nat.cast_mul] at whole
    have places : ((10 ^ 5 : Nat) : Rat) = 10 ^ 5 := by norm_num
    rw [places] at whole
    have five : (10 : Rat) ^ (3 + 2) = 10 ^ 5 := by norm_num
    rw [five]
    linarith
  obtain ⟨c,rest,begins⟩ := List.exists_cons_of_ne_nil filled
  have decimal : plainDecimal (signOf n ++ (Decimal.grouped '.' (n.natAbs / 100) ++ Decimal.fixed 2 n.natAbs)) = some ((n : Rat) / 10 ^ 5) := by
    rw [groups,List.append_assoc,List.cons_append]
    rw [begins] at read digits ⊢
    rw [List.cons_append,plain_sign n c _ (digits c List.mem_cons_self),← List.cons_append,read,Option.map_some,if_pos (by omega : n < 0),
      number]
  rw [floatText,decimal]

-- More groups: there is a second point, which no number has.
theorem more_groups_float (p : DoublePrecision h) (n : Int) (more : n ≤ -100000000) :
    floatText h (signOf n ++ (Decimal.grouped '.' (n.natAbs / 100) ++ Decimal.fixed 2 n.natAbs)) = none := by
  have groups : Decimal.grouped '.' (n.natAbs / 100) =
      Decimal.grouped '.' (n.natAbs / 100 / 1000) ++ '.' :: Decimal.fixed 3 (n.natAbs / 100) := by
    rw [Decimal.grouped,if_neg (by omega)]
  have again : '.' ∈ Decimal.grouped '.' (n.natAbs / 100 / 1000) := (Decimal.grouped_marked '.' _ (by decide)).mpr (by omega)
  have points : 1 < (Decimal.grouped '.' (n.natAbs / 100) ++ Decimal.fixed 2 n.natAbs).count '.' := by
    have first := List.count_pos_iff.mpr again
    rw [groups,List.count_append,List.count_append,List.count_cons_self]
    omega
  obtain ⟨lead,rest,_,written,_⟩ := Decimal.grouped_groups '.' (n.natAbs / 100)
  obtain ⟨c,digits,begins⟩ := List.exists_cons_of_ne_nil (Nat.toDigits_ne_nil (n := lead) (b := 10))
  have digit : c.isDigit = true := Decimal.toDigits_digits lead c (by rw [begins]; exact List.mem_cons_self)
  have whole : ∃ more, Decimal.grouped '.' (n.natAbs / 100) ++ Decimal.fixed 2 n.natAbs = c :: more := ⟨_,by rw [written,begins]; rfl⟩
  obtain ⟨more,split⟩ := whole
  rw [split] at points ⊢
  have unread : plainDecimal (signOf n ++ c :: more) = none := by
    rw [plain_sign n c more digit,unsigned_points _ points]
    rfl
  have signed : 1 < (signOf n ++ c :: more).count '.' := by
    rw [List.count_append]
    omega
  rw [floatText,unread]
  exact p.points _ signed

theorem cents_settled (p : DoublePrecision h) (n : Int) : h.round (h.nearest (n / 100)) 4 = h.nearest (n / 100) := by
  have settled := p.settled (n * 100)
  have same : ((n * 100 : Int) : Rat) / 10 ^ 4 = (n : Rat) / 100 := by
    push_cast
    ring
  rwa [same] at settled

theorem cents_held (p : DoublePrecision h) (n : Int) (short : |n| < 10 ^ 12) : h.nearest (n / 100) = .finite (n / 100) := by
  have held := p.held (n * 1000) (by rw [abs_mul,abs_of_pos (by decide : (0 : Int) < 1000)]; omega)
  have same : ((n * 1000 : Int) : Rat) / 10 ^ 5 = (n : Rat) / 100 := by
    push_cast
    ring
  rwa [same] at held

-- A hundred-thousandth of the cents is a thousand at most, and the amount is more.
theorem one_group_wrong (p : DoublePrecision h) (n : Int) (grouped : n ≤ -100000) (one : -100000000 < n) :
    h.round (h.nearest (n / 10 ^ 5)) 4 ≠ h.nearest (n / 100) := by
  have size : |n| < 10 ^ 8 := by rw [abs_lt]; omega
  intro same
  rw [p.held n (by omega),cents_held h p n (by omega)] at same
  rcases lt_or_eq_of_le grouped with less | equal
  · have lowest : (n : Rat) / 10 ^ 5 ≥ -1000 := by
      have bound : (-100000000 : Rat) < n := by exact_mod_cast one
      rw [ge_iff_le,le_div_iff₀ (by norm_num)]
      linarith
    have floor : h.round (.finite (-1000)) 4 = .finite (-1000) := by
      have held := cents_held h p (-100000) (by decide)
      have settled := cents_settled h p (-100000)
      have thousand : (((-100000 : Int) : Int) : Rat) / 100 = -1000 := by norm_num
      rw [thousand] at held settled
      rwa [held] at settled
    have order := p.ordered (-1000) (n / 10 ^ 5) lowest
    rw [same,floor] at order
    have kept : ¬((n : Rat) / 100 < -1000) := of_decide_eq_false order
    apply kept
    have bound : (n : Rat) < -100000 := by exact_mod_cast less
    rw [div_lt_iff₀ (by norm_num)]
    linarith
  · subst equal
    have held := cents_held h p (-100) (by decide)
    have settled := cents_settled h p (-100)
    have unit : (((-100 : Int) : Int) : Rat) / 100 = -1 := by norm_num
    have share : (((-100000 : Int) : Int) : Rat) / 10 ^ 5 = -1 := by norm_num
    rw [unit] at held settled
    rw [held] at settled
    rw [share,settled] at same
    have absurdity := PyFloat.finite.inj same
    norm_num at absurdity

-- The American rendering of an amount always comes back; the European one does exactly where
-- the amount has no sign or no groups.
theorem amount_renderings (p : DoublePrecision h) (lead : List Char) (stripped : ∀ c ∈ lead, strippedSymbol c = true) (n : Int) :
    parseAmount h (.str (String.ofList (lead ++ usRendering n))) = .ok (some (h.nearest (n / 100))) ∧
      (parseAmount h (.str (String.ofList (lead ++ europeanRendering n))) = .ok (some (h.nearest (n / 100))) ↔
        -100000 < n) := by
  unfold parseAmount
  simp only [String.toList_ofList,us_text h lead stripped n,pointed_float,Option.map_some,cents_settled h p n,true_and]
  constructor
  · intro same
    by_contra grouped
    rw [not_lt] at grouped
    rw [signed_groups_text h lead stripped n grouped] at same
    by_cases one : -100000000 < n
    · rw [one_group_float h n grouped one] at same
      exact one_group_wrong h p n grouped one (Option.some.inj (Except.ok.inj same))
    · rw [more_groups_float h p n (not_lt.mp one)] at same
      cases Except.ok.inj same
  · intro readable
    rw [european_text h lead stripped n readable,pointed_float,Option.map_some,cents_settled h p n]

def roundDecimal : PyFloat → Nat → PyFloat
  | .finite q,digits => .finite (⌊q * 10 ^ digits + 1 / 2⌋ / 10 ^ digits)
  | x,_ => x

-- Numbers that are held as they are.
def exactAmounts : AmountHost where
  word := fun _ => false
  digit := fun _ => false
  nearest := .finite
  round := roundDecimal
  floatOfInt n := .ok (.finite n)
  readFloat := fun _ => none

theorem exactAmounts_precise : DoublePrecision exactAmounts where
  held _ _ := rfl
  settled m := by
    have whole : ⌊((m : Rat) / 10 ^ 4) * 10 ^ 4 + 1 / 2⌋ = m := by
      rw [div_mul_cancel₀ _ (by norm_num),Int.floor_eq_iff]
      constructor <;> linarith
    change PyFloat.finite (⌊((m : Rat) / 10 ^ 4) * 10 ^ 4 + 1 / 2⌋ / 10 ^ 4) = _
    rw [whole]
    rfl
  ordered a b less := by
    apply decide_eq_false
    rw [not_lt]
    have scaled : a * 10 ^ 4 + 1 / 2 ≤ b * 10 ^ 4 + 1 / 2 := by linarith
    have floors : ((⌊a * 10 ^ 4 + 1 / 2⌋ : Int) : Rat) ≤ ⌊b * 10 ^ 4 + 1 / 2⌋ := by exact_mod_cast Int.floor_le_floor scaled
    exact div_le_div_of_nonneg_right floors (by norm_num)
  points _ _ := rfl

theorem amount_renderings_million :
    parseAmount exactAmounts (.str (String.ofList (['€'] ++ usRendering 123456789))) = .ok (some (.finite (123456789 / 100))) ∧
      (parseAmount exactAmounts (.str (String.ofList (['€'] ++ europeanRendering 123456789))) = .ok (some (.finite (123456789 / 100))) ↔
        -100000 < (123456789 : Int)) :=
  amount_renderings exactAmounts exactAmounts_precise ['€'] (List.forall_mem_singleton.mpr (by decide)) 123456789

-- Minus one thousand two hundred thirty-four euros come out as one euro, minus a million as nothing.
theorem signed_groups_wrong :
    "-1.234,56".toList = europeanRendering (-123456) ∧
      parseAmount exactAmounts (.str "-1.234,56") = .ok (some (.finite (-12346 / 10 ^ 4))) ∧
      "-1.234.567,89".toList = europeanRendering (-123456789) ∧
      parseAmount exactAmounts (.str "-1.234.567,89") = .ok none := by
  have one : "-1.234,56".toList = europeanRendering (-123456) := by
    have groups : Decimal.grouped '.' 1234 = "1.234".toList := by
      rw [Decimal.grouped,if_neg (by decide),Decimal.grouped,if_pos (by decide)]
      decide
    change _ = ['-'] ++ (Decimal.grouped '.' 1234 ++ ',' :: Decimal.fixed 2 123456)
    rw [groups]
    decide
  have two : "-1.234.567,89".toList = europeanRendering (-123456789) := by
    have groups : Decimal.grouped '.' 1234567 = "1.234.567".toList := by
      rw [Decimal.grouped,if_neg (by decide),Decimal.grouped,if_neg (by decide),Decimal.grouped,if_pos (by decide)]
      decide
    change _ = ['-'] ++ (Decimal.grouped '.' 1234567 ++ ',' :: Decimal.fixed 2 123456789)
    rw [groups]
    decide
  have first := signed_groups_text exactAmounts [] (fun _ member => by cases member) (-123456) (by decide)
  have second := signed_groups_text exactAmounts [] (fun _ member => by cases member) (-123456789) (by decide)
  rw [List.nil_append,← one] at first
  rw [List.nil_append,← two] at second
  refine ⟨one,?_,two,?_⟩
  · rw [parseAmount,first,one_group_float exactAmounts (-123456) (by decide) (by decide)]
    have rounded : ⌊((-123456 : Rat) / 10 ^ 5) * 10 ^ 4 + 1 / 2⌋ = -12346 := by
      rw [Int.floor_eq_iff]
      norm_num
    change Except.ok (some (PyFloat.finite (⌊((((-123456 : Int) : Int) : Rat) / 10 ^ 5) * 10 ^ 4 + 1 / 2⌋ / 10 ^ 4))) = _
    rw [Int.cast_neg,Int.cast_ofNat,rounded]
    norm_num
  · rw [parseAmount,second,more_groups_float exactAmounts exactAmounts_precise (-123456789) (by decide)]
    rfl

end DataCleaner
end RiskPulse
