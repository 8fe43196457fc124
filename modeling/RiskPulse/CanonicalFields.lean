import RiskPulse.DataNormalizer

namespace RiskPulse
namespace DataNormalizer

-- The five fields that normalisation makes canonical.
inductive Categorical where
  | currency
  | country
  | transactionType
  | channel
  | cardType
  deriving DecidableEq

namespace Categorical

def field : Categorical → String
  | currency => "transaction_currency"
  | country => "geo_country"
  | transactionType => "transaction_type"
  | channel => "channel"
  | cardType => "card_type"

end Categorical

variable {h : NormalizerHost} (c : DataNormalizer h)

def rewriting : Categorical → Rewriting
  | .currency => c.currencyRewriting
  | .country => c.countryRewriting
  | .transactionType => aliasRewriting "txn_type_normalized" c.transactionTypeAliases
  | .channel => aliasRewriting "channel_normalized" c.channelAliases
  | .cardType => aliasRewriting "card_type_normalized" c.cardTypeAliases

theorem mapMcc_congr {record other : Record} (same : record.value "merchant_category_code" = other.value "merchant_category_code") :
    c.mapMcc record = c.mapMcc other := by
  unfold mapMcc
  rw [same]

theorem mapMcc_located (usd : Option PyFloat) (record : Record) : c.mapMcc (c.located usd record) = c.mapMcc record := by
  apply c.mapMcc_congr
  simp [located,converted,normalizeCountry,normalizeCurrencyCode,rewriteField_value,setSome_value]

-- The conversion and the category may fail, and nothing else.
theorem normalize_returns (record : Record) :
    (∃ result, c.normalize record = .ok result) ↔
      (∃ usd, c.convertToUsd (c.normalizeCurrencyCode record).1 = .ok usd) ∧ ∃ name, c.mapMcc record = .ok name := by
  constructor
  · intro ⟨result,ran⟩
    obtain ⟨usd,converted,later⟩ := Fallible.bind_ok.mp ran
    obtain ⟨name,found,_⟩ := Fallible.bind_ok.mp later
    exact ⟨⟨usd,converted⟩,name,(c.mapMcc_located usd record).symm.trans found⟩
  · intro ⟨⟨usd,converted⟩,name,found⟩
    exact ⟨_,Fallible.bind_ok.mpr ⟨usd,converted,Fallible.bind_ok.mpr ⟨name,(c.mapMcc_located usd record).trans found,rfl⟩⟩⟩

theorem typed_value (usd : Option PyFloat) (name : Option String) (record : Record) :
    (∀ k : Categorical, Record.value (c.typed name (c.located usd record)).1 k.field = rewritten (c.rewriting k) (record.value k.field)) ∧
      Record.value (c.typed name (c.located usd record)).1 "transaction_amount" = record.value "transaction_amount" ∧
      Record.value (c.typed name (c.located usd record)).1 "merchant_category_code" = record.value "merchant_category_code" := by
  refine ⟨fun k => ?_,?_,?_⟩
  · cases k <;>
      simp [typed,located,converted,normalizeCountry,normalizeCurrencyCode,normalizeTransactionType,normalizeChannel,normalizeCardType,
        rewriteField_value,setSome_value,Categorical.field,rewriting]
  · simp [typed,located,converted,normalizeCountry,normalizeCurrencyCode,normalizeTransactionType,normalizeChannel,normalizeCardType,
      rewriteField_value,setSome_value]
  · simp [typed,located,converted,normalizeCountry,normalizeCurrencyCode,normalizeTransactionType,normalizeChannel,normalizeCardType,
      rewriteField_value,setSome_value]

-- Each of the five fields of a result holds its rewriting.
theorem normalize_value {record : Record} (ran : c.normalize record = .ok result) :
    (∀ k : Categorical, result.record.value k.field = rewritten (c.rewriting k) (record.value k.field)) ∧
      result.record.value "transaction_amount" = record.value "transaction_amount" ∧
      result.record.value "merchant_category_code" = record.value "merchant_category_code" := by
  obtain ⟨usd,_,later⟩ := Fallible.bind_ok.mp ran
  obtain ⟨name,_,last⟩ := Fallible.bind_ok.mp later
  cases last
  exact c.typed_value usd name record

-- str(raw).strip(), and that in lower case.
def trimmed (h : NormalizerHost) (v : Value) : String := stripText (h.str v)

def folded (h : NormalizerHost) (v : Value) : String := h.lower (trimmed h v)

theorem trimmed_text (h : NormalizerHost) (text : String) : trimmed h (.str text) = stripText text := by
  rw [trimmed,h.strText]

theorem upper_trimmed (h : NormalizerHost) (v : Value) : stripText (h.upper (trimmed h v)) = h.upper (trimmed h v) := h.upperTrimmed _

def table : Categorical → AliasTable h
  | .currency => c.currencyAliases
  | .country => c.countryCodes
  | .transactionType => c.transactionTypeAliases
  | .channel => c.channelAliases
  | .cardType => c.cardTypeAliases

-- The texts that are put into upper case where the table does not have them.
def Code (h : NormalizerHost) : Categorical → String → Prop
  | .currency,_ => True
  | .country,text => twoLetters h text = true
  | _,_ => False

-- What a trimmed text stands for.
inductive StandsFor (k : Categorical) (text : String) : String → Prop where
  | listed : (c.table k).lookup (h.lower text) = some canonical → StandsFor k text canonical
  | upper : (c.table k).lookup (h.lower text) = none → Code h k text → StandsFor k text (h.upper text)

-- The text that a canonical one is compared with before it is written.
def compared (h : NormalizerHost) : Categorical → String → String
  | .currency,text | .country,text => text
  | _,text => h.lower text

theorem standsFor_unique (one : c.StandsFor k text first) (other : c.StandsFor k text second) : first = second := by
  cases one with
  | listed found =>
    cases other with
    | listed same => exact Option.some.inj (found.symm.trans same)
    | upper none _ => rw [found] at none; cases none
  | upper none _ =>
    cases other with
    | listed found => rw [found] at none; cases none
    | upper _ _ => rfl

-- The look-up of an upper-case text finds nothing that the one in lower case did not.
theorem lookup_upper (table : AliasTable h) {text : String} (absent : table.lookup (h.lower text) = none) : table.lookup (h.upper text) = none := by
  cases found : table.lookup (h.upper text) with
  | none => rfl
  | some canonical =>
    have same := h.uncased text (table.lookup_folded found)
    rw [same,found] at absent
    cases absent

theorem standsFor_listed {k : Categorical} (found : (c.table k).lookup (h.lower text) = some known) :
    c.StandsFor k text canonical ↔ known = canonical := by
  constructor
  · exact fun stands => c.standsFor_unique (.listed found) stands
  · exact fun same => .listed (same ▸ found)

theorem standsFor_absent {k : Categorical} (absent : (c.table k).lookup (h.lower text) = none) :
    c.StandsFor k text canonical ↔ Code h k text ∧ h.upper text = canonical := by
  constructor
  · intro stands
    cases stands with
    | listed found => rw [absent] at found; cases found
    | upper _ code => exact ⟨code,rfl⟩
  · rintro ⟨code,rfl⟩
    exact .upper absent code

theorem written_iff (text plain change canonical : String) :
    (∃ told, (if text ≠ plain then some (text,change) else none) = some (canonical,told)) ↔ text = canonical ∧ canonical ≠ plain := by
  constructor
  · rintro ⟨told,came⟩
    split at came
    · next other =>
      cases came
      exact ⟨rfl,other⟩
    · cases came
  · rintro ⟨rfl,other⟩
    exact ⟨change,if_pos other⟩

theorem currencyRewriting_iff (v : Value) (canonical : String) :
    (∃ change, c.currencyRewriting v = some (canonical,change)) ↔
      c.StandsFor .currency (trimmed h v) canonical ∧ canonical ≠ trimmed h v := by
  unfold currencyRewriting trimmed
  generalize stripText (h.str v) = text
  cases found : c.currencyAliases.lookup (h.lower text) with
  | none =>
    simp only [found,c.standsFor_absent (k := .currency) found,written_iff]
    simp [Code]
  | some known => simp only [found,c.standsFor_listed (k := .currency) found,written_iff]

theorem countryRewriting_iff (v : Value) (canonical : String) :
    (∃ change, c.countryRewriting v = some (canonical,change)) ↔
      c.StandsFor .country (trimmed h v) canonical ∧ canonical ≠ trimmed h v := by
  unfold countryRewriting trimmed
  generalize stripText (h.str v) = text
  cases found : c.countryCodes.lookup (h.lower text) with
  | none =>
    simp only [found,c.standsFor_absent (k := .country) found,lookup_upper _ found,Option.map_none]
    by_cases code : twoLetters h text = true
    · simp only [code,if_true,written_iff]
      simp [Code,code]
    · simp [Code,code]
  | some known => simp only [found,c.standsFor_listed (k := .country) found,written_iff]

theorem aliasRewriting_iff (change : String) (k : Categorical) (plain : ∀ text, ¬Code h k text) (v : Value) (canonical : String) :
    (∃ told, aliasRewriting change (c.table k) v = some (canonical,told)) ↔
      c.StandsFor k (trimmed h v) canonical ∧ canonical ≠ h.lower (trimmed h v) := by
  unfold aliasRewriting trimmed
  generalize stripText (h.str v) = text
  cases found : (c.table k).lookup (h.lower text) with
  | none => simp [found,c.standsFor_absent found,plain text]
  | some known => simp only [found,c.standsFor_listed found,written_iff]

-- A value is rewritten to what its text stands for, unless that is the text it is compared with.
theorem rewriting_iff (k : Categorical) (v : Value) (canonical : String) :
    (∃ change, c.rewriting k v = some (canonical,change)) ↔
      c.StandsFor k (trimmed h v) canonical ∧ canonical ≠ compared h k (trimmed h v) := by
  cases k with
  | currency => exact c.currencyRewriting_iff v canonical
  | country => exact c.countryRewriting_iff v canonical
  | transactionType => exact c.aliasRewriting_iff _ .transactionType (fun _ => id) v canonical
  | channel => exact c.aliasRewriting_iff _ .channel (fun _ => id) v canonical
  | cardType => exact c.aliasRewriting_iff _ .cardType (fun _ => id) v canonical

theorem rewritten_cases (k : Categorical) {v : Value} (given : v ≠ .none) :
    (∃ t, c.StandsFor k (trimmed h v) t ∧ t ≠ compared h k (trimmed h v) ∧ rewritten (c.rewriting k) v = .str t) ∨
      (∀ t, c.StandsFor k (trimmed h v) t → t = compared h k (trimmed h v)) ∧ rewritten (c.rewriting k) v = v := by
  cases found : c.rewriting k v with
  | some written =>
    obtain ⟨stands,other⟩ := (c.rewriting_iff k v written.1).mp ⟨written.2,found⟩
    exact .inl ⟨written.1,stands,other,rewritten_some given found⟩
  | none =>
    refine .inr ⟨?_,rewritten_none found⟩
    intro t stands
    by_contra other
    obtain ⟨change,made⟩ := (c.rewriting_iff k v t).mpr ⟨stands,other⟩
    rw [found] at made
    cases made

theorem rewritten_written {k : Categorical} {v : Value} (given : v ≠ .none) (stands : c.StandsFor k (trimmed h v) t)
    (other : t ≠ compared h k (trimmed h v)) : rewritten (c.rewriting k) v = .str t := by
  obtain ⟨change,found⟩ := (c.rewriting_iff k v t).mpr ⟨stands,other⟩
  exact rewritten_some given found

-- A text stays where what it stands for, if anything, is itself or what it is compared with.
theorem rewritten_text (k : Categorical) (t : String) :
    rewritten (c.rewriting k) (.str t) = .str t ↔ ∀ u, c.StandsFor k (stripText t) u → u = t ∨ u = compared h k (stripText t) := by
  have cases_ := c.rewritten_cases k (v := .str t) Value.noConfusion
  rw [trimmed_text] at cases_
  rcases cases_ with ⟨u,stands,other,made⟩ | ⟨same,made⟩
  · rw [made]
    constructor
    · intro equal w also
      rw [c.standsFor_unique also stands]
      exact .inl (Value.str.inj equal)
    · intro all
      rcases all u stands with equal | equal
      · rw [equal]
      · exact absurd equal other
  · rw [made]
    exact ⟨fun _ u stands => .inr (same u stands),fun _ => rfl⟩

-- Two values are alike in a field that both lack, or where they differ in case and
-- surrounding blanks only.
def Alike (h : NormalizerHost) (v w : Value) : Prop := (v = .none ∧ w = .none) ∨ (v ≠ .none ∧ w ≠ .none ∧ folded h v = folded h w)

-- A value is the text itself, or not yet its trimmed form and listed or put in upper case as it.
def Spells (k : Categorical) (v : Value) (t : String) : Prop :=
  v = .str t ∨ (c.StandsFor k (trimmed h v) t ∧ t ≠ compared h k (trimmed h v))

def SameSpelling (k : Categorical) (v w : Value) : Prop := v = w ∨ ∃ t, c.Spells k v t ∧ c.Spells k w t

-- The canonical text itself is kept where another spelling is rewritten to it.
theorem spelling_kept {k : Categorical} {w : Value} (alike : folded h (.str t) = folded h w) (stands : c.StandsFor k (trimmed h w) t) :
    rewritten (c.rewriting k) (.str t) = .str t := by
  rw [folded,folded,trimmed_text] at alike
  rw [rewritten_text]
  intro u other
  left
  cases stands with
  | listed found =>
    rw [← alike] at found
    exact c.standsFor_unique other (.listed found)
  | upper absent code =>
    rw [← alike,upper_trimmed] at absent
    rw [upper_trimmed] at other
    cases other with
    | listed found => rw [absent] at found; cases found
    | upper _ _ => exact h.upperTwice _

-- Alike values become the same exactly when they are spelled the same.
theorem alike_rewritten (k : Categorical) {v w : Value} (given : v ≠ .none) (known : w ≠ .none) (alike : folded h v = folded h w) :
    rewritten (c.rewriting k) v = rewritten (c.rewriting k) w ↔ c.SameSpelling k v w := by
  constructor
  · intro same
    rcases c.rewritten_cases k given with ⟨t,stands,other,made⟩ | ⟨_,made⟩
    · rcases c.rewritten_cases k known with ⟨u,also,different,came⟩ | ⟨_,came⟩
      · rw [made,came] at same
        cases same
        exact .inr ⟨t,.inr ⟨stands,other⟩,.inr ⟨also,different⟩⟩
      · rw [made,came] at same
        exact .inr ⟨t,.inr ⟨stands,other⟩,.inl same.symm⟩
    · rcases c.rewritten_cases k known with ⟨u,also,different,came⟩ | ⟨_,came⟩
      · rw [made,came] at same
        exact .inr ⟨u,.inl same,.inr ⟨also,different⟩⟩
      · rw [made,came] at same
        exact .inl same
  · rintro (rfl | ⟨t,rfl | ⟨stands,other⟩,rfl | ⟨also,different⟩⟩)
    · rfl
    · rfl
    · rw [c.spelling_kept alike also,c.rewritten_written known also different]
    · rw [c.spelling_kept alike.symm stands,c.rewritten_written given stands other]
    · rw [c.rewritten_written given stands other,c.rewritten_written known also different]

-- No canonical value is an alias of another.
def Unaliased : Prop := ∀ (k : Categorical) (key canonical other : String), (c.table k).lookup key = some canonical →
  (c.table k).lookup (h.lower (stripText canonical)) = some other → other = canonical

-- What a value is rewritten to stays: a listed canonical value that is no alias of itself is
-- in upper case if it is a code, and the upper-case of a code is no alias of something else.
structure Settled (k : Categorical) (v : Value) : Prop where
  listed : ∀ canonical, (c.table k).lookup (folded h v) = some canonical → canonical ≠ compared h k (trimmed h v) →
    (c.table k).lookup (h.lower (stripText canonical)) = none → Code h k (stripText canonical) →
    h.upper (stripText canonical) = stripText canonical
  upper : (c.table k).lookup (folded h v) = none → Code h k (trimmed h v) →
    ∀ other, (c.table k).lookup (h.lower (h.upper (trimmed h v))) = some other → other = h.upper (trimmed h v)

theorem compared_code {k : Categorical} (code : Code h k text) : compared h k text = text := by
  cases k with
  | currency | country => rfl
  | transactionType | channel | cardType => exact absurd code id

theorem settled_listed (unaliased : c.Unaliased) {k : Categorical} {v : Value} (found : (c.table k).lookup (folded h v) = some canonical)
    (different : canonical ≠ compared h k (trimmed h v)) :
    rewritten (c.rewriting k) (.str canonical) = .str canonical ↔ c.Settled k v := by
  rw [rewritten_text]
  constructor
  · intro stays
    refine ⟨?_,fun absent => by rw [found] at absent; cases absent⟩
    intro known listed _ absent code
    cases Option.some.inj (found.symm.trans listed)
    rcases stays _ (.upper absent code) with same | same
    · calc h.upper (stripText canonical) = stripText (h.upper (stripText canonical)) := (h.upperTrimmed canonical).symm
        _ = stripText canonical := by rw [same]
    · rw [same,compared_code code]
  · intro settled u stands
    cases stands with
    | listed again => exact .inl (unaliased k _ _ _ found again)
    | upper absent code =>
      right
      rw [settled.listed canonical found different absent code,compared_code code]

theorem settled_upper {k : Categorical} {v : Value} (absent : (c.table k).lookup (folded h v) = none) (code : Code h k (trimmed h v)) :
    rewritten (c.rewriting k) (.str (h.upper (trimmed h v))) = .str (h.upper (trimmed h v)) ↔ c.Settled k v := by
  rw [rewritten_text,upper_trimmed]
  constructor
  · intro stays
    refine ⟨?_,?_⟩
    · intro canonical found
      rw [absent] at found
      cases found
    · intro _ _ other found
      rcases stays other (.listed found) with same | same
      · exact same
      · unfold compared at same
        cases k with
        | currency | country => exact same
        | transactionType | channel | cardType => exact absurd code id
  · intro settled u stands
    left
    cases stands with
    | listed found => exact settled.upper absent code u found
    | upper _ _ => exact h.upperTwice _

-- Normalising a field again changes nothing exactly when it is settled.
theorem rewritten_again (unaliased : c.Unaliased) (k : Categorical) {v : Value} (given : v ≠ .none) :
    rewritten (c.rewriting k) (rewritten (c.rewriting k) v) = rewritten (c.rewriting k) v ↔ c.Settled k v := by
  rcases c.rewritten_cases k given with ⟨t,stands,different,made⟩ | ⟨kept,made⟩
  · rw [made]
    cases stands with
    | listed found => exact c.settled_listed unaliased found different
    | upper absent code => exact c.settled_upper absent code
  · rw [made,made]
    refine ⟨fun _ => ⟨?_,?_⟩,fun _ => rfl⟩
    · intro canonical found different
      exact absurd (kept canonical (.listed found)) different
    · intro absent code other found
      rw [kept _ (.upper absent code),compared_code code] at found
      rw [folded,found] at absent
      cases absent

-- What has a method upper.
def Uppercases (v : Value) : Prop := (∃ text, v = .str text) ∨ ∃ content, v = .bytes content

-- The amount is no number too large for a float; where it is a number, the currency is a
-- text or is rewritten to one; and a merchant code of digits is read or listed.
structure Readable (record : Record) : Prop where
  amount : record.value "transaction_amount" ≠ .none → h.float (record.value "transaction_amount") ≠ .error .overflow
  currency : record.value "transaction_amount" ≠ .none → (∃ x, h.float (record.value "transaction_amount") = .ok x) →
    ∀ v, record.getD "transaction_currency" (.str "USD") = v →
      Uppercases v ∨ (v ≠ .none ∧ ∃ t, c.StandsFor .currency (trimmed h v) t ∧ t ≠ trimmed h v)
  merchant : record.value "merchant_category_code" ≠ .none → c.category (trimmed h (record.value "merchant_category_code")) = none →
    h.isdigit (trimmed h (record.value "merchant_category_code")) = true →
    ∃ n, h.int (trimmed h (record.value "merchant_category_code")) = some n

theorem upperCurrency_ok (h : NormalizerHost) (v : Value) : (∃ key, upperCurrency h v = .ok key) ↔ Uppercases v := by
  cases v with
  | str text => exact ⟨fun _ => .inl ⟨text,rfl⟩,fun _ => ⟨_,rfl⟩⟩
  | bytes content => exact ⟨fun _ => .inr ⟨content,rfl⟩,fun _ => ⟨_,rfl⟩⟩
  | _ =>
    constructor
    · rintro ⟨_,came⟩
      cases came
    · rintro (⟨_,same⟩ | ⟨_,same⟩) <;> cases same

theorem convertToUsd_ok (record : Record) :
    (∃ usd, c.convertToUsd record = .ok usd) ↔
      (record.value "transaction_amount" ≠ .none → h.float (record.value "transaction_amount") ≠ .error .overflow) ∧
        (record.value "transaction_amount" ≠ .none → (∃ x, h.float (record.value "transaction_amount") = .ok x) →
          Uppercases (record.getD "transaction_currency" (.str "USD"))) := by
  unfold convertToUsd
  simp only
  by_cases absent : record.value "transaction_amount" = .none
  · rw [if_pos absent]
    exact ⟨fun _ => ⟨absurd absent,absurd absent⟩,fun _ => ⟨none,rfl⟩⟩
  · rw [if_neg absent]
    cases read : h.float (record.value "transaction_amount") with
    | error failed =>
      cases failed with
      | refused =>
        refine iff_of_true ⟨none,rfl⟩ ⟨fun _ => by simp,fun _ number => ?_⟩
        obtain ⟨x,read⟩ := number
        cases read
      | overflow =>
        refine iff_of_false ?_ fun condition => absurd rfl (condition.1 absent)
        rintro ⟨usd,came⟩
        cases came
    | ok x =>
      by_cases base : record.getD "transaction_currency" (.str "USD") = .str c.baseCurrency
      · rw [base]
        exact ⟨fun _ => ⟨fun _ => by simp,fun _ _ => .inl ⟨_,rfl⟩⟩,fun _ => ⟨_,if_pos rfl⟩⟩
      · simp only [if_neg base]
        rw [← upperCurrency_ok h]
        constructor
        · rintro ⟨usd,came⟩
          obtain ⟨key,found,_⟩ := Fallible.bind_ok.mp came
          exact ⟨fun _ => by simp,fun _ _ => ⟨key,found⟩⟩
        · rintro ⟨_,named⟩
          obtain ⟨key,found⟩ := named absent ⟨x,rfl⟩
          rw [found]
          cases listed : key.bind c.exchangeRates.get? with
          | none => exact ⟨none,by simp only [bind,Except.bind,listed]; rfl⟩
          | some rate => exact ⟨some (h.round (h.times x rate) 4),by simp only [bind,Except.bind,listed]; rfl⟩

theorem mapMcc_ok (record : Record) :
    (∃ name, c.mapMcc record = .ok name) ↔
      (record.value "merchant_category_code" ≠ .none → c.category (trimmed h (record.value "merchant_category_code")) = none →
        h.isdigit (trimmed h (record.value "merchant_category_code")) = true →
        ∃ n, h.int (trimmed h (record.value "merchant_category_code")) = some n) := by
  unfold mapMcc trimmed
  split
  · next absent => exact ⟨fun _ given => absurd absent given,fun _ => ⟨none,rfl⟩⟩
  · next given =>
    simp only
    cases listed : c.category (stripText (h.str (record.value "merchant_category_code"))) with
    | some name => exact ⟨fun _ _ none => (nomatch none),fun _ => ⟨_,rfl⟩⟩
    | none =>
      by_cases digits : h.isdigit (stripText (h.str (record.value "merchant_category_code"))) = true
      · rw [if_pos digits]
        cases read : h.int (stripText (h.str (record.value "merchant_category_code"))) with
        | none =>
          constructor
          · rintro ⟨_,came⟩
            cases came
          · intro reads
            obtain ⟨_,never⟩ := reads given rfl digits
            cases never
        | some n => exact ⟨fun _ _ _ _ => ⟨n,rfl⟩,fun _ => ⟨_,rfl⟩⟩
      · rw [if_neg digits]
        exact ⟨fun _ _ _ yes => absurd yes digits,fun _ => ⟨_,rfl⟩⟩

theorem getD_given {record : Record} {field : String} (fallback : Value) (given : record.value field ≠ .none) :
    record.getD field fallback = record.value field := by
  unfold Record.value OrderedDict.getD at given ⊢
  cases found : record.get? field with
  | none => rw [found] at given; exact absurd rfl given
  | some v => rfl

theorem getD_missing {record : Record} {field : String} (fallback : Value) (missing : record.value field = .none) :
    record.getD field fallback = fallback ∨ record.getD field fallback = .none := by
  unfold Record.value OrderedDict.getD at missing
  rw [OrderedDict.getD]
  cases found : record.get? field with
  | none => exact .inl rfl
  | some v =>
    rw [found] at missing
    exact .inr missing

-- The currency that is converted has an upper-case where it had one before or is rewritten.
theorem coded_uppercases (record : Record) :
    Uppercases ((c.normalizeCurrencyCode record).1.getD "transaction_currency" (.str "USD")) ↔
      ∀ v, record.getD "transaction_currency" (.str "USD") = v →
        Uppercases v ∨ (v ≠ .none ∧ ∃ t, c.StandsFor .currency (trimmed h v) t ∧ t ≠ trimmed h v) := by
  rw [normalizeCurrencyCode,rewriteField_getD]
  simp only [forall_eq']
  by_cases missing : record.value "transaction_currency" = .none
  · rw [if_pos missing]
    constructor
    · exact .inl
    · rintro (cased | ⟨given,_⟩)
      · exact cased
      · rcases getD_missing (.str "USD") missing with same | none
        · exact .inl ⟨_,same⟩
        · exact absurd none given
  · rw [if_neg missing,getD_given _ missing]
    rcases c.rewritten_cases .currency missing with ⟨t,stands,different,made⟩ | ⟨kept,made⟩
    · change rewritten c.currencyRewriting _ = _ at made
      rw [made]
      exact ⟨fun _ => .inr ⟨missing,t,stands,different⟩,fun _ => .inl ⟨t,rfl⟩⟩
    · change rewritten c.currencyRewriting _ = _ at made
      rw [made]
      constructor
      · exact .inl
      · rintro (cased | ⟨_,t,stands,different⟩)
        · exact cased
        · exact absurd (kept t stands) different

theorem coded_amount (record : Record) :
    Record.value (c.normalizeCurrencyCode record).1 "transaction_amount" = record.value "transaction_amount" := by
  rw [normalizeCurrencyCode,rewriteField_value,if_neg (by decide)]

-- Normalisation returns on the readable records.
theorem normalize_readable (record : Record) : (∃ result, c.normalize record = .ok result) ↔ c.Readable record := by
  rw [normalize_returns,convertToUsd_ok,mapMcc_ok,coded_amount,coded_uppercases]
  constructor
  · rintro ⟨⟨amount,currency⟩,merchant⟩
    exact ⟨amount,currency,merchant⟩
  · rintro ⟨amount,currency,merchant⟩
    exact ⟨⟨amount,currency⟩,merchant⟩

-- The later steps leave the currency as the first has made it.
theorem normalize_currency {record : Record} (ran : c.normalize record = .ok result) (fallback : Value) :
    result.record.getD "transaction_currency" fallback = (c.normalizeCurrencyCode record).1.getD "transaction_currency" fallback := by
  obtain ⟨usd,_,later⟩ := Fallible.bind_ok.mp ran
  obtain ⟨name,_,last⟩ := Fallible.bind_ok.mp later
  cases last
  have kept : OrderedDict.get? (c.typed name (c.located usd record)).1 "transaction_currency" =
      (c.normalizeCurrencyCode record).1.get? "transaction_currency" := by
    simp only [typed,located,converted,normalizeCountry,normalizeTransactionType,normalizeChannel,normalizeCardType]
    rw [rewriteField_other _ _ _ (by decide),rewriteField_other _ _ _ (by decide),rewriteField_other _ _ _ (by decide),
      setSome_other _ _ _ (by decide),rewriteField_other _ _ _ (by decide),setSome_other _ _ _ (by decide)]
  change OrderedDict.getD (c.typed name (c.located usd record)).1 _ _ = _
  rw [OrderedDict.getD,OrderedDict.getD,kept]

-- A normalised record is readable again.
theorem readable_again {record : Record} (readable : c.Readable record) (ran : c.normalize record = .ok result) :
    c.Readable result.record := by
  obtain ⟨_,amount,merchant⟩ := c.normalize_value ran
  refine ⟨?_,?_,?_⟩
  · rw [amount]
    exact readable.amount
  · intro given number v held
    rw [amount] at given number
    rw [c.normalize_currency ran] at held
    left
    rw [← held]
    exact (c.coded_uppercases record).mpr (readable.currency given number)
  · rw [merchant]
    exact readable.merchant

-- What is asked of a record and of another that is to be compared with it.
structure Canonically (record other : Record) : Prop where
  returns : ∃ result, c.normalize record = .ok result
  alike : ∀ result twin, c.normalize record = .ok result → c.normalize other = .ok twin →
    ∀ k : Categorical, Alike h (record.value k.field) (other.value k.field) → result.record.value k.field = twin.record.value k.field
  again : ∀ result, c.normalize record = .ok result →
    ∃ twice, c.normalize result.record = .ok twice ∧ ∀ k : Categorical, twice.record.value k.field = result.record.value k.field

-- Normalisation is canonical exactly on the readable records whose alike fields are spelled
-- the same and whose rewritten fields are settled.
theorem canonical_fields (unaliased : c.Unaliased) (record other : Record) :
    c.Canonically record other ↔
      c.Readable record ∧
      (c.Readable other → ∀ k : Categorical, Alike h (record.value k.field) (other.value k.field) →
        c.SameSpelling k (record.value k.field) (other.value k.field)) ∧
      ∀ k : Categorical, record.value k.field ≠ .none → c.Settled k (record.value k.field) := by
  constructor
  · intro canonical
    obtain ⟨result,ran⟩ := canonical.returns
    refine ⟨(c.normalize_readable record).mp ⟨result,ran⟩,?_,?_⟩
    · intro readable k alike
      obtain ⟨twin,came⟩ := (c.normalize_readable other).mpr readable
      have same := canonical.alike result twin ran came k alike
      rcases alike with ⟨one,two⟩ | ⟨given,known,folds⟩
      · exact .inl (one.trans two.symm)
      · rw [(c.normalize_value ran).1 k,(c.normalize_value came).1 k] at same
        exact (c.alike_rewritten k given known folds).mp same
    · intro k given
      obtain ⟨twice,again,same⟩ := canonical.again result ran
      have equal := same k
      rw [(c.normalize_value again).1 k,(c.normalize_value ran).1 k] at equal
      exact (c.rewritten_again unaliased k given).mp equal
  · rintro ⟨readable,spelled,settled⟩
    refine ⟨(c.normalize_readable record).mpr readable,?_,?_⟩
    · intro result twin ran came k alike
      rw [(c.normalize_value ran).1 k,(c.normalize_value came).1 k]
      have same := spelled ((c.normalize_readable other).mp ⟨twin,came⟩) k alike
      rcases alike with ⟨one,two⟩ | ⟨given,known,folds⟩
      · rw [one,two]
      · exact (c.alike_rewritten k given known folds).mpr same
    · intro result ran
      obtain ⟨twice,again⟩ := (c.normalize_readable result.record).mpr (c.readable_again readable ran)
      refine ⟨twice,again,?_⟩
      intro k
      rw [(c.normalize_value again).1 k,(c.normalize_value ran).1 k]
      by_cases given : record.value k.field = .none
      · rw [given]
        rfl
      · exact (c.rewritten_again unaliased k given).mpr (settled k given)

-- Python on texts of ASCII letters and on numbers it holds exactly.
def asciiHost : NormalizerHost where
  str
    | .str text => text
    | _ => ""
  lower text := String.ofList (text.toList.map Char.toLower)
  upper text := String.ofList (text.toList.map Char.toUpper)
  isalpha text := text.toList.all Char.isAlpha && decide (text ≠ "")
  isdigit text := text.toList.all Char.isDigit && decide (text ≠ "")
  int text := text.toInt?
  float v := match v.number with
    | some x => .ok x
    | none => .error .refused
  times := PyFloat.product
  round x _ := x
  strText _ := rfl
  loweredTwice text := by
    rw [← String.toList_inj]
    simp only [stripText,String.toList_ofList]
    have lowered : ∀ c ∈ Text.strip Text.isSpace (text.toList.map Char.toLower), c.toLower = c := by
      intro c member
      obtain ⟨d,_,rfl⟩ := List.mem_map.mp ((Text.strip_sublist _ _).subset member)
      exact Text.toLower_twice d
    exact (List.map_congr_left lowered).trans (List.map_id' _)
  upperTwice text := by
    rw [← String.toList_inj]
    simp only [String.toList_ofList,List.map_map]
    exact List.map_congr_left fun c _ => Text.toUpper_twice c
  upperTrimmed text := by
    rw [← String.toList_inj]
    simp only [stripText,String.toList_ofList]
    rw [Text.strip_map _ _ Text.isSpace_toUpper,Text.strip_twice]
  uncased text same := by
    rw [← String.toList_inj] at same ⊢
    simp only [String.toList_ofList,List.map_map] at same ⊢
    exact List.map_congr_left fun c member => Text.toUpper_uncased c (List.map_inj_left.mp same c member)

def noAliases : AliasTable asciiHost := .load asciiHost []

-- Purchases, with two spellings.
def purchases : AliasTable asciiHost := .load asciiHost [("Buy","purchase"),("purchase","purchase")]

def plainNormalizer : DataNormalizer asciiHost where
  exchangeRates := .empty
  baseCurrency := "USD"
  countryCodes := noAliases
  mccCategories := .empty
  transactionTypeAliases := purchases
  channelAliases := noAliases
  cardTypeAliases := noAliases
  currencyAliases := noAliases

theorem purchases_lookup (found : purchases.lookup key = some canonical) : canonical = "purchase" := by
  obtain ⟨held,_⟩ := Option.filter_eq_some_iff.mp found
  rw [← OrderedDict.get?_entry] at held
  have entries : purchases.aliases.entries = [("buy","purchase"),("purchase","purchase")] := by decide +kernel
  rw [entries,List.mem_cons,List.mem_singleton] at held
  rcases held with same | same <;> exact (Prod.mk.inj same).2

theorem plainNormalizer_unaliased : plainNormalizer.Unaliased := by
  intro k key canonical other found again
  cases k with
  | transactionType => rw [purchases_lookup found,purchases_lookup again]
  | currency | country | channel | cardType => cases found

def typedAs (text : String) : Record := .ofList [("transaction_type",.str text)]

theorem canonical_fields_bought :
    plainNormalizer.Canonically (typedAs " BUY") (typedAs "buy") ↔
      plainNormalizer.Readable (typedAs " BUY") ∧
      (plainNormalizer.Readable (typedAs "buy") → ∀ k : Categorical,
        Alike asciiHost ((typedAs " BUY").value k.field) ((typedAs "buy").value k.field) →
        plainNormalizer.SameSpelling k ((typedAs " BUY").value k.field) ((typedAs "buy").value k.field)) ∧
      ∀ k : Categorical, (typedAs " BUY").value k.field ≠ .none → plainNormalizer.Settled k ((typedAs " BUY").value k.field) :=
  canonical_fields plainNormalizer plainNormalizer_unaliased (typedAs " BUY") (typedAs "buy")

-- What a normalisation makes of the type.
def typeOf (record : Record) : Option Value :=
  (plainNormalizer.normalize record).toOption.map fun result => Record.value result.record "transaction_type"

theorem typeOf_made (typed : typeOf record = some v) :
    ∃ result, plainNormalizer.normalize record = .ok result ∧ Record.value result.record "transaction_type" = v := by
  obtain ⟨result,made,held⟩ := Option.map_eq_some_iff.mp typed
  cases ran : plainNormalizer.normalize record with
  | error e => rw [ran] at made; cases made
  | ok other =>
    rw [ran] at made
    cases made
    exact ⟨result,rfl,held⟩

-- A purchase with capitals and blanks stays so, and a currency of None makes the conversion raise.
theorem padded_purchase_and_missing_currency :
    typeOf (typedAs " Purchase ") = some (.str " Purchase ") ∧ typeOf (typedAs "purchase") = some (.str "purchase") ∧
      ¬plainNormalizer.Canonically (typedAs " Purchase ") (typedAs "purchase") ∧
      (∀ result, plainNormalizer.normalize (.ofList [("transaction_amount",.int 10),("transaction_currency",.none)]) ≠ .ok result) := by
  have padded : typeOf (typedAs " Purchase ") = some (.str " Purchase ") := by decide +kernel
  have plain : typeOf (typedAs "purchase") = some (.str "purchase") := by decide +kernel
  refine ⟨padded,plain,?_,?_⟩
  · intro canonical
    obtain ⟨result,ran,one⟩ := typeOf_made padded
    obtain ⟨twin,came,other⟩ := typeOf_made plain
    have alike : Alike asciiHost ((typedAs " Purchase ").value "transaction_type") ((typedAs "purchase").value "transaction_type") :=
      .inr ⟨by decide,by decide,by decide +kernel⟩
    have same := canonical.alike result twin ran came .transactionType alike
    rw [Categorical.field,one,other] at same
    revert same
    decide
  · intro result ran
    have readable := (plainNormalizer.normalize_readable _).mp ⟨result,ran⟩
    rcases readable.currency (by decide) ⟨.finite 10,rfl⟩ .none rfl with (⟨_,same⟩ | ⟨_,same⟩) | ⟨given,_⟩
    · cases same
    · cases same
    · exact given rfl

end DataNormalizer
end RiskPulse
