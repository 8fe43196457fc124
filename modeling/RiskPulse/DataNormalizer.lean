import RiskPulse.FraudRules
import RiskPulse.Library.Fallible
import RiskPulse.Library.Text
import RiskPulse.SchemaValidator

namespace RiskPulse

-- str.strip()
def stripText (text : String) : String := String.ofList (Text.strip Text.isSpace text.toList)

-- What the normaliser takes of Python: str(), the cases and classes of text, int() of a text
-- where it does not raise, float(), the product of floats and its rounding. A text whose
-- upper-case is lower-case has no case at all, and upper-casing makes no blanks.
structure NormalizerHost where
  str : Value → String
  lower : String → String
  upper : String → String
  isalpha : String → Bool
  isdigit : String → Bool
  int : String → Option Int
  float : Value → Except FloatError PyFloat
  times : PyFloat → PyFloat → PyFloat
  round : PyFloat → Nat → PyFloat
  strText : ∀ text, str (.str text) = text
  loweredTwice : ∀ text, lower (stripText (lower text)) = stripText (lower text)
  upperTwice : ∀ text, upper (upper text) = upper text
  upperTrimmed : ∀ text, stripText (upper (stripText text)) = upper (stripText text)
  uncased : ∀ text, lower (upper text) = upper text → lower text = upper text

-- A dictionary from spellings, in lower case, to canonical values.
structure AliasTable (h : NormalizerHost) where
  aliases : OrderedDict String String
  folded : ∀ key ∈ aliases.keys, h.lower key = key

namespace AliasTable

-- {str(k).lower().strip(): v for k, v in raw.items()}
def load (h : NormalizerHost) (raw : List (String × String)) : AliasTable h where
  aliases := .ofList (raw.map fun item => (stripText (h.lower item.1),item.2))
  folded := by
    intro key listed
    rw [OrderedDict.mem_keys_ofList,List.map_map] at listed
    obtain ⟨item,_,rfl⟩ := List.mem_map.mp listed
    exact h.loweredTwice item.1

-- An empty text in the table counts as no entry.
def lookup (table : AliasTable h) (key : String) : Option String := (table.aliases.get? key).filter fun canonical => decide (canonical ≠ "")

theorem lookup_folded (table : AliasTable h) {key : String} (found : table.lookup key = some canonical) : h.lower key = key := by
  obtain ⟨held,_⟩ := Option.filter_eq_some_iff.mp found
  exact table.folded key ((table.aliases.mem_keys key).mpr ⟨canonical,held⟩)

end AliasTable

structure DataNormalizer (h : NormalizerHost) where
  exchangeRates : OrderedDict String PyFloat
  baseCurrency : String
  countryCodes : AliasTable h
  mccCategories : OrderedDict String String
  transactionTypeAliases : AliasTable h
  channelAliases : AliasTable h
  cardTypeAliases : AliasTable h
  currencyAliases : AliasTable h

namespace DataNormalizer
variable {h : NormalizerHost} (c : DataNormalizer h)

structure NormalizationResult extends RiskPulse.NormalizationResult where
  changes : List String
  amountUsd : Option PyFloat
  originalCurrency : Value
  mccCategory : Option String

-- What is written for a value, and the change it is reported as.
abbrev Rewriting := Value → Option (String × String)

-- A field that is absent or None is left alone.
def rewriteField (field : String) (rewriting : Rewriting) (record : Record) : Record × List String :=
  match record.value field with
  | .none => (record,[])
  | raw =>
    match rewriting raw with
    | some (canonical,change) => (record.set field (.str canonical),[change])
    | none => (record,[])

def currencyRewriting : Rewriting := fun raw =>
  let rawStr := stripText (h.str raw)
  match c.currencyAliases.lookup (h.lower rawStr) with
  | some known => if known ≠ rawStr then some (known,s!"currency_alias:{rawStr}->{known}") else none
  | none =>
    let upper := h.upper rawStr
    if upper ≠ rawStr then some (upper,s!"currency_uppercased:{rawStr}->{upper}") else none

def normalizeCurrencyCode : Record → Record × List String := rewriteField "transaction_currency" c.currencyRewriting

-- A valid two-letter code, as far as that is looked at.
def twoLetters (h : NormalizerHost) (rawStr : String) : Bool := decide (rawStr.length = 2) && h.isalpha rawStr

def countryRewriting : Rewriting := fun raw =>
  let rawStr := stripText (h.str raw)
  match c.countryCodes.lookup (h.lower rawStr) with
  | some known => if known ≠ rawStr then some (known,s!"country_normalized:{rawStr}->{known}") else none
  | none =>
    if twoLetters h rawStr then
      let upper := h.upper rawStr
      if upper ≠ rawStr then some (upper,s!"country_uppercased:{rawStr}->{upper}") else none
    else
      match c.countryCodes.lookup (h.lower rawStr) with
      | some mapped => some (mapped,s!"country_normalized:{rawStr}->{mapped}")
      | none => (c.countryCodes.lookup (h.upper rawStr)).map fun mapped => (mapped,s!"country_alpha3_to_alpha2:{rawStr}->{mapped}")

def normalizeCountry : Record → Record × List String := rewriteField "geo_country" c.countryRewriting

-- The three fields that are mapped to canonical values only.
def aliasRewriting (change : String) (table : AliasTable h) : Rewriting := fun raw =>
  let rawStr := h.lower (stripText (h.str raw))
  match table.lookup rawStr with
  | some canonical => if canonical ≠ rawStr then some (canonical,s!"{change}:{h.str raw}->{canonical}") else none
  | none => none

def normalizeTransactionType : Record → Record × List String :=
  rewriteField "transaction_type" (aliasRewriting "txn_type_normalized" c.transactionTypeAliases)

def normalizeChannel : Record → Record × List String := rewriteField "channel" (aliasRewriting "channel_normalized" c.channelAliases)

def normalizeCardType : Record → Record × List String := rewriteField "card_type" (aliasRewriting "card_type_normalized" c.cardTypeAliases)

-- currency.upper() as a key of the rates; the upper-case of bytes is none of them.
def upperCurrency (h : NormalizerHost) : Value → Except String (Option String)
  | .str text => .ok (some (h.upper text))
  | .bytes _ => .ok none
  | v => .error s!"AttributeError: '{v.typeName}' object has no attribute 'upper'"

def convertToUsd (record : Record) : Except String (Option PyFloat) :=
  let amount := record.value "transaction_amount"
  let currency := record.getD "transaction_currency" (.str "USD")
  if amount = .none then .ok none
  else
    match h.float amount with
    | .error .refused => .ok none
    | .error .overflow => .error "OverflowError: int too large to convert to float"
    | .ok amountF =>
      if currency = .str c.baseCurrency then .ok (some (h.round amountF 4))
      else do
        let key ← upperCurrency h currency
        match key.bind c.exchangeRates.get? with
        | none => return none
        | some rate => return some (h.round (h.times amountF rate) 4)

def category (code : String) : Option String := (c.mccCategories.get? code).filter fun name => decide (name ≠ "")

def mapMcc (record : Record) : Except String (Option String) :=
  match record.value "merchant_category_code" with
  | .none => .ok none
  | mcc =>
    let mccStr := stripText (h.str mcc)
    match c.category mccStr with
    | some name => .ok (some name)
    | none =>
      if h.isdigit mccStr then
        match h.int mccStr with
        | none => .error s!"ValueError: invalid literal for int() with base 10: '{mccStr}'"
        | some code =>
          -- Airlines, then car rental.
          let airline := if 3000 ≤ code ∧ code ≤ 3999 then c.category "3000" else none
          let rental := if 3500 ≤ code ∧ code ≤ 3999 then c.category "3500" else none
          .ok (airline <|> rental)
      else .ok none

def setSome (key : String) (record : Record) : Option Value → Record
  | some v => record.set key v
  | none => record

-- The record after the currency and the amount, and after the country.
def converted (amountUsd : Option PyFloat) (record : Record) : Record :=
  setSome "transaction_amount_usd" (c.normalizeCurrencyCode record).1 (amountUsd.map .float)

def located (amountUsd : Option PyFloat) (record : Record) : Record := (c.normalizeCountry (c.converted amountUsd record)).1

-- The record after the type, the channel and the card type.
def typed (mccCategory : Option String) (located : Record) : Record × List String :=
  let categorised := setSome "mcc_category" located (mccCategory.map .str)
  let (typed,typeChanges) := c.normalizeTransactionType categorised
  let (channelled,channelChanges) := c.normalizeChannel typed
  let (normalized,cardChanges) := c.normalizeCardType channelled
  (normalized,typeChanges ++ channelChanges ++ cardChanges)

def normalize (record : Record) : Except String NormalizationResult := do
  let (coded,currencyChanges) := c.normalizeCurrencyCode record
  let originalCurrency := coded.getD "transaction_currency" (.str "USD")
  let amountUsd ← c.convertToUsd coded
  let conversion :=
    if amountUsd.isSome ∧ originalCurrency ≠ .str c.baseCurrency then [s!"amount_converted:{h.str originalCurrency}->USD"] else []
  let mccCategory ← c.mapMcc (c.located amountUsd record)
  let (normalized,changes) := c.typed mccCategory (c.located amountUsd record)
  return {
    record := normalized
    changes := currencyChanges ++ conversion ++ (c.normalizeCountry (c.converted amountUsd record)).2 ++ changes
    amountUsd := amountUsd
    originalCurrency := originalCurrency
    mccCategory := mccCategory }

-- What a field holds after it was rewritten.
def rewritten (rewriting : Rewriting) : Value → Value
  | .none => .none
  | raw => match rewriting raw with
    | some (canonical,_) => .str canonical
    | none => raw

theorem rewritten_some {rewriting : Rewriting} {raw : Value} (given : raw ≠ .none) (found : rewriting raw = some (canonical,change)) :
    rewritten rewriting raw = .str canonical := by
  cases raw with
  | none => exact absurd rfl given
  | _ => simp only [rewritten,found]

theorem rewritten_none {rewriting : Rewriting} {raw : Value} (kept : rewriting raw = none) : rewritten rewriting raw = raw := by
  cases raw with
  | none => rfl
  | _ => simp only [rewritten,kept]

-- Rewriting a field leaves the others alone.
theorem rewriteField_value (field : String) (rewriting : Rewriting) (record : Record) (key : String) :
    Record.value (rewriteField field rewriting record).1 key =
      if key = field then rewritten rewriting (record.value field) else record.value key := by
  unfold rewriteField
  split
  · next absent =>
    rw [absent]
    split
    · next same => rw [same,absent]; rfl
    · rfl
  · next raw given =>
    cases found : rewriting (record.value field) with
    | none =>
      rw [rewritten_none found]
      change Record.value record key = _
      split
      · next same => rw [same]
      · rfl
    | some written =>
      rw [rewritten_some given found]
      exact Record.value_set record field (.str written.1) key

theorem setSome_value (field : String) (record : Record) (found : Option Value) (other : key ≠ field) :
    Record.value (setSome field record found) key = record.value key := by
  cases found with
  | none => rfl
  | some v => rw [setSome,Record.value_set,if_neg other]

theorem rewriteField_other (field : String) (rewriting : Rewriting) (record : Record) (other : key ≠ field) :
    (rewriteField field rewriting record).1.get? key = record.get? key := by
  unfold rewriteField
  split
  · rfl
  · split
    · exact (OrderedDict.get?_set _ _ _ _).trans (if_neg other)
    · rfl

theorem setSome_other (field : String) (record : Record) (found : Option Value) (other : key ≠ field) :
    (setSome field record found).get? key = record.get? key := by
  cases found with
  | none => rfl
  | some v => exact (OrderedDict.get?_set _ _ _ _).trans (if_neg other)

-- record.get(key, default) sees the rewriting as well.
theorem rewriteField_getD (field : String) (rewriting : Rewriting) (record : Record) (text : String) :
    (rewriteField field rewriting record).1.getD field (.str text) =
      if record.value field = .none then record.getD field (.str text) else rewritten rewriting (record.value field) := by
  unfold rewriteField
  split
  · next absent => rw [if_pos absent]
  · next raw given =>
    rw [if_neg given]
    cases found : rewriting (record.value field) with
    | none =>
      rw [rewritten_none found]
      have held : ∃ v, record.get? field = some v := by
        cases got : record.get? field with
        | none => exact absurd (by rw [Record.value,OrderedDict.getD,got]; rfl) given
        | some v => exact ⟨v,rfl⟩
      obtain ⟨v,got⟩ := held
      rw [Record.value,OrderedDict.getD,OrderedDict.getD,got]
      rfl
    | some written =>
      rw [rewritten_some given found]
      exact (OrderedDict.getD_set record field _ field _).trans (if_pos rfl)

end DataNormalizer
end RiskPulse
