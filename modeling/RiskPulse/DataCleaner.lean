import RiskPulse.Library.Text
import RiskPulse.PipelineOrchestrator

namespace RiskPulse

-- Bounded LRU cache of the idempotency keys seen; the stored time is never read.
structure LRUDedup where
  maxSize : Int
  cache : OrderedDict String Rat

namespace LRUDedup

def fresh (maxSize : Int) : LRUDedup := ⟨maxSize,.empty⟩

-- True if the key is a duplicate. A new key is added, and the key that was
-- used least recently goes when the cache is over its size.
def checkAndAdd (dedup : LRUDedup) (key : String) (now : Rat) : Bool × LRUDedup :=
  if key ∈ dedup.cache.keys then (true,{dedup with cache := dedup.cache.moveToEnd key})
  else
    let added := dedup.cache.set key now
    (false,{dedup with cache := if added.entries.length > dedup.maxSize then added.popFirst else added})

theorem checkAndAdd_duplicate (dedup : LRUDedup) (key : String) (now : Rat) :
    (dedup.checkAndAdd key now).1 = true ↔ key ∈ dedup.cache.keys := by
  unfold checkAndAdd
  split <;> simp_all

theorem checkAndAdd_keys (dedup : LRUDedup) (key : String) (now : Rat) (k : String)
    (held : k ∈ (dedup.checkAndAdd key now).2.cache.keys) : k = key ∨ k ∈ dedup.cache.keys := by
  unfold checkAndAdd at held
  split at held
  · exact .inr ((OrderedDict.mem_keys_moveToEnd _ _ _).mp held)
  · simp only at held
    split at held
    · exact (OrderedDict.mem_keys_set _ _ _ _).mp (OrderedDict.popFirst_keys _ _ held)
    · exact (OrderedDict.mem_keys_set _ _ _ _).mp held

end LRUDedup

-- The text functions of the language that the key is made with. Nothing proved
-- here depends on which ones they are.
structure KeyText where
  str : Value → String
  strip : String → String
  lower : String → String
  sha256 : String → String

-- A cleaning step returns the changed record and the changes it made, or raises.
abbrev CleaningStep := Record → Except String (Record × List String)

structure DataCleaner where
  text : KeyText
  idempotencyFields : List String
  fixEncoding : CleaningStep
  trimWhitespace : CleaningStep
  standardizeStrings : CleaningStep
  parseDates : CleaningStep
  imputeMissing : CleaningStep
  cleanNumerics : CleaningStep
  sanitizeStrings : CleaningStep

namespace DataCleaner

def defaultIdempotencyFields : List String :=
  ["external_transaction_id","account_id","transaction_amount","transaction_timestamp"]

-- An absent field counts as empty text, and so does one that is None.
def keyPart (text : KeyText) (record : Record) (field : String) : String :=
  let val := record.getD field (.str "")
  if val = .none then "" else text.lower (text.strip (text.str val))

def computeDedupKey (cleaner : DataCleaner) (record : Record) : String :=
  cleaner.text.sha256 ("|".intercalate (cleaner.idempotencyFields.map (keyPart cleaner.text record)))

def steps (cleaner : DataCleaner) : List CleaningStep :=
  [cleaner.fixEncoding,cleaner.trimWhitespace,cleaner.standardizeStrings,cleaner.parseDates,cleaner.imputeMissing,
    cleaner.cleanNumerics,cleaner.sanitizeStrings]

def applySteps : List CleaningStep → Record → List String → Except String CleaningResult
  | [],cleaned,changes => .ok ⟨cleaned,false,changes⟩
  | step :: rest,cleaned,changes =>
    match step cleaned with
    | .error e => .error e
    | .ok (next,fixes) => applySteps rest next (changes ++ fixes)

-- The key is looked up and stored before any other step; a step that raises
-- leaves it stored.
def clean (cleaner : DataCleaner) (now : Rat) (record : Record) (dedup : LRUDedup) :
    Except String CleaningResult × LRUDedup :=
  match dedup.checkAndAdd (computeDedupKey cleaner record) now with
  | (true,dedup) => (.ok ⟨record,true,["duplicate_detected"]⟩,dedup)
  | (false,dedup) => (applySteps cleaner.steps record [],dedup)

theorem applySteps_fresh (steps : List CleaningStep) (record : Record) (changes : List String)
    (ran : applySteps steps record changes = .ok result) : result.isDuplicate = false := by
  induction steps generalizing record changes with
  | nil => cases ran; rfl
  | cons step rest ih =>
    unfold applySteps at ran
    cases stepped : step record with
    | error e => rw [stepped] at ran; cases ran
    | ok out =>
      obtain ⟨next,fixes⟩ := out
      rw [stepped] at ran
      exact ih next _ ran

-- A result says duplicate exactly when the key was in the cache; otherwise the
-- keys held afterwards are old ones or this one.
theorem clean_parts (cleaner : DataCleaner) (now : Rat) (record : Record) (dedup : LRUDedup) :
    (∀ k ∈ (clean cleaner now record dedup).2.cache.keys,
        k = computeDedupKey cleaner record ∨ k ∈ dedup.cache.keys) ∧
      (computeDedupKey cleaner record ∉ dedup.cache.keys → ∀ result,
        (clean cleaner now record dedup).1 = .ok result → result.isDuplicate = false) := by
  have keys := dedup.checkAndAdd_keys (computeDedupKey cleaner record) now
  have duplicate := dedup.checkAndAdd_duplicate (computeDedupKey cleaner record) now
  unfold clean
  rcases checked : dedup.checkAndAdd (computeDedupKey cleaner record) now with ⟨found,after⟩
  rw [checked] at keys duplicate
  cases found with
  | true =>
    refine ⟨keys,fun absent => absurd (duplicate.mp rfl) absent⟩
  | false => exact ⟨keys,fun _ result ran => applySteps_fresh _ _ _ ran⟩

-- Texts of ASCII letters, with a digest that keeps the text.
def plainText : KeyText where
  str
    | .str text => text
    | _ => ""
  strip text := String.ofList (Text.strip Text.isSpace text.toList)
  lower text := String.ofList (text.toList.map Char.toLower)
  sha256 := id

end DataCleaner
end RiskPulse
