import Mathlib.Algebra.Order.Field.Rat
import Mathlib.Data.List.Basic
import RiskPulse.Library.Effect
import RiskPulse.Library.JsonText
import RiskPulse.Library.OrderedDict
import RiskPulse.Library.Text

namespace RiskPulse

-- What Python makes of a float of a JSON text, and of a string inside a container. The text
-- of a float begins with a digit or a sign, or is inf or nan.
structure PythonText where
  floatRepr : String → String
  floatIsZero : String → Bool
  strRepr : String → String
  numeral : ∀ text, (∃ c, (floatRepr text).toList.head? = some c ∧ (Json.isDigit c = true ∨ c = '-')) ∨
    floatRepr text ∈ ["inf","nan"]

namespace PythonText

mutual
def repr (t : PythonText) : Json → String
  | .null => "None"
  | .bool true => "True"
  | .bool false => "False"
  | .int value => String.ofList (Json.encodeInt value)
  | .float text => t.floatRepr text
  | .str text => t.strRepr text
  | .array items => "[" ++ ", ".intercalate (reprItems t items) ++ "]"
  | .object members => "\x7b" ++ ", ".intercalate (reprMembers t members) ++ "\x7d"
def reprItems (t : PythonText) : List Json → List String
  | [] => []
  | v :: rest => repr t v :: reprItems t rest
def reprMembers (t : PythonText) : List (String × Json) → List String
  | [] => []
  | (key,v) :: rest => (t.strRepr key ++ ": " ++ repr t v) :: reprMembers t rest
end

def str (t : PythonText) : Json → String
  | .str text => text
  | v => t.repr v

def truthy (t : PythonText) : Json → Bool
  | .null => false
  | .bool value => value
  | .int value => value != 0
  | .float text => !t.floatIsZero text
  | .str text => text != ""
  | .array items => !items.isEmpty
  | .object members => !members.isEmpty

-- first or second
def orElse (t : PythonText) (first second : Option Json) : Option Json := if first.any t.truthy then first else second

end PythonText

abbrev SecretDict := OrderedDict String Json

structure SecretValue where
  secretId : String
  value : SecretDict
  versionId : Option String
  createdAt : Rat

structure SecretResponse where
  secretString : Option String
  secretBinary : Option (List UInt8)
  versionId : Option String

structure SecretsManager where
  cacheTtlSeconds : Int
  client : Option (String → Except String SecretResponse)

abbrev SecretCache := OrderedDict String SecretValue

structure Settings where
  environment : String
  config : Json

-- What a call reads besides its arguments: the settings, os.environ, the clock and the
-- depth up to which json.loads can nest.
structure ProcessContext where
  settings : Settings
  environ : String → Option String
  now : Rat
  recursionLimit : Nat

def Settings.lookup (value : Json) : List String → Option Json
  | [] => some value
  | key :: rest =>
    match value with
    | .object members =>
      match (OrderedDict.ofList members).get? key with
      | none | some .null => none
      | some inner => lookup inner rest
    | _ => none

def Settings.get (s : Settings) (path : List String) (default : Json) : Json := (lookup s.config path).getD default

namespace SecretsManager

def developmentPlaceholders : List String :=
  ["","riskpulse","riskpulse_dev_password","change-me","dev-api-key-riskpulse-2024","dev-api-key-change-in-production",
    "dev-jwt-secret","dev-jwt-secret-change-in-production","ci-build-placeholder-not-secret"]

def isManagedEnvironment (environment : String) : Bool := environment.toLower ∈ ["prod","production","staging"]

def coerceApiKeyEntries (t : PythonText) : Json → List SecretDict
  | .array items => items.filterMap fun item =>
    match item with
    | .object members =>
      if ((OrderedDict.ofList members).get? "key").any t.truthy then some (OrderedDict.ofList members) else none
    | _ => none
  | _ => []

-- An environment variable counts as absent where it is empty.
def set? (c : ProcessContext) (name : String) : Option String := (c.environ name).filter fun text => text ≠ ""

def permissions (text : String) : List Json :=
  ((text.toList.splitOn ',').map (Text.strip Text.isSpace)).filterMap fun item =>
    if item.isEmpty then none else some (.str (String.ofList item))

def singleKeyEntry (c : ProcessContext) (singleKey : String) : SecretDict :=
  .ofList [("name",.str ((c.environ "RISKPULSE_API_KEY_NAME").getD "environment")),
    ("key",.str singleKey),
    ("permissions",.array (permissions ((c.environ "RISKPULSE_API_KEY_PERMISSIONS").getD "read,write"))),
    ("rate_limit",((c.environ "RISKPULSE_API_KEY_RATE_LIMIT").map Json.str).getD .null)]

-- The branch of RISKPULSE_API_KEYS.
def parseApiKeys (t : PythonText) (limit : Nat) (managedEnvironment : Bool) (rawJson : String) : Except String (List SecretDict) :=
  match Json.loads limit rawJson with
  | .error .decode => .error "RISKPULSE_API_KEYS must be valid JSON"
  | .error .integerDigits => .error "Exceeds the limit (4300 digits) for integer string conversion"
  | .error .recursion => .error "maximum recursion depth exceeded"
  | .ok parsed =>
    let keys := coerceApiKeyEntries t parsed
    if keys.isEmpty then .error "RISKPULSE_API_KEYS must contain API key entries"
    else if managedEnvironment && keys.any fun entry => (entry.get? "key").any fun key => t.str key ∈ developmentPlaceholders then
      .error "Production API key cannot use a development placeholder value"
    else .ok keys

def getApiKeysFromEnvironment (t : PythonText) (c : ProcessContext) (managedEnvironment : Bool) : Except String (List SecretDict) :=
  match set? c "RISKPULSE_API_KEYS" with
  | some rawJson => parseApiKeys t c.recursionLimit managedEnvironment rawJson
  | none =>
    match set? c "RISKPULSE_API_KEY" with
    | some singleKey =>
      if managedEnvironment && decide (singleKey ∈ developmentPlaceholders) then
        .error "Production API key cannot use a development placeholder value"
      else .ok [singleKeyEntry c singleKey]
    | none => .ok []

-- What the secret store answered, as text.
def rawValue (secretId : String) (response : SecretResponse) : Except String String :=
  match response.secretString,response.secretBinary with
  | some text,_ => .ok text
  | none,some bytes =>
    match Json.decodeUtf8 bytes with
    | some text => .ok text
    | none => .error "'utf-8' codec can't decode bytes"
  | none,none => .error ("Secret " ++ secretId ++ " contains no usable value")

def parseSecret (limit : Nat) (raw : String) : Except String SecretDict :=
  match Json.loads limit raw with
  | .ok (.object members) => .ok (.ofList members)
  | .ok parsed => .ok (.ofList [("value",parsed)])
  | .error .decode => .ok (.ofList [("value",.str raw)])
  | .error .integerDigits => .error "Exceeds the limit (4300 digits) for integer string conversion"
  | .error .recursion => .error "maximum recursion depth exceeded"

def loadSecret (m : SecretsManager) (c : ProcessContext) (secretId : String) : Effect SecretCache SecretDict := fun cache =>
  match m.client with
  | none => (.error "Secrets Manager is disabled and no client was provided",cache)
  | some getSecretValue =>
    match getSecretValue secretId with
    | .error _ => (.error ("Failed to load secret " ++ secretId),cache)
    | .ok response =>
      match (rawValue secretId response).bind (parseSecret c.recursionLimit) with
      | .error e => (.error e,cache)
      | .ok value => (.ok value,cache.set secretId ⟨secretId,value,response.versionId,c.now⟩)

-- The secret ids of the cache are strings, and the client refuses any other.
def getSecret (m : SecretsManager) (c : ProcessContext) (secretId : Json) (forceRefresh : Bool) : Effect SecretCache SecretDict := fun cache =>
  match secretId with
  | .str id =>
    if id = "" then (.error "secret_id is required",cache)
    else
      match cache.get? id with
      | some cached =>
        if !forceRefresh && decide (c.now - cached.createdAt < m.cacheTtlSeconds) then (.ok cached.value,cache)
        else loadSecret m c id cache
      | none => loadSecret m c id cache
  | .array _ | .object _ => (.error "unhashable type",cache)
  | _ =>
    match m.client with
    | none => (.error "Secrets Manager is disabled and no client was provided",cache)
    | some _ => (.error "Failed to load secret",cache)

-- secret_id or settings.get(...)
def configuredId (c : ProcessContext) (secretId : Option String) (name : String) : Json :=
  match secretId.filter fun text => text ≠ "" with
  | some id => .str id
  | none => c.settings.get ["security","secrets_manager",name] .null

def environmentCredentials (c : ProcessContext) : SecretDict :=
  .ofList [("host",.str ((c.environ "RISKPULSE_DB_HOST").getD "localhost")),
    ("port",.str ((c.environ "RISKPULSE_DB_PORT").getD "5432")),
    ("database",.str ((c.environ "RISKPULSE_DB_NAME").getD "riskpulse")),
    ("username",.str ((c.environ "RISKPULSE_DB_USER").getD "riskpulse")),
    ("password",.str ((c.environ "RISKPULSE_DB_PASSWORD").getD "riskpulse"))]

def getDatabaseCredentials (t : PythonText) (m : SecretsManager) (c : ProcessContext) (secretId : Option String) : Effect SecretCache SecretDict :=
  let id := configuredId c secretId "database_secret_id"
  if t.truthy id then getSecret m c id false
  else if isManagedEnvironment c.settings.environment &&
      decide ((c.environ "RISKPULSE_DB_PASSWORD").getD "riskpulse" ∈ developmentPlaceholders) then
    Effect.ofExcept (.error ("Production database credentials must come from Secrets Manager " ++
      "or a non-default RISKPULSE_DB_PASSWORD value"))
  else pure (environmentCredentials c)

-- secret.get("api_keys", secret.get("keys", []))
def secretKeys (secret : SecretDict) : Json := secret.getD "api_keys" (secret.getD "keys" (.array []))

def getApiKeys (t : PythonText) (m : SecretsManager) (c : ProcessContext) (secretId : Option String) : Effect SecretCache (List SecretDict) := do
  let id := configuredId c secretId "api_keys_secret_id"
  let managedEnvironment := isManagedEnvironment c.settings.environment
  if t.truthy id then do
    let secret ← getSecret m c id false
    match secretKeys secret with
    | .array items => pure (coerceApiKeyEntries t (.array items))
    | _ => Effect.ofExcept (.error "API key secret must contain an api_keys list")
  else do
    let envKeys ← Effect.ofExcept (getApiKeysFromEnvironment t c managedEnvironment)
    if !envKeys.isEmpty then pure envKeys
    else
      let configuredKeys := coerceApiKeyEntries t (c.settings.get ["api","api_keys"] (.array []))
      if !configuredKeys.isEmpty then pure configuredKeys
      else if managedEnvironment then
        Effect.ofExcept (.error ("Production API keys must come from Secrets Manager, RISKPULSE_API_KEYS, " ++
          "or a non-placeholder RISKPULSE_API_KEY value"))
      else pure []

-- secret.get("jwt_secret") or secret.get("secret") or secret.get("value")
def signingValue (t : PythonText) (secret : SecretDict) : Option Json :=
  t.orElse (secret.get? "jwt_secret") (t.orElse (secret.get? "secret") (secret.get? "value"))

def environmentJwtSecret (c : ProcessContext) : Except String Json :=
  let managedEnvironment := isManagedEnvironment c.settings.environment
  match (set? c "RISKPULSE_JWT_SECRET").filter fun text => text ∉ developmentPlaceholders with
  | some envSecret =>
    if managedEnvironment && decide (envSecret.utf8ByteSize < 32) then .error "Production JWT secret must be at least 32 bytes"
    else .ok (.str envSecret)
  | none =>
    if managedEnvironment then
      .error ("Production JWT secret must be configured through Secrets Manager " ++
        "or RISKPULSE_JWT_SECRET; refusing to use development fallback")
    else
      .ok (((set? c "RISKPULSE_JWT_SECRET").map Json.str).getD
        (c.settings.get ["security","jwt","dev_secret"] (.str "dev-jwt-secret")))

def getJwtSecret (t : PythonText) (m : SecretsManager) (c : ProcessContext) (secretId : Option String) : Effect SecretCache Json := do
  let id := configuredId c secretId "jwt_secret_id"
  if t.truthy id then do
    let secret ← getSecret m c id false
    match (signingValue t secret).filter t.truthy with
    | some value =>
      if isManagedEnvironment c.settings.environment && decide ((t.str value).utf8ByteSize < 32) then
        Effect.ofExcept (.error "Production JWT secret must be at least 32 bytes")
      else pure (.str (t.str value))
    | none => Effect.ofExcept (environmentJwtSecret c)
  else Effect.ofExcept (environmentJwtSecret c)

section Placeholders
variable (t : PythonText) (m : SecretsManager) (c : ProcessContext) (cache : SecretCache) (secretId : Option String)

def DatabaseSafe : Prop := ∀ credentials, (getDatabaseCredentials t m c secretId cache).1 = .ok credentials →
  ∀ text, credentials.get? "password" = some (.str text) → text ∉ developmentPlaceholders

def ApiKeysSafe : Prop := ∀ keys, (getApiKeys t m c secretId cache).1 = .ok keys →
  ∀ entry ∈ keys, ∀ text, entry.get? "key" = some (.str text) → text ∉ developmentPlaceholders

def JwtSecretSafe : Prop := ∀ text, (getJwtSecret t m c secretId cache).1 = .ok (.str text) → text ∉ developmentPlaceholders

-- The database secret, where there is one, has no placeholder as its password.
def RealPassword : Prop := t.truthy (configuredId c secretId "database_secret_id") = true →
  ∀ secret, (getSecret m c (configuredId c secretId "database_secret_id") false cache).1 = .ok secret →
    ∀ text, secret.get? "password" = some (.str text) → text ∉ developmentPlaceholders

def RealKeys (items : List Json) : Prop := ∀ members, .object members ∈ items →
  ∀ text, (OrderedDict.ofList members).get? "key" = some (.str text) → text = "" ∨ text ∉ developmentPlaceholders

-- The list of the API key secret, where there is one, has no placeholder for a key, nor has
-- the configured list where it is used.
def RealApiKeys : Prop :=
  (t.truthy (configuredId c secretId "api_keys_secret_id") = true →
    ∀ secret, (getSecret m c (configuredId c secretId "api_keys_secret_id") false cache).1 = .ok secret →
      ∀ items, secretKeys secret = .array items → RealKeys items) ∧
  (t.truthy (configuredId c secretId "api_keys_secret_id") = false → set? c "RISKPULSE_API_KEYS" = none →
    set? c "RISKPULSE_API_KEY" = none → ∀ items, c.settings.get ["api","api_keys"] (.array []) = .array items → RealKeys items)

-- The JWT secret, where there is one, is none of the placeholders that are long enough.
def RealSigningSecret : Prop := t.truthy (configuredId c secretId "jwt_secret_id") = true →
  ∀ secret, (getSecret m c (configuredId c secretId "jwt_secret_id") false cache).1 = .ok secret →
    signingValue t secret ≠ some (.str "dev-jwt-secret-change-in-production") ∧
    signingValue t secret ≠ some (.str "dev-api-key-change-in-production")

end Placeholders

theorem placeholder_head : ∀ text ∈ developmentPlaceholders, text.toList.head? ∈ [none,some 'r',some 'c',some 'd'] := by decide

theorem placeholder_long : ∀ text ∈ developmentPlaceholders, 32 ≤ text.utf8ByteSize →
    text = "dev-jwt-secret-change-in-production" ∨ text = "dev-api-key-change-in-production" := by decide

theorem encodeInt_head (value : Int) : ∃ c, (Json.encodeInt value).head? = some c ∧ (Json.isDigit c = true ∨ c = '-') := by
  unfold Json.encodeInt
  split
  · exact ⟨'-',rfl,.inr rfl⟩
  · cases digits : Nat.toDigits 10 value.natAbs with
    | nil => exact absurd digits Nat.toDigits_ne_nil
    | cons c rest => exact ⟨c,rfl,.inl (Json.toDigits_digit (by rw [digits]; exact List.mem_cons_self))⟩

theorem number_plain (text : String) (head : text.toList.head? = some c) (number : Json.isDigit c = true ∨ c = '-') :
    text ∉ developmentPlaceholders := by
  intro member
  have first := placeholder_head text member
  rw [head] at first
  simp only [List.mem_cons,reduceCtorEq,Option.some.injEq,List.not_mem_nil,false_or,or_false] at first
  rcases first with rfl | rfl | rfl <;> exact absurd number (by decide)

-- Only a string is printed as a placeholder.
theorem str_placeholder (t : PythonText) (v : Json) (member : t.str v ∈ developmentPlaceholders) : ∃ text, v = .str text := by
  cases v with
  | str text => exact ⟨text,rfl⟩
  | null =>
    have first := placeholder_head _ member
    simp [PythonText.str,PythonText.repr] at first
  | bool value =>
    have first := placeholder_head _ member
    cases value <;> simp [PythonText.str,PythonText.repr] at first
  | int value =>
    obtain ⟨c,head,number⟩ := encodeInt_head value
    exact absurd member (number_plain _ (by simpa [PythonText.str,PythonText.repr] using head) number)
  | float text =>
    rcases t.numeral text with ⟨c,head,number⟩ | named
    · exact absurd member (number_plain _ head number)
    · have same : t.str (.float text) = t.floatRepr text := rfl
      rw [same] at member
      simp only [List.mem_cons,List.not_mem_nil,or_false] at named
      rcases named with inf | nan
      · rw [inf] at member
        exact absurd member (by decide)
      · rw [nan] at member
        exact absurd member (by decide)
  | array items =>
    have first := placeholder_head _ member
    simp [PythonText.str,PythonText.repr] at first
  | object members =>
    have first := placeholder_head _ member
    simp [PythonText.str,PythonText.repr] at first

theorem mem_coerce (t : PythonText) (items : List Json) (entry : SecretDict) : entry ∈ coerceApiKeyEntries t (.array items) ↔
    ∃ members, .object members ∈ items ∧ (entry.get? "key").any t.truthy = true ∧ OrderedDict.ofList members = entry := by
  simp only [coerceApiKeyEntries,List.mem_filterMap]
  constructor
  · intro given
    obtain ⟨item,member,kept⟩ := given
    cases item with
    | object members =>
      simp only at kept
      split at kept
      · rename_i some
        cases Option.some.inj kept
        exact ⟨members,member,some,rfl⟩
      · cases kept
    | _ => cases kept
  · intro given
    obtain ⟨members,member,some,rfl⟩ := given
    exact ⟨.object members,member,if_pos some⟩

theorem real_entries (t : PythonText) (items : List Json) : RealKeys items ↔ ∀ entry ∈ coerceApiKeyEntries t (.array items),
    ∀ text, entry.get? "key" = some (.str text) → text ∉ developmentPlaceholders := by
  constructor
  · intro real entry member text key
    obtain ⟨members,inside,some,rfl⟩ := (mem_coerce t items entry).mp member
    rcases real members inside text key with rfl | plain
    · rw [key] at some
      cases some
    · exact plain
  · intro plain members inside text key
    by_cases empty : text = ""
    · exact .inl empty
    · have some : ((OrderedDict.ofList members).get? "key").any t.truthy = true := by
        rw [key]
        exact bne_iff_ne.mpr empty
      exact .inr (plain _ ((mem_coerce t items _).mpr ⟨members,inside,some,rfl⟩) text key)

theorem coerce_array (t : PythonText) (v : Json) (member : entry ∈ coerceApiKeyEntries t v) : ∃ items, v = .array items := by
  cases v with
  | array items => exact ⟨items,rfl⟩
  | _ => cases member

theorem singleKey_key (c : ProcessContext) (key : String) : (singleKeyEntry c key).get? "key" = some (.str key) := by
  rw [singleKeyEntry,OrderedDict.get?_ofList _ (by simp)]
  rfl

theorem parseApiKeys_ok (ran : parseApiKeys t limit managed rawJson = .ok keys) : keys ≠ [] ∧ (managed = true →
    ∀ entry ∈ keys, ∀ text, entry.get? "key" = some (.str text) → text ∉ developmentPlaceholders) := by
  unfold parseApiKeys at ran
  split at ran
  · cases ran
  · cases ran
  · cases ran
  · simp only at ran
    split at ran
    · cases ran
    · rename_i some
      split at ran
      · cases ran
      · rename_i plain
        cases Except.ok.inj ran
        refine ⟨fun empty => some (by rw [empty]; rfl),?_⟩
        rintro rfl entry member text key placeholder
        rw [Bool.true_and] at plain
        refine plain (List.any_eq_true.mpr ⟨entry,member,?_⟩)
        rw [key]
        exact decide_eq_true placeholder

-- In a managed environment the variables give no placeholder.
theorem environment_keys (t : PythonText) (c : ProcessContext) (ran : getApiKeysFromEnvironment t c true = .ok keys)
    (member : entry ∈ keys) (key : entry.get? "key" = some (.str text)) : text ∉ developmentPlaceholders := by
  unfold getApiKeysFromEnvironment at ran
  split at ran
  · exact (parseApiKeys_ok ran).2 rfl entry member text key
  · split at ran
    · rw [Bool.true_and] at ran
      split at ran
      · cases ran
      · rename_i plain
        cases Except.ok.inj ran
        cases List.mem_singleton.mp member
        rw [singleKey_key] at key
        cases key
        exact fun placeholder => plain (decide_eq_true placeholder)
    · cases Except.ok.inj ran
      cases member

theorem environment_none (t : PythonText) (c : ProcessContext) (managed : Bool) :
    getApiKeysFromEnvironment t c managed = .ok [] ↔ set? c "RISKPULSE_API_KEYS" = none ∧ set? c "RISKPULSE_API_KEY" = none := by
  unfold getApiKeysFromEnvironment
  split
  · rename_i several
    rw [several]
    exact iff_of_false (fun empty => (parseApiKeys_ok empty).1 rfl) fun absent => Option.some_ne_none _ absent.1
  · rename_i several
    rw [several]
    split
    · rename_i single
      rw [single]
      refine iff_of_false ?_ fun absent => Option.some_ne_none _ absent.2
      split <;> exact fun absurdity => by cases absurdity
    · rename_i single
      exact iff_of_true rfl ⟨rfl,single⟩

section Placeholders
variable (t : PythonText) (m : SecretsManager) (c : ProcessContext) (cache : SecretCache) (secretId : Option String)

theorem database_exact (managed : isManagedEnvironment c.settings.environment = true) :
    DatabaseSafe t m c cache secretId ↔ RealPassword t m c cache secretId := by
  unfold DatabaseSafe RealPassword getDatabaseCredentials
  cases configured : t.truthy (configuredId c secretId "database_secret_id") with
  | true =>
    simp only [if_true]
    exact ⟨fun safe _ => safe,fun real => real trivial⟩
  | false =>
    refine iff_of_true ?_ fun absurdity => by cases absurdity
    simp only [Bool.false_eq_true,if_false,managed,Bool.true_and]
    split
    · exact fun _ absurdity => by cases absurdity
    · rename_i plain
      intro credentials ran text password
      cases Except.ok.inj ran
      rw [environmentCredentials,OrderedDict.get?_ofList _ (by simp)] at password
      cases password
      exact fun placeholder => plain (decide_eq_true placeholder)

theorem apiKeys_secret (configured : t.truthy (configuredId c secretId "api_keys_secret_id") = true) (keys : List SecretDict) :
    (getApiKeys t m c secretId cache).1 = .ok keys ↔ ∃ secret items,
      (getSecret m c (configuredId c secretId "api_keys_secret_id") false cache).1 = .ok secret ∧
      secretKeys secret = .array items ∧ coerceApiKeyEntries t (.array items) = keys := by
  unfold getApiKeys
  simp only [configured,if_true]
  rcases loaded : getSecret m c (configuredId c secretId "api_keys_secret_id") false cache with ⟨outcome,t'⟩
  cases outcome with
  | error e =>
    rw [Effect.bind_error _ loaded]
    simp
  | ok secret =>
    rw [Effect.bind_ok _ loaded]
    cases listed : secretKeys secret with
    | array items =>
      constructor
      · intro ran
        exact ⟨secret,items,rfl,listed,Except.ok.inj ran⟩
      · intro given
        obtain ⟨other,items',same,found,rfl⟩ := given
        cases Except.ok.inj same
        rw [listed] at found
        cases found
        rfl
    | _ =>
      refine iff_of_false (fun absurdity => by cases absurdity) ?_
      intro given
      obtain ⟨other,items',same,found,_⟩ := given
      cases Except.ok.inj same
      rw [listed] at found
      cases found

theorem apiKeys_configured (absent : t.truthy (configuredId c secretId "api_keys_secret_id") = false)
    (managed : isManagedEnvironment c.settings.environment = true) (keys : List SecretDict) :
    (getApiKeys t m c secretId cache).1 = .ok keys ↔ keys ≠ [] ∧ (getApiKeysFromEnvironment t c true = .ok keys ∨
      (getApiKeysFromEnvironment t c true = .ok [] ∧
        coerceApiKeyEntries t (c.settings.get ["api","api_keys"] (.array [])) = keys)) := by
  unfold getApiKeys
  simp only [absent,managed,Bool.false_eq_true,if_false]
  cases read : getApiKeysFromEnvironment t c true with
  | error e =>
    rw [Effect.ofExcept_failed _ _ rfl]
    simp
  | ok envKeys =>
    rw [Effect.ofExcept_bind _ _ rfl]
    cases envKeys with
    | cons first rest =>
      constructor
      · intro ran
        have same : first :: rest = keys := Except.ok.inj ran
        rw [← same]
        exact ⟨List.cons_ne_nil _ _,.inl rfl⟩
      · intro given
        obtain ⟨_,same | ⟨absurdity,_⟩⟩ := given
        · exact same
        · cases absurdity
    | nil =>
      simp only [List.isEmpty_nil,Bool.not_true,Bool.false_eq_true,if_false,Except.ok.injEq,true_and]
      cases listed : coerceApiKeyEntries t (c.settings.get ["api","api_keys"] (.array [])) with
      | nil =>
        refine iff_of_false (fun absurdity => by cases absurdity) ?_
        rintro ⟨some,empty | empty⟩ <;> exact some empty.symm
      | cons first rest =>
        constructor
        · intro ran
          have same : first :: rest = keys := Except.ok.inj ran
          rw [← same]
          exact ⟨List.cons_ne_nil _ _,.inr rfl⟩
        · intro given
          obtain ⟨some,empty | same⟩ := given
          · exact absurd empty.symm some
          · exact congrArg Except.ok same

theorem apiKeys_exact (managed : isManagedEnvironment c.settings.environment = true) :
    ApiKeysSafe t m c cache secretId ↔ RealApiKeys t m c cache secretId := by
  unfold ApiKeysSafe RealApiKeys
  cases configured : t.truthy (configuredId c secretId "api_keys_secret_id") with
  | true =>
    constructor
    · intro safe
      refine ⟨fun _ secret loaded items listed => (real_entries t items).mpr ?_,fun absurdity => by cases absurdity⟩
      exact safe _ ((apiKeys_secret t m c cache secretId configured _).mpr ⟨secret,items,loaded,listed,rfl⟩)
    · rintro ⟨real,_⟩ keys ran
      obtain ⟨secret,items,loaded,listed,rfl⟩ := (apiKeys_secret t m c cache secretId configured keys).mp ran
      exact (real_entries t items).mp (real rfl secret loaded items listed)
  | false =>
    have results := apiKeys_configured t m c cache secretId configured managed
    constructor
    · intro safe
      refine ⟨(fun absurdity => by cases absurdity),fun _ several single items listed => (real_entries t items).mpr ?_⟩
      intro entry member
      refine safe (coerceApiKeyEntries t (.array items)) ((results _).mpr ⟨List.ne_nil_of_mem member,.inr ⟨?_,?_⟩⟩) entry member
      · exact (environment_none t c true).mpr ⟨several,single⟩
      · rw [listed]
    · rintro ⟨_,real⟩ keys ran entry member text key
      rcases ((results keys).mp ran).2 with came | ⟨empty,rfl⟩
      · exact environment_keys t c came member key
      · obtain ⟨items,listed⟩ := coerce_array t _ member
        obtain ⟨several,single⟩ := (environment_none t c true).mp empty
        rw [listed] at member
        exact (real_entries t items).mp (real rfl several single items listed) entry member text key

theorem environmentJwt_plain (managed : isManagedEnvironment c.settings.environment = true)
    (ran : environmentJwtSecret c = .ok (.str text)) : text ∉ developmentPlaceholders := by
  unfold environmentJwtSecret at ran
  simp only [managed,Bool.true_and,if_true] at ran
  split at ran
  · rename_i envSecret found
    split at ran
    · cases ran
    · cases Except.ok.inj ran
      exact of_decide_eq_true (Option.filter_eq_some_iff.mp found).2
  · cases ran

-- A secret's value that passes the length check is no placeholder unless it is one of the two.
theorem long_plain (long : 32 ≤ (t.str value).utf8ByteSize) : t.str value ∉ developmentPlaceholders ↔
    value ≠ .str "dev-jwt-secret-change-in-production" ∧ value ≠ .str "dev-api-key-change-in-production" := by
  constructor
  · intro plain
    constructor <;> (rintro rfl; exact plain (by simp [PythonText.str,developmentPlaceholders]))
  · rintro ⟨jwt,key⟩ member
    obtain ⟨text,rfl⟩ := str_placeholder t value member
    rcases placeholder_long text member long with rfl | rfl
    · exact jwt rfl
    · exact key rfl

theorem short_other (short : (t.str value).utf8ByteSize < 32) :
    value ≠ .str "dev-jwt-secret-change-in-production" ∧ value ≠ .str "dev-api-key-change-in-production" := by
  constructor
  · rintro rfl
    have size : "dev-jwt-secret-change-in-production".utf8ByteSize < 32 := short
    exact absurd size (by decide)
  · rintro rfl
    have size : "dev-api-key-change-in-production".utf8ByteSize < 32 := short
    exact absurd size (by decide)

theorem unsigned_other (unsigned : (signingValue t secret).filter t.truthy = none) :
    signingValue t secret ≠ some (.str "dev-jwt-secret-change-in-production") ∧
      signingValue t secret ≠ some (.str "dev-api-key-change-in-production") := by
  constructor <;> (intro chosen; rw [chosen] at unsigned; cases unsigned)

theorem jwt_exact (managed : isManagedEnvironment c.settings.environment = true) :
    JwtSecretSafe t m c cache secretId ↔ RealSigningSecret t m c cache secretId := by
  have environment : ∀ text, environmentJwtSecret c = .ok (.str text) → text ∉ developmentPlaceholders :=
    fun text => environmentJwt_plain c managed
  unfold JwtSecretSafe RealSigningSecret getJwtSecret
  cases configured : t.truthy (configuredId c secretId "jwt_secret_id") with
  | false =>
    simp only [Bool.false_eq_true,if_false]
    exact iff_of_true environment fun absurdity => by cases absurdity
  | true =>
    simp only [if_true,true_implies]
    rcases loaded : getSecret m c (configuredId c secretId "jwt_secret_id") false cache with ⟨outcome,t'⟩
    cases outcome with
    | error e =>
      rw [Effect.bind_error _ loaded]
      exact iff_of_true (fun _ absurdity => by cases absurdity) fun _ absurdity => by cases absurdity
    | ok secret =>
      rw [Effect.bind_ok _ loaded]
      cases chosen : (signingValue t secret).filter t.truthy with
      | none =>
        refine iff_of_true environment ?_
        rintro _ ⟨⟩
        exact unsigned_other t chosen
      | some value =>
        have found := (Option.filter_eq_some_iff.mp chosen).1
        simp only [managed,Bool.true_and,decide_eq_true_eq]
        split
        · rename_i short
          refine iff_of_true (fun _ absurdity => by cases absurdity) ?_
          rintro _ ⟨⟩
          rw [found]
          simpa using short_other t short
        · rename_i long
          have exact' := long_plain t (Nat.le_of_not_lt long)
          constructor
          · rintro safe _ ⟨⟩
            rw [found]
            simpa using exact'.mp (safe _ rfl)
          · rintro real _ ⟨⟩
            refine exact'.mpr ?_
            have other := real secret rfl
            rw [found] at other
            simpa using other

-- In a managed environment none of the three gives a placeholder out, unless it is handed
-- one by the secret store or, for the API keys, by the settings.
theorem placeholders_refused (managed : isManagedEnvironment c.settings.environment = true) :
    (DatabaseSafe t m c cache secretId ↔ RealPassword t m c cache secretId) ∧
      (ApiKeysSafe t m c cache secretId ↔ RealApiKeys t m c cache secretId) ∧
      (JwtSecretSafe t m c cache secretId ↔ RealSigningSecret t m c cache secretId) :=
  ⟨database_exact t m c cache secretId managed,apiKeys_exact t m c cache secretId managed,jwt_exact t m c cache secretId managed⟩

end Placeholders

def exampleText : PythonText where
  floatRepr text := if Json.isDigit (text.toList.headD '-') then text else "nan"
  floatIsZero text := text == "0.0"
  strRepr text := text
  numeral text := by
    split
    · rename_i digit
      cases letters : text.toList with
      | nil => rw [letters] at digit; exact absurd digit (by decide)
      | cons c rest => rw [letters] at digit; exact .inl ⟨c,rfl,.inl digit⟩
    · exact .inr (by simp)

def exampleContext (environ : List (String × String)) (config : Json) : ProcessContext :=
  ⟨⟨"Prod",config⟩,fun name => environ.lookup name,0,1000⟩

theorem placeholders_refused_password : DatabaseSafe exampleText ⟨300,none⟩
    (exampleContext [("RISKPULSE_DB_PASSWORD","change-me")] (.object [])) .empty none :=
  (placeholders_refused exampleText ⟨300,none⟩ (exampleContext [("RISKPULSE_DB_PASSWORD","change-me")] (.object [])) .empty none
    (by decide +kernel)).1.mpr fun configured => absurd configured (by decide)

def exampleStore (payload : String) : SecretsManager := ⟨300,some fun _ => .ok ⟨some payload,none,none⟩⟩

-- The three in production: a password from the store, a key from the settings, and a signing
-- secret from the store that is long enough.
theorem placeholders_given_out :
    ¬DatabaseSafe exampleText (exampleStore "\x7b\"password\":\"riskpulse\"\x7d") (exampleContext [] (.object [])) .empty (some "db") ∧
    ¬ApiKeysSafe exampleText ⟨300,none⟩
      (exampleContext [] (.object [("api",.object [("api_keys",.array [.object [("key",.str "change-me")]])])])) .empty none ∧
    ¬JwtSecretSafe exampleText (exampleStore "dev-jwt-secret-change-in-production") (exampleContext [] (.object [])) .empty
      (some "jwt") := by
  refine ⟨fun safe => ?_,fun safe => ?_,fun safe => ?_⟩
  · exact safe (.ofList [("password",.str "riskpulse")]) rfl "riskpulse" rfl (by decide)
  · exact safe [.ofList [("key",.str "change-me")]] rfl _ List.mem_cons_self "change-me" rfl (by decide)
  · exact safe "dev-jwt-secret-change-in-production" (by with_unfolding_all rfl) (by decide)

end SecretsManager
end RiskPulse
