import Mathlib.Algebra.Order.Field.Rat
import RiskPulse.Library.SlidingWindow
import RiskPulse.SecretsManager

namespace RiskPulse
open SlidingWindow

structure AuthMetadata where
  name : String
  permissions : List String
  rateLimit : Option Json
  authType : String

structure HTTPException where
  statusCode : Nat
  detail : String

-- What a client sends, and the address it comes from.
structure HttpRequest where
  path : String
  xApiKey : Option String
  authorization : Option String
  client : Option String

-- The attributes of request.state; one that is none has not been set.
structure RequestState where
  apiKeyName : Option String
  apiKeyPermissions : Option (List String)
  apiKeyRateLimit : Option (Option Json)
  authType : Option String
  jwtSubject : Option String

def RequestState.fresh : RequestState := ⟨none,none,none,none,none⟩

-- What authentication takes from outside: the hexadecimal digest of a text, the credentials
-- that HTTPBearer finds, what jwt.decode makes of a token at a time, str and int.
structure AuthHost where
  sha256 : String → String
  bearer : Option String → Option String
  decode : Rat → String → Option (OrderedDict String Json)
  text : PythonText
  int : Json → Except String Int
  credentials : ∀ authorization, bearer authorization ≠ none → ∃ text, authorization = some text ∧ text ≠ ""

-- A header that is absent or empty gives nothing.
def header (value : Option String) : Option String := value.filter fun text => text ≠ ""

theorem header_some : header value = some text ↔ value = some text ∧ text ≠ "" := by
  simp [header,Option.filter_eq_some_iff]

structure APIKeyManager where
  keys : OrderedDict String AuthMetadata

def APIKeyManager.validateKey (h : AuthHost) (m : APIKeyManager) (apiKey : String) : Option AuthMetadata :=
  m.keys.get? (h.sha256 apiKey)

structure ApiAuth where
  host : AuthHost
  manager : APIKeyManager

namespace ApiAuth
variable (c : ApiAuth)

def verifyJwtToken (now : Rat) (token : String) : Option AuthMetadata :=
  (c.host.decode now token).map fun payload => {
    name := c.host.text.str (payload.getD "sub" (.str "jwt-subject"))
    permissions := match payload.get? "permissions" with
      | some (.array items) => items.map c.host.text.str
      | _ => []
    rateLimit := (payload.get? "rate_limit").filter fun limit => match limit with
      | .null => false
      | _ => true
    authType := "jwt" }

def bindAuthMetadata (metadata : AuthMetadata) (s : RequestState) : RequestState :=
  ⟨some metadata.name,some metadata.permissions,some metadata.rateLimit,some metadata.authType,s.jwtSubject⟩

def verifyApiKey (now : Rat) (r : HttpRequest) (s : RequestState) : Except HTTPException (AuthMetadata × RequestState) :=
  match c.host.bearer r.authorization with
  | some token =>
    match c.verifyJwtToken now token with
    | none => .error ⟨401,"Invalid bearer token."⟩
    | some metadata => .ok (metadata,{bindAuthMetadata metadata s with jwtSubject := some metadata.name})
  | none =>
    match header r.xApiKey with
    | some apiKey =>
      match c.manager.validateKey c.host apiKey with
      | none => .error ⟨401,"Invalid API key."⟩
      | some metadata => .ok (metadata,bindAuthMetadata metadata s)
    | none => .error ⟨401,"Missing API key or bearer token. Provide X-API-Key or Authorization bearer token."⟩

end ApiAuth

-- The limiter behind the middleware: whether the call is let in, what remains, and when to
-- retry.
structure CallLimiter (σ : Type) where
  isAllowed : Rat → String → Option Int → σ → (Bool × Int × Int) × σ

structure HttpResponse where
  statusCode : Nat
  detail : String
  headers : OrderedDict String String

structure RateLimitMiddleware (σ : Type) where
  auth : ApiAuth
  limiter : CallLimiter σ
  rateLimit : Int

-- What dispatch finds of a request, before it answers.
inductive RateVerdict where
  | exempt
  | raised (message : String)
  | limited (key : String) (customRate : Option Int) (retryAfter : Int)
  | passed (key : String) (customRate : Option Int) (remaining : Int)

def RateVerdict.key? : RateVerdict → Option String
  | .passed key _ _ => some key
  | _ => none

namespace RateLimitMiddleware
variable {σ : Type} (c : RateLimitMiddleware σ)

def exemptPaths : List String := ["/health","/health/ready","/health/live","/docs","/openapi.json","/redoc"]

def digest (text : String) : String := String.ofList ((c.auth.host.sha256 text).toList.take 24)

def getRateLimitKey (s : RequestState) (r : HttpRequest) : String :=
  match s.apiKeyName with
  | some name => "apikey:" ++ name
  | none =>
    match header r.xApiKey with
    | some apiKey => "apikey_hash:" ++ c.digest apiKey
    | none =>
      match header r.authorization with
      | some authorization => "authorization_hash:" ++ c.digest authorization
      | none => "ip:" ++ r.client.getD "unknown"

def getCustomRate (s : RequestState) (r : HttpRequest) : Except String (Option Int) :=
  match s.apiKeyRateLimit with
  | some none => .ok none
  | some (some limit) => (c.auth.host.int limit).map some
  | none =>
    match header r.xApiKey with
    | none => .ok none
    | some apiKey =>
      match (c.auth.manager.validateKey c.auth.host apiKey).bind AuthMetadata.rateLimit with
      | none => .ok none
      | some limit => (c.auth.host.int limit).map some

def judge (now : Rat) (s : RequestState) (r : HttpRequest) (l : σ) : RateVerdict × σ :=
  if r.path ∈ exemptPaths then (.exempt,l)
  else
    let key := c.getRateLimitKey s r
    match c.getCustomRate s r with
    | .error message => (.raised message,l)
    | .ok customRate =>
      let ((allowed,remaining,retryAfter),left) := c.limiter.isAllowed now key customRate l
      (if allowed then .passed key customRate remaining else .limited key customRate retryAfter,left)

-- custom_rate or self._rate_limit
def applied (customRate : Option Int) : Int :=
  match customRate with
  | some rate => if rate = 0 then c.rateLimit else rate
  | none => c.rateLimit

def dispatch (callNext : HttpRequest → HttpResponse) (now : Rat) (r : HttpRequest) (l : σ) : Except String HttpResponse × σ :=
  let (verdict,left) := c.judge now .fresh r l
  let answer := match verdict with
    | .exempt => .ok (callNext r)
    | .raised message => .error message
    | .limited _ customRate retryAfter => .ok ⟨429,"Rate limit exceeded. Please retry later.",.ofList
        [("X-RateLimit-Limit",toString (c.applied customRate)),("X-RateLimit-Remaining","0"),
          ("X-RateLimit-Reset",toString retryAfter),("Retry-After",toString retryAfter)]⟩
    | .passed _ customRate remaining =>
      let response := callNext r
      let headers := response.headers.set "X-RateLimit-Limit" (toString (c.applied customRate))
      .ok {response with headers := headers.set "X-RateLimit-Remaining" (toString remaining)}
  (answer,left)

-- Whom verify_api_key takes a request to be from: the holder of an API key, the subject of
-- a bearer token, or, where it rejects it, an address.
inductive Party where
  | apiKey (keyHash : String)
  | subject (name : String)
  | address (client : Option String)
  deriving DecidableEq

structure Arrival where
  now : Rat
  request : HttpRequest

def party (a : Arrival) : Party :=
  match c.auth.verifyApiKey a.now a.request .fresh with
  | .error _ => .address a.request.client
  | .ok (metadata,_) =>
    match c.auth.host.bearer a.request.authorization with
    | some _ => .subject metadata.name
    | none => .apiKey (c.auth.host.sha256 ((header a.request.xApiKey).getD ""))

-- The key a request is counted against.
def counted (a : Arrival) : Option String :=
  if a.request.path ∈ exemptPaths then none else some (c.getRateLimitKey .fresh a.request)

def OneKeyEach (arrivals : List Arrival) : Prop :=
  ∀ a ∈ arrivals, ∀ b ∈ arrivals, a.request.path ∉ exemptPaths → b.request.path ∉ exemptPaths →
    c.party a = c.party b → c.counted a = c.counted b

-- The same X-API-Key, or none and the same Authorization, or neither; as their digests go.
def SameHeaders (r other : HttpRequest) : Prop :=
  match header r.xApiKey,header other.xApiKey with
  | some apiKey,some another => c.digest apiKey = c.digest another
  | none,none =>
    match header r.authorization,header other.authorization with
    | some authorization,some another => c.digest authorization = c.digest another
    | none,none => True
    | _,_ => False
  | _,_ => False

-- Requests of one token subject, and rejected ones from one address, carry the same headers.
def Steady (arrivals : List Arrival) : Prop :=
  ∀ a ∈ arrivals, ∀ b ∈ arrivals, a.request.path ∉ exemptPaths → b.request.path ∉ exemptPaths →
    (∃ name, c.party a = .subject name ∧ c.party b = .subject name) ∨
      (∃ client, c.party a = .address client ∧ c.party b = .address client) → c.SameHeaders a.request b.request

theorem key_texts (digest other host : String) : "apikey_hash:" ++ digest ≠ "authorization_hash:" ++ other ∧
    "apikey_hash:" ++ digest ≠ "ip:" ++ host ∧ "authorization_hash:" ++ digest ≠ "ip:" ++ host := by
  refine ⟨?_,?_,?_⟩ <;>
  · intro same
    have starts := congrArg (fun t => t.toList.take 2) same
    simp at starts

theorem key_fresh (r : HttpRequest) : c.getRateLimitKey .fresh r =
    match header r.xApiKey,header r.authorization with
    | some apiKey,_ => "apikey_hash:" ++ c.digest apiKey
    | none,some authorization => "authorization_hash:" ++ c.digest authorization
    | none,none => "ip:" ++ r.client.getD "unknown" := by
  unfold getRateLimitKey
  cases header r.xApiKey <;> cases header r.authorization <;> rfl

-- Which of the headers the key is made of can be read off it.
theorem keys_same (r other : HttpRequest) : c.getRateLimitKey .fresh r = c.getRateLimitKey .fresh other ↔
    c.SameHeaders r other ∧ (header r.xApiKey = none → header r.authorization = none →
      r.client.getD "unknown" = other.client.getD "unknown") := by
  rw [key_fresh,key_fresh,SameHeaders]
  cases header r.xApiKey with
  | some apiKey =>
    cases header other.xApiKey with
    | some another => simp
    | none =>
      cases header other.authorization with
      | some authorization => simp [(key_texts (c.digest apiKey) (c.digest authorization) "").1]
      | none => simp [(key_texts (c.digest apiKey) "" (other.client.getD "unknown")).2.1]
  | none =>
    cases header r.authorization with
    | some authorization =>
      cases header other.xApiKey with
      | some another => simp [(key_texts (c.digest another) (c.digest authorization) "").1.symm]
      | none =>
        cases header other.authorization with
        | some another => simp
        | none => simp [(key_texts (c.digest authorization) "" (other.client.getD "unknown")).2.2]
    | none =>
      cases header other.xApiKey with
      | some another => simp [(key_texts (c.digest another) "" (r.client.getD "unknown")).2.1.symm]
      | none =>
        cases header other.authorization with
        | some another => simp [(key_texts (c.digest another) "" (r.client.getD "unknown")).2.2.symm]
        | none => simp

-- How verify_api_key comes to its party: the bearer token goes before the API key.
theorem party_cases (a : Arrival) :
    (∃ client, c.party a = .address client ∧ a.request.client = client) ∨
    (∃ name, c.party a = .subject name ∧ header a.request.authorization ≠ none) ∨
    (∃ apiKey, c.party a = .apiKey (c.auth.host.sha256 apiKey) ∧ header a.request.xApiKey = some apiKey) := by
  unfold party ApiAuth.verifyApiKey
  cases bearer : c.auth.host.bearer a.request.authorization with
  | some token =>
    dsimp only
    cases c.auth.verifyJwtToken a.now token with
    | none => exact .inl ⟨_,rfl,rfl⟩
    | some metadata =>
      obtain ⟨text,sent,filled⟩ := c.auth.host.credentials a.request.authorization (by simp [bearer])
      refine .inr (.inl ⟨metadata.name,rfl,?_⟩)
      rw [header_some.mpr ⟨sent,filled⟩]
      exact Option.some_ne_none text
  | none =>
    cases sent : header a.request.xApiKey with
    | none => exact .inl ⟨_,rfl,rfl⟩
    | some apiKey =>
      dsimp only
      cases c.auth.manager.validateKey c.auth.host apiKey with
      | none => exact .inl ⟨_,rfl,rfl⟩
      | some metadata => exact .inr (.inr ⟨apiKey,rfl,rfl⟩)

theorem counted_same (a b : Arrival) (limited : a.request.path ∉ exemptPaths) (other : b.request.path ∉ exemptPaths) :
    c.counted a = c.counted b ↔ c.getRateLimitKey .fresh a.request = c.getRateLimitKey .fresh b.request := by
  rw [counted,counted,if_neg limited,if_neg other,Option.some.injEq]

theorem party_apiKey (a : Arrival) (held : c.party a = .apiKey keyHash) :
    ∃ apiKey, header a.request.xApiKey = some apiKey ∧ c.auth.host.sha256 apiKey = keyHash := by
  rcases c.party_cases a with ⟨_,party,_⟩ | ⟨_,party,_⟩ | ⟨apiKey,party,sent⟩
  · rw [party] at held
    cases held
  · rw [party] at held
    cases held
  · rw [party] at held
    exact ⟨apiKey,sent,Party.apiKey.inj held⟩

-- Requests with one API key have that key in the header the limiter reads first.
theorem apiKey_counted (a b : Arrival) (first : c.party a = .apiKey keyHash) (second : c.party b = .apiKey keyHash) :
    c.getRateLimitKey .fresh a.request = c.getRateLimitKey .fresh b.request := by
  obtain ⟨apiKey,sent,hashed⟩ := c.party_apiKey a first
  obtain ⟨another,resent,same⟩ := c.party_apiKey b second
  rw [key_fresh,key_fresh,sent,resent]
  dsimp only
  rw [digest,digest,hashed,same]

theorem oneKey_steady (arrivals : List Arrival) : c.OneKeyEach arrivals ↔ c.Steady arrivals := by
  constructor
  · intro oneKey a member b other limited also same
    have parties : c.party a = c.party b := by
      rcases same with ⟨_,first,second⟩ | ⟨_,first,second⟩ <;> rw [first,second]
    exact ((c.keys_same _ _).mp ((c.counted_same a b limited also).mp (oneKey a member b other limited also parties))).1
  · intro steady a member b other limited also parties
    rw [c.counted_same a b limited also]
    rcases c.party_cases a with ⟨client,party,sent⟩ | ⟨name,party,authorized⟩ | ⟨apiKey,party,_⟩
    · have headers := steady a member b other limited also (.inr ⟨client,party,parties ▸ party⟩)
      refine (c.keys_same _ _).mpr ⟨headers,fun _ _ => ?_⟩
      rcases c.party_cases b with ⟨another,second,resent⟩ | ⟨_,second,_⟩ | ⟨_,second,_⟩
      · rw [party,second] at parties
        cases parties
        rw [sent,resent]
      · rw [party,second] at parties
        cases parties
      · rw [party,second] at parties
        cases parties
    · have headers := steady a member b other limited also (.inl ⟨name,party,parties ▸ party⟩)
      exact (c.keys_same _ _).mpr ⟨headers,fun _ absent => absurd absent authorized⟩
    · exact c.apiKey_counted a b party (parties ▸ party)

section Limits

structure LimiterCall where
  now : Rat
  key : String
  customRate : Option Int

def decisions : σ → List LimiterCall → List (LimiterCall × Bool)
  | _,[] => []
  | l,call :: rest =>
    let (reply,left) := c.limiter.isAllowed call.now call.key call.customRate l
    (call,reply.1) :: decisions left rest

-- When calls with the key were let in.
def letIn (key : String) (log : List (LimiterCall × Bool)) : List Rat :=
  (log.filter fun entry => entry.2 && decide (entry.1.key = key)).map fun entry => entry.1.now

-- A correct limiter lets in at most as many calls with a key in a window as the limits
-- given with that key say.
def Correct (start : σ) (span : Rat) : Prop :=
  ∀ calls, calls.Pairwise (fun a b => a.now ≤ b.now) → ∀ key (bound : Nat),
    (∀ call ∈ calls, call.key = key → c.applied call.customRate ≤ bound) →
      ∀ position, (within span position (letIn key (c.decisions start calls))).length ≤ bound

def verdicts : σ → List Arrival → List (Arrival × RateVerdict)
  | _,[] => []
  | l,a :: rest => (a,(c.judge a.now .fresh a.request l).1) :: verdicts (c.judge a.now .fresh a.request l).2 rest

-- When requests of the party were let through to a path that is not exempt.
def letThrough (p : Party) (log : List (Arrival × RateVerdict)) : List Rat :=
  (log.filter fun entry => (RateVerdict.key? entry.2).isSome && decide (c.party entry.1 = p)).map fun entry => entry.1.now

-- No party has more requests let through in a window than the limits applied to the
-- requests with its key.
def LimitKept (start : σ) (span : Rat) (arrivals : List Arrival) : Prop :=
  ∀ p (bound : Nat), (∀ a ∈ arrivals, a.request.path ∉ exemptPaths → c.party a = p → ∀ other ∈ arrivals,
      c.counted other = c.counted a → ∀ rate, c.getCustomRate .fresh other.request = .ok rate → c.applied rate ≤ bound) →
    ∀ position, (within span position (c.letThrough p (c.verdicts start arrivals))).length ≤ bound

def callOf (a : Arrival) : Option LimiterCall :=
  match c.counted a,c.getCustomRate .fresh a.request with
  | some key,.ok customRate => some ⟨a.now,key,customRate⟩
  | _,_ => none

-- The calls of a limiter behind the middleware are those of the requests.
theorem judge_call (a : Arrival) (l : σ) :
    match c.callOf a with
    | none => RateVerdict.key? (c.judge a.now .fresh a.request l).1 = none ∧ (c.judge a.now .fresh a.request l).2 = l
    | some call => call.now = a.now ∧ c.counted a = some call.key ∧
        (c.judge a.now .fresh a.request l).2 = (c.limiter.isAllowed call.now call.key call.customRate l).2 ∧
        RateVerdict.key? (c.judge a.now .fresh a.request l).1 =
          if (c.limiter.isAllowed call.now call.key call.customRate l).1.1 then some call.key else none := by
  unfold callOf counted judge
  by_cases exempt : a.request.path ∈ exemptPaths
  · simp [exempt,RateVerdict.key?]
  · cases rated : c.getCustomRate .fresh a.request with
    | error message => simp [exempt,RateVerdict.key?]
    | ok customRate =>
      simp only [exempt,if_false]
      refine ⟨trivial,trivial,trivial,?_⟩
      cases (c.limiter.isAllowed a.now (c.getRateLimitKey .fresh a.request) customRate l).1.1 <;> rfl

theorem letIn_verdicts (key : String) (l : σ) (arrivals : List Arrival) :
    letIn key (c.decisions l (arrivals.filterMap c.callOf)) =
      ((c.verdicts l arrivals).filter fun entry => decide (RateVerdict.key? entry.2 = some key)).map fun entry => entry.1.now := by
  induction arrivals generalizing l with
  | nil => rfl
  | cons a rest ih =>
    have here := c.judge_call a l
    cases called : c.callOf a with
    | none =>
      rw [called] at here
      obtain ⟨quiet,same⟩ := here
      rw [List.filterMap_cons_none called,ih l,verdicts,same,List.filter_cons_of_neg (by simp [quiet])]
    | some call =>
      rw [called] at here
      obtain ⟨now,_,left,verdict⟩ := here
      rw [List.filterMap_cons_some called,decisions,verdicts,left]
      have later := ih (c.limiter.isAllowed call.now call.key call.customRate l).2
      unfold letIn at later ⊢
      cases allowed : (c.limiter.isAllowed call.now call.key call.customRate l).1.1 with
      | false =>
        rw [allowed] at verdict
        rw [List.filter_cons_of_neg (by simp [allowed]),List.filter_cons_of_neg (by simp [verdict]),later]
      | true =>
        rw [allowed] at verdict
        by_cases same : call.key = key
        · subst same
          rw [List.filter_cons_of_pos (by simp [allowed]),List.filter_cons_of_pos (by simp [verdict]),List.map_cons,List.map_cons,later,
            now]
        · rw [List.filter_cons_of_neg (by simp [same]),List.filter_cons_of_neg (by simp [verdict,same]),later]

-- A request is let through under the key it is counted against.
theorem verdicts_counted (l : σ) (arrivals : List Arrival) (member : entry ∈ c.verdicts l arrivals)
    (passed : RateVerdict.key? entry.2 = some key) :
    entry.1 ∈ arrivals ∧ entry.1.request.path ∉ exemptPaths ∧ c.counted entry.1 = some key := by
  induction arrivals generalizing l with
  | nil => cases member
  | cons a rest ih =>
    rcases List.mem_cons.mp member with rfl | later
    · have here := c.judge_call a l
      cases called : c.callOf a with
      | none =>
        rw [called,passed] at here
        cases here.1
      | some call =>
        rw [called,passed] at here
        obtain ⟨_,counted,_,verdict⟩ := here
        have same : call.key = key := by
          split at verdict
          · exact (Option.some.inj verdict).symm
          · cases verdict
        subst same
        refine ⟨List.mem_cons_self,?_,counted⟩
        intro exempt
        rw [RateLimitMiddleware.counted,if_pos exempt] at counted
        cases counted
    · obtain ⟨inside,limited,counted⟩ := ih _ later
      exact ⟨List.mem_cons_of_mem _ inside,limited,counted⟩

theorem callOf_some (called : c.callOf a = some call) : c.counted a = some call.key ∧ call.now = a.now ∧
    c.getCustomRate .fresh a.request = .ok call.customRate := by
  unfold callOf at called
  split at called
  · rename_i key customRate counted rated
    cases called
    exact ⟨counted,rfl,rated⟩
  · cases called

theorem calls_ordered {arrivals : List Arrival} (ordered : arrivals.Pairwise fun a b => a.now ≤ b.now) :
    (arrivals.filterMap c.callOf).Pairwise fun a b => a.now ≤ b.now := by
  apply List.Pairwise.filterMap _ _ ordered
  intro a b before call called other also
  rw [(c.callOf_some called).2.1,(c.callOf_some also).2.1]
  exact before

theorem through_key (oneKey : c.OneKeyEach arrivals) (inside : a ∈ arrivals) (limited : a.request.path ∉ exemptPaths)
    (counted : c.counted a = some key) (own : c.party a = p) :
    ((c.verdicts start arrivals).filter fun entry => (RateVerdict.key? entry.2).isSome && decide (c.party entry.1 = p)) =
      ((c.verdicts start arrivals).filter fun entry => decide (RateVerdict.key? entry.2 = some key)).filter
        fun entry => decide (c.party entry.1 = p) := by
  rw [List.filter_filter]
  apply List.filter_congr
  intro entry logged
  by_cases same : c.party entry.1 = p
  · cases passed : RateVerdict.key? entry.2 with
    | none => simp
    | some another =>
      obtain ⟨arrived,also,keyed⟩ := c.verdicts_counted start arrivals logged passed
      have one := oneKey a inside entry.1 arrived limited also (own.trans same.symm)
      rw [counted,keyed] at one
      cases one
      simp [same]
  · simp [same]

-- What is let through of one party is let in under one key.
theorem limit_kept (arrivals : List Arrival) (ordered : arrivals.Pairwise fun a b => a.now ≤ b.now)
    (oneKey : c.OneKeyEach arrivals) (correct : c.Correct start span) : c.LimitKept start span arrivals := by
  intro p bound limits position
  by_cases nothing : c.letThrough p (c.verdicts start arrivals) = []
  · rw [nothing]
    exact Nat.zero_le _
  obtain ⟨time,through⟩ := List.exists_mem_of_ne_nil _ nothing
  obtain ⟨entry,kept,_⟩ := List.mem_map.mp through
  obtain ⟨logged,own⟩ := List.mem_filter.mp kept
  rw [Bool.and_eq_true,decide_eq_true_eq] at own
  obtain ⟨key,passed⟩ := Option.isSome_iff_exists.mp own.1
  obtain ⟨inside,limited,counted⟩ := c.verdicts_counted start arrivals logged passed
  have bounded : ∀ call ∈ arrivals.filterMap c.callOf, call.key = key → c.applied call.customRate ≤ bound := by
    intro call member same
    obtain ⟨other,arrived,called⟩ := List.mem_filterMap.mp member
    obtain ⟨keyed,_,rated⟩ := c.callOf_some called
    exact limits entry.1 inside limited own.2 other arrived (by rw [keyed,counted,same]) call.customRate rated
  refine le_trans (within_sublist ?_ span position) (correct _ (c.calls_ordered ordered) key bound bounded position)
  rw [letIn_verdicts,letThrough,c.through_key oneKey inside limited counted own.2]
  exact List.filter_sublist.map _

-- Every party has one key, and so a correct limiter keeps its limit.
def IdentityLimited (arrivals : List Arrival) : Prop :=
  c.OneKeyEach arrivals ∧ ∀ start span, arrivals.Pairwise (fun a b => a.now ≤ b.now) → c.Correct start span →
    c.LimitKept start span arrivals

theorem identity_limited (arrivals : List Arrival) : c.IdentityLimited arrivals ↔ c.Steady arrivals := by
  rw [← c.oneKey_steady arrivals,IdentityLimited,and_iff_left_iff_imp]
  intro oneKey start span ordered correct
  exact c.limit_kept arrivals ordered oneKey correct

end Limits

section Varied

def signedToken : String := "eyJhbGciOiJIUzI1NiIsInR5cCI6IkpXVCJ9.eyJzdWIiOiJhbGljZSIsInBlcm1pc3Npb25zIjpbInJlYWQiXSwiaXNzIjoi" ++
  "cmlza3B1bHNlLWFwaSIsImlhdCI6MTcwMDAwMDAwMCwiZXhwIjo0MDAwMDAwMDAwfQ.Cwu-6JoDbAGvT9QPZkR2-W5714RrEtAolXgwAOGEsS4"

def signedHeader : String := "Bearer " ++ signedToken

def signedPayload : OrderedDict String Json := .ofList [("sub",.str "alice"),("permissions",.array [.str "read"]),
  ("iss",.str "riskpulse-api"),("iat",.int 1700000000),("exp",.int 4000000000)]

def tokenHost : AuthHost where
  sha256 text :=
    if text = "a" then "ca978112ca1bbdcafac231b39a23dc4da786eff8147c4e72b9807785afee48bb"
    else if text = "b" then "3e23e8160039594a33894f6564e1b1348bbd7a0088d42c4acb73eeaed59c009d"
    else ""
  bearer authorization := if authorization = some signedHeader then some signedToken else none
  decode now token := if token = signedToken ∧ now < 4000000000 then some signedPayload else none
  text := ⟨fun _ => "inf",fun _ => false,id,fun _ => .inr (by simp)⟩
  int _ := .ok 0
  credentials authorization found := by
    have sent : authorization = some signedHeader := by
      by_contra other
      exact found (if_neg other)
    exact ⟨signedHeader,sent,by decide +kernel⟩

def unlimited : CallLimiter Unit := ⟨fun _ _ _ _ => ((true,1,0),())⟩

def tokenMiddleware : RateLimitMiddleware Unit := ⟨⟨tokenHost,⟨.empty⟩⟩,unlimited,60⟩

def tokenRequest (apiKey : String) : Arrival :=
  ⟨1800000000,⟨"/api/v1/transactions",some apiKey,some signedHeader,some "203.0.113.7"⟩⟩

theorem tokenRequest_party (apiKey : String) : tokenMiddleware.party (tokenRequest apiKey) = .subject "alice" := by
  have bearer : tokenMiddleware.auth.host.bearer (some signedHeader) = some signedToken := by
    unfold tokenMiddleware tokenHost
    dsimp only
    rw [if_pos rfl]
  have verified : tokenMiddleware.auth.verifyJwtToken 1800000000 signedToken = some ⟨"alice",["read"],none,"jwt"⟩ := by
    unfold ApiAuth.verifyJwtToken tokenMiddleware tokenHost
    dsimp only
    rw [if_pos ⟨rfl,by decide +kernel⟩]
    rfl
  unfold party ApiAuth.verifyApiKey tokenRequest
  dsimp only
  rw [bearer]
  dsimp only
  rw [verified]

-- The holder of one token sends it with two keys that authenticate nobody.
theorem varied_key_counted_apart : ¬tokenMiddleware.IdentityLimited [tokenRequest "a",tokenRequest "b"] := by
  intro given
  have parties := (tokenRequest_party "a").trans (tokenRequest_party "b").symm
  have one := given.1 (tokenRequest "a") (by simp) (tokenRequest "b") (by simp) (by decide) (by decide) parties
  exact absurd one (by decide +kernel)

end Varied
end RateLimitMiddleware
end RiskPulse
