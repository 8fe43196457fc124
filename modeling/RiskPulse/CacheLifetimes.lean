import RiskPulse.CacheHandler

namespace RiskPulse.CacheKeyspace
open CacheHandler
variable {limit : Nat}

-- A page has the key, and it is deleted if the call gets there.
def Deletes (pages : List ScanReply) (key : RedisText) : Prop := ∃ keys deleting, .page keys deleting ∈ pages ∧ key ∈ keys

-- The action writes the key, or may delete it.
def Touches (key : RedisText) : CacheAction limit → Prop
  | .setCustomerProfile id _ _ _ => key = prefixCustomerProfile ++ id
  | .invalidateCustomerProfile id _ => key = prefixCustomerProfile ++ id
  | .cacheRecentTransaction id _ _ _ => key = prefixRecentTransactions ++ id
  | .cachePrediction id _ _ _ => key = prefixModelPrediction ++ id
  | .incrementVelocityCounter customerId windowKey _ _ => key = velocityKey customerId windowKey
  | .acquireProcessingLock id _ _ => key = prefixLock ++ id
  | .releaseProcessingLock id _ => key = prefixLock ++ id
  | .bulkSetCustomerProfiles profiles _ _ => ∃ entry ∈ profiles, key = prefixCustomerProfile ++ entry.1
  | .bulkCacheTransactions transactions _ _ => ∃ entry ∈ transactions, key = prefixRecentTransactions ++ entry.1
  | .invalidateByPattern _ pages => Deletes pages key
  | .invalidateCustomerData id scan _ => ∃ pattern ∈ patterns id, key = pattern ∨ Deletes (scan pattern) key
  | .flushAllCaches scan => ∃ name ∈ prefixes, Deletes (scan (name ++ utf8 "*")) key
  | .writeAheadCache id _ _ _ => key = prefixDedup ++ id
  | .confirmWriteAhead id _ => key = prefixDedup ++ id
  | _ => False

def step (h : CacheTtls) (c : CacheKeyspace) (action : CacheAction h.recursionLimit) : CacheKeyspace := (perform h c action).2

def passing : CacheAction limit → Rat
  | .elapse time => time.val
  | _ => 0

def elapsed (actions : List (CacheAction limit)) : Rat := (actions.map passing).sum

section Kept
variable {key target : RedisText} {c d : CacheKeyspace} {s t u : ExpiringStore RedisText String}

-- The key is as it was, and no time has passed.
structure Kept (key : RedisText) (s t : ExpiringStore RedisText String) : Prop where
  entry : t.entries key = s.entries key
  now : t.now = s.now

theorem Kept.refl (key : RedisText) (s : ExpiringStore RedisText String) : Kept key s s := ⟨rfl,rfl⟩

theorem Kept.trans (first : Kept key s t) (second : Kept key t u) : Kept key s u := ⟨second.entry.trans first.entry,second.now.trans first.now⟩

theorem Kept.maybe (executed : Bool) (kept : Kept key c.store t) : Kept key c.store (if executed = true then {c with store := t} else c).store := by
  split
  · exact kept
  · exact .refl key c.store

theorem setex_kept (ttl : Int) (value : String) (other : key ≠ target) : Kept key s (setex target ttl value s) := by
  unfold setex
  split
  · exact ⟨ExpiringStore.entries_put_other _ _ _ other,rfl⟩
  · exact .refl key s

theorem del_kept (spared : key ∉ targets) : Kept key s (del targets s) := ⟨ExpiringStore.entries_kept _ (decide_eq_false spared),rfl⟩

theorem del_one (other : key ≠ target) : Kept key s (del [target] s) := del_kept fun member => other (List.mem_singleton.mp member)

theorem setDocument_kept (ttl : Int) (document : Json) (outcome : RedisOutcome) (other : key ≠ target) :
    Kept key c.store (setDocument target ttl document outcome c).2.store := by
  have left := (setex_kept ttl (Json.dumpsLine document) other).maybe (c := c) outcome.executed
  cases outcome with
  | answered =>
    unfold setDocument
    dsimp only
    split
    · exact left
    · exact left
  | raised executed => exact left

theorem getDocument_kept (limit : Nat) (outcome : RedisOutcome) : Kept key c.store (getDocument limit target outcome c).2.store := by
  cases outcome with
  | raised executed => exact .refl key c.store
  | answered =>
    unfold getDocument
    dsimp only
    split
    · exact .refl key c.store
    · split <;> exact .refl key c.store

theorem existsDocument_kept (outcome : RedisOutcome) : Kept key c.store (existsDocument target outcome c).2.store := by
  cases outcome with
  | raised executed => exact .refl key c.store
  | answered =>
    unfold existsDocument
    dsimp only
    split <;> exact .refl key c.store

theorem deleteDocument_kept (outcome : RedisOutcome) (other : key ≠ target) : Kept key c.store (deleteDocument target outcome c).2.store := by
  have left := (del_one other).maybe (c := c) outcome.executed
  cases outcome with
  | answered => exact left
  | raised executed => exact left

theorem sent_kept (place : RedisText → RedisText) (ttl : Int) (documents : List (RedisText × Json)) (others : ∀ entry ∈ documents, key ≠ place entry.1) :
    Kept key s (documents.foldl (fun s entry => setex (place entry.1) ttl (Json.dumpsLine entry.2) s) s) := by
  induction documents generalizing s with
  | nil => exact .refl key s
  | cons first rest ih =>
    obtain ⟨here,later⟩ := List.forall_mem_cons.mp others
    exact (setex_kept ttl _ here).trans (ih later)

theorem bulkSet_kept (place : RedisText → RedisText) (ttl : Int) (documents : List (RedisText × CacheDocument limit)) (outcome : PipelineOutcome)
    (others : ¬∃ entry ∈ documents, key = place entry.1) : Kept key c.store (bulkSet place ttl (values documents) outcome c).2.store := by
  have apart : ∀ entry ∈ values documents, key ≠ place entry.1 := by
    intro entry member same
    obtain ⟨given,present,rfl⟩ := List.mem_map.mp member
    exact others ⟨given,present,same⟩
  unfold bulkSet
  dsimp only
  split
  · exact .refl key c.store
  · cases outcome with
    | answered =>
      dsimp only
      split
      · exact sent_kept place ttl _ apart
      · exact sent_kept place ttl _ apart
    | raised executed => exact sent_kept place ttl _ fun entry member => apart entry (List.mem_of_mem_take member)

theorem expire_kept (value : String) (ttl : Int) (other : key ≠ target) : Kept key s (expire target value ttl s) := by
  unfold expire
  split
  · exact ⟨ExpiringStore.entries_put_other _ _ _ other,rfl⟩
  · exact del_one other

theorem increment_kept (customerId windowKey : RedisText) (ttl : Int) (outcome : RedisOutcome) (other : key ≠ velocityKey customerId windowKey) :
    Kept key c.store (incrementVelocityCounter customerId windowKey ttl outcome c).2.store := by
  have left : Kept key c.store (incrAndExpire (velocityKey customerId windowKey) ttl c.store).2 := by
    unfold incrAndExpire
    split
    · exact expire_kept _ _ other
    · split
      · exact expire_kept _ _ other
      · exact expire_kept _ _ other
  unfold incrementVelocityCounter
  dsimp only
  split
  · exact left
  · exact left
  · exact left.maybe _

theorem count_kept (customerId windowKey : RedisText) (outcome : RedisOutcome) : Kept key c.store (getVelocityCount customerId windowKey outcome c).2.store := by
  cases outcome with
  | raised executed => exact .refl key c.store
  | answered =>
    unfold getVelocityCount
    dsimp only
    split
    · exact .refl key c.store
    · split
      · exact .refl key c.store
      · split <;> exact .refl key c.store

theorem acquire_kept (id : RedisText) (lockTtl : Int) (outcome : LockOutcome) (other : key ≠ prefixLock ++ id) :
    Kept key c.store (acquireProcessingLock id lockTtl outcome c).2.store := by
  have put : Kept key c.store (c.store.put (prefixLock ++ id) "1" (c.store.now + lockTtl)) := ⟨ExpiringStore.entries_put_other _ _ _ other,rfl⟩
  cases outcome with
  | answered =>
    unfold acquireProcessingLock
    dsimp only
    split
    · exact put.maybe _
    · exact put.maybe _
  | raised executed => exact put.maybe _

theorem release_kept (id : RedisText) (outcome : LockOutcome) (other : key ≠ prefixLock ++ id) :
    Kept key c.store (releaseProcessingLock id outcome c).2.store := by
  cases outcome with
  | answered => exact (del_one other).maybe _
  | raised executed => exact (del_one other).maybe _

theorem invalidate_kept (c : CacheKeyspace) (pages : List ScanReply) (deleted : Nat) (spared : ¬Deletes pages key) :
    Kept key c.store (invalidateByPattern pages deleted c).2.store := by
  induction pages generalizing c deleted with
  | nil => exact .refl key c.store
  | cons page rest ih =>
    have later : ¬Deletes rest key := by
      rintro ⟨keys,deleting,member,taken⟩
      exact spared ⟨keys,deleting,List.mem_cons_of_mem _ member,taken⟩
    cases page with
    | raised => exact .refl key c.store
    | page keys deleting =>
      have here : Kept key c.store (del keys c.store) := del_kept fun taken => spared ⟨keys,deleting,List.mem_cons_self,taken⟩
      unfold invalidateByPattern
      split
      · exact ih c deleted later
      · cases deleting with
        | answered => exact here.trans (ih {c with store := del keys c.store} _ later)
        | raised executed => exact here.maybe executed

theorem forget_kept (customerId : RedisText) (scan : RedisText → List ScanReply) (deleting : RedisOutcome)
    (spared : ¬∃ pattern ∈ patterns customerId, key = pattern ∨ Deletes (scan pattern) key) :
    Kept key c.store (invalidateCustomerData customerId scan deleting c).2.store := by
  unfold invalidateCustomerData
  generalize patterns customerId = ps at spared
  suffices kept : ∀ r : Nat × CacheKeyspace, Kept key r.2.store (ps.foldl (fun r pattern =>
      let swept := if 42 ∈ pattern then invalidateByPattern (scan pattern) 0 r.2 else deletePattern pattern deleting r.2
      (r.1 + swept.1,swept.2)) r).2.store from kept (0,c)
  induction ps with
  | nil => exact fun r => .refl key r.2.store
  | cons pattern rest ih =>
    intro r
    have here : ¬(key = pattern ∨ Deletes (scan pattern) key) := fun some => spared ⟨pattern,List.mem_cons_self,some⟩
    refine Kept.trans ?_ (ih (fun later => spared (later.imp fun other both => ⟨List.mem_cons_of_mem _ both.1,both.2⟩)) _)
    dsimp only
    split
    · exact invalidate_kept r.2 _ 0 fun taken => here (.inr taken)
    · have left : Kept key r.2.store (del [pattern] r.2.store) := del_one fun same => here (.inl same)
      cases deleting with
      | answered => exact left
      | raised executed => exact left.maybe executed

theorem sweeps_kept (scan : RedisText → List ScanReply) (names : List RedisText) (c : CacheKeyspace)
    (spared : ¬∃ name ∈ names, Deletes (scan (name ++ utf8 "*")) key) :
    Kept key c.store (names.foldl (fun c name => (invalidateByPattern (scan (name ++ utf8 "*")) 0 c).2) c).store := by
  induction names generalizing c with
  | nil => exact .refl key c.store
  | cons name rest ih =>
    have here := invalidate_kept c (scan (name ++ utf8 "*")) 0 fun taken => spared ⟨name,List.mem_cons_self,taken⟩
    exact here.trans (ih _ fun later => spared (later.imp fun other both => ⟨List.mem_cons_of_mem _ both.1,both.2⟩))

end Kept

section Run
variable (h : CacheTtls)

-- What does not touch a key leaves it as it is while time passes.
theorem perform_untouched (c : CacheKeyspace) (action : CacheAction h.recursionLimit) (untouched : ¬Touches key action) :
    (perform h c action).2.store.entries key = c.store.entries key ∧ (perform h c action).2.store.now = c.store.now + passing action := by
  have still : Kept key c.store (perform h c action).2.store → passing action = 0 →
      (perform h c action).2.store.entries key = c.store.entries key ∧ (perform h c action).2.store.now = c.store.now + passing action := by
    intro kept none
    exact ⟨kept.entry,by rw [kept.now,none,add_zero]⟩
  cases action with
  | setCustomerProfile id profile ttl outcome => exact still (setDocument_kept _ _ outcome untouched) rfl
  | getCustomerProfile id outcome => exact still (getDocument_kept _ outcome) rfl
  | invalidateCustomerProfile id outcome => exact still (deleteDocument_kept outcome untouched) rfl
  | cacheRecentTransaction id data ttl outcome => exact still (setDocument_kept _ _ outcome untouched) rfl
  | isDuplicateTransaction id outcome => exact still (existsDocument_kept outcome) rfl
  | getRecentTransaction id outcome => exact still (getDocument_kept _ outcome) rfl
  | cachePrediction id prediction ttl outcome => exact still (setDocument_kept _ _ outcome untouched) rfl
  | getCachedPrediction id outcome => exact still (getDocument_kept _ outcome) rfl
  | incrementVelocityCounter customerId windowKey ttl outcome => exact still (increment_kept _ _ _ outcome untouched) rfl
  | getVelocityCount customerId windowKey outcome => exact still (count_kept _ _ outcome) rfl
  | acquireProcessingLock id lockTtl outcome => exact still (acquire_kept id lockTtl outcome untouched) rfl
  | releaseProcessingLock id outcome => exact still (release_kept id outcome untouched) rfl
  | bulkSetCustomerProfiles profiles ttl outcome => exact still (bulkSet_kept _ _ profiles outcome untouched) rfl
  | bulkCacheTransactions transactions ttl outcome => exact still (bulkSet_kept _ _ transactions outcome untouched) rfl
  | invalidateByPattern pattern pages => exact still (invalidate_kept c pages 0 untouched) rfl
  | invalidateCustomerData id scan deleting => exact still (forget_kept id scan deleting untouched) rfl
  | flushAllCaches scan => exact still (sweeps_kept scan prefixes c untouched) rfl
  | writeAheadCache id data ttl outcome => exact still (setDocument_kept _ _ outcome untouched) rfl
  | getWriteAheadData id outcome => exact still (getDocument_kept _ outcome) rfl
  | confirmWriteAhead id outcome => exact still (deleteDocument_kept outcome untouched) rfl
  | resetMetrics => exact still (.refl key c.store) rfl
  | elapse time => exact ⟨rfl,rfl⟩

theorem run_untouched (c : CacheKeyspace) (actions : List (CacheAction h.recursionLimit)) (untouched : ∀ action ∈ actions, ¬Touches key action) :
    (Runs.run (step h) c actions).store.entries key = c.store.entries key ∧
      (Runs.run (step h) c actions).store.now = c.store.now + elapsed actions := by
  induction actions generalizing c with
  | nil => exact ⟨rfl,(add_zero _).symm⟩
  | cons action rest ih =>
    obtain ⟨entry,now⟩ := perform_untouched h c action (untouched action List.mem_cons_self)
    obtain ⟨later,last⟩ := ih (step h c action) fun other member => untouched other (List.mem_cons_of_mem _ member)
    refine ⟨later.trans entry,last.trans ?_⟩
    rw [step,now,add_assoc]
    rfl

inductive DocumentKind where
  | customerProfile
  | recentTransaction
  | modelPrediction
  | writeAhead

def documentKey (id : RedisText) : DocumentKind → RedisText
  | .customerProfile => prefixCustomerProfile ++ id
  | .recentTransaction => prefixRecentTransactions ++ id
  | .modelPrediction => prefixModelPrediction ++ id
  | .writeAhead => prefixDedup ++ id

def storing (kind : DocumentKind) (id : RedisText) (document : CacheDocument limit) (seconds : Int) (outcome : RedisOutcome) : CacheAction limit :=
  match kind with
  | .customerProfile => .setCustomerProfile id document (some seconds) outcome
  | .recentTransaction => .cacheRecentTransaction id document (some seconds) outcome
  | .modelPrediction => .cachePrediction id document (some seconds) outcome
  | .writeAhead => .writeAheadCache id document seconds outcome

def reading (kind : DocumentKind) (id : RedisText) (outcome : RedisOutcome) : CacheAction limit :=
  match kind with
  | .customerProfile => .getCustomerProfile id outcome
  | .recentTransaction => .getRecentTransaction id outcome
  | .modelPrediction => .getCachedPrediction id outcome
  | .writeAhead => .getWriteAheadData id outcome

theorem storing_set (c : CacheKeyspace) (kind : DocumentKind) (id : RedisText) (document : CacheDocument h.recursionLimit) (outcome : RedisOutcome)
    (some : seconds ≠ 0) : perform h c (storing kind id document seconds outcome : CacheAction h.recursionLimit) =
      setDocument (documentKey id kind) seconds document.value outcome c := by
  have given : ∀ configured, effectiveTtl (Option.some seconds) configured = seconds := fun configured => if_neg some
  cases kind with
  | customerProfile => exact congrArg (setDocument _ · _ _ c) (given _)
  | recentTransaction => exact congrArg (setDocument _ · _ _ c) (given _)
  | modelPrediction => exact congrArg (setDocument _ · _ _ c) (given _)
  | writeAhead => rfl

theorem reading_get (c : CacheKeyspace) (kind : DocumentKind) (id : RedisText) (outcome : RedisOutcome) :
    perform h c (reading kind id outcome : CacheAction h.recursionLimit) = getDocument h.recursionLimit (documentKey id kind) outcome c := by
  cases kind with
  | customerProfile => rfl
  | recentTransaction => rfl
  | modelPrediction => rfl
  | writeAhead => rfl

theorem setDocument_stores (c : CacheKeyspace) (document : Json) (positive : 0 < ttl) (executed : outcome.executed = true) :
    (setDocument key ttl document outcome c).2.store = c.store.put key (Json.dumpsLine document) (c.store.now + ttl) := by
  have put : setex key ttl (Json.dumpsLine document) c.store = c.store.put key (Json.dumpsLine document) (c.store.now + ttl) := if_pos positive
  unfold setDocument
  cases outcome with
  | answered =>
    simp only [RedisOutcome.executed,if_pos positive,put]
    rfl
  | raised carried =>
    cases executed
    exact put

-- A document that the server has stored is read until its time to live is over, whatever
-- else the handler is asked and however Redis fails it meanwhile.
theorem document_lifetime (c : CacheKeyspace) (kind : DocumentKind) (id : RedisText) (document : CacheDocument h.recursionLimit) (seconds : Int)
    (outcome : RedisOutcome) (later : List (CacheAction h.recursionLimit)) (positive : 0 < seconds) (executed : outcome.executed = true)
    (untouched : ∀ action ∈ later, ¬Touches (documentKey id kind) action) :
    (perform h (Runs.run (step h) c (storing kind id document seconds outcome :: later))
      (reading kind id .answered : CacheAction h.recursionLimit)).1 = .document (if elapsed later < seconds then some document.value else none) := by
  have stored : (step h c (storing kind id document seconds outcome)).store =
      c.store.put (documentKey id kind) (Json.dumpsLine document.value) (c.store.now + seconds) := by
    rw [step,storing_set h c kind id document outcome positive.ne']
    exact setDocument_stores c document.value positive executed
  obtain ⟨entry,now⟩ := run_untouched h (step h c (storing kind id document seconds outcome)) later untouched
  rw [stored] at entry now
  rw [ExpiringStore.entries_put] at entry
  have loaded := Json.loads_dumpsLine document.value document.fits h.recursionLimit document.shallow
  rw [reading_get]
  change (getDocument _ _ _ (Runs.run (step h) (step h c (storing kind id document seconds outcome)) later)).1 = _
  unfold getDocument ExpiringStore.get?
  dsimp only
  rw [entry,now]
  have sooner : c.store.now + elapsed later < c.store.now + seconds ↔ elapsed later < seconds := add_lt_add_iff_left _
  by_cases within : elapsed later < seconds
  · have fresh : (c.store.put (documentKey id kind) (Json.dumpsLine document.value) (c.store.now + seconds)).now + elapsed later <
        c.store.now + seconds := sooner.mpr within
    simp only [if_pos fresh,if_pos within,loaded]
  · have expired : ¬(c.store.put (documentKey id kind) (Json.dumpsLine document.value) (c.store.now + seconds)).now + elapsed later <
        c.store.now + seconds := mt sooner.mp within
    simp only [if_neg expired,if_neg within]

end Run

-- The shipped times to live and Python's recursion limit, and a profile that is stored
-- though the call has failed, next to one that is invalidated.
def shipped : CacheTtls := ⟨300,3600,60,1000⟩

def highRisk : CacheDocument shipped.recursionLimit := ⟨.object [("risk_tier",.str "HIGH")],by decide,by decide⟩

def otherInvalidated : List (CacheAction shipped.recursionLimit) :=
  [.invalidateCustomerProfile (utf8 "CUST-002") .answered,.elapse ⟨299,by decide⟩]

theorem profile_lives : (perform shipped (Runs.run (step shipped) ⟨.empty 0,.reset⟩
    (storing .customerProfile (utf8 "CUST-001") highRisk 300 (.raised true) :: otherInvalidated))
      (reading .customerProfile (utf8 "CUST-001") .answered : CacheAction shipped.recursionLimit)).1 = .document (some highRisk.value) := by
  have spared : ∀ action ∈ otherInvalidated, ¬Touches (documentKey (utf8 "CUST-001") .customerProfile) action := by
    intro action member
    rcases List.mem_cons.mp member with rfl | member
    · exact fun same => absurd (List.append_cancel_left same) (by decide)
    · rw [List.mem_singleton.mp member]
      exact fun touched => touched
  have within : elapsed otherInvalidated < (300 : Int) := by decide +kernel
  rw [document_lifetime shipped _ .customerProfile (utf8 "CUST-001") highRisk 300 (.raised true) otherInvalidated (by decide) rfl spared,if_pos within]

-- A key of another program in the same database.
def Foreign (key : RedisText) : Prop := ∀ name ∈ prefixes, ¬name <+: key

def Selected (pattern : RedisText) (pages : List ScanReply) : Prop :=
  ∀ keys deleting, .page keys deleting ∈ pages → ∀ key ∈ keys, Glob.selects pattern key = true

-- The server scans for what it is asked for, and that begins as the keys of the handler do.
def Honoured : CacheAction limit → Prop
  | .invalidateByPattern pattern pages => (∃ name ∈ prefixes, name <+: pattern) ∧ Selected pattern pages
  | .invalidateCustomerData _ scan _ => ∀ pattern, Selected pattern (scan pattern)
  | .flushAllCaches scan => ∀ pattern, Selected pattern (scan pattern)
  | _ => True

theorem selected_own (foreign : Foreign key) (selected : Selected pattern pages) (begins : ∃ name ∈ prefixes, name <+: pattern) : ¬Deletes pages key := by
  rintro ⟨keys,deleting,page,member⟩
  obtain ⟨name,listed,rest,rfl⟩ := begins
  have plain : ∀ name ∈ prefixes, Glob.Plain name := by decide +kernel
  exact foreign name listed (Glob.selects_begins (plain name listed) (selected keys deleting page key member))

theorem patterns_begin (customerId : RedisText) : ∀ pattern ∈ patterns customerId, ∃ name ∈ prefixes, name <+: pattern := by
  intro pattern member
  rcases List.mem_cons.mp member with rfl | member
  · exact ⟨prefixCustomerProfile,by decide,List.prefix_append _ _⟩
  · rw [List.mem_singleton.mp member,List.append_assoc]
    exact ⟨prefixVelocity,by decide,List.prefix_append _ _⟩

-- Every key that an action writes or deletes begins with one of the six prefixes.
theorem foreign_untouched (foreign : Foreign key) (action : CacheAction limit) (honoured : Honoured action) : ¬Touches key action := by
  have own : ∀ {name id}, name ∈ prefixes → key ≠ name ++ id := fun listed same => foreign _ listed ⟨_,same.symm⟩
  cases action with
  | setCustomerProfile _ _ _ _ => exact own (by decide)
  | invalidateCustomerProfile _ _ => exact own (by decide)
  | cacheRecentTransaction _ _ _ _ => exact own (by decide)
  | cachePrediction _ _ _ _ => exact own (by decide)
  | incrementVelocityCounter customerId windowKey _ _ =>
    have parts : velocityKey customerId windowKey = prefixVelocity ++ (customerId ++ utf8 ":" ++ windowKey) := by simp [velocityKey]
    exact fun same => own (by decide) (same.trans parts)
  | acquireProcessingLock _ _ _ => exact own (by decide)
  | releaseProcessingLock _ _ => exact own (by decide)
  | bulkSetCustomerProfiles _ _ _ =>
    rintro ⟨entry,_,same⟩
    exact own (by decide) same
  | bulkCacheTransactions _ _ _ =>
    rintro ⟨entry,_,same⟩
    exact own (by decide) same
  | invalidateByPattern _ _ => exact selected_own foreign honoured.2 honoured.1
  | invalidateCustomerData id scan _ =>
    rintro ⟨pattern,listed,rfl | taken⟩
    · obtain ⟨name,member,begins⟩ := patterns_begin id key listed
      exact foreign name member begins
    · exact selected_own foreign (honoured pattern) (patterns_begin id pattern listed) taken
  | flushAllCaches scan =>
    rintro ⟨name,listed,taken⟩
    exact selected_own foreign (honoured _) ⟨name,listed,List.prefix_append _ _⟩ taken
  | writeAheadCache _ _ _ _ => exact own (by decide)
  | confirmWriteAhead _ _ => exact own (by decide)
  | _ => exact fun touched => touched

-- Whatever the handler is asked and however Redis fails it, a key of another program stays.
theorem foreign_kept (h : CacheTtls) (c : CacheKeyspace) (actions : List (CacheAction h.recursionLimit))
    (honoured : ∀ action ∈ actions, Honoured action) (key : RedisText) (foreign : Foreign key) :
    (Runs.run (step h) c actions).store.entries key = c.store.entries key :=
  (run_untouched h c actions fun action member => foreign_untouched foreign action (honoured action member)).1

-- The key of a client's rate limit, through a flush that fails half way.
theorem rate_key_kept : (Runs.run (step shipped)
    ⟨(ExpiringStore.empty 0).put (utf8 "rate_limit:ip:10.0.0.1") "4" 60,.reset⟩
      ([.flushAllCaches fun pattern => if pattern = utf8 "cp:*" then [.page [utf8 "cp:CUST-001"] (.raised true)] else []] :
        List (CacheAction shipped.recursionLimit))).store.entries (utf8 "rate_limit:ip:10.0.0.1") = some ("4",60) := by
  have foreign : Foreign (utf8 "rate_limit:ip:10.0.0.1") := by
    unfold Foreign
    decide
  rw [foreign_kept shipped _ _ ?_ (utf8 "rate_limit:ip:10.0.0.1") foreign]
  · exact ExpiringStore.entries_put _ _ _ _
  · intro action member
    rw [List.mem_singleton.mp member]
    intro pattern keys deleting page key inside
    dsimp only at page
    split at page
    · rename_i same
      cases List.mem_singleton.mp page
      rw [List.mem_singleton.mp inside,same]
      decide
    · cases page

end RiskPulse.CacheKeyspace
