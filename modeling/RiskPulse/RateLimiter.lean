import Mathlib.Algebra.Order.Field.Rat
import Mathlib.Data.Rat.Floor
import RiskPulse.Library.Interleaving
import RiskPulse.Library.OrderedDict

namespace RiskPulse
open Interleaved

-- The digits of a fresh uuid are unlike those of any other.
structure RedisRateLimiter where
  defaultRate : Int
  windowSeconds : Int
  failOpen : Bool
  uuid4 : Nat → String
  distinct : Function.Injective uuid4

-- The sorted set of one key: the score of each member, and when the key expires.
structure SortedSetKey where
  scores : OrderedDict String Rat
  expiresAt : Option Rat

namespace SortedSetKey

def absent : SortedSetKey := ⟨.empty,none⟩

-- The key as a command finds it: gone when its time is up.
def found (now : Rat) (key : SortedSetKey) : SortedSetKey :=
  match key.expiresAt with
  | some deadline => if deadline ≤ now then absent else key
  | none => key

def zremrangebyscore (low high : Rat) (key : SortedSetKey) : SortedSetKey :=
  {key with scores := ⟨key.scores.entries.filter fun entry => !decide (low ≤ entry.2 ∧ entry.2 ≤ high),
    key.scores.unique.sublist (List.filter_sublist.map Prod.fst)⟩}

def zcard (key : SortedSetKey) : Nat := key.scores.entries.length

def zadd (member : String) (score : Rat) (key : SortedSetKey) : SortedSetKey := {key with scores := key.scores.set member score}

def zrem (member : String) (key : SortedSetKey) : SortedSetKey := {key with scores := key.scores.erase member}

-- A key whose time to live is not positive is deleted at once.
def expire (now : Rat) (seconds : Int) (key : SortedSetKey) : SortedSetKey :=
  if seconds ≤ 0 then absent else {key with expiresAt := some (now + seconds)}

-- The score that zrange 0 0 withscores reports.
def lowest (key : SortedSetKey) : Option Rat := (key.scores.entries.map Prod.snd).min?

end SortedSetKey

-- What is_allowed returns, with the member and the time the call has written.
structure RateReply where
  member : String
  stamp : Rat
  allowed : Bool
  remaining : Int
  retryAfter : Int

-- The key in Redis, the clock, the uuids drawn so far, and what the calls have returned.
structure RateState where
  key : SortedSetKey
  now : Rat
  issued : Nat
  replies : List RateReply

inductive RateEvent where
  | isAllowed (customRate : Option Int)
  | elapse (time : {q : Rat // 0 ≤ q})

-- The two commands of a call. The second one is of a call that is denied.
inductive RateTask where
  | pipeline (customRate : Option Int)
  | zrem (member : String) (stamp : Rat) (rateLimit : Int) (oldest : Rat)

-- A command that raises may have been executed by the server all the same.
inductive RedisOutcome where
  | answered
  | raised (executed : Bool)

namespace RedisRateLimiter
variable (c : RedisRateLimiter)

def rateLimit (customRate : Option Int) : Int :=
  match customRate with
  | some rate => if rate = 0 then c.defaultRate else rate
  | none => c.defaultRate

-- The key once the entries that have left the window are removed.
def trimmed (s : RateState) : SortedSetKey := (s.key.found s.now).zremrangebyscore 0 (s.now - c.windowSeconds)

def written (s : RateState) : SortedSetKey :=
  ((c.trimmed s).zadd (c.uuid4 s.issued) s.now).expire s.now (c.windowSeconds + 1)

def failed (member : String) (stamp : Rat) (rateLimit : Int) : RateReply :=
  if c.failOpen then ⟨member,stamp,true,rateLimit,0⟩ else ⟨member,stamp,false,0,c.windowSeconds⟩

def reply (s : RateState) (r : RateReply) : RateState := {s with replies := s.replies ++ [r]}

def exec : RateTask → RedisOutcome → RateState → RateState × Option (List RateTask)
  | .pipeline customRate,outcome,s =>
    let limit := c.rateLimit customRate
    let member := c.uuid4 s.issued
    let ran := {s with key := c.written s, issued := s.issued + 1}
    match outcome with
    | .answered =>
      if limit ≤ (c.trimmed s).zcard then (ran,some [.zrem member s.now limit ((c.written s).lowest.getD s.now)])
      else (reply ran ⟨member,s.now,true,max 0 (limit - (c.trimmed s).zcard - 1),0⟩,some [])
    | .raised executed =>
      (reply (if executed then ran else {s with issued := s.issued + 1}) (c.failed member s.now limit),some [])
  | .zrem member stamp limit oldest,outcome,s =>
    let removed := {s with key := (s.key.found s.now).zrem member}
    match outcome with
    | .answered => (reply removed ⟨member,stamp,false,0,max 1 ⌈oldest + c.windowSeconds - stamp⌉⟩,some [])
    | .raised executed => (reply (if executed then removed else s) (c.failed member stamp limit),some [])

def event : RateEvent → RateState → RateState × List RateTask
  | .isAllowed customRate,s => (s,[.pipeline customRate])
  | .elapse time,s => ({s with now := s.now + time.val},[])

def limiter : Interleaved RateState RateTask RedisOutcome RateEvent := ⟨c.exec,event⟩

-- No call has been made, and the clock is at its epoch or later.
def idle : Pool RateState RateTask := ⟨⟨.absent,0,0,[]⟩,[]⟩

end RedisRateLimiter
end RiskPulse
