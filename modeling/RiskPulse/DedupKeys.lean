import Mathlib.Data.Finset.Card
import RiskPulse.DataCleaner
import RiskPulse.Library.Recency
import RiskPulse.Library.Runs

namespace RiskPulse.LRUDedup

-- One call, at the time it is made.
def step (dedup : LRUDedup) (call : String × Rat) : LRUDedup := (dedup.checkAndAdd call.1 call.2).2

-- The cache after a sequence of calls on a fresh one.
def after (maxSize : Int) (calls : List (String × Rat)) : LRUDedup := Runs.run step (fresh maxSize) calls

-- The cache holds the keys used last, the one used least recently first.
structure HoldsRecent (size : Nat) (dedup : LRUDedup) (history : List String) : Prop where
  room : dedup.maxSize = size + 1
  keys : dedup.cache.keys.reverse = Recency.kept (size + 1) history

section Step
variable {size : Nat} {dedup : LRUDedup} {history : List String}

theorem HoldsRecent.mem (holds : HoldsRecent size dedup history) (key : String) :
    key ∈ dedup.cache.keys ↔ key ∈ Recency.kept (size + 1) history := by
  rw [← holds.keys,List.mem_reverse]

theorem HoldsRecent.hit (holds : HoldsRecent size dedup history) (held : key ∈ dedup.cache.keys) :
    (dedup.cache.moveToEnd key).keys.reverse = Recency.kept (size + 1) (history ++ [key]) := by
  rw [OrderedDict.keys_moveToEnd _ _ held,List.reverse_append,List.reverse_singleton,List.singleton_append,← List.filter_reverse,
    holds.keys,Recency.kept_hit _ _ _ ((holds.mem key).mp held)]

theorem HoldsRecent.miss (holds : HoldsRecent size dedup history) (absent : key ∉ dedup.cache.keys) (now : Rat) :
    (if ((dedup.cache.set key now).entries.length : Int) > dedup.maxSize then (dedup.cache.set key now).popFirst
      else dedup.cache.set key now).keys.reverse = Recency.kept (size + 1) (history ++ [key]) := by
  have added : (dedup.cache.set key now).keys.reverse = key :: Recency.kept (size + 1) history := by
    rw [OrderedDict.keys_set_fresh _ _ _ absent,List.reverse_append,holds.keys]
    rfl
  have counted : (dedup.cache.set key now).entries.length = (Recency.kept (size + 1) history).length + 1 := by
    have same := congrArg List.length added
    rwa [List.length_reverse,OrderedDict.keys,List.length_map] at same
  have most := Recency.kept_length (size + 1) history
  rw [Recency.kept_miss _ _ _ (mt (holds.mem key).mpr absent),holds.room]
  split
  · rename_i crowded
    have full : (Recency.kept (size + 1) history).length = size + 1 := by omega
    have first : (dedup.cache.set key now).popFirst.keys = (dedup.cache.set key now).keys.tail := List.map_tail
    rw [first,← List.dropLast_reverse,added,List.dropLast_eq_take,List.length_cons,full]
    rfl
  · rename_i under
    rw [added,List.take_of_length_le (by rw [List.length_cons]; omega)]

theorem HoldsRecent.call (holds : HoldsRecent size dedup history) (call : String × Rat) :
    HoldsRecent size (dedup.step call) (history ++ [call.1]) := by
  unfold step checkAndAdd
  split
  · rename_i held
    exact ⟨holds.room,holds.hit held⟩
  · rename_i absent
    exact ⟨holds.room,holds.miss absent call.2⟩

end Step

theorem after_recent (size : Nat) (calls : List (String × Rat)) :
    HoldsRecent size (after (size + 1) calls) (calls.map Prod.fst) := by
  have runs : ∀ (calls : List (String × Rat)) (dedup : LRUDedup) (history : List String), HoldsRecent size dedup history →
      HoldsRecent size (Runs.run step dedup calls) (history ++ calls.map Prod.fst) := by
    intro calls
    induction calls with
    | nil =>
      intro dedup history holds
      rw [List.map_nil,List.append_nil]
      exact holds
    | cons call rest ih =>
      intro dedup history holds
      have next := ih (dedup.step call) (history ++ [call.1]) (holds.call call)
      rw [List.append_assoc] at next
      exact next
  exact runs calls (fresh (size + 1)) [] ⟨rfl,by rfl⟩

-- A call says duplicate exactly when its key came before and fewer than so many other
-- keys came since, and the cache keeps to its size.
theorem dedup_law (maxSize : Int) (positive : 1 ≤ maxSize) (calls : List (String × Rat)) :
    (∀ key now, ((after maxSize calls).checkAndAdd key now).1 = true ↔
      ∃ earlier since, calls.map Prod.fst = earlier ++ key :: since ∧ key ∉ since ∧ (since.toFinset.card : Int) < maxSize) ∧
    ((after maxSize calls).cache.entries.length : Int) ≤ maxSize := by
  obtain ⟨size,same⟩ : ∃ size : Nat, maxSize = size + 1 := ⟨(maxSize - 1).toNat,by omega⟩
  subst same
  have holds := after_recent size calls
  constructor
  · intro key now
    rw [checkAndAdd_duplicate,holds.mem,Recency.mem_kept]
    simp only [List.card_toFinset]
    norm_cast
  · have most := Recency.kept_length (size + 1) (calls.map Prod.fst)
    rw [← holds.keys,List.length_reverse,OrderedDict.keys,List.length_map] at most
    exact_mod_cast most

theorem dedup_law_two : (1 : Int) ≤ 2 ∧ (((after 2 [("a",0),("b",1),("a",2),("c",3)]).checkAndAdd "a" 4).1 = true ↔
    ∃ earlier since, ["a","b","a","c"] = earlier ++ "a" :: since ∧ "a" ∉ since ∧ (since.toFinset.card : Int) < 2) ∧
    ((after 2 [("a",0),("b",1),("a",2),("c",3)]).checkAndAdd "a" 4).1 = true := by
  have law := dedup_law 2 (by decide) [("a",0),("b",1),("a",2),("c",3)]
  exact ⟨by decide,law.1 "a" 4,by decide⟩

end RiskPulse.LRUDedup

namespace RiskPulse
namespace DataCleaner

-- The text of a field between its separators.
def pieces (text : KeyText) (record : Record) (field : String) : List (List Char) :=
  (keyPart text record field).toList.splitOn '|'

-- Two joined texts are the same when their pieces between the separators are.
theorem splitOn_joined (separator : Char) (parts : List (List Char)) (some : parts ≠ []) :
    ([separator].intercalate parts).splitOn separator = parts.flatMap fun part => part.splitOn separator := by
  induction parts with
  | nil => exact absurd rfl some
  | cons first rest ih =>
    cases rest with
    | nil => rw [List.intercalate_singleton,List.flatMap_cons,List.flatMap_nil,List.append_nil]
    | cons second rest =>
      have later := ih (List.cons_ne_nil _ _)
      rw [List.intercalate_cons_cons,List.append_assoc,List.singleton_append,List.splitOn_append_cons_self,later]
      rfl

theorem splitOn_injective (separator : Char) : Function.Injective fun part : List Char => part.splitOn separator := by
  intro a b same
  have back := congrArg [separator].intercalate same
  simpa only [List.intercalate_splitOn] using back

-- Two parts of a list of pieces are told apart when each field has as many in both.
theorem flatMap_split {α β : Type} (f g : α → List β) (items : List α) (sizes : ∀ a ∈ items, (f a).length = (g a).length)
    (same : items.flatMap f = items.flatMap g) : ∀ a ∈ items, f a = g a := by
  induction items with
  | nil => exact fun _ member => by cases member
  | cons first rest ih =>
    obtain ⟨here,others⟩ := List.forall_mem_cons.mp sizes
    rw [List.flatMap_cons,List.flatMap_cons] at same
    obtain ⟨equal,later⟩ := List.append_inj same here
    exact List.forall_mem_cons.mpr ⟨equal,ih others later⟩

def Agree (text : KeyText) (fields : List String) (record other : Record) : Prop :=
  ∀ field ∈ fields, keyPart text record field = keyPart text other field

-- In each field one has as many separators as the other, or the pieces differ anyway.
def Separated (text : KeyText) (fields : List String) (record other : Record) : Prop :=
  (∀ field ∈ fields, (pieces text record field).length = (pieces text other field).length) ∨
    fields.flatMap (pieces text record) ≠ fields.flatMap (pieces text other)

theorem key_pieces (cleaner : DataCleaner) (injective : Function.Injective cleaner.text.sha256) (some : cleaner.idempotencyFields ≠ [])
    (record other : Record) : computeDedupKey cleaner record = computeDedupKey cleaner other ↔
      cleaner.idempotencyFields.flatMap (pieces cleaner.text record) = cleaner.idempotencyFields.flatMap (pieces cleaner.text other) := by
  have split : ∀ r, ("|".intercalate (cleaner.idempotencyFields.map (keyPart cleaner.text r))).toList.splitOn '|' =
      cleaner.idempotencyFields.flatMap (pieces cleaner.text r) := by
    intro r
    rw [String.toList_intercalate,List.map_map]
    change (['|'].intercalate _).splitOn '|' = _
    rw [splitOn_joined '|' _ (by simpa using some),List.flatMap_map]
    rfl
  rw [computeDedupKey,computeDedupKey,injective.eq_iff,← String.toList_inj,← (splitOn_injective '|').eq_iff]
  change (String.toList _).splitOn '|' = (String.toList _).splitOn '|' ↔ _
  rw [split,split]

-- The key tells two records apart exactly when no field of one has a separator that is a
-- boundary between fields in the other.
theorem dedup_key (cleaner : DataCleaner) (injective : Function.Injective cleaner.text.sha256) (record other : Record) :
    (computeDedupKey cleaner record = computeDedupKey cleaner other → Agree cleaner.text cleaner.idempotencyFields record other) ↔
      Separated cleaner.text cleaner.idempotencyFields record other := by
  by_cases filled : cleaner.idempotencyFields = []
  · rw [filled]
    constructor
    · exact fun _ => .inl fun _ member => by cases member
    · exact fun _ _ _ member => by cases member
  · rw [key_pieces cleaner injective filled]
    constructor
    · intro told
      by_cases same : cleaner.idempotencyFields.flatMap (pieces cleaner.text record) =
          cleaner.idempotencyFields.flatMap (pieces cleaner.text other)
      · left
        intro field member
        rw [pieces,pieces,told same field member]
      · exact .inr same
    · intro separated same field member
      rcases separated with sizes | different
      · have equal := flatMap_split _ _ _ sizes same field member
        exact String.toList_inj.mp (splitOn_injective '|' equal)
      · exact absurd same different

theorem all_ones (sizes : List Nat) (filled : ∀ n ∈ sizes, 1 ≤ n) (total : sizes.sum = sizes.length) : ∀ n ∈ sizes, n = 1 := by
  induction sizes with
  | nil => exact fun _ member => by cases member
  | cons first rest ih =>
    obtain ⟨here,others⟩ := List.forall_mem_cons.mp filled
    have least := List.length_le_sum_of_one_le rest others
    rw [List.sum_cons,List.length_cons] at total
    exact List.forall_mem_cons.mpr ⟨by omega,ih others (by omega)⟩

-- A record without a separator in its fields shares its key with none that disagrees.
theorem plain_separated (text : KeyText) (fields : List String) (record other : Record)
    (plain : ∀ field ∈ fields, '|' ∉ (keyPart text record field).toList) : Separated text fields record other := by
  by_cases same : fields.flatMap (pieces text record) = fields.flatMap (pieces text other)
  · left
    have single : ∀ field ∈ fields, (pieces text record field).length = 1 := by
      intro field member
      rw [pieces,List.splitOn_eq_singleton (plain field member)]
      rfl
    have filled : ∀ n ∈ fields.map fun field => (pieces text other field).length, 1 ≤ n := by
      intro n member
      obtain ⟨field,_,rfl⟩ := List.mem_map.mp member
      exact List.length_pos_of_ne_nil (List.splitOn_ne_nil _ _)
    have total := congrArg List.length same
    rw [List.length_flatMap,List.length_flatMap,List.map_congr_left single,List.map_const',List.sum_replicate_nat,
      Nat.mul_one] at total
    have ones := all_ones _ filled (by rw [← total,List.length_map])
    intro field member
    rw [single field member,ones _ (List.mem_map_of_mem member)]
  · exact .inr same

def plainCleaner : DataCleaner :=
  ⟨plainText,defaultIdempotencyFields,(fun r => .ok (r,[])),(fun r => .ok (r,[])),(fun r => .ok (r,[])),(fun r => .ok (r,[])),
    (fun r => .ok (r,[])),(fun r => .ok (r,[])),(fun r => .ok (r,[]))⟩

def identified (externalId account : String) : Record :=
  .ofList [("external_transaction_id",.str externalId),("account_id",.str account)]

theorem dedup_key_identified :
    (computeDedupKey plainCleaner (identified "t1" "a1") = computeDedupKey plainCleaner (identified "t2" "a1") →
      Agree plainText defaultIdempotencyFields (identified "t1" "a1") (identified "t2" "a1")) ↔
      Separated plainText defaultIdempotencyFields (identified "t1" "a1") (identified "t2" "a1") :=
  dedup_key plainCleaner Function.injective_id _ _

-- Transaction a|b of account c and transaction a of account b|c have one key.
theorem separator_collides :
    computeDedupKey plainCleaner (identified "a|b" "c") = computeDedupKey plainCleaner (identified "a" "b|c") ∧
      ¬Agree plainText defaultIdempotencyFields (identified "a|b" "c") (identified "a" "b|c") := by
  refine ⟨by decide +kernel,?_⟩
  intro agree
  have same := agree "external_transaction_id" List.mem_cons_self
  revert same
  decide +kernel

end DataCleaner
end RiskPulse
