import RiskPulse.Library.OrderedDict

-- Steps over a dictionary that treat each of its keys by itself. An absent key counts as one
-- with the missing value.
namespace OrderedDict
variable {κ α ε ν : Type} [DecidableEq κ] (missing : α)

-- A step returns where the pass does for every key, and the pass says what it leaves there. It
-- keeps the keys, in their order, and sees to it that those it adds are there.
structure ByKey (added : List κ) (pass : κ → α → Except ε α) (step : OrderedDict κ α → Except ε (OrderedDict κ α × List ν)) : Prop where
  values : ∀ d after notes, step d = .ok (after,notes) → ∀ k, pass k (d.getD k missing) = .ok (after.getD k missing)
  keys : ∀ d after notes, step d = .ok (after,notes) →
    ∃ more, after.keys = d.keys ++ more ∧ (∀ k ∈ more, k ∈ added) ∧ ∀ k ∈ added, k ∈ after.keys
  returns : ∀ d, (∀ k, ∃ v, pass k (d.getD k missing) = .ok v) → ∃ out, step d = .ok out

theorem entries_getD (d : OrderedDict κ α) : d.entries = d.keys.map fun k => (k,d.getD k missing) := by
  rw [keys,List.map_map]
  conv_lhs => rw [← List.map_id d.entries]
  apply List.map_congr_left
  rintro ⟨k,v⟩ member
  have found := (get?_entry d k v).mp member
  rw [Function.comp_apply,getD,found]
  rfl

theorem same_values {d other : OrderedDict κ α} (keys : d.keys = other.keys) (values : ∀ k, d.getD k missing = other.getD k missing) :
    d = other := by
  apply entries_injective
  rw [entries_getD missing d,entries_getD missing other,keys]
  simp only [values]

section Rerun
variable {missing} {added : List κ} {pass : κ → α → Except ε α} {step : OrderedDict κ α → Except ε (OrderedDict κ α × List ν)}

theorem ByKey.congr (byKey : ByKey missing added pass step) {other : κ → α → Except ε α} (same : ∀ k v, pass k v = other k v) :
    ByKey missing added other step := by
  have equal : pass = other := funext fun k => funext (same k)
  rwa [← equal]

-- What a step has left is left alone by a second run exactly where the pass leaves each value.
theorem ByKey.rerun (byKey : ByKey missing added pass step) {d after : OrderedDict κ α} {notes : List ν} (ran : step d = .ok (after,notes)) :
    (∃ again, step after = .ok (after,again)) ↔ ∀ k, pass k (after.getD k missing) = .ok (after.getD k missing) := by
  constructor
  · rintro ⟨again,second⟩
    exact byKey.values after after again second
  · intro kept
    obtain ⟨⟨later,again⟩,second⟩ := byKey.returns after fun k => ⟨_,kept k⟩
    obtain ⟨_,_,_,present⟩ := byKey.keys d after notes ran
    obtain ⟨more,keys,inside,_⟩ := byKey.keys after later again second
    have none : more = [] := by
      rw [List.eq_nil_iff_forall_not_mem]
      intro k member
      have unique := later.unique
      change later.keys.Nodup at unique
      rw [keys,List.nodup_append] at unique
      exact unique.2.2 k (present k (inside k member)) k member rfl
    rw [none,List.append_nil] at keys
    have same : later = after := by
      apply same_values missing keys
      intro k
      have value := byKey.values after later again second k
      rw [kept k] at value
      exact (Except.ok.inj value).symm
    rw [same] at second
    exact ⟨again,second⟩

end Rerun

section Sequence

-- One step after another, with the notes of both.
def andThen (step next : OrderedDict κ α → Except ε (OrderedDict κ α × List ν)) (d : OrderedDict κ α) : Except ε (OrderedDict κ α × List ν) :=
  match step d with
  | .error e => .error e
  | .ok (between,notes) => match next between with
    | .error e => .error e
    | .ok (after,more) => .ok (after,notes ++ more)

omit [DecidableEq κ] in
theorem andThen_parts {step next : OrderedDict κ α → Except ε (OrderedDict κ α × List ν)} {d after : OrderedDict κ α} {notes : List ν} :
    andThen step next d = .ok (after,notes) ↔
      ∃ between one more, step d = .ok (between,one) ∧ next between = .ok (after,more) ∧ notes = one ++ more := by
  unfold andThen
  cases one : step d with
  | error e => simp
  | ok out =>
    obtain ⟨between,first⟩ := out
    dsimp only
    constructor
    · intro ran
      cases two : next between with
      | error e =>
        rw [two] at ran
        cases ran
      | ok last =>
        rw [two] at ran
        cases ran
        exact ⟨between,first,last.2,rfl,two,rfl⟩
    · rintro ⟨_,_,more,same,found,rfl⟩
      cases same
      rw [found]

variable {missing} {added others : List κ} {pass nextPass : κ → α → Except ε α} {step next : OrderedDict κ α → Except ε (OrderedDict κ α × List ν)}

theorem ByKey.andThen (first : ByKey missing added pass step) (second : ByKey missing others nextPass next) :
    ByKey missing (added ++ others) (fun k v => pass k v >>= nextPass k) (OrderedDict.andThen step next) := by
  constructor
  · intro d after notes ran k
    obtain ⟨between,one,more,left,right,_⟩ := andThen_parts.mp ran
    rw [first.values d between one left k]
    exact second.values between after more right k
  · intro d after notes ran
    obtain ⟨between,one,more,left,right,_⟩ := andThen_parts.mp ran
    obtain ⟨new,keys,inside,present⟩ := first.keys d between one left
    obtain ⟨newer,later,within,there⟩ := second.keys between after more right
    refine ⟨new ++ newer,by rw [later,keys,List.append_assoc],?_,?_⟩
    · intro k member
      rcases List.mem_append.mp member with old | young
      · exact List.mem_append_left _ (inside k old)
      · exact List.mem_append_right _ (within k young)
    · intro k member
      rcases List.mem_append.mp member with old | young
      · rw [later]
        exact List.mem_append_left _ (present k old)
      · exact there k young
  · intro d all
    have both : ∀ k, ∃ w v, pass k (d.getD k missing) = .ok w ∧ nextPass k w = .ok v := by
      intro k
      obtain ⟨v,whole⟩ := all k
      cases one : pass k (d.getD k missing) with
      | error e =>
        simp only [one] at whole
        cases whole
      | ok w =>
        simp only [one] at whole
        exact ⟨w,v,rfl,whole⟩
    obtain ⟨⟨between,notes⟩,left⟩ := first.returns d fun k => ⟨_,(both k).choose_spec.choose_spec.1⟩
    have seconds : ∀ k, ∃ v, nextPass k (between.getD k missing) = .ok v := by
      intro k
      obtain ⟨w,v,one,two⟩ := both k
      rw [first.values d between notes left k] at one
      cases one
      exact ⟨v,two⟩
    obtain ⟨⟨after,more⟩,right⟩ := second.returns between seconds
    exact ⟨(after,notes ++ more),andThen_parts.mpr ⟨between,notes,more,left,right,rfl⟩⟩

end Sequence

section Loops

-- A loop over some keys: what it writes at each and what it notes, where it writes.
def writeKey (change : κ → α → Option (α × ν)) (done : OrderedDict κ α × List ν) (k : κ) : OrderedDict κ α × List ν :=
  match change k (done.1.getD k missing) with
  | some (v,note) => (done.1.set k v,done.2 ++ [note])
  | none => done

def eachKey (change : κ → α → Option (α × ν)) (loop : List κ) (d : OrderedDict κ α) : OrderedDict κ α × List ν :=
  loop.foldl (writeKey missing change) (d,[])

def changed (change : κ → α → Option (α × ν)) (k : κ) (v : α) : α := ((change k v).map Prod.fst).getD v

variable (change : κ → α → Option (α × ν))

theorem keys_set_present (d : OrderedDict κ α) (k : κ) (v : α) (present : k ∈ d.keys) : (d.set k v).keys = d.keys :=
  (insertEntry_keys k v d.entries).trans (if_pos present)

theorem writeKey_value (done : OrderedDict κ α × List ν) (k key : κ) : (writeKey missing change done k).1.getD key missing =
    if key = k then changed change k (done.1.getD k missing) else done.1.getD key missing := by
  unfold writeKey changed
  cases change k (done.1.getD k missing) with
  | none =>
    by_cases same : key = k
    · rw [if_pos same,same]
      rfl
    · rw [if_neg same]
  | some out => exact getD_set done.1 k out.1 key missing

theorem writeKey_keys (done : OrderedDict κ α × List ν) (k : κ) :
    ∃ more, (writeKey missing change done k).1.keys = done.1.keys ++ more ∧ (∀ key ∈ more, key = k ∧ (change k missing).isSome = true) ∧
      ((change k missing).isSome = true → k ∈ (writeKey missing change done k).1.keys) := by
  by_cases present : k ∈ done.1.keys
  · have kept : (writeKey missing change done k).1.keys = done.1.keys := by
      unfold writeKey
      split
      · exact keys_set_present done.1 k _ present
      · rfl
    refine ⟨[],?_,?_,?_⟩
    · rw [kept,List.append_nil]
    · intro key member
      cases member
    · intro _
      rw [kept]
      exact present
  · have absent : done.1.getD k missing = missing := by rw [getD,(get?_eq_none done.1 k).mpr present]; rfl
    cases written : change k missing with
    | none =>
      have kept : writeKey missing change done k = done := by rw [writeKey,absent,written]
      refine ⟨[],?_,?_,?_⟩
      · rw [kept,List.append_nil]
      · intro key member
        cases member
      · intro some_
        cases some_
    | some out =>
      have grown : (writeKey missing change done k).1.keys = done.1.keys ++ [k] := by
        rw [writeKey,absent,written]
        exact keys_set_fresh done.1 k out.1 present
      refine ⟨[k],grown,?_,?_⟩
      · intro key member
        exact ⟨List.mem_singleton.mp member,rfl⟩
      · intro _
        rw [grown]
        exact List.mem_append_right _ (List.mem_singleton.mpr rfl)

-- By induction on the keys, whatever has been done before.
theorem eachKey_loop (loop : List κ) (unique : loop.Nodup) (done : OrderedDict κ α × List ν) :
    (∀ key, (loop.foldl (writeKey missing change) done).1.getD key missing =
      if key ∈ loop then changed change key (done.1.getD key missing) else done.1.getD key missing) ∧
    ∃ more, (loop.foldl (writeKey missing change) done).1.keys = done.1.keys ++ more ∧
      (∀ key ∈ more, key ∈ loop ∧ (change key missing).isSome = true) ∧
      ∀ key ∈ loop, (change key missing).isSome = true → key ∈ (loop.foldl (writeKey missing change) done).1.keys := by
  induction loop generalizing done with
  | nil => exact ⟨fun _ => rfl,[],(List.append_nil _).symm,(fun _ member => by cases member),fun _ member => by cases member⟩
  | cons k loop ih =>
    obtain ⟨fresh,unique⟩ := List.nodup_cons.mp unique
    obtain ⟨values,more,keys,inside,present⟩ := ih unique (writeKey missing change done k)
    obtain ⟨new,grown,once,there⟩ := writeKey_keys missing change done k
    rw [List.foldl_cons]
    refine ⟨?_,new ++ more,by rw [keys,grown,List.append_assoc],?_,?_⟩
    · intro key
      rw [values key,writeKey_value]
      by_cases same : key = k
      · subst same
        rw [if_neg fresh,if_pos rfl,if_pos List.mem_cons_self]
      · rw [if_neg same]
        simp only [List.mem_cons,same,false_or]
    · intro key member
      rcases List.mem_append.mp member with old | young
      · obtain ⟨rfl,written⟩ := once key old
        exact ⟨List.mem_cons_self,written⟩
      · obtain ⟨looped,written⟩ := inside key young
        exact ⟨List.mem_cons_of_mem k looped,written⟩
    · intro key member written
      rcases List.mem_cons.mp member with rfl | looped
      · rw [keys]
        exact List.mem_append_left _ (there written)
      · exact present key looped written

-- A loop treats each key by itself.
theorem eachKey_byKey (loop : List κ) (unique : loop.Nodup) :
    ByKey missing (loop.filter fun k => (change k missing).isSome) (fun k v => .ok (if k ∈ loop then changed change k v else v))
      (fun d => (.ok (eachKey missing change loop d) : Except ε (OrderedDict κ α × List ν))) := by
  constructor
  · intro d after notes ran k
    have same : loop.foldl (writeKey missing change) (d,[]) = (after,notes) := Except.ok.inj ran
    have value := (eachKey_loop missing change loop unique (d,[])).1 k
    rw [same] at value
    rw [value]
  · intro d after notes ran
    obtain ⟨_,more,keys,inside,present⟩ := eachKey_loop missing change loop unique (d,[])
    have same : loop.foldl (writeKey missing change) (d,[]) = (after,notes) := Except.ok.inj ran
    rw [same] at keys present
    refine ⟨more,keys,?_,?_⟩
    · intro k member
      exact List.mem_filter.mpr (inside k member)
    · intro k member
      obtain ⟨looped,written⟩ := List.mem_filter.mp member
      exact present k looped written
  · exact fun d _ => ⟨_,rfl⟩

variable {missing}

-- So does a step that rewrites one key only, where it has a value, or leaves everything.
def WritesAt (missing : α) (key : κ) (passAt : α → Except ε α) (step : OrderedDict κ α → Except ε (OrderedDict κ α × List ν)) : Prop :=
  ∀ d, (∃ e f, passAt (d.getD key missing) = .error e ∧ step d = .error f) ∨
    ∃ v notes, passAt (d.getD key missing) = .ok v ∧
      (step d = .ok (d,notes) ∧ v = d.getD key missing ∨ step d = .ok (d.set key v,notes) ∧ d.getD key missing ≠ missing)

theorem WritesAt.byKey {key : κ} {passAt : α → Except ε α} {step : OrderedDict κ α → Except ε (OrderedDict κ α × List ν)}
    (writes : WritesAt missing key passAt step) : ByKey missing [] (fun k v => if k = key then passAt v else .ok v) step := by
  constructor
  · intro d after notes ran k
    rcases writes d with ⟨e,f,_,failed⟩ | ⟨v,more,passed,⟨left,value⟩ | ⟨written,_⟩⟩
    · rw [failed] at ran
      cases ran
    · rw [left] at ran
      cases ran
      by_cases same : k = key
      · subst same
        rw [if_pos rfl,passed,value]
      · rw [if_neg same]
    · rw [written] at ran
      cases ran
      by_cases same : k = key
      · subst same
        rw [if_pos rfl,passed,getD_set,if_pos rfl]
      · rw [if_neg same,getD_set,if_neg same]
  · intro d after notes ran
    refine ⟨[],?_,(fun _ member => by cases member),fun _ member => by cases member⟩
    rw [List.append_nil]
    rcases writes d with ⟨e,f,_,failed⟩ | ⟨v,more,_,⟨left,_⟩ | ⟨written,some_⟩⟩
    · rw [failed] at ran
      cases ran
    · rw [left] at ran
      cases ran
      rfl
    · rw [written] at ran
      cases ran
      apply keys_set_present
      by_contra absent
      apply some_
      rw [getD,(get?_eq_none d key).mpr absent]
      rfl
  · intro d all
    obtain ⟨v,passed⟩ := all key
    rw [if_pos rfl] at passed
    rcases writes d with ⟨e,f,failed,_⟩ | ⟨w,notes,_,⟨left,_⟩ | ⟨written,_⟩⟩
    · rw [failed] at passed
      cases passed
    · exact ⟨_,left⟩
    · exact ⟨_,written⟩

theorem mapValues_byKey (f : α → α) (missed : f missing = missing) (notes : OrderedDict κ α → List ν) :
    ByKey missing [] (fun _ v => .ok (f v)) (fun d => (.ok (d.mapValues f,notes d) : Except ε (OrderedDict κ α × List ν))) := by
  constructor
  · intro d after written ran k
    cases ran
    rw [getD,getD,get?_mapValues]
    cases d.get? k with
    | none => exact congrArg Except.ok missed
    | some v => rfl
  · intro d after written ran
    cases ran
    exact ⟨[],by rw [keys_mapValues,List.append_nil],(fun _ member => by cases member),fun _ member => by cases member⟩
  · exact fun d _ => ⟨_,rfl⟩

end Loops

section Runs

def runAll : List (OrderedDict κ α → Except ε (OrderedDict κ α × List ν)) → OrderedDict κ α → Except ε (OrderedDict κ α × List ν)
  | [],d => .ok (d,[])
  | step :: rest,d => andThen step (runAll rest) d

variable {missing}

theorem runAll_nil : ByKey missing [] (fun _ v => .ok v) (runAll ([] : List (OrderedDict κ α → Except ε (OrderedDict κ α × List ν)))) := by
  constructor
  · intro d after notes ran k
    cases ran
    rfl
  · intro d after notes ran
    cases ran
    exact ⟨[],(List.append_nil _).symm,(fun _ member => by cases member),fun _ member => by cases member⟩
  · exact fun d _ => ⟨_,rfl⟩

theorem runAll_cons {added others : List κ} {pass restPass : κ → α → Except ε α} {step : OrderedDict κ α → Except ε (OrderedDict κ α × List ν)}
    {rest : List (OrderedDict κ α → Except ε (OrderedDict κ α × List ν))} (first : ByKey missing added pass step)
    (later : ByKey missing others restPass (runAll rest)) :
    ByKey missing (added ++ others) (fun k v => pass k v >>= restPass k) (runAll (step :: rest)) := first.andThen later

end Runs

end OrderedDict
