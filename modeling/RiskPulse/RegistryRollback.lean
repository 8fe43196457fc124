import Mathlib.Data.String.Basic
import RiskPulse.RegistryStages
import RiskPulse.Library.FirstMaximum

namespace RiskPulse

-- The first of a list that none before it reaches, and that reaches all after it.
def FirstOf (r : α → α → Prop) (x : α) (items : List α) : Prop :=
  ∃ front back, items = front ++ x :: back ∧ (∀ e ∈ front, ¬r e x) ∧ ∀ e ∈ back, r x e

section FirstOf
variable {α : Type} {r : α → α → Prop}

theorem FirstOf.unique (one : FirstOf r x items) (other : FirstOf r y items) : x = y := by
  obtain ⟨front,back,split,before,after⟩ := one
  obtain ⟨front',back',split',before',after'⟩ := other
  rcases FirstMaximum.places (split.symm.trans split') with same | ⟨early,late⟩ | ⟨early,late⟩
  · exact same
  · exact absurd (after y late) (before' x early)
  · exact absurd (after' x late) (before y early)

-- The head of a list that has been sorted is the first of it.
theorem firstOf_sorted [DecidableRel r] [Std.Total r] [IsTrans α r] (items : List α) (x : α) :
    (items.insertionSort r).head? = some x ↔ FirstOf r x items := by
  have first : ∀ items : List α, ∀ x, (items.insertionSort r).head? = some x → FirstOf r x items := by
    intro items
    induction items with
    | nil =>
      intro x head
      cases head
    | cons a rest ih =>
      intro x head
      rw [List.insertionSort_cons] at head
      cases sorted : rest.insertionSort r with
      | nil =>
        have empty : rest = [] := by
          have same := List.length_insertionSort r rest
          rw [sorted] at same
          exact List.length_eq_zero_iff.mp same.symm
        rw [sorted] at head
        cases head
        exact ⟨[],rest,rfl,by simp,by simp [empty]⟩
      | cons b others =>
        obtain ⟨front,back,split,before,after⟩ := ih b (by rw [sorted]; rfl)
        rw [sorted,List.orderedInsert] at head
        split at head
        · rename_i reaches
          cases head
          refine ⟨[],rest,rfl,by simp,?_⟩
          intro e member
          rw [split] at member
          rcases List.mem_append.mp member with earlier | later
          · rcases Std.Total.total (r := r) e b with up | down
            · exact absurd up (before e earlier)
            · exact IsTrans.trans _ _ _ reaches down
          · rcases List.mem_cons.mp later with rfl | behind
            · exact reaches
            · exact IsTrans.trans _ _ _ reaches (after e behind)
        · rename_i below
          cases head
          refine ⟨a :: front,back,by rw [split]; rfl,?_,after⟩
          intro e member
          rcases List.mem_cons.mp member with rfl | earlier
          · exact below
          · exact before e earlier
  refine ⟨first items x,?_⟩
  intro one
  cases head : (items.insertionSort r).head? with
  | none =>
    obtain ⟨front,back,split,_⟩ := one
    have same := List.length_insertionSort r items
    rw [List.head?_eq_none_iff.mp head,split] at same
    simp at same
  | some y => rw [one.unique (first items y head)]

end FirstOf

namespace ModelRegistry

-- A version of the name was in production at some moment of the run, is not now, and
-- since that moment only it and the one in production now have been.
def MostRecent (c : ModelRegistry) (before : List RegistryAction) (name version : String) : Prop :=
  ∃ earlier later, before = earlier ++ later ∧ Serves (c.reached earlier).registry name version ∧
    ¬Serves (c.reached before).registry name version ∧
      ∀ middle, middle <+: later → ∀ other, Serves (c.reached (earlier ++ middle)).registry name other →
        other = version ∨ Serves (c.reached before).registry name other

def rolledBack (c : ModelRegistry) (before : List RegistryAction) (name promotedBy : String) (now : Nat → String)
    (saving : SaveOutcome) : Except ModelRegistryError (Option ModelMetadata) :=
  (conclude saving (c.reached before) (rollbackModel name promotedBy now (c.reached before).registry)).1

-- A version that is returned is the one in production most recently, and None is
-- returned only if no version but the one in production now has ever been.
structure RestoresPrevious (c : ModelRegistry) (before : List RegistryAction) (name promotedBy : String) (now : Nat → String)
    (saving : SaveOutcome) : Prop where
  restored : ∀ m, c.rolledBack before name promotedBy now saving = .ok (some m) → MostRecent c before name m.version
  nothing : c.rolledBack before name promotedBy now saving = .ok none →
    ∀ earlier, earlier <+: before → ∀ version, Serves (c.reached earlier).registry name version →
      Serves (c.reached before).registry name version

def inProduction (r : Registry) (name version : String) : Bool :=
  (r.metadata name version).any fun m => decide (m.stage = .production)

-- The last promotion to production of a version that is not in production.
def previousProduction (r : Registry) (name : String) : Option String :=
  ((served r name).filter fun version => !inProduction r name version).getLast?

def Archived (entry : String × ModelMetadata) : Prop := entry.2.stage = .archived

instance (entry : String × ModelMetadata) : Decidable (Archived entry) := inferInstanceAs (Decidable (_ = _))

-- The condition on the registry: the name is unknown; or a version is archived and the
-- save fails; or the last promotion to production of a version that is not in production
-- was that of an archived one, which no archived version before it in the registry was
-- updated after or with, and none after it was updated after; or there was no such
-- promotion and no version is archived.
def PreviousFirst (r : Registry) (name : String) (saving : SaveOutcome) : Prop :=
  match r.models.get? name with
  | none => True
  | some versions =>
    (saving ≠ .saved ∧ ∃ entry ∈ versions.entries, Archived entry) ∨
      match previousProduction r name with
      | none => ∀ entry ∈ versions.entries, ¬Archived entry
      | some version => ∃ front m back, versions.entries = front ++ (version,m) :: back ∧ Archived (version,m) ∧
        (∀ entry ∈ front, Archived entry → entry.2.updatedAt < m.updatedAt) ∧
          ∀ entry ∈ back, Archived entry → ¬m.updatedAt < entry.2.updatedAt

theorem inProduction_exact : inProduction r name version = true ↔ Serves r name version := by
  unfold inProduction Serves
  cases r.metadata name version <;> simp

-- The version served at some point, and none but it and those out since.
def ServedSince (c : ModelRegistry) (name : String) (out : String → Bool) (actions : List RegistryAction) (v : String) : Prop :=
  ∃ earlier later, actions = earlier ++ later ∧ Serves (c.reached earlier).registry name v ∧
    ∀ middle, middle <+: later → ∀ other, Serves (c.reached (earlier ++ middle)).registry name other → other = v ∨ out other = true

theorem servedSince_next (since : ServedSince c name out before v)
    (next : ∀ other, Serves (c.reached (before ++ [action])).registry name other →
      out other = true ∨ Serves (c.reached before).registry name other) : ServedSince c name out (before ++ [action]) v := by
  obtain ⟨earlier,later,rfl,serving,since⟩ := since
  refine ⟨earlier,later ++ [action],by rw [List.append_assoc],serving,?_⟩
  intro middle start other serves
  rcases List.prefix_concat_iff.mp start with rfl | inside
  · rw [← List.append_assoc] at serves
    rcases next other serves with gone | stays
    · exact .inr gone
    · exact since later (List.prefix_refl later) other stays
  · exact since middle inside other serves

-- Along a run, the last version promoted to production other than certain ones is the
-- last of the others that was in production.
theorem served_last (c : ModelRegistry) (name : String) (out : String → Bool) (actions : List RegistryAction) :
    (((served (c.reached actions).registry name).filter fun v => !out v).getLast? = none →
      ∀ earlier, earlier <+: actions → ∀ v, Serves (c.reached earlier).registry name v → out v = true) ∧
    ∀ v, ((served (c.reached actions).registry name).filter fun v => !out v).getLast? = some v →
      out v = false ∧ ServedSince c name out actions v := by
  induction actions using List.reverseRecOn with
  | nil =>
    refine ⟨?_,?_⟩
    · rintro _ earlier start v ⟨m,held,_⟩
      rw [List.prefix_nil.mp start] at held
      cases held
    · intro v last
      cases last
  | append_singleton before action ih =>
    obtain ⟨idle,found⟩ := ih
    have change := step_change c _ action (reached_sound c before)
    rw [← reached_next] at change
    rcases change.serves name with ⟨version,recorded,exact⟩ | ⟨recorded,stays⟩
    · rw [recorded,List.filter_append]
      cases outside : out version with
      | true =>
        have gone : ∀ other, Serves (c.reached (before ++ [action])).registry name other → out other = true := by
          intro other serves
          rw [(exact other).mp serves]
          exact outside
        simp only [List.filter_cons,outside,Bool.not_true,Bool.false_eq_true,if_false,List.filter_nil,List.append_nil]
        refine ⟨?_,?_⟩
        · intro none earlier start v serving
          rcases List.prefix_concat_iff.mp start with rfl | inside
          · exact gone v serving
          · exact idle none earlier inside v serving
        · intro v last
          exact ⟨(found v last).1,servedSince_next (found v last).2 fun other serves => .inl (gone other serves)⟩
      | false =>
        simp only [List.filter_cons,outside,Bool.not_false,if_true,List.filter_nil,List.getLast?_append,List.getLast?_singleton,
          Option.some_or]
        refine ⟨fun none => (by cases none),?_⟩
        rintro v last
        cases last
        refine ⟨outside,before ++ [action],[],by rw [List.append_nil],(exact _).mpr rfl,?_⟩
        intro middle start other serves
        rw [List.prefix_nil.mp start,List.append_nil] at serves
        exact .inl ((exact other).mp serves)
    · rw [recorded]
      refine ⟨?_,?_⟩
      · intro none earlier start v serving
        rcases List.prefix_concat_iff.mp start with rfl | inside
        · exact idle none before (List.prefix_refl before) v (stays v serving)
        · exact idle none earlier inside v serving
      · intro v last
        exact ⟨(found v last).1,servedSince_next (found v last).2 fun other serves => .inr (stays other serves)⟩

theorem previous_mostRecent (c : ModelRegistry) (before : List RegistryAction) (name : String)
    (last : previousProduction (c.reached before).registry name = some version) : MostRecent c before name version := by
  obtain ⟨apart,earlier,later,split,serving,since⟩ := (served_last c name (inProduction (c.reached before).registry name) before).2 version last
  refine ⟨earlier,later,split,serving,?_,?_⟩
  · intro now
    rw [inProduction_exact.mpr now] at apart
    cases apart
  · intro middle start other serves
    rcases since middle start other serves with same | out
    · exact .inl same
    · exact .inr (inProduction_exact.mp out)

theorem previous_none (c : ModelRegistry) (before : List RegistryAction) (name : String)
    (none : previousProduction (c.reached before).registry name = none) (earlier : List RegistryAction) (start : earlier <+: before)
    (version : String) (serving : Serves (c.reached earlier).registry name version) :
    Serves (c.reached before).registry name version :=
  inProduction_exact.mp ((served_last c name (inProduction (c.reached before).registry name) before).1 none earlier start version serving)

theorem mostRecent_unique (c : ModelRegistry) (one : MostRecent c before name v) (other : MostRecent c before name w) : v = w := by
  obtain ⟨earlier,later,split,serving,apart,since⟩ := one
  obtain ⟨earlier',later',split',serving',apart',since'⟩ := other
  rw [split] at split'
  rcases List.append_eq_append_iff.mp split' with ⟨between,rfl,rfl⟩ | ⟨between,rfl,rfl⟩
  · rcases since between (List.prefix_append _ _) w serving' with same | now
    · exact same.symm
    · exact absurd now apart'
  · rcases since' between (List.prefix_append _ _) v serving with same | now
    · exact same
    · exact absurd now apart

theorem mostRecent_exact (c : ModelRegistry) (before : List RegistryAction) (name version : String) :
    MostRecent c before name version ↔ previousProduction (c.reached before).registry name = some version := by
  refine ⟨?_,previous_mostRecent c before name⟩
  intro recent
  cases last : previousProduction (c.reached before).registry name with
  | none =>
    obtain ⟨earlier,later,split,serving,apart,_⟩ := recent
    exact absurd (previous_none c before name last earlier ⟨later,split.symm⟩ version serving) apart
  | some other => rw [mostRecent_unique c (previous_mostRecent c before name last) recent]

theorem neverServed_exact (c : ModelRegistry) (before : List RegistryAction) (name : String) :
    (∀ earlier, earlier <+: before → ∀ version, Serves (c.reached earlier).registry name version →
      Serves (c.reached before).registry name version) ↔ previousProduction (c.reached before).registry name = none := by
  refine ⟨?_,previous_none c before name⟩
  intro never
  cases last : previousProduction (c.reached before).registry name with
  | none => rfl
  | some version =>
    obtain ⟨earlier,later,split,serving,apart,_⟩ := previous_mostRecent c before name last
    exact absurd (never earlier ⟨later,split.symm⟩ version serving) apart

section Calls
variable {c : ModelRegistry} {before : List RegistryAction} {name : String} (promotedBy : String) (now : Nat → String)
  (saving : SaveOutcome)

theorem rolledBack_unknown (listed : (c.reached before).registry.models.get? name = none) :
    ∃ e, c.rolledBack before name promotedBy now saving = .error e := by
  rw [rolledBack,rollbackModel,listed]
  exact ⟨_,rfl⟩

theorem rolledBack_nothing (listed : (c.reached before).registry.models.get? name = some versions) (latest : latestArchived versions = []) :
    c.rolledBack before name promotedBy now saving = .ok none := by
  simp only [rolledBack,rollbackModel,listed,latest]
  rfl

theorem rolledBack_saved (listed : (c.reached before).registry.models.get? name = some versions)
    (latest : latestArchived versions = (version,found) :: rest) :
    ∃ m, m.version = found.version ∧ c.rolledBack before name promotedBy now .saved = .ok (some m) := by
  simp only [rolledBack,rollbackModel,listed,latest]
  refine ⟨_,?_,rfl⟩
  rfl

theorem rolledBack_unsaved (listed : (c.reached before).registry.models.get? name = some versions)
    (latest : latestArchived versions = entry :: rest) (unsaved : saving ≠ .saved) :
    ∃ e, c.rolledBack before name promotedBy now saving = .error e := by
  simp only [rolledBack,rollbackModel,listed,latest]
  cases saving with
  | saved => exact absurd rfl unsaved
  | openFails message => exact ⟨_,rfl⟩
  | writeFails written message => exact ⟨_,rfl⟩

end Calls

theorem latestArchived_nil : latestArchived versions = [] ↔ ∀ entry ∈ versions.entries, ¬Archived entry := by
  rw [latestArchived,← List.length_eq_zero_iff,List.length_insertionSort,List.length_eq_zero_iff,archivedVersions,List.filter_eq_nil_iff]
  exact forall₂_congr fun entry _ => not_congr decide_eq_true_iff

-- The version rollback_model takes, in terms of the entries of the registry.
theorem latestArchived_head : (latestArchived versions).head? = some (version,m) ↔
    ∃ front back, versions.entries = front ++ (version,m) :: back ∧ Archived (version,m) ∧
      (∀ entry ∈ front, Archived entry → entry.2.updatedAt < m.updatedAt) ∧
        ∀ entry ∈ back, Archived entry → ¬m.updatedAt < entry.2.updatedAt := by
  let later : String × ModelMetadata → String × ModelMetadata → Prop := fun a b => ¬a.2.updatedAt < b.2.updatedAt
  have total : Std.Total later := ⟨fun a b => by
    rcases le_total a.2.updatedAt b.2.updatedAt with up | down
    · exact .inr (not_lt.mpr up)
    · exact .inl (not_lt.mpr down)⟩
  have trans : IsTrans _ later := ⟨fun _ _ _ ab bc => not_lt.mpr (le_trans (not_lt.mp bc) (not_lt.mp ab))⟩
  show ((archivedVersions versions).insertionSort later).head? = _ ↔ _
  rw [firstOf_sorted,FirstOf,archivedVersions]
  constructor
  · rintro ⟨front,back,split,before,after⟩
    obtain ⟨first,second,whole,rfl,rest⟩ := List.filter_eq_append_iff.mp split
    obtain ⟨skipped,behind,rfl,none,own,rfl⟩ := List.filter_eq_cons_iff.mp rest
    refine ⟨first ++ skipped,behind,by rw [whole,List.append_assoc],of_decide_eq_true own,?_,?_⟩
    · intro entry member archived
      rcases List.mem_append.mp member with inside | inside
      · exact not_not.mp (before entry (List.mem_filter.mpr ⟨inside,decide_eq_true archived⟩))
      · exact absurd (decide_eq_true archived) (none entry inside)
    · intro entry member archived
      exact after entry (List.mem_filter.mpr ⟨member,decide_eq_true archived⟩)
  · rintro ⟨front,back,split,own,before,after⟩
    refine ⟨front.filter fun entry => decide (entry.2.stage = .archived),back.filter fun entry => decide (entry.2.stage = .archived),
      ?_,?_,?_⟩
    · rw [split,List.filter_append]
      congr 1
      exact List.filter_cons_of_pos (decide_eq_true own)
    · intro entry member
      obtain ⟨inside,archived⟩ := List.mem_filter.mp member
      exact not_not.mpr (before entry inside (of_decide_eq_true archived))
    · intro entry member
      obtain ⟨inside,archived⟩ := List.mem_filter.mp member
      exact after entry inside (of_decide_eq_true archived)

section Law
variable {c : ModelRegistry} {before : List RegistryAction} {name promotedBy : String} {now : Nat → String} {saving : SaveOutcome}

theorem restores_raised (raised : c.rolledBack before name promotedBy now saving = .error e) :
    RestoresPrevious c before name promotedBy now saving := by
  constructor
  · intro m came
    rw [raised] at came
    cases came
  · intro came
    rw [raised] at came
    cases came

theorem restores_nothing (came : c.rolledBack before name promotedBy now saving = .ok none) :
    RestoresPrevious c before name promotedBy now saving ↔ previousProduction (c.reached before).registry name = none := by
  rw [← neverServed_exact]
  refine ⟨fun law => law.nothing came,fun never => ⟨?_,fun _ => never⟩⟩
  intro m other
  rw [came] at other
  cases other

theorem restores_version (came : c.rolledBack before name promotedBy now saving = .ok (some m)) :
    RestoresPrevious c before name promotedBy now saving ↔
      previousProduction (c.reached before).registry name = some m.version := by
  rw [← mostRecent_exact]
  refine ⟨fun law => law.restored m came,fun recent => ⟨?_,?_⟩⟩
  · intro m' other
    rw [came] at other
    cases other
    exact recent
  · intro other
    rw [came] at other
    cases other

end Law

section Choice
variable {versions : OrderedDict String ModelMetadata} (previous : Option String)

-- What the condition comes to where no version is archived, and where one is taken.
theorem condition_idle (idle : ∀ entry ∈ versions.entries, ¬Archived entry) :
    (match previous with
      | none => ∀ entry ∈ versions.entries, ¬Archived entry
      | some version => ∃ front m back, versions.entries = front ++ (version,m) :: back ∧ Archived (version,m) ∧
        (∀ entry ∈ front, Archived entry → entry.2.updatedAt < m.updatedAt) ∧
          ∀ entry ∈ back, Archived entry → ¬m.updatedAt < entry.2.updatedAt) ↔ previous = none := by
  cases previous with
  | none => simpa using idle
  | some version =>
    simp only [reduceCtorEq,iff_false]
    rintro ⟨front,m,back,split,own,_⟩
    exact idle (version,m) (by rw [split]; simp) own

theorem condition_taken (first : (latestArchived versions).head? = some (version,found)) :
    (match previous with
      | none => ∀ entry ∈ versions.entries, ¬Archived entry
      | some last => ∃ front m back, versions.entries = front ++ (last,m) :: back ∧ Archived (last,m) ∧
        (∀ entry ∈ front, Archived entry → entry.2.updatedAt < m.updatedAt) ∧
          ∀ entry ∈ back, Archived entry → ¬m.updatedAt < entry.2.updatedAt) ↔ previous = some version := by
  obtain ⟨front,back,split,own,rest⟩ := latestArchived_head.mp first
  cases previous with
  | none =>
    simp only [reduceCtorEq,iff_false]
    intro idle
    exact idle (version,found) (by rw [split]; simp) own
  | some last =>
    constructor
    · rintro ⟨front',m,back',others⟩
      have other := latestArchived_head.mpr ⟨front',back',others⟩
      rw [first] at other
      cases other
      rfl
    · intro same
      cases same
      exact ⟨front,found,back,split,own,rest⟩

end Choice

-- In every run, a rollback restores the version in production before exactly under the
-- condition.
theorem rollback_exact (c : ModelRegistry) (before : List RegistryAction) (name promotedBy : String) (now : Nat → String)
    (saving : SaveOutcome) :
    RestoresPrevious c before name promotedBy now saving ↔ PreviousFirst (c.reached before).registry name saving := by
  unfold PreviousFirst
  cases listed : (c.reached before).registry.models.get? name with
  | none =>
    obtain ⟨e,failed⟩ := rolledBack_unknown promotedBy now saving listed
    exact ⟨fun _ => trivial,fun _ => restores_raised failed⟩
  | some versions =>
    cases latest : latestArchived versions with
    | nil =>
      have idle := latestArchived_nil.mp latest
      have none_archived : ¬∃ entry ∈ versions.entries, Archived entry := fun ⟨entry,member,archived⟩ => idle entry member archived
      rw [restores_nothing (rolledBack_nothing promotedBy now saving listed latest),← condition_idle _ idle]
      simp only [none_archived,and_false,false_or]
    | cons entry rest =>
      obtain ⟨version,found⟩ := entry
      have first : (latestArchived versions).head? = some (version,found) := by rw [latest]; rfl
      obtain ⟨front,back,split,own,_⟩ := latestArchived_head.mp first
      by_cases saved : saving = .saved
      · subst saved
        obtain ⟨m,same,came⟩ := rolledBack_saved promotedBy now listed latest
        have held : (c.reached before).registry.metadata name version = some found := by
          rw [metadata_found listed,← OrderedDict.get?_entry,split]
          simp
        have named := ((reached_sound c before).stored name version found held).2.1
        rw [restores_version came,same,named,← condition_taken _ first]
        simp only [ne_eq,not_true,false_and,false_or]
      · obtain ⟨e,failed⟩ := rolledBack_unsaved promotedBy now saving listed latest saved
        have left : saving ≠ .saved ∧ ∃ entry ∈ versions.entries, Archived entry :=
          ⟨saved,(version,found),by rw [split]; simp,own⟩
        exact ⟨fun _ => .inl left,fun _ => restores_raised failed⟩

-- The second version is archived without having been in production, after the first
-- has been archived.
def archivedDirectly : List RegistryAction :=
  [register "m" "1.0.0",register "m" "2.0.0",register "m" "3.0.0",
    .promoteModel "m" "1.0.0" .production "system",.promoteModel "m" "3.0.0" .production "system",
    .promoteModel "m" "2.0.0" .archived "system"].zipIdx.map fun call =>
      ⟨call.1,fun _ => String.singleton (Nat.digitChar call.2),.saved⟩

theorem unserved_version_restored : ¬RestoresPrevious digits archivedDirectly "m" "system" (fun _ => "9") .saved := by
  intro law
  obtain ⟨m,came,version⟩ : ∃ m, digits.rolledBack archivedDirectly "m" "system" (fun _ => "9") .saved = .ok (some m) ∧
      m.version = "2.0.0" := ⟨_,rfl,rfl⟩
  have recent := law.restored m came
  rw [version,mostRecent_exact] at recent
  exact absurd recent (by decide)

end ModelRegistry
end RiskPulse
