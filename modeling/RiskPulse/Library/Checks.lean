import RiskPulse.Library.Fallible

-- Checks that collect the issues they find and may fail before they are done.
namespace Checks
variable {ε ι α : Type}

def Finishes (check : Except ε (List ι)) : Prop := ∃ found, check = .ok found

-- No issue that counts is found.
def Clean (counts : ι → Bool) (check : Except ε (List ι)) : Prop := ∃ found, check = .ok found ∧ ∀ issue ∈ found, counts issue = false

def reportIf (wrong : Prop) [Decidable wrong] (issue : Except ε ι) : Except ε (List ι) :=
  if wrong then issue.map fun i => [i] else .ok []

-- A limit that need not be set.
def against (limit : Option α) (wrong : α → Prop) [DecidablePred wrong] (issue : α → Except ε ι) : Except ε (List ι) :=
  match limit with
  | some bound => reportIf (wrong bound) (issue bound)
  | none => .ok []

def gather (check : α → Except ε (List ι)) (items : List α) : Except ε (List ι) := (items.mapM check).map List.flatten

theorem nothing_finishes : Finishes (.ok [] : Except ε (List ι)) := ⟨[],rfl⟩

theorem found_clean (counts : ι → Bool) (found : List ι) :
    Clean counts (.ok found : Except ε (List ι)) ↔ ∀ issue ∈ found, counts issue = false := by
  constructor
  · intro ⟨_,came,clean⟩
    cases came
    exact clean
  · intro clean
    exact ⟨found,rfl,clean⟩

theorem nothing_clean (counts : ι → Bool) : Clean counts (.ok [] : Except ε (List ι)) :=
  (found_clean counts []).mpr (List.forall_mem_nil _)

theorem Clean.finishes {counts : ι → Bool} {check : Except ε (List ι)} (clean : Clean counts check) : Finishes check := by
  obtain ⟨found,came,_⟩ := clean
  exact ⟨found,came⟩

section Report
variable {wrong : Prop} [Decidable wrong] {issue : Except ε ι}

theorem report_finishes : Finishes (reportIf wrong issue) ↔ (wrong → ∃ i, issue = .ok i) := by
  unfold Finishes reportIf
  by_cases here : wrong
  · rw [if_pos here]
    constructor
    · intro ⟨found,came⟩ _
      obtain ⟨i,made,_⟩ := Fallible.map_ok.mp came
      exact ⟨i,made⟩
    · intro made
      obtain ⟨i,same⟩ := made here
      exact ⟨[i],Fallible.map_ok.mpr ⟨i,same,rfl⟩⟩
  · rw [if_neg here]
    exact ⟨fun _ given => absurd given here,fun _ => ⟨[],rfl⟩⟩

theorem report_clean {counts : ι → Bool} (counted : ∀ i, issue = .ok i → counts i = true) :
    Clean counts (reportIf wrong issue) ↔ ¬wrong := by
  unfold Clean reportIf
  by_cases here : wrong
  · rw [if_pos here]
    refine iff_of_false ?_ (not_not_intro here)
    intro ⟨found,came,clean⟩
    obtain ⟨i,made,rfl⟩ := Fallible.map_ok.mp came
    have uncounted := clean i List.mem_cons_self
    rw [counted i made] at uncounted
    cases uncounted
  · rw [if_neg here]
    exact iff_of_true (nothing_clean counts) here

-- What does not count is no obstacle.
theorem report_uncounted {counts : ι → Bool} (uncounted : ∀ i, issue = .ok i → counts i = false) :
    Clean counts (reportIf wrong issue) ↔ Finishes (reportIf wrong issue) := by
  refine ⟨Clean.finishes,?_⟩
  intro ⟨found,came⟩
  refine ⟨found,came,?_⟩
  unfold reportIf at came
  split at came
  · obtain ⟨i,made,rfl⟩ := Fallible.map_ok.mp came
    simp [uncounted i made]
  · cases came
    exact List.forall_mem_nil _

end Report

section Limit
variable {wrong : α → Prop} [DecidablePred wrong] {issue : α → Except ε ι}

theorem against_finishes (limit : Option α) :
    Finishes (against limit wrong issue) ↔ ∀ bound ∈ limit, wrong bound → ∃ i, issue bound = .ok i := by
  cases limit with
  | none => simp [against,nothing_finishes]
  | some bound => simp [against,report_finishes]

theorem against_clean {counts : ι → Bool} (limit : Option α) (counted : ∀ bound i, issue bound = .ok i → counts i = true) :
    Clean counts (against limit wrong issue) ↔ ∀ bound ∈ limit, ¬wrong bound := by
  cases limit with
  | none => simp [against,nothing_clean]
  | some bound => simp [against,report_clean (counted bound)]

theorem against_uncounted {counts : ι → Bool} (limit : Option α) (uncounted : ∀ bound i, issue bound = .ok i → counts i = false) :
    Clean counts (against limit wrong issue) ↔ Finishes (against limit wrong issue) := by
  cases limit with
  | none => exact iff_of_true (nothing_clean counts) nothing_finishes
  | some bound => exact report_uncounted (uncounted bound)

end Limit

section Gather
variable {check : α → Except ε (List ι)}

theorem gather_finishes (items : List α) : Finishes (gather check items) ↔ ∀ a ∈ items, Finishes (check a) := by
  refine Iff.trans ?_ (Fallible.mapM_succeeds items)
  constructor
  · intro ⟨found,came⟩
    obtain ⟨parts,ran,_⟩ := Fallible.map_ok.mp came
    exact ⟨parts,ran⟩
  · intro ⟨parts,ran⟩
    exact ⟨parts.flatten,Fallible.map_ok.mpr ⟨parts,ran,rfl⟩⟩

theorem gather_clean {counts : ι → Bool} (items : List α) :
    Clean counts (gather check items) ↔ ∀ a ∈ items, Clean counts (check a) := by
  induction items with
  | nil => exact iff_of_true (nothing_clean counts) (List.forall_mem_nil _)
  | cons a rest ih =>
    rw [List.forall_mem_cons,← ih]
    unfold Clean gather
    rw [List.mapM_cons]
    constructor
    · intro ⟨found,came,clean⟩
      obtain ⟨parts,ran,rfl⟩ := Fallible.map_ok.mp came
      obtain ⟨here,first,later⟩ := Fallible.bind_ok.mp ran
      obtain ⟨others,more,last⟩ := Fallible.bind_ok.mp later
      cases last
      rw [List.flatten_cons,List.forall_mem_append] at clean
      exact ⟨⟨here,first,clean.1⟩,others.flatten,Fallible.map_ok.mpr ⟨others,more,rfl⟩,clean.2⟩
    · intro ⟨⟨here,first,clean⟩,found,came,others⟩
      obtain ⟨parts,more,rfl⟩ := Fallible.map_ok.mp came
      refine ⟨here ++ parts.flatten,?_,List.forall_mem_append.mpr ⟨clean,others⟩⟩
      exact Fallible.map_ok.mpr ⟨here :: parts,Fallible.bind_ok.mpr ⟨here,first,Fallible.bind_ok.mpr ⟨parts,more,rfl⟩⟩,rfl⟩

end Gather

end Checks
