import Mathlib.Data.List.Forall2
import Mathlib.Data.List.Perm.Basic

-- Computations that may fail, and folds of them: the first failure is the result.
namespace Fallible
variable {σ α β γ ε : Type} {step : σ → α → Except ε σ}

theorem bind_ok {first : Except ε α} {next : α → Except ε β} :
    (first >>= next) = .ok b ↔ ∃ a, first = .ok a ∧ next a = .ok b := by
  constructor
  · intro came
    cases first with
    | error e => cases came
    | ok a => exact ⟨a,rfl,came⟩
  · rintro ⟨a,rfl,came⟩
    exact came

theorem bind_error {first : Except ε α} {next : α → Except ε β} :
    (first >>= next) = .error e ↔ first = .error e ∨ ∃ a, first = .ok a ∧ next a = .error e := by
  constructor
  · intro came
    cases first with
    | error e => cases came; exact .inl rfl
    | ok a => exact .inr ⟨a,rfl,came⟩
  · rintro (rfl | ⟨a,rfl,came⟩)
    · rfl
    · exact came

theorem fold_cons (a : α) (rest : List α) :
    (a :: rest).foldlM step s = .ok t ↔ ∃ u, step s a = .ok u ∧ rest.foldlM step u = .ok t := by
  rw [List.foldlM_cons]
  exact bind_ok

theorem fold_append (first later : List α) :
    (first ++ later).foldlM step s = .ok t ↔ ∃ u, first.foldlM step s = .ok u ∧ later.foldlM step u = .ok t := by
  rw [List.foldlM_append]
  exact bind_ok

theorem fold_keeps (inv : σ → Prop) (items : List α) (keeps : ∀ a ∈ items, ∀ s t, step s a = .ok t → inv s → inv t)
    (ran : items.foldlM step s = .ok t) (start : inv s) : inv t := by
  induction items generalizing s with
  | nil => cases ran; exact start
  | cons a rest ih =>
    obtain ⟨u,first,later⟩ := (fold_cons a rest).mp ran
    have more : ∀ b ∈ rest, ∀ s t, step s b = .ok t → inv s → inv t :=
      fun b member => keeps b (List.mem_cons_of_mem _ member)
    apply ih more later
    exact keeps a List.mem_cons_self s u first start

-- A fold whose steps all succeed is the fold of what they make.
theorem fold_follows {plain : σ → β → σ} (follows : List.Forall₂ (fun a b => ∀ s, step s a = .ok (plain s b)) items others) (s : σ) :
    items.foldlM step s = .ok (others.foldl plain s) := by
  induction follows generalizing s with
  | nil => rfl
  | cons here _ ih =>
    rw [List.foldlM_cons,here s]
    exact ih _

-- Where a fold that fails has failed.
theorem fold_error (items : List α) (failed : items.foldlM step s = .error e) :
    ∃ before a after t, items = before ++ a :: after ∧ before.foldlM step s = .ok t ∧ step t a = .error e := by
  induction items generalizing s with
  | nil => cases failed
  | cons a rest ih =>
    rw [List.foldlM_cons] at failed
    rcases bind_error.mp failed with here | ⟨u,first,later⟩
    · exact ⟨[],a,rest,s,rfl,rfl,here⟩
    · obtain ⟨before,b,after,t,split,ran,stopped⟩ := ih later
      refine ⟨a :: before,b,after,t,by rw [split,List.cons_append],?_,stopped⟩
      exact (fold_cons a before).mpr ⟨u,first,ran⟩

-- A step that leaves the state alone can be left out.
theorem fold_skip (kept : α → Bool) (items : List α) (skips : ∀ a ∈ items, kept a = false → ∀ s, step s a = .ok s) (s : σ) :
    items.foldlM step s = (items.filter kept).foldlM step s := by
  induction items generalizing s with
  | nil => rfl
  | cons a rest ih =>
    have others : ∀ b ∈ rest, kept b = false → ∀ s, step s b = .ok s := fun b member => skips b (List.mem_cons_of_mem _ member)
    cases keep : kept a with
    | true =>
      rw [List.filter_cons_of_pos keep,List.foldlM_cons,List.foldlM_cons]
      exact congrArg _ (funext fun t => ih others t)
    | false =>
      rw [List.filter_cons_of_neg (by simp [keep]),List.foldlM_cons,skips a List.mem_cons_self keep]
      exact ih others s

-- A fold succeeds where each step does, if what lets a step succeed is in its item.
theorem fold_succeeds {good : α → Prop} (items : List α) (succeeds : ∀ a ∈ items, ∀ s, (∃ t, step s a = .ok t) ↔ good a) (s : σ) :
    (∃ t, items.foldlM step s = .ok t) ↔ ∀ a ∈ items, good a := by
  induction items generalizing s with
  | nil => exact ⟨fun _ => List.forall_mem_nil _,fun _ => ⟨s,rfl⟩⟩
  | cons a rest ih =>
    have others : ∀ b ∈ rest, ∀ s, (∃ t, step s b = .ok t) ↔ good b := fun b member => succeeds b (List.mem_cons_of_mem _ member)
    rw [List.forall_mem_cons]
    constructor
    · intro ⟨t,ran⟩
      obtain ⟨u,first,later⟩ := (fold_cons a rest).mp ran
      exact ⟨(succeeds a List.mem_cons_self s).mp ⟨u,first⟩,(ih others u).mp ⟨t,later⟩⟩
    · intro ⟨here,all⟩
      obtain ⟨u,first⟩ := (succeeds a List.mem_cons_self s).mpr here
      obtain ⟨t,later⟩ := (ih others u).mpr all
      exact ⟨t,(fold_cons a rest).mpr ⟨u,first,later⟩⟩

theorem mapM_succeeds {f : α → Except ε β} (items : List α) : (∃ results, items.mapM f = .ok results) ↔ ∀ a ∈ items, ∃ b, f a = .ok b := by
  induction items with
  | nil => exact ⟨fun _ => List.forall_mem_nil _,fun _ => ⟨[],rfl⟩⟩
  | cons a rest ih =>
    rw [List.forall_mem_cons,← ih]
    constructor
    · intro ⟨results,ran⟩
      rw [List.mapM_cons] at ran
      obtain ⟨b,first,later⟩ := bind_ok.mp ran
      obtain ⟨others,more,_⟩ := bind_ok.mp later
      exact ⟨⟨b,first⟩,others,more⟩
    · intro ⟨⟨b,first⟩,others,more⟩
      refine ⟨b :: others,?_⟩
      rw [List.mapM_cons]
      exact bind_ok.mpr ⟨b,first,bind_ok.mpr ⟨others,more,rfl⟩⟩

theorem mapM_one {f : α → Except ε β} {results : List β} : [a].mapM f = .ok results ↔ ∃ b, f a = .ok b ∧ results = [b] := by
  rw [List.mapM_cons,List.mapM_nil,bind_ok]
  apply exists_congr
  intro b
  apply and_congr_right
  intro _
  constructor
  · intro made
    cases made
    rfl
  · intro made
    rw [made]
    rfl

theorem map_ok {first : Except ε α} {f : α → β} : first.map f = .ok b ↔ ∃ a, first = .ok a ∧ b = f a := by
  constructor
  · intro came
    cases first with
    | error e => cases came
    | ok a => cases came; exact ⟨a,rfl,rfl⟩
  · rintro ⟨a,rfl,rfl⟩
    rfl

theorem mapM_ok {f : α → Except ε β} {items : List α} {results : List β} (ran : items.mapM f = .ok results) :
    List.Forall₂ (fun a b => f a = .ok b) items results := by
  induction items generalizing results with
  | nil => cases ran; exact .nil
  | cons a rest ih =>
    rw [List.mapM_cons] at ran
    obtain ⟨b,first,later⟩ := bind_ok.mp ran
    obtain ⟨others,more,last⟩ := bind_ok.mp later
    cases last
    exact .cons first (ih more)

theorem mapM_forall₂ {f : α → Except ε β} {items : List α} {results : List β} :
    items.mapM f = .ok results ↔ List.Forall₂ (fun a b => f a = .ok b) items results := by
  refine ⟨mapM_ok,?_⟩
  intro each
  induction each with
  | nil => rfl
  | cons first _ ih =>
    rw [List.mapM_cons]
    exact bind_ok.mpr ⟨_,first,bind_ok.mpr ⟨_,ih,rfl⟩⟩

-- Each result is one item's.
theorem mapM_source {f : α → Except ε β} {items : List α} {results : List β} (ran : items.mapM f = .ok results)
    (member : b ∈ results) : ∃ a ∈ items, f a = .ok b := by
  have each := mapM_ok ran
  induction each with
  | nil => cases member
  | cons first _ ih =>
    rcases List.mem_cons.mp member with rfl | later
    · exact ⟨_,List.mem_cons_self,first⟩
    · obtain ⟨a,present,made⟩ := ih (mapM_forall₂.mpr (by assumption)) later
      exact ⟨a,List.mem_cons_of_mem _ present,made⟩

-- Items in another order give the results in another order.
theorem mapM_perm {f : α → Except ε β} {items others : List α} {results : List β} (same : others.Perm items)
    (ran : items.mapM f = .ok results) : ∃ moved, others.mapM f = .ok moved ∧ moved.Perm results := by
  obtain ⟨moved,each,perm⟩ := List.perm_comp_forall₂ same (mapM_ok ran)
  exact ⟨moved,mapM_forall₂.mpr each,perm⟩

theorem mapM_drop {f : α → Except ε β} {items : List α} {results : List β} (n : Nat) (ran : items.mapM f = .ok results) :
    (items.drop n).mapM f = .ok (results.drop n) :=
  mapM_forall₂.mpr (List.forall₂_drop n (mapM_ok ran))

-- Two passes through a list are one pass of both steps.
theorem mapM_stages {f : α → Except ε β} {g : β → Except ε γ} (items : List α) (results : List γ) :
    items.mapM (fun a => f a >>= g) = .ok results ↔ ∃ middle, items.mapM f = .ok middle ∧ middle.mapM g = .ok results := by
  induction items generalizing results with
  | nil => exact ⟨fun ran => ⟨[],rfl,ran⟩,fun ⟨_,ran,after⟩ => by cases ran; exact after⟩
  | cons a rest ih =>
    rw [List.mapM_cons,List.mapM_cons]
    constructor
    · intro ran
      obtain ⟨c,both,later⟩ := bind_ok.mp ran
      obtain ⟨b,first,second⟩ := bind_ok.mp both
      obtain ⟨others,more,last⟩ := bind_ok.mp later
      cases last
      obtain ⟨middle,before,after⟩ := (ih others).mp more
      refine ⟨b :: middle,bind_ok.mpr ⟨b,first,bind_ok.mpr ⟨middle,before,rfl⟩⟩,?_⟩
      rw [List.mapM_cons]
      exact bind_ok.mpr ⟨c,second,bind_ok.mpr ⟨others,after,rfl⟩⟩
    · intro ⟨_,ran,after⟩
      obtain ⟨b,first,later⟩ := bind_ok.mp ran
      obtain ⟨middle,before,last⟩ := bind_ok.mp later
      cases last
      rw [List.mapM_cons] at after
      obtain ⟨c,second,later⟩ := bind_ok.mp after
      obtain ⟨others,more,last⟩ := bind_ok.mp later
      cases last
      have joined := (ih others).mpr ⟨middle,before,more⟩
      exact bind_ok.mpr ⟨c,bind_ok.mpr ⟨b,first,second⟩,bind_ok.mpr ⟨others,joined,rfl⟩⟩

-- What is made of each result and of the item it came from can be made afterwards.
theorem mapM_with {f : α → Except ε β} (k : α → β → γ) (items : List α) (results : List γ) :
    items.mapM (fun a => (f a).map (k a)) = .ok results ↔ ∃ middle, items.mapM f = .ok middle ∧ results = List.zipWith k items middle := by
  induction items generalizing results with
  | nil => exact ⟨fun ran => ⟨[],rfl,by cases ran; rfl⟩,fun ⟨_,ran,same⟩ => by cases ran; rw [same]; rfl⟩
  | cons a rest ih =>
    rw [List.mapM_cons,List.mapM_cons]
    constructor
    · intro ran
      obtain ⟨c,made,later⟩ := bind_ok.mp ran
      obtain ⟨others,more,last⟩ := bind_ok.mp later
      cases last
      obtain ⟨b,first,same⟩ := map_ok.mp made
      obtain ⟨middle,before,zipped⟩ := (ih others).mp more
      refine ⟨b :: middle,bind_ok.mpr ⟨b,first,bind_ok.mpr ⟨middle,before,rfl⟩⟩,?_⟩
      rw [same,zipped,List.zipWith_cons_cons]
    · intro ⟨_,ran,same⟩
      obtain ⟨b,first,later⟩ := bind_ok.mp ran
      obtain ⟨middle,before,last⟩ := bind_ok.mp later
      cases last
      have others := (ih _).mpr ⟨middle,before,rfl⟩
      rw [same,List.zipWith_cons_cons]
      exact bind_ok.mpr ⟨k a b,map_ok.mpr ⟨b,first,rfl⟩,bind_ok.mpr ⟨_,others,rfl⟩⟩

theorem mapM_map (k : β → γ) (f : α → Except ε β) (items : List α) :
    (items.mapM f).map (List.map k) = items.mapM fun a => (f a).map k := by
  induction items with
  | nil => rfl
  | cons a rest ih =>
    rw [List.mapM_cons,List.mapM_cons,← ih]
    cases f a with
    | error e => rfl
    | ok b => cases rest.mapM f <;> rfl

-- Two computations that give the same or both fail, whatever they fail with.
def Same (first second : Except ε α) : Prop := ∀ a, first = .ok a ↔ second = .ok a

theorem Same.toOption {first second : Except ε α} (same : Same first second) : first.toOption = second.toOption := by
  cases came : first with
  | ok a => rw [(same a).mp came]
  | error e =>
    cases other : second with
    | ok a => cases came.symm.trans ((same a).mpr other)
    | error f => rfl

theorem mapM_same {f g : α → Except ε β} (items : List α) (same : ∀ a ∈ items, Same (f a) (g a)) :
    Same (items.mapM f) (items.mapM g) := by
  induction items with
  | nil => exact fun _ => Iff.rfl
  | cons a rest ih =>
    obtain ⟨here,others⟩ := List.forall_mem_cons.mp same
    intro results
    rw [List.mapM_cons,List.mapM_cons,bind_ok,bind_ok]
    apply exists_congr
    intro b
    rw [here b,bind_ok,bind_ok]
    exact and_congr_right fun _ => exists_congr fun later => and_congr_left fun _ => ih others later

-- Two passes through a list give the same where each item does.
theorem mapM_agree {f g : α → Except ε β} (items : List α) :
    (∃ results, items.mapM f = .ok results ∧ items.mapM g = .ok results) ↔ ∀ a ∈ items, ∃ b, f a = .ok b ∧ g a = .ok b := by
  induction items with
  | nil => exact ⟨fun _ => List.forall_mem_nil _,fun _ => ⟨[],rfl,rfl⟩⟩
  | cons a rest ih =>
    rw [List.forall_mem_cons,← ih]
    constructor
    · intro ⟨results,left,right⟩
      rw [List.mapM_cons] at left right
      obtain ⟨b,first,left⟩ := bind_ok.mp left
      obtain ⟨c,second,right⟩ := bind_ok.mp right
      obtain ⟨others,more,left⟩ := bind_ok.mp left
      obtain ⟨later,again,right⟩ := bind_ok.mp right
      cases left
      cases right
      exact ⟨⟨b,first,second⟩,others,more,again⟩
    · intro ⟨⟨b,first,second⟩,others,more,again⟩
      refine ⟨b :: others,?_,?_⟩
      · rw [List.mapM_cons]
        exact bind_ok.mpr ⟨b,first,bind_ok.mpr ⟨others,more,rfl⟩⟩
      · rw [List.mapM_cons]
        exact bind_ok.mpr ⟨b,second,bind_ok.mpr ⟨others,again,rfl⟩⟩

theorem same_cases {first second : Except ε α} : Same first second ↔
    (∃ a, first = .ok a ∧ second = .ok a) ∨ (¬∃ a, first = .ok a) ∧ ¬∃ a, second = .ok a := by
  constructor
  · intro same
    cases came : first with
    | ok a => exact .inl ⟨a,rfl,(same a).mp came⟩
    | error e =>
      refine .inr ⟨by simp,?_⟩
      intro ⟨a,other⟩
      cases came.symm.trans ((same a).mpr other)
  · intro given a
    obtain ⟨b,left,right⟩ | ⟨left,right⟩ := given
    · rw [left,right]
    · exact ⟨fun came => absurd ⟨a,came⟩ left,fun came => absurd ⟨a,came⟩ right⟩

end Fallible
