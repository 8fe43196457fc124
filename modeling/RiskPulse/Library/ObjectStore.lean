import Mathlib.Logic.Function.Basic

-- Objects under keys, and uploads in parts: an upload is opened, given numbered parts, and
-- then completed to an object of the listed parts or dropped.
namespace ObjectStore
variable {κ μ β : Type}

structure Object (β μ : Type) where
  body : List β
  contentType : String
  metadata : μ

structure Upload (κ β : Type) where
  key : κ
  contentType : String
  parts : Nat → Option (String × List β)

structure Store (κ β μ : Type) where
  objects : κ → Option (Object β μ)
  uploads : String → Option (Upload κ β)

namespace Upload

def part (upload : Upload κ β) (number : Nat) (etag : String) (body : List β) : Upload κ β :=
  {upload with parts := Function.update upload.parts number (some (etag,body))}

-- The listed parts one after the other, each by its number and tag.
def assembled (upload : Upload κ β) : List (Nat × String) → Option (List β)
  | [] => some []
  | (number,etag) :: rest =>
    match upload.parts number with
    | some (tag,body) => if tag = etag then (upload.assembled rest).map (body ++ ·) else none
    | none => none

end Upload

namespace Store

def put [DecidableEq κ] (store : Store κ β μ) (key : κ) (object : Object β μ) : Store κ β μ :=
  {store with objects := Function.update store.objects key (some object)}

def opened (store : Store κ β μ) (uploadId : String) (key : κ) (contentType : String) : Store κ β μ :=
  {store with uploads := Function.update store.uploads uploadId (some ⟨key,contentType,fun _ => none⟩)}

def parted (store : Store κ β μ) (uploadId : String) (upload : Upload κ β) : Store κ β μ :=
  {store with uploads := Function.update store.uploads uploadId (some upload)}

def dropped (store : Store κ β μ) (uploadId : String) : Store κ β μ :=
  {store with uploads := Function.update store.uploads uploadId none}

end Store

-- The upload holds the listed parts, numbered below the bound, and they make the data.
structure Holds (upload : Upload κ β) (parts : List (Nat × String)) (bound : Nat) (data : List β) : Prop where
  assembles : upload.assembled parts = some data
  below : ∀ part ∈ parts, part.1 < bound

theorem assembled_part (upload : Upload κ β) (etag : String) (body : List β) (parts : List (Nat × String)) (below : ∀ part ∈ parts, part.1 < number) :
    (upload.part number etag body).assembled parts = upload.assembled parts := by
  induction parts with
  | nil => rfl
  | cons first rest ih =>
    obtain ⟨n,tag⟩ := first
    have other : n ≠ number := Nat.ne_of_lt (below (n,tag) List.mem_cons_self)
    have same : (upload.part number etag body).parts n = upload.parts n := Function.update_of_ne other _ _
    rw [Upload.assembled,Upload.assembled,same,ih fun part member => below part (List.mem_cons_of_mem _ member)]

theorem assembled_append (upload : Upload κ β) (parts later : List (Nat × String)) (made : upload.assembled parts = some data) :
    upload.assembled (parts ++ later) = (upload.assembled later).map (data ++ ·) := by
  induction parts generalizing data with
  | nil =>
    cases made
    simp
  | cons first rest ih =>
    obtain ⟨n,tag⟩ := first
    rw [List.cons_append,Upload.assembled]
    rw [Upload.assembled] at made
    cases there : upload.parts n with
    | none =>
      rw [there] at made
      cases made
    | some held =>
      obtain ⟨etag,body⟩ := held
      simp only [there] at made ⊢
      by_cases same : etag = tag
      · rw [if_pos same] at made ⊢
        obtain ⟨tail,whole,rfl⟩ := Option.map_eq_some_iff.mp made
        rw [ih whole,Option.map_map]
        congr 1
        funext more
        exact (List.append_assoc body tail more).symm
      · rw [if_neg same] at made
        cases made

theorem holds_none (upload : Upload κ β) (bound : Nat) : Holds upload [] bound [] := ⟨rfl,fun _ member => by cases member⟩

-- A new part after the others.
theorem holds_part (holds : Holds upload parts number data) (etag : String) (body : List β) :
    Holds (upload.part number etag body) (parts ++ [(number,etag)]) (number + 1) (data ++ body) := by
  refine ⟨?_,?_⟩
  · have here : (upload.part number etag body).parts number = some (etag,body) := Function.update_self _ _ _
    have last : (upload.part number etag body).assembled [(number,etag)] = some body := by
      simp [Upload.assembled,here]
    have before := (assembled_part upload etag body parts holds.below).trans holds.assembles
    rw [assembled_append _ parts _ before,last]
    rfl
  · intro part member
    rcases List.mem_append.mp member with old | new
    · exact Nat.lt_succ_of_lt (holds.below part old)
    · cases List.mem_singleton.mp new
      exact Nat.lt_succ_self number

end ObjectStore
