import RiskPulse.Library.OrderedDict
import Mathlib.Data.List.Sort
import Mathlib.Data.List.Lex

-- A directory tree without links. A path is the list of names below the root, which is
-- always a directory, and every name stands in a directory.
inductive FileNode (α : Type) where
  | directory
  | file (content : α)

instance FileNode.decideDirectory : (node : Option (FileNode α)) → Decidable (node = some .directory)
  | some .directory => isTrue rfl
  | some (.file _) => isFalse fun same => by cases same
  | none => isFalse fun same => by cases same

structure FileTree (ν α : Type) [DecidableEq ν] where
  nodes : OrderedDict (List ν) (FileNode α)
  closed : ∀ path name, path ++ [name] ∈ nodes.keys → path = [] ∨ nodes.get? path = some .directory

structure FilePath (ν : Type) where
  parent : List ν
  name : ν

def FilePath.full (p : FilePath ν) : List ν := p.parent ++ [p.name]

theorem FilePath.full_ne (p : FilePath ν) : p.full ≠ [] := by
  intro same
  simp [full] at same

theorem FilePath.full_injective {p q : FilePath ν} (same : p.full = q.full) : p = q := by
  obtain ⟨parents,names⟩ := List.append_inj' same rfl
  obtain ⟨parent,name⟩ := p
  cases q
  cases parents
  cases List.cons.inj names |>.1
  rfl

namespace FileTree

inductive Error where
  | noDirectory
  | isDirectory
  | fileExists
  deriving DecidableEq

variable {ν α : Type} [DecidableEq ν]

def empty : FileTree ν α := ⟨.empty,fun _ _ member => by cases member⟩

def node? (t : FileTree ν α) (path : List ν) : Option (FileNode α) := if path = [] then some .directory else t.nodes.get? path

theorem directory_above (t : FileTree ν α) (path : List ν) (name : ν) (found : t.nodes.get? (path ++ [name]) = some node) :
    t.node? path = some .directory := by
  unfold node?
  split
  · rfl
  · rename_i below
    exact (t.closed path name ((OrderedDict.mem_keys _ _).mpr ⟨node,found⟩)).resolve_left below

-- A directory stays one, since something may stand in it.
def place (t : FileTree ν α) (p : FilePath ν) (node : FileNode α) (inside : t.node? p.parent = some .directory)
    (stays : node = .directory ∨ t.nodes.get? p.full ≠ some .directory) : FileTree ν α where
  nodes := t.nodes.set p.full node
  closed := by
    intro path name member
    have old : path = [] ∨ t.nodes.get? path = some .directory := by
      rcases (OrderedDict.mem_keys_set t.nodes p.full node (path ++ [name])).mp member with new | present
      · have parent : path = p.parent := (List.append_inj' new rfl).1
        rw [parent]
        unfold node? at inside
        split at inside
        · exact .inl ‹_›
        · exact .inr inside
      · exact t.closed path name present
    refine old.imp_right fun was => ?_
    rw [OrderedDict.get?_set]
    split
    · rename_i here
      rw [here] at was
      rw [stays.resolve_right (fun changed => changed was)]
    · exact was

theorem node?_place (t : FileTree ν α) (p : FilePath ν) (node : FileNode α) (inside : t.node? p.parent = some .directory)
    (stays : node = .directory ∨ t.nodes.get? p.full ≠ some .directory) (path : List ν) :
    (t.place p node inside stays).node? path = if path = p.full then some node else t.node? path := by
  unfold node? place
  by_cases root : path = []
  · have apart : path ≠ p.full := by
      rw [root]
      exact fun same => by simp [FilePath.full] at same
    rw [if_pos root,if_pos root,if_neg apart]
  · rw [if_neg root,if_neg root,OrderedDict.get?_set]

-- One directory, which may be there already.
def mkdir (t : FileTree ν α) (p : FilePath ν) : Except Error (FileTree ν α) :=
  if inside : t.node? p.parent = some .directory then
    match t.nodes.get? p.full with
    | some .directory => .ok t
    | some (.file _) => .error .fileExists
    | none => .ok (t.place p .directory inside (.inl rfl))
  else .error .noDirectory

-- The directories from one that is there downwards. Where a file stands in the way,
-- all directories above it are there, so that none has been made.
def mkdirs (t : FileTree ν α) (base : List ν) : List ν → Except Error (FileTree ν α)
  | [] => .ok t
  | name :: rest => (t.mkdir ⟨base,name⟩).bind fun made => mkdirs made (base ++ [name]) rest

def writeFile (t : FileTree ν α) (p : FilePath ν) (content : α) : Except Error (FileTree ν α) :=
  if inside : t.node? p.parent = some .directory then
    if there : t.nodes.get? p.full = some .directory then .error .isDirectory
    else .ok (t.place p (.file content) inside (.inr there))
  else .error .noDirectory

def fileBelow (root : List ν) (entry : List ν × FileNode α) : Option (List ν × α) :=
  match entry.2 with
  | .file content => if root <+: entry.1 then some (entry.1.drop root.length,content) else none
  | .directory => none

-- The files below a directory, by their paths from there.
def files (t : FileTree ν α) (root : List ν) : List (List ν × α) := t.nodes.entries.filterMap (fileBelow root)

theorem node?_full (t : FileTree ν α) (p : FilePath ν) : t.node? p.full = t.nodes.get? p.full := if_neg p.full_ne

theorem node?_cons (t : FileTree ν α) (name : ν) (path : List ν) : t.node? (name :: path) = t.nodes.get? (name :: path) :=
  if_neg (List.cons_ne_nil name path)

theorem node?_above (t : FileTree ν α) (path more : List ν) (below : more ≠ []) (found : t.node? (path ++ more) = some node) :
    t.node? path = some .directory := by
  induction more generalizing path with
  | nil => exact absurd rfl below
  | cons name rest ih =>
    have stands : ∃ child, t.node? (path ++ [name]) = some child := by
      by_cases last : rest = []
      · exact ⟨node,by rw [← found,last]⟩
      · exact ⟨.directory,ih (path ++ [name]) last (by rw [← found,List.append_assoc,List.singleton_append])⟩
    obtain ⟨child,stands⟩ := stands
    rw [show path ++ [name] = (⟨path,name⟩ : FilePath ν).full from rfl,node?_full] at stands
    exact t.directory_above path name stands

theorem mkdir_made {t made : FileTree ν α} {p : FilePath ν} (ran : t.mkdir p = .ok made) :
    (t.node? p.full = some .directory ∧ made = t) ∨
      t.node? p.full = none ∧ ∀ path, made.node? path = if path = p.full then some .directory else t.node? path := by
  unfold mkdir at ran
  split at ran
  · rename_i inside
    rw [node?_full]
    split at ran
    · rename_i there
      cases ran
      exact .inl ⟨there,rfl⟩
    · cases ran
    · rename_i free
      cases ran
      exact .inr ⟨free,t.node?_place p .directory inside (.inl rfl)⟩
  · cases ran

theorem mkdir_present {t : FileTree ν α} {p : FilePath ν} (there : t.node? p.full = some .directory) : t.mkdir p = .ok t := by
  have inside : t.node? p.parent = some .directory := t.node?_above p.parent [p.name] (by simp) there
  rw [node?_full] at there
  rw [mkdir,dif_pos inside,there]

-- Directories are made where nothing stood, and nothing else changes.
theorem mkdirs_made {t made : FileTree ν α} (base rest : List ν) (ran : t.mkdirs base rest = .ok made)
    (start : t.node? base = some .directory) : made.node? (base ++ rest) = some .directory ∧
      ∀ path, made.node? path = t.node? path ∨
        (t.node? path = none ∧ made.node? path = some .directory ∧ base <+: path ∧ path <+: base ++ rest) := by
  induction rest generalizing t base with
  | nil =>
    cases ran
    rw [List.append_nil]
    exact ⟨start,fun path => .inl rfl⟩
  | cons name rest ih =>
    rw [mkdirs] at ran
    cases first : t.mkdir ⟨base,name⟩ with
    | error e =>
      rw [first] at ran
      cases ran
    | ok next =>
      rw [first] at ran
      have whole : base ++ [name] ++ rest = base ++ name :: rest := by rw [List.append_assoc,List.singleton_append]
      have below : base ++ [name] <+: base ++ name :: rest := by rw [← whole]; exact List.prefix_append _ _
      rcases mkdir_made first with ⟨there,rfl⟩ | ⟨free,placed⟩
      · obtain ⟨last,others⟩ := ih (base ++ [name]) ran there
        rw [whole] at last others
        refine ⟨last,fun path => (others path).imp_right ?_⟩
        rintro ⟨absent,directory,above,inside⟩
        exact ⟨absent,directory,(List.prefix_append base [name]).trans above,inside⟩
      · have here : next.node? (base ++ [name]) = some .directory := by rw [placed]; exact if_pos rfl
        obtain ⟨last,others⟩ := ih (base ++ [name]) ran here
        rw [whole] at last others
        refine ⟨last,fun path => ?_⟩
        by_cases new : path = base ++ [name]
        · rw [new]
          rcases others (base ++ [name]) with same | ⟨absent,_⟩
          · exact .inr ⟨free,by rw [same,here],List.prefix_append _ _,below⟩
          · rw [here] at absent
            cases absent
        · have old : next.node? path = t.node? path := by rw [placed,if_neg (show path ≠ (⟨base,name⟩ : FilePath ν).full from new)]
          rw [← old]
          refine (others path).imp_right ?_
          rintro ⟨absent,directory,above,inside⟩
          exact ⟨absent,directory,(List.prefix_append base [name]).trans above,inside⟩

theorem mkdirs_keeps {t made : FileTree ν α} (ran : t.mkdirs [] path = .ok made) (there : t.node? other = some node) :
    made.node? other = some node := by
  rcases (mkdirs_made [] path ran rfl).2 other with same | ⟨absent,_⟩
  · rw [same,there]
  · rw [absent] at there
    cases there

theorem mkdirs_file {t made : FileTree ν α} (ran : t.mkdirs [] path = .ok made) (there : made.node? other = some (.file content)) :
    t.node? other = some (.file content) := by
  rcases (mkdirs_made [] path ran rfl).2 other with same | ⟨_,directory,_⟩
  · rw [← same,there]
  · rw [directory] at there
    cases there

-- A directory that is no part of the path was there before.
theorem mkdirs_directory {t made : FileTree ν α} (ran : t.mkdirs [] path = .ok made) (there : made.node? other = some .directory)
    (aside : ¬other <+: path) : t.node? other = some .directory := by
  rcases (mkdirs_made [] path ran rfl).2 other with same | ⟨_,_,_,inside⟩
  · rw [← same,there]
  · exact absurd inside aside

theorem mkdirs_present (t : FileTree ν α) (base rest : List ν) (there : t.node? (base ++ rest) = some .directory) :
    t.mkdirs base rest = .ok t := by
  induction rest generalizing base with
  | nil => rfl
  | cons name rest ih =>
    rw [← List.singleton_append,← List.append_assoc] at there
    have first : t.node? (base ++ [name]) = some .directory := by
      by_cases last : rest = []
      · rw [last,List.append_nil] at there
        exact there
      · exact t.node?_above (base ++ [name]) rest last there
    rw [mkdirs,mkdir_present (p := ⟨base,name⟩) first]
    exact ih (base ++ [name]) there

-- Where a directory has the name of a file, no directory had to be made above it.
theorem mkdirs_taken {t made : FileTree ν α} {p : FilePath ν} (ran : t.mkdirs [] p.parent = .ok made)
    (taken : made.node? p.full = some .directory) : made = t ∧ t.node? p.full = some .directory := by
  have aside : ¬p.full <+: p.parent := by
    intro inside
    have short := inside.length_le
    rw [FilePath.full,List.length_append,List.length_singleton] at short
    omega
  have before := mkdirs_directory ran taken aside
  have above : t.node? p.parent = some .directory := t.node?_above p.parent [p.name] (by simp) before
  rw [t.mkdirs_present [] p.parent above] at ran
  exact ⟨(Except.ok.inj ran).symm,before⟩

theorem writeFile_written {t written : FileTree ν α} {p : FilePath ν} (ran : t.writeFile p content = .ok written) :
    t.node? p.parent = some .directory ∧ t.node? p.full ≠ some .directory ∧
      ∀ path, written.node? path = if path = p.full then some (.file content) else t.node? path := by
  unfold writeFile at ran
  split at ran
  · rename_i inside
    split at ran
    · cases ran
    · rename_i free
      cases ran
      rw [node?_full]
      exact ⟨inside,free,t.node?_place p (.file content) inside (.inr free)⟩
  · cases ran

theorem writeFile_taken (t : FileTree ν α) (p : FilePath ν) (content : α) (inside : t.node? p.parent = some .directory)
    (taken : t.node? p.full = some .directory) : t.writeFile p content = .error .isDirectory := by
  rw [node?_full] at taken
  rw [writeFile,dif_pos inside,dif_pos taken]

theorem writeFile_works (t : FileTree ν α) (p : FilePath ν) (content : α) (inside : t.node? p.parent = some .directory)
    (free : t.node? p.full ≠ some .directory) : ∃ written, t.writeFile p content = .ok written := by
  rw [node?_full] at free
  exact ⟨_,by rw [writeFile,dif_pos inside,dif_neg free]⟩

theorem fileBelow_some (root : List ν) (entry : List ν × FileNode α) (below : List ν) (content : α) :
    fileBelow root entry = some (below,content) ↔ entry = (root ++ below,.file content) := by
  obtain ⟨path,node⟩ := entry
  constructor
  · intro made
    cases node with
    | directory => cases made
    | file data =>
      unfold fileBelow at made
      simp only at made
      split at made
      · rename_i above
        obtain ⟨rest,rfl⟩ := above
        rw [List.drop_left] at made
        cases made
        rfl
      · cases made
  · rintro ⟨⟩
    simp only [fileBelow,List.prefix_append,if_true,List.drop_left]

theorem mem_files (t : FileTree ν α) (root below : List ν) (content : α) :
    (below,content) ∈ t.files root ↔ t.nodes.get? (root ++ below) = some (.file content) := by
  simp only [files,List.mem_filterMap,← OrderedDict.get?_entry,fileBelow_some,exists_eq_right]

theorem files_unique (t : FileTree ν α) (root : List ν) : ((t.files root).map Prod.fst).Nodup := by
  have distinct : t.nodes.entries.Pairwise fun a b => a.1 ≠ b.1 := List.pairwise_map.mp t.nodes.unique
  refine List.pairwise_map.mpr (List.pairwise_filterMap.mpr (distinct.imp ?_))
  rintro a b apart ⟨below,content⟩ first ⟨other,data⟩ second same
  rw [fileBelow_some] at first second
  exact apart (by rw [first,second]; exact congrArg (root ++ ·) same)

section Listing
variable (le : List ν → List ν → Prop) [DecidableRel le]

-- The files below a directory in the order of their paths.
def listing (t : FileTree ν α) (root : List ν) : List (List ν × α) := (t.files root).insertionSort fun a b => le a.1 b.1

theorem listing_perm (t : FileTree ν α) (root : List ν) : (t.listing le root).Perm (t.files root) := List.perm_insertionSort _ _

variable [total : Std.Total le] [IsTrans (List ν) le] [anti : Std.Antisymm le]

theorem listing_congr (t u : FileTree ν α) (root : List ν)
    (same : ∀ path, root <+: path → t.nodes.get? path = u.nodes.get? path) : t.listing le root = u.listing le root := by
  have ordered : Std.Total fun a b : List ν × α => le a.1 b.1 := ⟨fun a b => total.total a.1 b.1⟩
  have chained : IsTrans (List ν × α) fun a b => le a.1 b.1 := ⟨fun a b c => IsTrans.trans a.1 b.1 c.1⟩
  have members : (t.files root).Perm (u.files root) := by
    refine (List.perm_ext_iff_of_nodup (List.Nodup.of_map _ (t.files_unique root)) (List.Nodup.of_map _ (u.files_unique root))).mpr ?_
    rintro ⟨below,content⟩
    rw [mem_files,mem_files,same _ (List.prefix_append root below)]
  have sorted := (t.listing_perm le root).trans (members.trans (u.listing_perm le root).symm)
  refine List.Perm.eq_of_pairwise ?_ (List.pairwise_insertionSort _ _) (List.pairwise_insertionSort _ _) sorted
  rintro ⟨a,x⟩ ⟨b,y⟩ first second below above
  cases anti.antisymm a b below above
  rw [(t.listing_perm le root).mem_iff,mem_files] at first
  rw [(u.listing_perm le root).mem_iff,mem_files,← same _ (List.prefix_append root a),first] at second
  cases second
  rfl

end Listing

-- Two trees that are the same below a directory.
def Agree (root : List ν) (t u : FileTree ν α) : Prop := ∀ path, root <+: path → t.node? path = u.node? path

def Alike (root : List ν) : Except Error (FileTree ν α) → Except Error (FileTree ν α) → Prop
  | .ok t,.ok u => Agree root t u
  | .error e,.error f => e = f
  | _,_ => False

theorem alike_cases {first second : Except Error (FileTree ν α)} (alike : Alike root first second) :
    (∃ e, first = .error e ∧ second = .error e) ∨ ∃ t u, first = .ok t ∧ second = .ok u ∧ Agree root t u := by
  cases first with
  | error e =>
    cases second with
    | error f => exact .inl ⟨e,rfl,by rw [show e = f from alike]⟩
    | ok u => exact alike.elim
  | ok t =>
    cases second with
    | error f => exact alike.elim
    | ok u => exact .inr ⟨t,u,rfl,rfl,alike⟩

section Agreement
variable {root : List ν} {t u : FileTree ν α} (agree : Agree root t u)
include agree

theorem place_agree (p : FilePath ν) (node : FileNode α) (inside : t.node? p.parent = some .directory)
    (stays : node = .directory ∨ t.nodes.get? p.full ≠ some .directory) (inside' : u.node? p.parent = some .directory)
    (stays' : node = .directory ∨ u.nodes.get? p.full ≠ some .directory) :
    Agree root (t.place p node inside stays) (u.place p node inside' stays') := by
  intro path below
  rw [node?_place,node?_place,agree path below]

theorem nodes_agree (p : FilePath ν) (below : root <+: p.full) : t.nodes.get? p.full = u.nodes.get? p.full := by
  rw [← node?_full,← node?_full]
  exact agree p.full below

theorem mkdir_alike (p : FilePath ν) (parents : t.node? p.parent = u.node? p.parent) (below : root <+: p.full) :
    Alike root (t.mkdir p) (u.mkdir p) := by
  have here := nodes_agree agree p below
  unfold mkdir
  by_cases inside : t.node? p.parent = some .directory
  · have inside' := parents.symm.trans inside
    rw [dif_pos inside,dif_pos inside',← here]
    cases found : t.nodes.get? p.full with
    | none => exact place_agree agree p _ _ _ _ _
    | some node =>
      cases node with
      | directory => exact agree
      | file content => exact rfl
  · have inside' : ¬u.node? p.parent = some .directory := fun there => inside (parents.trans there)
    rw [dif_neg inside,dif_neg inside']
    rfl

theorem writeFile_alike (p : FilePath ν) (content : α) (parents : t.node? p.parent = u.node? p.parent) (below : root <+: p.full) :
    Alike root (t.writeFile p content) (u.writeFile p content) := by
  have here := nodes_agree agree p below
  unfold writeFile
  by_cases inside : t.node? p.parent = some .directory
  · have inside' := parents.symm.trans inside
    rw [dif_pos inside,dif_pos inside']
    by_cases there : t.nodes.get? p.full = some .directory
    · rw [dif_pos there,dif_pos (here.symm.trans there)]
      rfl
    · rw [dif_neg there,dif_neg (fun same => there (here.trans same))]
      exact place_agree agree p _ _ _ _ _
  · have inside' : ¬u.node? p.parent = some .directory := fun there => inside (parents.trans there)
    rw [dif_neg inside,dif_neg inside']
    rfl

theorem mkdirs_alike (base rest : List ν) (bases : t.node? base = u.node? base)
    (below : ∀ name, root <+: base ++ [name] ∨ rest.head? ≠ some name) : Alike root (t.mkdirs base rest) (u.mkdirs base rest) := by
  induction rest generalizing t u base with
  | nil => exact agree
  | cons name rest ih =>
    have inside : root <+: base ++ [name] := (below name).resolve_right fun other => other rfl
    rw [mkdirs,mkdirs]
    rcases alike_cases (mkdir_alike agree ⟨base,name⟩ bases inside) with ⟨e,first,second⟩ | ⟨t',u',first,second,made⟩
    · rw [first,second]
      rfl
    · rw [first,second]
      exact ih made (base ++ [name]) (made _ inside) fun _ => .inl (inside.trans (List.prefix_append _ _))

end Agreement

end FileTree
