import Mathlib.Data.Finset.Max
import Mathlib.Data.String.Basic
import RiskPulse.Library.FileTree
import RiskPulse.Library.Json

namespace RiskPulse

-- What stands below the path of an artifact, which is a directory.
structure ArtifactDirectory where
  tree : FileTree String (List UInt8)
  rooted : [] ∉ tree.nodes.keys

namespace ArtifactDirectory

-- The files by their relative paths.
def files (d : ArtifactDirectory) : List (List String × List UInt8) := d.tree.files []

def SamePaths (d other : ArtifactDirectory) : Prop := ∀ path, path ∈ d.files.map Prod.fst ↔ path ∈ other.files.map Prod.fst

def SameFiles (d other : ArtifactDirectory) : Prop := ∀ file, file ∈ d.files ↔ file ∈ other.files

-- sorted(artifact_path.rglob("*")): paths compare part by part.
def sortedFiles (d : ArtifactDirectory) : List (List String × List UInt8) := d.files.mergeSort fun a b => decide (a.1 ≤ b.1)

end ArtifactDirectory

namespace ModelRegistry
open ArtifactDirectory

-- str of a size.
def sizeText (size : Nat) : List UInt8 := Json.encodeUtf8 (String.ofList (Nat.toDigits 10 size))

-- What the hash is updated with for a file.
def fileUpdate (file : List String × List UInt8) : List UInt8 :=
  Json.encodeUtf8 (file.1.getLast?.getD "") ++ sizeText file.2.length

-- The hash is the first sixteen digits of the digest.
def computeArtifactHash (hash : List UInt8 → String) : Option ArtifactDirectory → String
  | none => ""
  | some d => hash (d.sortedFiles.flatMap fileUpdate)

end ModelRegistry

namespace ArtifactDirectory
open ModelRegistry

theorem fileBelow_root (entry : List String × FileNode (List UInt8)) :
    FileTree.fileBelow [] entry = match entry.2 with | .file content => some (entry.1,content) | .directory => none := by
  rw [FileTree.fileBelow]
  cases entry.2 with
  | directory => rfl
  | file content => exact if_pos (List.nil_prefix)

theorem mem_files (d : ArtifactDirectory) (path : List String) (content : List UInt8) :
    (path,content) ∈ d.files ↔ (path,.file content) ∈ d.tree.nodes.entries := by
  unfold files FileTree.files
  rw [List.mem_filterMap]
  constructor
  · rintro ⟨⟨place,node⟩,member,found⟩
    rw [fileBelow_root] at found
    cases node with
    | directory => cases found
    | file held =>
      cases found
      exact member
  · intro member
    exact ⟨_,member,fileBelow_root _⟩

theorem files_paths (d : ArtifactDirectory) : (d.files.map Prod.fst).Nodup := by
  apply List.Nodup.sublist _ d.tree.nodes.unique
  unfold files FileTree.files
  generalize d.tree.nodes.entries = entries
  induction entries with
  | nil => exact .slnil
  | cons entry rest ih =>
    rw [List.filterMap_cons,fileBelow_root]
    obtain ⟨place,node⟩ := entry
    cases node with
    | directory => exact ih.cons place
    | file content => exact ih.cons_cons place

theorem files_named (d : ArtifactDirectory) (file : List String × List UInt8) (member : file ∈ d.files) : file.1 ≠ [] := by
  intro root
  have entry := (d.mem_files file.1 file.2).mp member
  rw [root] at entry
  exact d.rooted (List.mem_map.mpr ⟨_,entry,rfl⟩)

section Folder
variable (name : String) (d : ArtifactDirectory)

def folderNodes : OrderedDict (List String) (FileNode (List UInt8)) where
  entries := ([name],.directory) :: d.tree.nodes.entries.map fun entry => (name :: entry.1,entry.2)
  unique := by
    rw [List.map_cons,List.map_map]
    have below : (d.tree.nodes.entries.map fun entry => name :: entry.1) = d.tree.nodes.keys.map (name :: ·) := by
      rw [OrderedDict.keys,List.map_map]
      rfl
    change ([name] :: d.tree.nodes.entries.map fun entry => name :: entry.1).Nodup
    rw [below]
    refine List.nodup_cons.mpr ⟨?_,d.tree.nodes.unique.map fun a b same => (List.cons.inj same).2⟩
    intro member
    obtain ⟨path,inside,same⟩ := List.mem_map.mp member
    cases same
    exact d.rooted inside

theorem folderNodes_entry (path : List String) (node : FileNode (List UInt8)) :
    (path,node) ∈ (d.folderNodes name).entries ↔
      (path,node) = ([name],.directory) ∨ ∃ below, path = name :: below ∧ (below,node) ∈ d.tree.nodes.entries := by
  unfold folderNodes
  rw [List.mem_cons,List.mem_map]
  apply or_congr_right
  constructor
  · rintro ⟨⟨below,held⟩,member,same⟩
    cases same
    exact ⟨below,rfl,member⟩
  · rintro ⟨below,rfl,member⟩
    exact ⟨_,member,rfl⟩

theorem folderNodes_folder : (d.folderNodes name).get? [name] = some .directory :=
  (OrderedDict.get?_entry _ _ _).mp ((d.folderNodes_entry name _ _).mpr (.inl rfl))

theorem folderNodes_below (path : List String) (found : d.tree.nodes.get? path = some node) :
    (d.folderNodes name).get? (name :: path) = some node :=
  (OrderedDict.get?_entry _ _ _).mp
    ((d.folderNodes_entry name _ _).mpr (.inr ⟨path,rfl,(OrderedDict.get?_entry _ _ _).mpr found⟩))

-- The same directory inside a folder of that name.
def inFolder : ArtifactDirectory where
  tree :=
    { nodes := d.folderNodes name
      closed := by
        intro path last member
        obtain ⟨node,found⟩ := (OrderedDict.mem_keys _ _).mp member
        rcases (d.folderNodes_entry name _ _).mp ((OrderedDict.get?_entry _ _ _).mpr found) with folder | ⟨below,same,entry⟩
        · left
          exact (List.append_eq_cons_iff.mp (congrArg Prod.fst folder)).elim (fun first => first.1) fun ⟨more,_,rest⟩ => by
            simp at rest
        · have present : below ∈ d.tree.nodes.keys := List.mem_map.mpr ⟨_,entry,rfl⟩
          cases path with
          | nil =>
            left
            rfl
          | cons first path =>
            obtain ⟨rfl,rest⟩ := List.cons.inj same
            right
            rw [← rest] at present
            rcases d.tree.closed path last present with rfl | directory
            · exact d.folderNodes_folder first
            · exact d.folderNodes_below first path directory }
  rooted := by
    intro member
    obtain ⟨node,found⟩ := (OrderedDict.mem_keys _ _).mp member
    rcases (d.folderNodes_entry name _ _).mp ((OrderedDict.get?_entry _ _ _).mpr found) with folder | ⟨below,same,_⟩
    · cases folder
    · cases same

theorem inFolder_files : (d.inFolder name).files = d.files.map fun file => (name :: file.1,file.2) := by
  unfold files FileTree.files inFolder folderNodes
  rw [List.filterMap_cons,fileBelow_root,List.filterMap_map,List.map_filterMap]
  apply List.filterMap_congr
  intro entry _
  rw [Function.comp_apply,fileBelow_root,fileBelow_root]
  cases entry.2 <;> rfl

theorem inFolder_feed : (d.inFolder name).sortedFiles.flatMap fileUpdate = d.sortedFiles.flatMap fileUpdate := by
  have sorted : (d.inFolder name).sortedFiles = d.sortedFiles.map fun file => (name :: file.1,file.2) := by
    rw [sortedFiles,inFolder_files,sortedFiles,List.map_mergeSort]
    intro a _ b _
    apply decide_eq_decide.mpr
    rw [← not_lt,← not_lt]
    exact not_congr List.cons_lt_cons_self.symm
  rw [sorted,List.flatMap_map]
  apply List.flatMap_congr
  intro file member
  have named := d.files_named file (List.mem_mergeSort.mp member)
  rw [fileUpdate,fileUpdate,List.getLast?_cons_of_ne_nil named]

-- With a file in it, it is another directory: the longest path is longer.
theorem inFolder_other (some : d.files ≠ []) : ¬SameFiles d (d.inFolder name) := by
  intro same
  obtain ⟨first,inside⟩ := List.exists_mem_of_ne_nil _ some
  obtain ⟨longest,member,most⟩ := Finset.exists_max_image d.files.toFinset (fun file => file.1.length)
    ⟨first,List.mem_toFinset.mpr inside⟩
  have moved : (name :: longest.1,longest.2) ∈ (d.inFolder name).files := by
    rw [inFolder_files]
    exact List.mem_map.mpr ⟨longest,List.mem_toFinset.mp member,rfl⟩
  have longer := most _ (List.mem_toFinset.mpr ((same _).mpr moved))
  simp at longer

end Folder

-- Every byte of every file is another one.
def shifted (d : ArtifactDirectory) : ArtifactDirectory where
  tree :=
    { nodes := d.tree.nodes.mapValues fun node => match node with
        | .directory => .directory
        | .file content => .file (content.map (· + 1))
      closed := by
        intro path name member
        rw [OrderedDict.keys_mapValues] at member
        refine (d.tree.closed path name member).imp_right fun directory => ?_
        rw [OrderedDict.get?_mapValues,directory]
        rfl }
  rooted := by
    rw [OrderedDict.keys_mapValues]
    exact d.rooted

theorem shifted_files (d : ArtifactDirectory) : d.shifted.files = d.files.map fun file => (file.1,file.2.map (· + 1)) := by
  unfold files FileTree.files shifted OrderedDict.mapValues
  rw [List.filterMap_map,List.map_filterMap]
  apply List.filterMap_congr
  intro entry _
  rw [Function.comp_apply,fileBelow_root,fileBelow_root]
  cases entry.2 <;> rfl

theorem shifted_paths (d : ArtifactDirectory) : SamePaths d d.shifted := by
  intro path
  rw [shifted_files,List.map_map]
  rfl

theorem shifted_feed (d : ArtifactDirectory) : d.shifted.sortedFiles.flatMap fileUpdate = d.sortedFiles.flatMap fileUpdate := by
  have sorted : d.shifted.sortedFiles = d.sortedFiles.map fun file => (file.1,file.2.map (· + 1)) := by
    rw [sortedFiles,shifted_files,sortedFiles,List.map_mergeSort]
    exact fun _ _ _ _ => rfl
  rw [sorted,List.flatMap_map]
  apply List.flatMap_congr
  intro file _
  rw [fileUpdate,fileUpdate,List.length_map]

theorem shifted_other (d : ArtifactDirectory) (member : file ∈ d.files) (some : file.2 ≠ []) : ¬SameFiles d d.shifted := by
  intro same
  have moved : (file.1,file.2.map (· + 1)) ∈ d.files := by
    apply (same _).mpr
    rw [shifted_files]
    exact List.mem_map.mpr ⟨file,member,rfl⟩
  have equal := List.inj_on_of_nodup_map d.files_paths moved member rfl
  have contents : file.2.map (· + 1) = file.2 := congrArg Prod.snd equal
  obtain ⟨first,rest,whole⟩ := List.exists_cons_of_ne_nil some
  rw [whole,List.map_cons] at contents
  have byte : first + 1 = first := (List.cons.inj contents).1
  exact absurd (congrArg UInt8.toNat byte) (by rw [UInt8.toNat_add]; have := first.toNat_lt; change (first.toNat + 1) % 256 ≠ _; omega)

theorem leading_digit (n : Nat) : ∃ d more, d < 10 ∧ Nat.toDigits 10 n = d.digitChar :: more ∧ (d = 0 → n = 0) := by
  induction n using Nat.strongRecOn with
  | _ n ih =>
    by_cases small : n < 10
    · exact ⟨n,[],small,Nat.toDigits_of_lt_base small,id⟩
    · obtain ⟨d,more,digit,written,zero⟩ := ih (n / 10) (by omega)
      refine ⟨d,more ++ [(n % 10).digitChar],digit,?_,fun none => ?_⟩
      · rw [Nat.toDigits_of_base_le (by omega) (by omega),written,List.cons_append]
      · have := zero none
        omega

theorem sizeText_leading (size : Nat) : ∃ d more, d < 10 ∧ sizeText size = UInt8.ofNat (48 + d) :: more ∧ (d = 0 → size = 0) := by
  obtain ⟨d,more,digit,written,zero⟩ := leading_digit size
  have byte : String.utf8EncodeChar d.digitChar = [UInt8.ofNat (48 + d)] := by
    clear written zero
    revert d
    decide
  refine ⟨d,Json.encodeUtf8 (String.ofList more),digit,?_,zero⟩
  rw [sizeText,written,Json.encodeUtf8,Json.encodeUtf8,String.toList_ofList,String.toList_ofList,List.flatMap_cons,byte]
  rfl

-- No other size begins with the digit of zero.
theorem sizeText_zero (size : Nat) (rest later : List UInt8) (same : sizeText 0 ++ rest = sizeText size ++ later) :
    size = 0 ∧ rest = later := by
  obtain ⟨d,more,digit,written,zero⟩ := sizeText_leading size
  have nothing : sizeText 0 = [48] := by decide
  have first : (48 : UInt8) = UInt8.ofNat (48 + d) := by
    rw [nothing,written] at same
    exact (List.cons.inj same).1
  have none : d = 0 := by
    clear written zero
    revert d
    decide
  have empty := zero none
  rw [empty] at same
  exact ⟨empty,List.append_cancel_left same⟩

theorem fileUpdate_some (file : List String × List UInt8) : fileUpdate file ≠ [] := by
  obtain ⟨d,more,_,written,_⟩ := sizeText_leading file.2.length
  rw [fileUpdate,written]
  simp

theorem feed_none (d : ArtifactDirectory) : d.sortedFiles.flatMap fileUpdate = [] ↔ d.files = [] := by
  rw [List.flatMap_eq_nil_iff]
  constructor
  · intro none
    apply List.eq_nil_iff_forall_not_mem.mpr
    intro file member
    exact fileUpdate_some file (none file (List.mem_mergeSort.mpr member))
  · intro none file member
    have inside := List.mem_mergeSort.mp member
    rw [none] at inside
    cases inside

-- Directories of the same paths list them in the same order.
theorem sorted_paths {d other : ArtifactDirectory} (same : SamePaths d other) :
    d.sortedFiles.map Prod.fst = other.sortedFiles.map Prod.fst := by
  have listed : ∀ e : ArtifactDirectory, e.sortedFiles.map Prod.fst = (e.files.map Prod.fst).mergeSort fun a b => decide (a ≤ b) := by
    intro e
    rw [sortedFiles]
    exact List.map_mergeSort fun _ _ _ _ => rfl
  have perm : (d.files.map Prod.fst).Perm (other.files.map Prod.fst) :=
    (List.perm_ext_iff_of_nodup d.files_paths other.files_paths).mpr same
  have order : ∀ paths : List (List String), (paths.mergeSort fun a b => decide (a ≤ b)).Pairwise (· ≤ ·) := by
    intro paths
    have sorted : (paths.mergeSort fun a b => decide (a ≤ b)).Pairwise fun a b => decide (a ≤ b) = true := by
      apply List.pairwise_mergeSort
      · intro a b c first second
        exact decide_eq_true (le_trans (of_decide_eq_true first) (of_decide_eq_true second))
      · intro a b
        simpa using le_total a b
    exact sorted.imp of_decide_eq_true
  rw [listed,listed]
  apply List.Perm.eq_of_pairwise' (order _) (order _)
  exact ((List.mergeSort_perm _ _).trans perm).trans (List.mergeSort_perm _ _).symm

-- Files of no bytes are told apart from others of their names.
theorem empty_feed (held found : List (List String × List UInt8)) (paths : held.map Prod.fst = found.map Prod.fst)
    (empty : ∀ file ∈ held, file.2 = []) (same : held.flatMap fileUpdate = found.flatMap fileUpdate) : held = found := by
  induction held generalizing found with
  | nil => exact (List.map_eq_nil_iff.mp paths.symm).symm
  | cons file rest ih =>
    obtain ⟨path,content⟩ := file
    cases found with
    | nil => cases paths
    | cons other later =>
      obtain ⟨place,bytes⟩ := other
      obtain ⟨rfl,further⟩ := List.cons.inj paths
      have none : content = [] := empty _ List.mem_cons_self
      subst none
      rw [List.flatMap_cons,List.flatMap_cons,fileUpdate,fileUpdate,List.append_assoc,List.append_assoc] at same
      obtain ⟨size,tails⟩ := sizeText_zero _ _ _ (List.append_cancel_left same)
      have bare : bytes = [] := List.eq_nil_of_length_eq_zero size
      rw [bare,ih later further (fun file member => empty file (List.mem_cons_of_mem _ member)) tails]

end ArtifactDirectory

namespace ModelRegistry
open ArtifactDirectory

-- What is hashed of a directory.
def artifactFeed (d : ArtifactDirectory) : List UInt8 := d.sortedFiles.flatMap fileUpdate

theorem hash_same (hash : List UInt8 → String) (injective : Function.Injective hash) (d other : ArtifactDirectory) :
    computeArtifactHash hash (some d) = computeArtifactHash hash (some other) ↔ artifactFeed d = artifactFeed other := injective.eq_iff

-- Of two directories the hash tells the files apart when they are the same, or when base
-- names and sizes differ, written one after the other. That is so for a directory and all
-- others only if it has no file, and for it and those of the same paths only if its
-- files are empty.
theorem artifact_hash_exact (hash : List UInt8 → String) (injective : Function.Injective hash) (d : ArtifactDirectory) :
    (∀ other, (computeArtifactHash hash (some d) = computeArtifactHash hash (some other) → SameFiles d other) ↔
      (SameFiles d other ∨ artifactFeed d ≠ artifactFeed other)) ∧
    ((∀ other, computeArtifactHash hash (some d) = computeArtifactHash hash (some other) → SameFiles d other) ↔ d.files = []) ∧
    ((∀ other, SamePaths d other → computeArtifactHash hash (some d) = computeArtifactHash hash (some other) → SameFiles d other) ↔
      ∀ file ∈ d.files, file.2 = []) := by
  simp only [hash_same hash injective]
  refine ⟨fun other => ?_,?_,?_⟩
  · rw [imp_iff_not_or,or_comm]
  · constructor
    · intro apart
      by_contra some
      exact d.inFolder_other "model" some (apart _ (d.inFolder_feed "model").symm)
    · intro none other same
      have nothing := (d.feed_none).mpr none
      have bare := (other.feed_none).mp (same.symm.trans nothing)
      intro file
      rw [none,bare]
  · constructor
    · intro apart file member
      by_contra some
      exact d.shifted_other member some (apart _ d.shifted_paths d.shifted_feed.symm)
    · intro empty other paths same
      have listed := empty_feed d.sortedFiles other.sortedFiles (sorted_paths paths)
        (fun file member => empty file (List.mem_mergeSort.mp member)) same
      intro file
      rw [← List.mem_mergeSort (l:=d.files),← List.mem_mergeSort (l:=other.files)]
      exact iff_of_eq (congrArg (file ∈ ·) listed)

-- A digest that keeps every byte.
def plainHash (content : List UInt8) : String := String.ofList (content.map fun byte => Char.ofNat byte.toNat)

theorem plainHash_injective : Function.Injective plainHash := by
  have bytes : Function.Injective fun byte : UInt8 => Char.ofNat byte.toNat := by
    intro a b same
    have code : ∀ byte : UInt8, (Char.ofNat byte.toNat).toNat = byte.toNat := by
      intro byte
      have valid : byte.toNat.isValidChar := .inl (lt_trans byte.toNat_lt (by decide))
      rw [Char.ofNat,dif_pos valid]
      rfl
    have codes := congrArg Char.toNat same
    simp only [code] at codes
    exact UInt8.toNat_inj.mp codes
  intro a b same
  exact bytes.list_map (String.ofList_injective same)

def oneFile (name : String) (content : List UInt8) : ArtifactDirectory where
  tree :=
    { nodes := ⟨[([name],.file content)],List.nodup_singleton _⟩
      closed := by
        intro path last member
        left
        have same : path ++ [last] = [] ++ [name] := List.mem_singleton.mp member
        exact (List.append_inj' same rfl).1 }
  rooted := by
    intro member
    cases List.mem_singleton.mp member

-- The model is another one of the same size.
theorem same_size_undetected : ¬∀ (hash : List UInt8 → String), Function.Injective hash → ∀ d other : ArtifactDirectory,
    computeArtifactHash hash (some d) = computeArtifactHash hash (some other) → SameFiles d other := by
  intro apart
  have same := apart plainHash plainHash_injective (oneFile "model.joblib" [97,97]) (oneFile "model.joblib" [97,98])
    (by decide +kernel)
  have moved := (same (["model.joblib"],[97,97])).mp (by decide +kernel)
  exact absurd moved (by decide +kernel)

theorem artifact_hash_exact_empty : Function.Injective plainHash ∧
    ((∀ other, computeArtifactHash plainHash (some (oneFile "model.joblib" [])) = computeArtifactHash plainHash (some other) →
      SameFiles (oneFile "model.joblib" []) other) ↔ (oneFile "model.joblib" []).files = []) ∧
    (oneFile "model.joblib" []).files = [(["model.joblib"],[])] :=
  ⟨plainHash_injective,(artifact_hash_exact plainHash plainHash_injective (oneFile "model.joblib" [])).2.1,by decide +kernel⟩

end ModelRegistry
end RiskPulse
