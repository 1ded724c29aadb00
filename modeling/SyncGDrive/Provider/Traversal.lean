import Mathlib.Algebra.Order.Group.Multiset
import Mathlib.Tactic.Abel
import SyncGDrive.Data.Concat
import SyncGDrive.Provider.Listing

/-! The traversal of `list_remote` is complete and exact: what was found, what is queued and what is
still to come of the current folder make up the whole tree, level by level.
-/

namespace SyncGDrive

open Program GDriveProvider

-----------------------------------------------------------------------------------------
-- Queries and paths
-----------------------------------------------------------------------------------------

/-- A character with its quote escaped. -/
def escaped (c : Char) : List Char :=
  if c = '\'' then ['\\', '\''] else [c]

/-- How far a traversal has come: the folders that are queued, and the items that were found. -/
structure Progress where
  queue : List Place
  files : List Found := []
  dirs : List Found := []

namespace Progress

/-- What `list_remote` holds then. -/
def traversal (timestamp : String → Option Int) (progress : Progress) : Traversal where
  queue := progress.queue.map (fun place => (place.id, place.path))
  files := progress.files.map (Found.file timestamp)
  dirs := progress.dirs.map Found.dir

/-- One more item of a folder. -/
def add (place : Place) (progress : Progress) (branch : Branch) : Progress :=
  if branch.isFolder then
    { progress with
      dirs := progress.dirs ++ [place.find branch]
      queue := progress.queue ++ [(place.find branch).place] }
  else { progress with files := progress.files ++ [place.find branch] }

end Progress

section Items

variable {timestamp : String → Option Int} {place : Place} {progress : Progress}

theorem textOf_eq {json : Json} {key text : String} (told : json.field key = .string text)
    : textOf json key = text := by
  simp [textOf, told, Json.asStr]

end Items

-----------------------------------------------------------------------------------------
-- The whole tree
-----------------------------------------------------------------------------------------

/-- What was found, what is below the queue and the rest of the current folder are the whole tree.
The queue is in order of depth and within two levels, and no folder found lies deeper.
-/
structure Spread (tree : RemoteTree) (progress : Progress) (level : Nat) (rest : List Found)
    : Prop where
  whole
    : (progress.dirs ++ progress.files ++ progress.queue.flatMap Place.below ++ rest).Perm
        tree.living
  folders : ∀ found ∈ progress.dirs, found.branch.isFolder = true
  plain : ∀ found ∈ progress.files, found.branch.isFolder = false
  known : ∀ place ∈ progress.queue, place ∈ tree.places
  queued : progress.queue.Pairwise (fun early late => early.depth ≤ late.depth)
  near : ∀ place ∈ progress.queue, level ≤ place.depth ∧ place.depth ≤ level + 1
  ordered : progress.dirs.Pairwise (fun early late => early.names.length ≤ late.names.length)
  reached : ∀ found ∈ progress.dirs, found.names.length ≤ level + 1

section Steps

variable {tree : RemoteTree} {progress : Progress} {place : Place} {branch : Branch}
  {more rest : List Found} {level : Nat}

/-- An item of the current folder is found, and queued if it is a folder. -/
theorem Spread.add
    (spread
      : Spread tree progress place.depth
          (place.find branch :: (place.find branch).place.below ++ more))
    : Spread tree (progress.add place branch) place.depth more := by
  have living : place.find branch ∈ tree.living := by
    apply spread.whole.mem_iff.mp
    simp
  have length : (place.find branch).names.length = place.depth + 1 := by
    simp [Place.find, Place.depth]
  have depth : (place.find branch).place.depth = place.depth + 1 := length
  unfold Progress.add
  by_cases folder : branch.isFolder = true
  · rw [if_pos folder]
    constructor
    · apply List.Perm.trans _ spread.whole
      rw [← Multiset.coe_eq_coe]
      simp only [List.flatMap_append, List.flatMap_singleton, ← Multiset.coe_add,
        ← Multiset.cons_coe, ← Multiset.singleton_add, Multiset.coe_nil, List.cons_append]
      abel
    · exact List.forall_mem_concat.mpr ⟨spread.folders, folder⟩
    · exact spread.plain
    · refine List.forall_mem_concat.mpr ⟨spread.known, ?_⟩
      apply List.mem_cons_of_mem
      exact List.mem_map_of_mem (List.mem_filter.mpr ⟨living, folder⟩)
    · exact List.pairwise_concat.mpr
        ⟨spread.queued, fun early member => depth ▸ (spread.near early member).2⟩
    · exact List.forall_mem_concat.mpr ⟨spread.near, by omega⟩
    · exact List.pairwise_concat.mpr
        ⟨spread.ordered, fun early member => length ▸ spread.reached early member⟩
    · exact List.forall_mem_concat.mpr ⟨spread.reached, by omega⟩
  · rw [if_neg folder]
    have plain : (place.find branch).branch.isFolder = false := by
      simpa [Place.find] using folder
    refine { spread with whole := ?_, plain := ?_ }
    · apply List.Perm.trans _ spread.whole
      rw [below_file plain, ← Multiset.coe_eq_coe]
      simp only [← Multiset.coe_add, ← Multiset.cons_coe, ← Multiset.singleton_add,
        Multiset.coe_nil, List.cons_append, List.nil_append]
      abel
    · exact List.forall_mem_concat.mpr ⟨spread.plain, plain⟩

/-- Names without slashes are told by the path that they make. -/
theorem names_of_path {names others : List String} (some_name : names ≠ [])
    (some_other : others ≠ []) (solid : ∀ name ∈ names, '/' ∉ name.toList)
    (solid' : ∀ name ∈ others, '/' ∉ name.toList)
    (same : "/".intercalate names = "/".intercalate others)
    : names = others := by
  have split (names : List String) (some_name : names ≠ [])
      (solid : ∀ name ∈ names, '/' ∉ name.toList)
      : ("/".intercalate names).toList.splitOn '/' = names.map String.toList := by
    rw [String.toList_intercalate]
    apply List.splitOn_intercalate '/' _ (by simpa using some_name)
    intro text member
    obtain ⟨name, known, rfl⟩ := List.mem_map.mp member
    exact solid name known
  have pieces : names.map String.toList = others.map String.toList := by
    rw [← split names some_name solid, ← split others some_other solid', same]
  exact List.map_injective_iff.mpr (fun _ _ => String.toList_inj.mp) pieces

/-- Items that are plainly named have paths of their own. -/
theorem RemoteTree.paths_nodup (tree : RemoteTree) (plainly : tree.PlainlyNamed)
    : (tree.living.map Found.path).Nodup := by
  have names : (tree.living.map Found.names).Nodup := by
    apply below_names_nodup
    · exact plainly.apart _ List.mem_cons_self
    · intro found member
      by_cases folder : found.branch.isFolder = true
      · apply plainly.apart
        apply List.mem_cons_of_mem
        exact List.mem_map_of_mem (List.mem_filter.mpr ⟨member, folder⟩)
      · obtain ⟨branch, parentId, names⟩ := found
        cases branch with
        | file entry plain trashed => exact .nil
        | folder entry kind trashed children => exact absurd rfl folder
  have solid : ∀ found ∈ tree.living, ∀ name ∈ found.names, '/' ∉ name.toList :=
    below_names tree.root nofun plainly.solid
  have some_name : ∀ found ∈ tree.living, found.names ≠ [] := by
    intro found member
    exact List.ne_nil_of_length_pos (Nat.zero_lt_of_lt (below_longer tree.root found member))
  have paths : tree.living.map Found.path = (tree.living.map Found.names).map "/".intercalate := by
    rw [List.map_map]
    rfl
  rw [paths]
  apply List.Nodup.map_on _ names
  intro way member way' member' same
  obtain ⟨found, living, rfl⟩ := List.mem_map.mp member
  obtain ⟨other, living', rfl⟩ := List.mem_map.mp member'
  exact names_of_path (some_name found living) (some_name other living') (solid found living)
    (solid other living') same

/-- A folder and a folder below it are found in this order, by their depths. -/
theorem sublist_of_depth {found : List Found} {folder inner : Found}
    (sorted : found.Pairwise (fun early late => early.names.length ≤ late.names.length))
    (folderFound : folder ∈ found) (innerFound : inner ∈ found)
    (deeper : folder.names.length < inner.names.length)
    : [folder, inner].Sublist found := by
  obtain ⟨front, back, rfl⟩ := List.append_of_mem innerFound
  have before : folder ∈ front := by
    rcases List.mem_append.mp folderFound with early | late
    · exact early
    · rcases List.mem_cons.mp late with rfl | late
      · exact absurd deeper (Nat.lt_irrefl _)
      · have after := (List.pairwise_cons.mp (List.pairwise_append.mp sorted).2.1).1 folder late
        omega
  exact (List.singleton_sublist.mpr before).append (List.singleton_sublist.mpr List.mem_cons_self)

/-- When nothing is queued any more, the tree is listed. -/
theorem Spread.listed {timestamp : String → Option Int} (spread : Spread tree progress level [])
    (emptied : progress.queue = [])
    : Listed timestamp tree
        ⟨(progress.traversal timestamp).files, (progress.traversal timestamp).dirs⟩ := by
  have whole : (progress.dirs ++ progress.files).Perm tree.living := by
    simpa [emptied] using spread.whole
  have dirs : progress.dirs.Perm (tree.living.filter (fun found => found.branch.isFolder)) := by
    have kept := whole.filter (fun found => found.branch.isFolder)
    rwa [List.filter_append, List.filter_eq_self.mpr spread.folders,
      List.filter_eq_nil_iff.mpr (fun found member => by simp [spread.plain found member]),
      List.append_nil] at kept
  have files : progress.files.Perm (tree.living.filter (fun found => !found.branch.isFolder)) := by
    have kept := whole.filter (fun found => !found.branch.isFolder)
    rwa [List.filter_append,
      List.filter_eq_nil_iff.mpr (fun found member => by simp [spread.folders found member]),
      List.filter_eq_self.mpr (fun found member => by simp [spread.plain found member]),
      List.nil_append] at kept
  constructor
  · exact dirs.map _
  · exact files.map _
  · have ids := (List.nodup_cons.mp tree.unique).2
    have same := whole.map (fun found => found.branch.entry.id)
    have listed := same.nodup_iff.mpr ids
    simpa [Progress.traversal, List.map_append, Function.comp_def, Found.dir, Found.file]
      using listed
  · intro folder member inner below isFolder
    have deeper := below_longer folder.place inner below
    have isFolder' : folder.branch.isFolder = true := by
      by_contra file
      rw [below_file (by simpa using file)] at below
      cases below
    have folderFound := dirs.mem_iff.mpr (List.mem_filter.mpr ⟨member, isFolder'⟩)
    have innerFound := dirs.mem_iff.mpr
      (List.mem_filter.mpr ⟨below_trans tree.root folder member inner below, isFolder⟩)
    exact (sublist_of_depth spread.ordered folderFound innerFound deeper).map Found.dir
  · intro plainly
    have paths := tree.paths_nodup plainly
    have listed := (whole.map Found.path).nodup_iff.mpr paths
    simpa [Progress.traversal, List.map_append, Function.comp_def, Found.dir, Found.file]
      using listed

end Steps

-----------------------------------------------------------------------------------------
-- The turns that are left
-----------------------------------------------------------------------------------------

/-- The turns that listing the places takes: one for each, and one for each of its pages. -/
def Paging.turns {tree : RemoteTree} (paging : Paging tree) (places : List Place) : Nat :=
  (places.map (fun place => (paging.pages place.id).length + 1)).sum

/-- The folders that are queued or will be. -/
def Progress.ahead (progress : Progress) (rest : List Found) : List Place :=
  let below := progress.queue.flatMap Place.below ++ rest
  progress.queue ++ (below.filter (fun found => found.branch.isFolder)).map Found.place

section Turns

variable {tree : RemoteTree} (paging : Paging tree) {progress : Progress} {place : Place}
  {more rest other : List Found}

end Turns

-----------------------------------------------------------------------------------------
-- The program
-----------------------------------------------------------------------------------------

section Runs

variable {tree : RemoteTree} {paging : Paging tree} {timestamp : String → Option Int}
  {apiBase : String}

end Runs

/-- An item that the service describes by these fields alone. -/
def Entry.described (id : DriveId) (name mimeType : String) (named : name ≠ "") : Entry where
  id
  name
  mimeType
  json := .object [("id", .string id), ("name", .string name), ("mimeType", .string mimeType)]
  named
  idTold := rfl
  nameTold := rfl
  mimeTold := rfl

section Album

variable {tree : RemoteTree} {paging : Paging tree} {apiBase folderId currentPath : String}
  {pageToken : Option String} {here last : Troubles} {β : Type}
  {f : Option Json → Client β} {rest : Client β}

end Album

end SyncGDrive
