import Mathlib.Data.List.Perm.Basic
import SyncGDrive.Provider.Client

/-! The tree below a folder of the service: which of its items are not in the trash, and under which
names they are reached.
-/

namespace SyncGDrive

open GDriveProvider

-----------------------------------------------------------------------------------------
-- Items
-----------------------------------------------------------------------------------------

/-- An item with the fields by which the service describes it. -/
structure Entry where
  id : DriveId
  name : String
  mimeType : String
  json : Json
  named : name ≠ ""
  idTold : json.field "id" = .string id
  nameTold : json.field "name" = .string name
  mimeTold : json.field "mimeType" = .string mimeType

/-- An item with what is below it. Only a folder has anything below. -/
inductive Branch
  | file (entry : Entry) (plain : entry.mimeType ≠ folderMime) (trashed : Bool)
  | folder (entry : Entry) (kind : entry.mimeType = folderMime) (trashed : Bool)
    (children : List Branch)

namespace Branch

def entry : Branch → Entry
  | .file entry _ _ => entry
  | .folder entry _ _ _ => entry

/-- Was the item put into the trash? -/
def trashed : Branch → Bool
  | .file _ _ trashed => trashed
  | .folder _ _ trashed _ => trashed

def children : Branch → List Branch
  | .file _ _ _ => []
  | .folder _ _ _ children => children

def isFolder : Branch → Bool
  | .file _ _ _ => false
  | .folder _ _ _ _ => true

end Branch

-----------------------------------------------------------------------------------------
-- Descendants
-----------------------------------------------------------------------------------------

/-- An item as it is found: in which folder, and by which names from the root on. -/
structure Found where
  branch : Branch
  parentId : DriveId
  names : List String

/-- A folder whose content is to be found. -/
structure Place where
  id : DriveId
  names : List String
  children : List Branch

def Found.place (found : Found) : Place where
  id := found.branch.entry.id
  names := found.names
  children := found.branch.children

mutual

/-- An item and its descendants, unless it is in the trash: then they are there as well. -/
def Branch.living (parentId : DriveId) (above : List String) : Branch → List Found
  | .file entry plain trashed =>
      if trashed then []
      else [⟨.file entry plain trashed, parentId, above ++ [entry.name]⟩]
  | .folder entry kind trashed children =>
      if trashed then []
      else
        ⟨.folder entry kind trashed children, parentId, above ++ [entry.name]⟩
          :: livingIn entry.id (above ++ [entry.name]) children

def livingIn (parentId : DriveId) (above : List String) : List Branch → List Found
  | [] => []
  | branch :: rest => branch.living parentId above ++ livingIn parentId above rest

end

namespace Place

/-- What is below a folder and not in the trash. -/
def below (place : Place) : List Found :=
  livingIn place.id place.names place.children

/-- An item of the folder, as it is found there. -/
def find (place : Place) (branch : Branch) : Found where
  branch
  parentId := place.id
  names := place.names ++ [branch.entry.name]

/-- How far the folder is from the root. -/
def depth (place : Place) : Nat := place.names.length

/-- The path of the folder. -/
def path (place : Place) : String := "/".intercalate place.names

/-- The names of two items in a folder are different. -/
def Apart (place : Place) : Prop :=
  ((place.children.filter (fun branch => !branch.trashed)).map
    (fun branch => branch.entry.name)).Nodup

end Place

namespace Found

def path (found : Found) : String := "/".intercalate found.names

/-- How a listing describes the folder. -/
def dir (found : Found) : RemoteDir where
  relativePath := found.path
  driveId := found.branch.entry.id
  parentId := found.parentId

end Found

variable {parentId : DriveId} {above : List String}

/-- An item in a folder brings itself and what is below it. -/
theorem living_eq (place : Place) (branch : Branch)
    : branch.living place.id place.names
      = if branch.trashed then [] else place.find branch :: (place.find branch).place.below := by
  cases branch with
  | file entry plain trashed =>
      rw [Branch.living]
      rfl
  | folder entry kind trashed children =>
      rw [Branch.living]
      rfl

/-- The descendants in a folder, item by item. -/
theorem livingIn_eq_flatMap (parentId : DriveId) (above : List String) (branches : List Branch)
    : livingIn parentId above branches = branches.flatMap (Branch.living parentId above) := by
  induction branches with
  | nil => rfl
  | cons branch rest ih => rw [livingIn, ih, List.flatMap_cons]

/-- What is in the trash brings nothing. -/
theorem livingIn_filter (place : Place) (branches : List Branch)
    : livingIn place.id place.names (branches.filter (fun branch => !branch.trashed))
      = livingIn place.id place.names branches := by
  induction branches with
  | nil => rfl
  | cons branch rest ih =>
      cases trashed : branch.trashed with
      | true => simp [livingIn, living_eq, trashed, ih]
      | false => simp [livingIn, trashed, ih]

/-- A file has nothing below. -/
theorem below_file {found : Found} (file : found.branch.isFolder = false)
    : found.place.below = [] := by
  obtain ⟨branch, parentId, names⟩ := found
  cases branch with
  | file entry plain trashed => rfl
  | folder entry kind trashed children => cases file

/-- What is below a folder, one item after the other. -/
theorem below_eq (place : Place)
    : place.below
      = (place.children.filter (fun branch => !branch.trashed)).flatMap
          (fun branch => place.find branch :: (place.find branch).place.below) := by
  rw [Place.below, ← livingIn_filter, livingIn_eq_flatMap]
  apply List.flatMap_congr
  intro branch member
  have kept : branch.trashed = false := by simpa using (List.mem_filter.mp member).2
  rw [living_eq, kept, if_neg nofun]

/-- The items directly in a folder, and those further down. -/
theorem mem_below {place : Place} {found : Found}
    : found ∈ place.below
      ↔ ∃ branch ∈ place.children,
          branch.trashed = false
          ∧ (found = place.find branch ∨ found ∈ (place.find branch).place.below) := by
  rw [below_eq]
  simp [and_assoc]

/-- Below a folder there is less. -/
theorem place_induction {P : Place → Prop}
    (step : ∀ place, (∀ branch ∈ place.children, P (place.find branch).place) → P place)
    (place : Place)
    : P place := by
  obtain ⟨id, names, children⟩ := place
  induction size : SizeOf.sizeOf children using Nat.strong_induction_on generalizing id names
    children with
  | _ n ih =>
      apply step
      intro branch member
      have smaller : SizeOf.sizeOf branch < SizeOf.sizeOf children := List.sizeOf_lt_of_mem member
      have within : SizeOf.sizeOf branch.children < n := by
        cases branch with
        | file entry plain trashed =>
            simp only [Branch.children, Branch.file.sizeOf_spec, List.nil.sizeOf_spec] at smaller ⊢
            omega
        | folder entry kind trashed inner =>
            simp only [Branch.children, Branch.folder.sizeOf_spec] at smaller ⊢
            omega
      exact ih _ within _ _ _ rfl

/-- What holds of the names above a folder and of every name below holds on the whole way. -/
theorem below_names {P : String → Prop} (place : Place) (above : ∀ name ∈ place.names, P name)
    (own : ∀ found ∈ place.below, P found.branch.entry.name)
    : ∀ found ∈ place.below, ∀ name ∈ found.names, P name := by
  induction place using place_induction with
  | step place ih =>
      intro found member
      obtain ⟨branch, inside, kept, here⟩ := mem_below.mp member
      have there : place.find branch ∈ place.below :=
        mem_below.mpr ⟨branch, inside, kept, Or.inl rfl⟩
      have extended : ∀ name ∈ (place.find branch).names, P name := by
        intro name member
        rcases List.mem_append.mp member with old | new
        · exact above name old
        · rw [List.mem_singleton.mp new]
          exact own _ there
      rcases here with rfl | deeper
      · exact extended
      · apply ih branch inside extended _ found deeper
        intro found deep
        exact own found (mem_below.mpr ⟨branch, inside, kept, Or.inr deep⟩)

/-- An item is found under more names than its folder. -/
theorem below_longer (place : Place)
    : ∀ found ∈ place.below, place.names.length < found.names.length := by
  induction place using place_induction with
  | step place ih =>
      intro found member
      obtain ⟨branch, inside, _, here⟩ := mem_below.mp member
      have longer : place.names.length < (place.find branch).names.length := by
        simp [Place.find]
      rcases here with rfl | deeper
      · exact longer
      · exact Nat.lt_trans longer (ih branch inside found deeper)

/-- What is below a folder that is below another one is below that one. -/
theorem below_trans (place : Place)
    : ∀ folder ∈ place.below, ∀ inner ∈ folder.place.below, inner ∈ place.below := by
  induction place using place_induction with
  | step place ih =>
      intro folder member inner deep
      obtain ⟨branch, inside, kept, here⟩ := mem_below.mp member
      rcases here with rfl | deeper
      · exact mem_below.mpr ⟨branch, inside, kept, Or.inr deep⟩
      · have there := ih branch inside folder deeper inner deep
        exact mem_below.mpr ⟨branch, inside, kept, Or.inr there⟩

/-- An item is found under the names of its folder and more. -/
theorem below_prefix (place : Place) : ∀ found ∈ place.below, place.names <+: found.names := by
  induction place using place_induction with
  | step place ih =>
      intro found member
      obtain ⟨branch, inside, _, here⟩ := mem_below.mp member
      have grown : place.names <+: (place.find branch).names := List.prefix_append _ _
      rcases here with rfl | deeper
      · exact grown
      · exact grown.trans (ih branch inside found deeper)

/-- Where names in a folder differ, everything below is found under names of its own. -/
theorem below_names_nodup (place : Place) (apart : place.Apart)
    (deeper : ∀ found ∈ place.below, found.place.Apart)
    : (place.below.map Found.names).Nodup := by
  induction place using place_induction with
  | step place ih =>
      rw [below_eq, List.map_flatMap, List.nodup_flatMap]
      constructor
      · intro branch member
        obtain ⟨inside, kept⟩ := List.mem_filter.mp member
        have kept : branch.trashed = false := by simpa using kept
        have here : place.find branch ∈ place.below :=
          mem_below.mpr ⟨branch, inside, kept, Or.inl rfl⟩
        rw [List.map_cons, List.nodup_cons]
        constructor
        · intro again
          obtain ⟨found, deep, same⟩ := List.mem_map.mp again
          have longer := below_longer (place.find branch).place found deep
          rw [same] at longer
          exact Nat.lt_irrefl _ longer
        · apply ih branch inside (deeper _ here)
          intro found deep
          exact deeper found (below_trans place _ here found deep)
      · apply (List.pairwise_map.mp apart).imp
        intro branch other differ names member member'
        -- the names of both begin with those of the folder and one name more
        have begins (branch : Branch) (names : List String)
            (member
              : names
                ∈ (place.find branch :: (place.find branch).place.below).map Found.names)
            : place.names ++ [branch.entry.name] <+: names := by
          obtain ⟨found, here, rfl⟩ := List.mem_map.mp member
          rcases List.mem_cons.mp here with rfl | deep
          · exact List.prefix_rfl
          · exact below_prefix (place.find branch).place found deep
        have same : place.names ++ [branch.entry.name] = place.names ++ [other.entry.name] :=
          (List.prefix_of_prefix_length_le (begins branch names member) (begins other names member')
            (by simp)).eq_of_length (by simp)
        exact differ (List.cons.inj (List.append_cancel_left same)).1

end SyncGDrive
