import SyncGDrive.Data.PrefixMap
import SyncGDrive.Remote.Subtrees

/-! The path cache refines a tree of components: what it does on texts and their prefixes is what a
map from lists of components does.
-/

namespace SyncGDrive

-----------------------------------------------------------------------------------------
-- The nearest parent in the cache
-----------------------------------------------------------------------------------------

theorem Path.length_parent {path above : Path} (parent : path.parent = some above)
    : above.length < path.length := by
  unfold Path.parent at parent
  split at parent
  · cases parent
  · rename_i nonempty
    obtain rfl := Option.some.inj parent
    have shorter := (List.rdropWhile_prefix OsString.isIdle path.trimEnd.dropLast).length_le
    have whole := (List.rdropWhile_prefix OsString.isIdle path).length_le
    have filled := List.length_pos_iff.mpr nonempty
    rw [List.length_dropLast] at shorter
    simp only [Path.trimEnd] at *
    omega

namespace PathCache

/-- The nearest parent of a path that the cache knows. -/
def searchParents (cache : PathCache) (path : Path) : Option (String × CacheEntry) :=
  match _above : path.parent with
  | none => none
  | some parent =>
      match cache.lookup (relKey parent) with
      | some entry => some (relKey parent, entry)
      | none => cache.searchParents parent
  termination_by path.length
  decreasing_by exact Path.length_parent _above

/-- `resolve_deepest_known_parent`. -/
def resolveDeepestKnownParent (cache : PathCache) (relativePath : String)
    : Option (String × CacheEntry) :=
  cache.searchParents (pieces relativePath)

@[simp] theorem searchParents_nil (cache : PathCache) : cache.searchParents [] = none := by
  unfold searchParents
  split
  · rfl
  · rename_i parent
    simp [Path.parent, Path.trimEnd] at parent

theorem searchParents_concat (cache : PathCache) {rel : Path} {last : OsString}
    (clean : Clean (rel ++ [last]))
    : cache.searchParents (rel ++ [last])
      = match cache.lookup (relKey rel) with
        | some entry => some (relKey rel, entry)
        | none => cache.searchParents rel := by
  have above := clean.parent_concat
  rw [searchParents]
  split
  · rename_i none_
    rw [above] at none_
    cases none_
  · rename_i found
    obtain rfl := Option.some.inj (above.symm.trans found)
    rfl

end PathCache

-----------------------------------------------------------------------------------------
-- Operations on the cache and on the tree
-----------------------------------------------------------------------------------------

/-- The remote items by the components of their paths. -/
abbrev PathTree : Type := PrefixMap OsString CacheEntry

inductive CacheOp
  | insert (relativePath : String) (driveId parentId : DriveId)
  | rebuildFromIndex (index : RemoteIndex)
  | removeCascades (relativePath : String)

/-- A text that spells a path without empty or special components. -/
def Normalised (text : String) : Prop := ∃ rel, Plain rel ∧ text = relKey rel

namespace CacheOp

def run (cache : PathCache) : CacheOp → PathCache
  | .insert relativePath driveId parentId => cache.insert relativePath driveId parentId
  | .rebuildFromIndex index => cache.rebuildFromIndex index
  | .removeCascades relativePath => cache.removeCascades relativePath

def dirEntry (dir : RemoteDir) : Path × CacheEntry :=
  (components dir.relativePath, ⟨dir.driveId, dir.parentId⟩)

def fileEntry (file : RemoteFile) : Path × CacheEntry :=
  (components file.relativePath, ⟨file.driveId, file.parentId⟩)

/-- What the operation means: files hide folders, and later items earlier ones. -/
def onTree (tree : PathTree) : CacheOp → PathTree
  | .insert relativePath driveId parentId => tree.insert (components relativePath)
      ⟨driveId, parentId⟩
  | .rebuildFromIndex index =>
      (PrefixMap.ofEntries (index.files.map fileEntry)).overlay
        (.ofEntries (index.dirs.map dirEntry))
  | .removeCascades relativePath => tree.removeFrom (components relativePath)

/-- Every path that the operation names is normalised. -/
def Normal : CacheOp → Prop
  | .insert relativePath _ _ | .removeCascades relativePath => Normalised relativePath
  | .rebuildFromIndex index =>
      (∀ dir ∈ index.dirs, Normalised dir.relativePath)
      ∧ ∀ file ∈ index.files, Normalised file.relativePath

end CacheOp

-----------------------------------------------------------------------------------------
-- One operation
-----------------------------------------------------------------------------------------

/-- Cache and tree have the same entries, all of them at normalised paths. -/
structure PathCache.Refines (cache : PathCache) (tree : PathTree) : Prop where
  lookup : ∀ rel, Plain rel → cache.lookup (relKey rel) = tree rel
  keys : ∀ key, (cache.lookup key).isSome → Normalised key
  paths : ∀ rel, (tree rel).isSome → Plain rel

namespace PathCache.Refines

variable {cache : PathCache} {tree : PathTree} {key : String}

theorem empty : ({} : PathCache).Refines .empty :=
  ⟨fun _ _ => rfl, by rintro key ⟨⟩, by rintro rel ⟨⟩⟩

/-- A normalised key is looked up where its components are. -/
theorem insert (refines : cache.Refines tree) (normal : Normalised key) (driveId parentId : DriveId)
    : (cache.insert key driveId parentId).Refines (tree.insert (components key) ⟨driveId, parentId⟩)
    := by
  obtain ⟨rel, plain, rfl⟩ := normal
  rw [components_relKey plain]
  refine ⟨?_, ?_, ?_⟩
  · intro other plain'
    rw [lookup_insert, PrefixMap.insert, refines.lookup other plain']
    by_cases same : other = rel
    · simp [same]
    · rw [if_neg same, if_neg (fun keys => same (relKey_inj plain' plain keys))]
  · intro other present
    rw [lookup_insert] at present
    split at present
    · rename_i same
      exact ⟨rel, plain, same⟩
    · exact refines.keys other present
  · intro other present
    rw [PrefixMap.insert] at present
    split at present
    · rename_i same
      exact same ▸ plain
    · exact refines.paths other present

/-- The keys that start with a key and a separator are those below it. -/
theorem removeCascades (refines : cache.Refines tree) (normal : Normalised key)
    : (cache.removeCascades key).Refines (tree.removeFrom (components key)) := by
  obtain ⟨rel, plain, rfl⟩ := normal
  rw [components_relKey plain]
  refine ⟨?_, ?_, ?_⟩
  · intro other plain'
    rw [lookup_removeCascades, PrefixMap.removeFrom, refines.lookup other plain']
    simp only [covers_iff plain plain']
  · intro other present
    rw [lookup_removeCascades] at present
    split at present
    · cases present
    · exact refines.keys other present
  · intro other present
    rw [PrefixMap.removeFrom] at present
    split at present
    · cases present
    · exact refines.paths other present

/-- Entries put one after another, over those of another map. -/
theorem insertAll {α : Type} (path : α → String) (driveId parentId : α → DriveId)
    (refines : cache.Refines tree) (items : List α)
    (normal : ∀ item ∈ items, Normalised (path item))
    : (items.foldl (fun cache item => cache.insert (path item) (driveId item) (parentId item))
        cache).Refines
        ((PrefixMap.ofEntries
          (items.map (fun item => (components (path item), ⟨driveId item, parentId item⟩)))).overlay
          tree) := by
  induction items using List.reverseRecOn with
  | nil => simpa using refines
  | append_singleton items item ih =>
      rw [List.foldl_append, List.map_append, List.map_singleton, PrefixMap.ofEntries_concat,
        PrefixMap.overlay_insert]
      have before := ih (fun other member => normal other (List.mem_append_left _ member))
      exact before.insert (normal item (by simp)) _ _

/-- An index is put in folder by folder, then file by file. -/
theorem rebuildFromIndex {index : RemoteIndex}
    (normal : (CacheOp.rebuildFromIndex index).Normal)
    : (cache.rebuildFromIndex index).Refines (CacheOp.onTree tree (.rebuildFromIndex index)) := by
  have folders :=
    insertAll RemoteDir.relativePath RemoteDir.driveId RemoteDir.parentId empty index.dirs normal.1
  have files :=
    insertAll RemoteFile.relativePath RemoteFile.driveId RemoteFile.parentId folders index.files
      normal.2
  have base
      : (PrefixMap.ofEntries (index.dirs.map CacheOp.dirEntry)).overlay (.empty : PathTree)
        = .ofEntries (index.dirs.map CacheOp.dirEntry) := by
    funext rel
    simp [PrefixMap.overlay, PrefixMap.empty]
  rw [CacheOp.onTree, ← base]
  exact files

/-- Every operation does to the cache what it does to the tree. -/
theorem run (refines : cache.Refines tree) {op : CacheOp} (normal : op.Normal)
    : (op.run cache).Refines (op.onTree tree) := by
  cases op with
  | insert relativePath driveId parentId => exact refines.insert normal driveId parentId
  | rebuildFromIndex index => exact @rebuildFromIndex cache tree index normal
  | removeCascades relativePath => exact refines.removeCascades normal

/-- And so does a sequence of them, by induction on it. -/
theorem runAll (refines : cache.Refines tree) {ops : List CacheOp} (normal : ∀ op ∈ ops, op.Normal)
    : (ops.foldl CacheOp.run cache).Refines (ops.foldl CacheOp.onTree tree) := by
  induction ops generalizing cache tree with
  | nil => exact refines
  | cons op ops ih =>
      exact ih (refines.run (normal op (by simp)))
        (fun later member => normal later (List.mem_cons_of_mem _ member))

-----------------------------------------------------------------------------------------
-- The search upwards
-----------------------------------------------------------------------------------------

/-- At the root nothing is known. -/
theorem lookup_top (refines : cache.Refines tree) : cache.lookup "" = none ∧ tree [] = none := by
  constructor
  · rw [← Option.not_isSome_iff_eq_none]
    intro present
    obtain ⟨rel, plain, same⟩ := refines.keys "" present
    exact relKey_ne_empty plain same.symm
  · rw [← Option.not_isSome_iff_eq_none]
    intro present
    exact (refines.paths [] present).1 rfl

/-- A path without special components is looked up where it stands, also at the root. -/
theorem lookup_names (refines : cache.Refines tree) {rel : Path} (names : PlainNames rel)
    : cache.lookup (relKey rel) = tree rel := by
  by_cases empty : rel = []
  · subst empty
    rw [relKey_nil, refines.lookup_top.1, refines.lookup_top.2]
  · exact refines.lookup rel ⟨empty, names⟩

/-- The search finds the nearest entry above, by induction from the end of the path. -/
theorem searchParents_iff (refines : cache.Refines tree) {rel : Path} (names : PlainNames rel)
    (key : String) (entry : CacheEntry)
    : cache.searchParents rel = some (key, entry)
      ↔ ∃ above, key = relKey above ∧ tree.Nearest rel above entry := by
  induction rel using List.reverseRecOn with
  | nil =>
      rw [searchParents_nil]
      constructor
      · rintro ⟨⟩
      · rintro ⟨above, -, nearest⟩
        exact absurd nearest PrefixMap.not_nearest_nil
  | append_singleton rel last ih =>
      have above := (PlainNames.append.mp names).1
      have looked := refines.lookup_names above
      rw [searchParents_concat cache names.clean, looked]
      cases here : tree rel with
      | some value =>
          simp only [PrefixMap.nearest_here here, Option.some.injEq, Prod.mk.injEq]
          constructor
          · rintro ⟨rfl, rfl⟩
            exact ⟨rel, rfl, rfl, rfl⟩
          · rintro ⟨above, rfl, rfl, rfl⟩
            exact ⟨rfl, rfl⟩
      | none =>
          simp only [PrefixMap.nearest_further here]
          exact ih above

/-- It finds nothing exactly where nothing above has an entry. -/
theorem searchParents_none_iff (refines : cache.Refines tree) {rel : Path} (names : PlainNames rel)
    : cache.searchParents rel = none
      ↔ ∀ above, above <+: rel → above ≠ rel → tree above = none := by
  constructor
  · intro nothing
    rcases tree.nearest_or_none rel with ⟨above, entry, nearest⟩ | none_
    · have found := (refines.searchParents_iff names _ entry).mpr ⟨above, rfl, nearest⟩
      rw [nothing] at found
      cases found
    · exact none_
  · intro none_
    cases found : cache.searchParents rel with
    | none => rfl
    | some pair =>
        obtain ⟨above, -, nearest⟩ := (refines.searchParents_iff names pair.1 pair.2).mp found
        have present := nearest.found
        rw [none_ above nearest.isPrefix nearest.proper] at present
        cases present

end PathCache.Refines

-----------------------------------------------------------------------------------------
-- Every sequence of operations
-----------------------------------------------------------------------------------------

/-- After any operations on normalised paths, the cache answers as the tree does: it has the entries
of the tree, and it finds the entry at the longest proper prefix that has one.
-/
theorem pathCache_refines_tree {ops : List CacheOp} {rel : Path} (normal : ∀ op ∈ ops, op.Normal)
    (plain : Plain rel)
    : let cache := ops.foldl CacheOp.run {}
      let tree := ops.foldl CacheOp.onTree .empty
      cache.lookup (relKey rel) = tree rel
      ∧ (∀ key entry,
          cache.resolveDeepestKnownParent (relKey rel) = some (key, entry)
          ↔ ∃ above, key = relKey above ∧ tree.Nearest rel above entry)
      ∧ (cache.resolveDeepestKnownParent (relKey rel) = none
          ↔ ∀ above, above <+: rel → above ≠ rel → tree above = none) := by
  have refines := PathCache.Refines.empty.runAll normal
  simp only [PathCache.resolveDeepestKnownParent, pieces_relKey plain]
  exact ⟨refines.lookup rel plain, refines.searchParents_iff plain.2,
    refines.searchParents_none_iff plain.2⟩

/-- For instance after two insertions and a removal below the first. -/
theorem pathCache_after_removal
    : let ops := [CacheOp.insert "a" "1" "root", .insert "a/b" "2" "1", .removeCascades "a/b"]
      let cache := ops.foldl CacheOp.run {}
      let tree := ops.foldl CacheOp.onTree .empty
      cache.lookup "a/b" = tree [.utf8 "a", .utf8 "b"]
      ∧ (∀ key entry,
          cache.resolveDeepestKnownParent "a/b" = some (key, entry)
          ↔ ∃ above, key = relKey above ∧ tree.Nearest [.utf8 "a", .utf8 "b"] above entry)
      ∧ (cache.resolveDeepestKnownParent "a/b" = none
          ↔ ∀ above, above <+: [.utf8 "a", .utf8 "b"] → above ≠ [.utf8 "a", .utf8 "b"]
              → tree above = none) := by
  have names (name : String) (plain : PlainName name) : Plain [.utf8 name] :=
    ⟨by simp, plainNames_singleton.mpr plain⟩
  have both : Plain [.utf8 "a", .utf8 "b"] :=
    ⟨by simp, PlainNames.append.mpr ⟨(names "a" (by decide)).2, (names "b" (by decide)).2⟩⟩
  have key : relKey [.utf8 "a", .utf8 "b"] = "a/b" := by decide +kernel
  have top : relKey [.utf8 "a"] = "a" := by decide +kernel
  have answers :=
    @pathCache_refines_tree
      [.insert "a" "1" "root", .insert "a/b" "2" "1", .removeCascades "a/b"]
      [.utf8 "a", .utf8 "b"]
  rw [key] at answers
  refine answers ?_ both
  intro op member
  simp only [List.mem_cons, List.not_mem_nil, or_false] at member
  rcases member with rfl | rfl | rfl
  · exact ⟨_, names "a" (by decide), top.symm⟩
  · exact ⟨_, both, key.symm⟩
  · exact ⟨_, both, key.symm⟩

end SyncGDrive
