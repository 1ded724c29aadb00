import Mathlib.Data.List.Induction
import Mathlib.Data.List.Nodup
import SyncGDrive.Local.Disk

/-! What the directory walk reaches: the directories it enters, the entries it yields, and
the paths whose absence its reading establishes.
-/

namespace SyncGDrive

variable {disk : Disk} {root : Path} {keep : Path → Bool → Bool}

-----------------------------------------------------------------------------------------
-- Directories entered and entries yielded
-----------------------------------------------------------------------------------------

/-- The walk opens the directory at a path, with this listing and these children. -/
inductive Disk.Enters (disk : Disk) (root : Path) (keep : Path → Bool → Bool)
    : Path → Listing → (OsString → Node) → Prop
  | root {listing child} (found : disk.entry? root = some (.dir listing child))
    (kept : keep root true = true)
    : Disk.Enters disk root keep root listing child
  | link {target listing child} (found : disk.entry? root = some (.symlink target))
    (followed : target.follow = some (.dir listing child))
    : Disk.Enters disk root keep root listing child
  | child {path listing child name listing' child'}
    (above : Disk.Enters disk root keep path listing child)
    (yields : name ∈ listing.yielded) (found : child name = .dir listing' child')
    (kept : keep (path ++ [name]) true = true)
    : Disk.Enters disk root keep (path ++ [name]) listing' child'

/-- The walk yields the node at a path. -/
inductive Disk.Yields (disk : Disk) (root : Path) (keep : Path → Bool → Bool)
    : Path → Node → Prop
  | root {node} (found : disk.entry? root = some node)
    (kept : keep root (node.fileType = .dir) = true)
    : Disk.Yields disk root keep root node
  | child {path listing child name} (above : disk.Enters root keep path listing child)
    (yields : name ∈ listing.yielded)
    (kept : keep (path ++ [name]) ((child name).fileType = .dir) = true)
    : Disk.Yields disk root keep (path ++ [name]) (child name)

/-- What the walk yields is kept. -/
theorem Disk.Yields.keeps {path : Path} {node : Node} (yielded : disk.Yields root keep path node)
    : keep path (node.fileType = .dir) = true := by
  cases yielded with
  | root found kept => exact kept
  | child above yields kept => exact kept

/-- What the walk of a child yields was yielded as the walk says, by induction on the child.
-/
theorem Disk.Yields.of_walk {path : Path} {listing : Listing} {child : OsString → Node}
    {name : OsString} {entry : DirEntry} (node : Node)
    (above : disk.Enters root keep path listing child) (yields : name ∈ listing.yielded)
    (found : child name = node) (member : entry ∈ node.walk keep (path ++ [name]))
    : ∃ node, disk.Yields root keep entry.path node ∧ node.fileType = entry.fileType := by
  have here
      : keep (path ++ [name]) (node.fileType = .dir) = true
        → disk.Yields root keep (path ++ [name]) node := by
    intro kept
    subst found
    exact .child above yields kept
  induction node generalizing path listing child name with
  | file data =>
      simp only [Node.walk, List.mem_ite_nil_right, List.mem_singleton] at member
      obtain ⟨kept, rfl⟩ := member
      exact ⟨.file data, here (by simpa [Node.fileType] using kept), rfl⟩
  | symlink target =>
      simp only [Node.walk, List.mem_ite_nil_right, List.mem_singleton] at member
      obtain ⟨kept, rfl⟩ := member
      exact ⟨.symlink target, here (by simpa [Node.fileType] using kept), rfl⟩
  | brokenLink =>
      simp only [Node.walk, List.mem_ite_nil_right, List.mem_singleton] at member
      obtain ⟨kept, rfl⟩ := member
      exact ⟨.brokenLink, here (by simpa [Node.fileType] using kept), rfl⟩
  | special =>
      simp only [Node.walk, List.mem_ite_nil_right, List.mem_singleton] at member
      obtain ⟨kept, rfl⟩ := member
      exact ⟨.special, here (by simpa [Node.fileType] using kept), rfl⟩
  | dir listing' child' ih =>
      simp only [Node.walk, List.mem_ite_nil_right, List.mem_cons, List.mem_flatMap]
        at member
      obtain ⟨kept, rfl | ⟨name', yields', below⟩⟩ := member
      · exact ⟨.dir listing' child', here (by simpa [Node.fileType] using kept), rfl⟩
      · have entered := Disk.Enters.child above yields found kept
        exact ih name' entered yields' rfl below (fun kept' => .child entered yields' kept')

/-- Everything below an entered directory is part of the walk, by induction on how it was
entered.
-/
theorem Disk.Enters.walk_subset {path : Path} {listing : Listing} {child : OsString → Node}
    (entered : disk.Enters root keep path listing child) {name : OsString}
    (yields : name ∈ listing.yielded) {entry : DirEntry}
    (member : entry ∈ (child name).walk keep (path ++ [name]))
    : entry ∈ disk.walkDir root keep := by
  induction entered generalizing name with
  | root found kept =>
      simp only [Disk.walkDir, found, Node.walk, kept, if_true]
      exact List.mem_cons_of_mem _ (List.mem_flatMap.mpr ⟨name, yields, member⟩)
  | link found followed =>
      simp only [Disk.walkDir, found, followed]
      exact List.mem_append_right _ (List.mem_flatMap.mpr ⟨name, yields, member⟩)
  | child above yields' found kept ih =>
      refine ih yields' ?_
      rw [found]
      simp only [Node.walk, kept, if_true]
      exact List.mem_cons_of_mem _ (List.mem_flatMap.mpr ⟨name, yields, member⟩)

/-- A node that passes the filter is the first entry of its own walk. -/
theorem Node.mem_walk {path : Path} (node : Node)
    (kept : keep path (node.fileType = .dir) = true)
    : ⟨path, node.fileType⟩ ∈ node.walk keep path := by
  cases node <;> simp_all [Node.walk, Node.fileType]

/-- The entries of the walk are the nodes it yields. -/
theorem Disk.mem_walkDir {entry : DirEntry}
    : entry ∈ disk.walkDir root keep
      ↔ ∃ node, disk.Yields root keep entry.path node ∧ node.fileType = entry.fileType := by
  constructor
  · intro member
    unfold Disk.walkDir at member
    split at member
    · exact absurd member List.not_mem_nil
    · rename_i target found
      rcases List.mem_append.mp member with itself | inside
      · simp only [List.mem_ite_nil_right, List.mem_singleton] at itself
        obtain ⟨kept, rfl⟩ := itself
        exact ⟨.symlink target, .root found (by simpa [Node.fileType] using kept), rfl⟩
      · split at inside
        · rename_i listing child followed
          obtain ⟨name, yields, below⟩ := List.mem_flatMap.mp inside
          exact Disk.Yields.of_walk (child name) (.link found followed) yields rfl below
        · exact absurd inside List.not_mem_nil
    · rename_i node notLink found
      cases node with
      | symlink target => exact absurd rfl (notLink target)
      | dir listing child =>
          simp only [Node.walk, List.mem_ite_nil_right, List.mem_cons, List.mem_flatMap]
            at member
          obtain ⟨kept, rfl | ⟨name, yields, below⟩⟩ := member
          · exact ⟨_, .root found (by simpa [Node.fileType] using kept), rfl⟩
          · exact Disk.Yields.of_walk (child name) (.root found kept) yields rfl below
      | file | brokenLink | special =>
          simp only [Node.walk, List.mem_ite_nil_right, List.mem_singleton] at member
          obtain ⟨kept, rfl⟩ := member
          exact ⟨_, .root found (by simpa [Node.fileType] using kept), rfl⟩
  · rintro ⟨node, yielded, kind⟩
    obtain ⟨path, fileType⟩ := entry
    subst kind
    cases yielded with
    | root found kept =>
        have first := Node.mem_walk node kept
        cases node with
        | symlink target =>
            simp only [Disk.walkDir, found]
            have kept' : keep path false = true := by simpa [Node.fileType] using kept
            simp [kept', Node.fileType]
        | _ => simpa only [Disk.walkDir, found] using first
    | child above yields kept => exact above.walk_subset yields (Node.mem_walk _ kept)

/-- An entered directory is what its path stands for. -/
theorem Disk.Enters.node?_eq {path : Path} {listing : Listing} {child : OsString → Node}
    (entered : disk.Enters root keep path listing child)
    : disk.node? path = some (.dir listing child) := by
  induction entered with
  | root found kept => simp [Disk.node?, found, Node.follow]
  | link found followed => simp [Disk.node?, found, Node.follow, followed]
  | child above yields found kept ih =>
      have member := Listing.mem_names yields
      rw [Disk.node?, Disk.entry?_member ih member, found]
      rfl

/-- A yielded node is the entry at its path. -/
theorem Disk.Yields.entry?_eq {path : Path} {node : Node}
    (yielded : disk.Yields root keep path node)
    : disk.entry? path = some node := by
  cases yielded with
  | root found kept => exact found
  | child above yields kept =>
      have member := Listing.mem_names yields
      rw [Disk.entry?_member above.node?_eq member]

/-- An entered directory is the root, or below it by names of directories. -/
theorem Disk.Enters.underRoot {path : Path} {listing : Listing} {child : OsString → Node}
    (entered : disk.Enters root keep path listing child)
    : ∃ rel, path = root ++ rel ∧ Clean rel := by
  induction entered with
  | root found kept => exact ⟨[], by simp, by simp [Clean]⟩
  | link found followed => exact ⟨[], by simp, by simp [Clean]⟩
  | @child path listing child name _ _ above yields found kept ih =>
      obtain ⟨rel, rfl, clean⟩ := ih
      refine ⟨rel ++ [name], by simp, Clean.append.mpr ⟨clean, ?_⟩⟩
      simpa [Clean] using Listing.named_of_mem (Listing.mem_names yields)

/-- And so is what the walk yields. -/
theorem Disk.Yields.underRoot {path : Path} {node : Node}
    (yielded : disk.Yields root keep path node)
    : ∃ rel, path = root ++ rel ∧ Clean rel := by
  cases yielded with
  | root found kept => exact ⟨[], by simp, by simp [Clean]⟩
  | @child path listing child name above yields kept =>
      obtain ⟨rel, rfl, clean⟩ := above.underRoot
      refine ⟨rel ++ [name], by simp, Clean.append.mpr ⟨clean, ?_⟩⟩
      simpa [Clean] using Listing.named_of_mem (Listing.mem_names yields)

-----------------------------------------------------------------------------------------
-- No path twice
-----------------------------------------------------------------------------------------

/-- What the walk of a node yields lies at or below its path, by induction on the node. -/
theorem Node.walk_below {path : Path} {node : Node} {entry : DirEntry}
    (member : entry ∈ node.walk keep path)
    : path <+: entry.path := by
  induction node generalizing path with
  | dir listing child ih =>
      simp only [Node.walk] at member
      split at member
      · rcases List.mem_cons.mp member with rfl | below
        · exact List.prefix_rfl
        · obtain ⟨name, -, below⟩ := List.mem_flatMap.mp below
          exact (List.prefix_append path [name]).trans (ih name below)
      · cases member
  | file _ | symlink _ | brokenLink | special =>
      simp only [Node.walk, List.mem_ite_nil_right, List.mem_singleton] at member
      exact member.2 ▸ List.prefix_rfl

theorem Listing.yielded_nodup (listing : Listing) : listing.yielded.Nodup := by
  unfold Listing.yielded
  split
  · exact listing.distinct
  · exact listing.distinct.filter _

/-- The walks below different names of a directory yield different paths. -/
theorem Listing.walk_nodup {path : Path} {listing : Listing}
    {child : OsString → Node}
    (each : ∀ name, (((child name).walk keep (path ++ [name])).map DirEntry.path).Nodup)
    : ((listing.yielded.flatMap (fun name => (child name).walk keep (path ++ [name]))).map
        DirEntry.path).Nodup := by
  rw [List.map_flatMap]
  refine List.nodup_flatMap.mpr ⟨fun name _ => each name, ?_⟩
  refine listing.yielded_nodup.imp ?_
  intro first second differ
  apply List.disjoint_left.mpr
  intro other inFirst inSecond
  obtain ⟨entry, member, rfl⟩ := List.mem_map.mp inFirst
  obtain ⟨entry', member', same⟩ := List.mem_map.mp inSecond
  obtain ⟨rest, spelled⟩ := Node.walk_below member
  obtain ⟨rest', spelled'⟩ := Node.walk_below member'
  rw [← same, ← spelled', List.append_assoc, List.append_assoc] at spelled
  exact differ (List.cons.inj (List.append_cancel_left spelled)).1

/-- And none of them is the directory's own. -/
theorem Listing.not_mem_walk {path : Path} {listing : Listing}
    {child : OsString → Node}
    : path ∉ (listing.yielded.flatMap (fun name => (child name).walk keep (path ++ [name]))).map
        DirEntry.path := by
  intro member
  obtain ⟨entry, member, same⟩ := List.mem_map.mp member
  obtain ⟨name, -, member⟩ := List.mem_flatMap.mp member
  have below := (Node.walk_below member).length_le
  rw [same, List.length_append, List.length_singleton] at below
  omega

/-- A walk yields no path twice, by induction on the node. -/
theorem Node.walk_nodup {path : Path} (node : Node)
    : ((node.walk keep path).map DirEntry.path).Nodup := by
  induction node generalizing path with
  | dir listing child ih =>
      simp only [Node.walk]
      split
      · exact List.nodup_cons.mpr ⟨Listing.not_mem_walk, Listing.walk_nodup (fun name => ih name)⟩
      · exact .nil
  | file _ | symlink _ | brokenLink | special =>
      simp only [Node.walk]
      split <;> simp

theorem Disk.walkDir_nodup
    : ((disk.walkDir root keep).map DirEntry.path).Nodup := by
  unfold Disk.walkDir
  split
  · exact .nil
  · rename_i target found
    split
    · rw [List.singleton_append, List.map_cons, List.nodup_cons]
      split
      · exact ⟨Listing.not_mem_walk, Listing.walk_nodup (fun _ => Node.walk_nodup _)⟩
      · simp
    · rw [List.nil_append]
      split
      · exact Listing.walk_nodup (fun _ => Node.walk_nodup _)
      · simp
  · exact Node.walk_nodup _
-----------------------------------------------------------------------------------------
-- Established absence
-----------------------------------------------------------------------------------------

/-- The walk reads the directory at this path, however it is spelled, to its end. -/
def Disk.ReadsFully (disk : Disk) (root : Path) (keep : Path → Bool → Bool) (path : Path)
    : Prop :=
  ∃ spelled listing child,
    spelled.named = path.named ∧ disk.Enters root keep spelled listing child
    ∧ listing.readError = none

/-- A path is established as absent: nothing is there, and the directory that should
contain it was read without error or is itself established as absent.
-/
inductive Disk.EstablishedAbsent (disk : Disk) (root : Path) (keep : Path → Bool → Bool)
    : Path → Prop
  | read {path name} (absent : disk.entry? (path ++ [name]) = none)
    (reads : disk.ReadsFully root keep path)
    : Disk.EstablishedAbsent disk root keep (path ++ [name])
  | under {path name} (absent : disk.entry? (path ++ [name]) = none)
    (above : Disk.EstablishedAbsent disk root keep path)
    : Disk.EstablishedAbsent disk root keep (path ++ [name])

/-- A path leads through a directory that the walk reads to its end and that has no entry
for the next name on the way.
-/
def Disk.LeadsOut (disk : Disk) (root : Path) (keep : Path → Bool → Bool) (path : Path)
    : Prop :=
  ∃ above name rest spelled listing child,
    path = above ++ name :: rest ∧ Path.named spelled = Path.named above
    ∧ disk.Enters root keep spelled listing child ∧ listing.readError = none
    ∧ name ∉ listing.names ∧ name ≠ .utf8 ".." ∧ name.isIdle = false

/-- Absence is established exactly where the path leads out of a directory that was read. -/
theorem Disk.establishedAbsent_iff {path : Path}
    : disk.EstablishedAbsent root keep path ↔ disk.LeadsOut root keep path := by
  constructor
  · intro established
    induction established with
    | @read path name absent reads =>
        obtain ⟨spelled, listing, child, same, entered, noError⟩ := reads
        have here := Disk.node?_named same entered.node?_eq
        have down : name ≠ .utf8 ".." := by
          rintro rfl
          exact Disk.entry?_up here absent
        have named : name.isIdle = false := by
          by_contra idle
          exact Disk.entry?_idle here (by simpa using idle) absent
        rw [Disk.entry?_child here down named] at absent
        have missing : name ∉ listing.names := by
          intro member
          simp [member] at absent
        exact ⟨path, name, [], spelled, listing, child, rfl, same, entered, noError, missing, down,
          named⟩
    | @under path name absent above ih =>
        obtain ⟨dir, next, rest, spelled, listing, child, rfl, out⟩ := ih
        exact ⟨dir, next, rest ++ [name], spelled, listing, child, by simp, out⟩
  · rintro ⟨dir, next, rest, spelled, listing, child, rfl, same, entered, noError, missing, down,
      named⟩
    have absent : disk.entry? (dir ++ [next]) = none := by
      rw [Disk.entry?_child (Disk.node?_named same entered.node?_eq) down named, if_neg missing]
    -- from the missing name on, every further component is below something absent
    induction rest using List.reverseRec with
    | nil => exact .read absent ⟨spelled, listing, child, same, entered, noError⟩
    | append_singleton rest last ih =>
        have further : dir ++ next :: (rest ++ [last]) = dir ++ next :: rest ++ [last] := by
          simp
        rw [further]
        refine .under ?_ ih
        have longer := Disk.entry?_append_of_none absent (rest ++ [last])
        simpa using longer

/-- Nothing is established as absent by a walk that cannot read its root. -/
theorem Disk.not_establishedAbsent
    (unread : ∀ listing child, ¬ disk.Enters root keep root listing child) (path : Path)
    : ¬ disk.EstablishedAbsent root keep path := by
  rw [Disk.establishedAbsent_iff]
  rintro ⟨_, _, _, spelled, listing, child, -, -, entered, -⟩
  induction entered with
  | root found kept => exact unread _ _ (.root found kept)
  | link found followed => exact unread _ _ (.link found followed)
  | child above yields found kept ih => exact ih

end SyncGDrive
