import SyncGDrive.Local.Path

/-! The local disk as the engine sees it: lookups that follow symbolic links, and the
directory walk that drops what it cannot read.
-/

namespace SyncGDrive

-----------------------------------------------------------------------------------------
-- Nodes
-----------------------------------------------------------------------------------------

/-- A regular file: its bytes, its modification time in nanoseconds since the Unix epoch,
and whether it can be opened for reading.
-/
structure FileData where
  content : List UInt8
  modified : Int
  readable : Bool := true
  deriving DecidableEq

/-- The names in a directory. Reading it may break off: `readError` then holds the names
that the walk still yields without an error.
-/
structure Listing where
  names : List OsString
  distinct : names.Nodup
  proper : ∀ name ∈ names, name.Proper
  readError : Option (List OsString) := none

/-- The names that the walk yields without an error, in reading order. -/
def Listing.yielded (listing : Listing) : List OsString :=
  match listing.readError with
  | none => listing.names
  | some seen => listing.names.filter (· ∈ seen)

/-- A node of the file system tree. -/
inductive Node
  | file (data : FileData)
  | dir (listing : Listing) (child : OsString → Node)
  | symlink (target : Node)
  | brokenLink
  | special

/-- `std::fs::FileType`, without following links. -/
inductive FileType
  | file
  | dir
  | symlink
  | other
  deriving DecidableEq

def Node.fileType : Node → FileType
  | .file _ => .file
  | .dir .. => .dir
  | .symlink _ | .brokenLink => .symlink
  | .special => .other

/-- What a node stands for once links are followed; `none` for a broken link. -/
def Node.follow : Node → Option Node
  | .symlink target => target.follow
  | .brokenLink => none
  | node => some node

/-- Walk a path down from `node`, whose ancestors are `above`. Intermediate links are
followed, the last component is not; `..` goes up, and stays at `/`; an idle piece stays, in a
directory.
-/
def Node.locate (above : List Node) (node : Node) : Path → Option (List Node × Node)
  | [] => some (above, node)
  | name :: rest =>
      match node.follow with
      | some (.dir listing child) =>
          if name = .utf8 ".." then
            match above with
            | [] => Node.locate [] node rest
            | up :: above => Node.locate above up rest
          else if name ∈ listing.names then
            Node.locate (.dir listing child :: above) (child name) rest
          else if name.isIdle then Node.locate above (.dir listing child) rest
          else none
      | _ => none

-----------------------------------------------------------------------------------------
-- The disk
-----------------------------------------------------------------------------------------

/-- The whole file system, from `/`. -/
structure Disk where
  root : Node

/-- `std::fs::Metadata`, as far as the engine reads it. -/
structure Metadata where
  isDir : Bool
  isFile : Bool
  len : Nat
  modified : Int
  deriving DecidableEq

/-- The metadata of a node that is no link; only a regular file's length is the length of
something that can be read.
-/
def Node.metadata : Node → Metadata
  | .file data => ⟨false, true, data.content.length, data.modified⟩
  | .dir .. => ⟨true, false, 4096, 0⟩
  | _ => ⟨false, false, 0, 0⟩

/-- The entry at a path itself, as `symlink_metadata` finds it. -/
def Disk.entry? (disk : Disk) (path : Path) : Option Node :=
  (disk.root.locate [] path).map Prod.snd

/-- What a path stands for, links followed. -/
def Disk.node? (disk : Disk) (path : Path) : Option Node :=
  (disk.entry? path).bind Node.follow

/-- `std::fs::metadata`. -/
def Disk.metadata (disk : Disk) (path : Path) : Option Metadata :=
  (disk.node? path).map Node.metadata

/-- `Path::is_dir`. -/
def Disk.isDir (disk : Disk) (path : Path) : Bool :=
  ((disk.metadata path).map Metadata.isDir).getD false

/-- The bytes that reading a path to its end gives. -/
def Disk.read (disk : Disk) (path : Path) : Option (List UInt8) :=
  match disk.node? path with
  | some (.file data) => if data.readable then some data.content else none
  | _ => none

-----------------------------------------------------------------------------------------
-- The directory walk
-----------------------------------------------------------------------------------------

/-- `walkdir::DirEntry`. -/
structure DirEntry where
  path : Path
  fileType : FileType
  deriving DecidableEq

/-- The walk below one entry: `filter_entry` prunes what `keep` rejects, and
`filter_map(ok)` drops every error. Links are not followed.
-/
def Node.walk (keep : Path → Bool → Bool) (path : Path) : Node → List DirEntry
  | .dir listing child =>
      if keep path true then
        ⟨path, .dir⟩
          :: listing.yielded.flatMap (fun name => (child name).walk keep (path ++ [name]))
      else []
  | .file _ => if keep path false then [⟨path, .file⟩] else []
  | .symlink _ | .brokenLink => if keep path false then [⟨path, .symlink⟩] else []
  | .special => if keep path false then [⟨path, .other⟩] else []

/-- `WalkDir::new(root).into_iter().filter_entry(keep).filter_map(ok)`. A root that is a
link is yielded as a link and its directory is read; a missing root yields one error.
-/
def Disk.walkDir (disk : Disk) (root : Path) (keep : Path → Bool → Bool) : List DirEntry :=
  match disk.entry? root with
  | none => []
  | some (.symlink target) =>
      (if keep root false then [⟨root, .symlink⟩] else [])
        ++ match target.follow with
          | some (.dir listing child) =>
              listing.yielded.flatMap (fun name => (child name).walk keep (root ++ [name]))
          | _ => []
  | some node => node.walk keep root

-----------------------------------------------------------------------------------------
-- Lookups
-----------------------------------------------------------------------------------------

theorem Listing.mem_names {listing : Listing} {name : OsString}
    (yields : name ∈ listing.yielded)
    : name ∈ listing.names := by
  unfold Listing.yielded at yields
  split at yields
  · exact yields
  · exact (List.mem_filter.mp yields).1

theorem Listing.name_ne_up {listing : Listing} {name : OsString} (member : name ∈ listing.names)
    : name ≠ .utf8 ".." := by
  rintro rfl
  exact (listing.proper _ member).2.2.1 rfl

theorem Listing.named_of_mem {listing : Listing} {name : OsString} (member : name ∈ listing.names)
    : name.isIdle = false :=
  (listing.proper _ member).named

/-- The path leads from a node to a directory, with what is above it. -/
def Node.Leads (above : List Node) (node : Node) (path : Path) (top : List Node) (dir : Node)
    : Prop :=
  ∃ last, node.locate above path = some (top, last) ∧ last.follow = some dir

section Leads

variable {above top : List Node} {node other : Node} {path rest : Path} {name : OsString}
  {listing below : Listing} {child there : OsString → Node}

/-- A path leads to a directory from directories only. -/
theorem Node.Leads.follow (leads : node.Leads above path top (.dir listing child))
    : ∃ listing child, node.follow = some (.dir listing child) := by
  obtain ⟨last, found, dir⟩ := leads
  cases path with
  | nil =>
      cases found
      exact ⟨listing, child, dir⟩
  | cons name rest =>
      unfold Node.locate at found
      split at found
      · exact ⟨_, _, by assumption⟩
      · cases found

theorem Node.leads_idle {dir : Node} (followed : node.follow = some (.dir below there))
    (idle : name.isIdle = true)
    : node.Leads above (name :: rest) top dir
      ↔ (Node.dir below there).Leads above rest top dir := by
  have down : name ≠ .utf8 ".." := by
    rintro rfl
    simp [OsString.isIdle] at idle
  have unlisted : name ∉ below.names := by
    intro member
    rw [(below.proper _ member).named] at idle
    cases idle
  simp only [Leads, locate, followed, if_neg down, if_neg unlisted, idle, if_true]

theorem Node.leads_up {dir : Node} (followed : node.follow = some (.dir below there))
    : node.Leads above (.utf8 ".." :: rest) top dir
      ↔ (above.head?.getD node).Leads above.tail rest top dir := by
  cases above with
  | nil => simp [Leads, locate, followed]
  | cons up above => simp [Leads, locate, followed]

theorem Node.leads_child {dir : Node} (followed : node.follow = some (.dir below there))
    (named : name.isIdle = false) (down : name ≠ .utf8 "..")
    : node.Leads above (name :: rest) top dir
      ↔ name ∈ below.names ∧ (there name).Leads (.dir below there :: above) rest top dir := by
  by_cases member : name ∈ below.names <;>
    simp [Leads, locate, followed, down, member, named]

/-- Idle pieces change nothing on the way to a directory, by induction on the path. -/
theorem Node.leads_named (same : other.follow = node.follow)
    : node.Leads above path.named top (.dir listing child)
      ↔ other.Leads above path top (.dir listing child) := by
  induction path generalizing above node other with
  | nil => simp [Path.named, Leads, locate, same]
  | cons name rest ih =>
      by_cases directory : ∃ below there, node.follow = some (.dir below there)
      · obtain ⟨below, there, followed⟩ := directory
        have followed' := same.trans followed
        cases idle : name.isIdle with
        | true =>
            have further : (Node.dir below there).follow = node.follow := followed.symm
            rw [leads_idle followed' idle, ← ih further]
            simp [Path.named, idle]
        | false =>
            have kept : Path.named (name :: rest) = name :: Path.named rest := by
              simp [Path.named, idle]
            rw [kept]
            by_cases up : name = .utf8 ".."
            · rw [up, leads_up followed, leads_up followed']
              cases above with
              | nil => exact ih same
              | cons up above => exact ih rfl
            · rw [leads_child followed idle up, leads_child followed' idle up, ih rfl]
      · constructor
        · intro leads
          exact absurd leads.follow directory
        · intro leads
          rw [← same] at directory
          exact absurd leads.follow directory

end Leads

/-- Looking up a path is looking up its parts in turn, by induction on the first part. -/
theorem Node.locate_append (above : List Node) (node : Node) (first second : Path)
    : node.locate above (first ++ second)
      = (node.locate above first).bind (fun found => found.2.locate found.1 second) := by
  induction first generalizing above node with
  | nil => rfl
  | cons name rest ih =>
      simp only [List.cons_append, Node.locate]
      split
      · split
        · split <;> exact ih _ _
        · split
          · exact ih _ _
          · split
            · exact ih _ _
            · rfl
      · rfl

/-- Nothing is found below what is not found. -/
theorem Disk.entry?_append_of_none {disk : Disk} {path : Path}
    (absent : disk.entry? path = none) (rest : Path)
    : disk.entry? (path ++ rest) = none := by
  simp only [Disk.entry?, Option.map_eq_none_iff] at absent ⊢
  rw [Node.locate_append, absent]
  rfl

/-- The entry of a name in a directory that a path stands for. -/
theorem Disk.entry?_child {disk : Disk} {path : Path} {listing : Listing}
    {child : OsString → Node} (found : disk.node? path = some (.dir listing child))
    {name : OsString} (down : name ≠ .utf8 "..") (named : name.isIdle = false)
    : disk.entry? (path ++ [name]) = if name ∈ listing.names then some (child name) else none
    := by
  obtain ⟨node, atPath, followed⟩ := Option.bind_eq_some_iff.mp found
  obtain ⟨⟨above, _⟩, located, rfl⟩ := Option.map_eq_some_iff.mp atPath
  rw [Disk.entry?, Node.locate_append, located]
  simp only [Option.bind_some, Node.locate, followed, if_neg down, named, Bool.false_eq_true,
    if_false]
  split <;> rfl

theorem Disk.entry?_member {disk : Disk} {path : Path} {listing : Listing}
    {child : OsString → Node} (found : disk.node? path = some (.dir listing child))
    {name : OsString} (member : name ∈ listing.names)
    : disk.entry? (path ++ [name]) = some (child name) := by
  rw [Disk.entry?_child found (Listing.name_ne_up member) (Listing.named_of_mem member),
    if_pos member]

/-- Paths that name the same stand for the same directory. -/
theorem Disk.node?_named {disk : Disk} {path spelled : Path} {listing : Listing}
    {child : OsString → Node} (same : spelled.named = path.named)
    (found : disk.node? spelled = some (.dir listing child))
    : disk.node? path = some (.dir listing child) := by
  have leads (path : Path)
      : disk.node? path = some (.dir listing child)
        ↔ ∃ top, disk.root.Leads [] path top (.dir listing child) := by
    simp only [Disk.node?, Disk.entry?, Node.Leads, Option.bind_eq_some_iff, Option.map_eq_some_iff,
      Prod.exists]
    constructor
    · rintro ⟨_, ⟨top, last, located, rfl⟩, dir⟩
      exact ⟨top, last, located, dir⟩
    · rintro ⟨top, last, located, dir⟩
      exact ⟨last, ⟨top, last, located, rfl⟩, dir⟩
  rw [leads] at found ⊢
  obtain ⟨top, found⟩ := found
  exact ⟨top, (Node.leads_named rfl).mp (same ▸ (Node.leads_named rfl).mpr found)⟩

/-- Staying in a directory always finds something. -/
theorem Disk.entry?_idle {disk : Disk} {path : Path} {listing : Listing}
    {child : OsString → Node} (found : disk.node? path = some (.dir listing child))
    {name : OsString} (idle : name.isIdle = true)
    : disk.entry? (path ++ [name]) ≠ none := by
  obtain ⟨node, atPath, followed⟩ := Option.bind_eq_some_iff.mp found
  obtain ⟨⟨above, _⟩, located, rfl⟩ := Option.map_eq_some_iff.mp atPath
  rw [Disk.entry?, Node.locate_append, located]
  simp only [Option.bind_some, Node.locate, followed, idle, if_true]
  split
  · cases above <;> simp
  · split <;> simp

/-- Going up from a directory always finds something. -/
theorem Disk.entry?_up {disk : Disk} {path : Path} {listing : Listing}
    {child : OsString → Node} (found : disk.node? path = some (.dir listing child))
    : disk.entry? (path ++ [.utf8 ".."]) ≠ none := by
  obtain ⟨node, atPath, followed⟩ := Option.bind_eq_some_iff.mp found
  obtain ⟨⟨above, _⟩, located, rfl⟩ := Option.map_eq_some_iff.mp atPath
  rw [Disk.entry?, Node.locate_append, located]
  simp only [Option.bind_some, Node.locate, followed, if_true]
  cases above <;> simp

-----------------------------------------------------------------------------------------
-- A small disk
-----------------------------------------------------------------------------------------

def Listing.empty : Listing := ⟨[], .nil, by simp, none⟩

def Listing.single (name : OsString) (proper : name.Proper) : Listing :=
  ⟨[name], by simp, by simpa using proper, none⟩

theorem OsString.proper_a : OsString.Proper (.utf8 "a") := by decide

theorem OsString.proper_text : OsString.Proper (.utf8 "a.txt") := by decide

/-- A disk that holds one directory, `/backup`. -/
def Disk.backup (listing : Listing) (child : OsString → Node) : Disk :=
  ⟨.dir (.single (.utf8 "backup") (by decide)) (fun _ => .dir listing child)⟩

theorem Disk.backup_entry? (listing : Listing) (child : OsString → Node)
    : Disk.entry? (Disk.backup listing child) [.utf8 "backup"] = some (.dir listing child) := by
  simp [Disk.backup, Disk.entry?, Node.locate, Node.follow, Listing.single]

end SyncGDrive
