import SyncGDrive.Config
import SyncGDrive.Local.Walk

/-! Trees without links, special files, unreadable entries or names that are not UTF-8. In
such a tree the walk finds exactly what is not ignored.
-/

namespace SyncGDrive

-----------------------------------------------------------------------------------------
-- Orderly trees
-----------------------------------------------------------------------------------------

/-- Regular files and directories only, all of them readable and named in UTF-8, with
modification times after the epoch.
-/
def Node.Orderly : Node → Prop
  | .file data => data.readable = true ∧ 0 ≤ data.modified
  | .dir listing child =>
      listing.readError = none
      ∧ ∀ name ∈ listing.names, (∃ text, name = .utf8 text) ∧ (child name).Orderly
  | _ => False

/-- Follow names down the tree, through directories only. -/
def Node.descend : Node → Path → Option Node
  | node, [] => some node
  | .dir listing child, name :: rest =>
      if name ∈ listing.names then (child name).descend rest else none
  | _, _ :: _ => none

@[simp] theorem Node.descend_nil (node : Node) : node.descend [] = some node := by
  cases node <;> rfl

theorem Node.descend_append (node : Node) (first second : Path)
    : node.descend (first ++ second) = (node.descend first).bind (·.descend second) := by
  induction first generalizing node with
  | nil => simp
  | cons name rest ih =>
      cases node with
      | dir listing child =>
          simp only [List.cons_append, Node.descend]
          split
          · exact ih (child name)
          · rfl
      | _ => rfl

/-- What is found in an orderly tree is orderly, and its names are plain. -/
theorem Node.Orderly.descend {node found : Node} (orderly : node.Orderly) {rel : Path}
    (reached : node.descend rel = some found)
    : found.Orderly ∧ PlainNames rel := by
  induction rel generalizing node with
  | nil =>
      rw [Node.descend_nil, Option.some.injEq] at reached
      exact ⟨reached ▸ orderly, by simp [PlainNames]⟩
  | cons name rest ih =>
      cases node with
      | dir listing child =>
          simp only [Node.descend, Option.ite_none_right_eq_some] at reached
          obtain ⟨member, reached⟩ := reached
          obtain ⟨⟨text, rfl⟩, childOrderly⟩ := orderly.2 name member
          obtain ⟨foundOrderly, names⟩ := ih childOrderly reached
          refine ⟨foundOrderly, ?_⟩
          intro other inside
          rcases List.mem_cons.mp inside with rfl | inside
          · exact ⟨text, rfl, listing.proper _ member⟩
          · exact names other inside
      | _ => simp [Node.descend] at reached

/-- Nothing in an orderly tree is followed anywhere else. -/
theorem Node.Orderly.follow {node : Node} (orderly : node.Orderly)
    : node.follow = some node := by
  cases node with
  | file | dir => rfl
  | symlink | brokenLink | special => exact orderly.elim

/-- Looking a plain path up in an orderly tree follows its names. -/
theorem Node.Orderly.locate {node : Node} (orderly : node.Orderly) (above : List Node)
    {rel : Path} (names : PlainNames rel)
    : (node.locate above rel).map Prod.snd = node.descend rel := by
  induction rel generalizing node above with
  | nil => simp [Node.locate]
  | cons name rest ih =>
      obtain ⟨text, rfl, ordinary⟩ := names name (by simp)
      have down : OsString.utf8 text ≠ .utf8 ".." := by
        rintro ⟨⟩
        exact ordinary.2.2.1 rfl
      cases node with
      | dir listing child =>
          have named : (OsString.utf8 text).isIdle = false := names.clean _ (by simp)
          simp only [Node.locate, Node.follow, if_neg down, named, Bool.false_eq_true, if_false,
            Node.descend]
          split
          · rename_i member
            exact ih (orderly.2 _ member).2 _ (fun other inside => names other (by simp [inside]))
          · rfl
      | file data => rfl
      | symlink | brokenLink | special => exact orderly.elim

-----------------------------------------------------------------------------------------
-- Orderly roots
-----------------------------------------------------------------------------------------

/-- The directory at `root` is an orderly tree. -/
def Disk.OrderlyAt (disk : Disk) (root : Path) : Prop :=
  ∃ listing child,
    disk.entry? root = some (.dir listing child) ∧ (Node.dir listing child).Orderly

variable {disk : Disk} {root : Path} {ignore : IgnoreMatcher}

/-- The entries below an orderly root are found by following names. -/
theorem Disk.OrderlyAt.entry? {tree : Node} (found : disk.entry? root = some tree)
    (orderly : tree.Orderly) {rel : Path} (names : PlainNames rel)
    : disk.entry? (root ++ rel) = tree.descend rel := by
  obtain ⟨⟨above, node⟩, located, rfl⟩ := Option.map_eq_some_iff.mp found
  rw [Disk.entry?, Node.locate_append, located, Option.bind_some]
  exact orderly.locate above names

/-- Below an orderly root a path stands for the entry itself. -/
theorem Disk.OrderlyAt.node? (orderly : disk.OrderlyAt root) {rel : Path}
    (names : PlainNames rel)
    : disk.node? (root ++ rel) = disk.entry? (root ++ rel) := by
  obtain ⟨listing, child, found, tree⟩ := orderly
  rw [Disk.node?, Disk.OrderlyAt.entry? found tree names]
  cases reached : (Node.dir listing child).descend rel with
  | none => rfl
  | some node => exact (tree.descend reached).1.follow

/-- What stands below an orderly root is an orderly file or directory. -/
theorem Disk.OrderlyAt.orderly (orderly : disk.OrderlyAt root) {rel : Path}
    (names : PlainNames rel) {node : Node} (found : disk.node? (root ++ rel) = some node)
    : node.Orderly := by
  rw [orderly.node? names] at found
  obtain ⟨listing, child, atRoot, tree⟩ := orderly
  rw [Disk.OrderlyAt.entry? atRoot tree names] at found
  exact (tree.descend found).1

/-- Above what stands below an orderly root there are directories. -/
theorem Disk.OrderlyAt.dir_above (orderly : disk.OrderlyAt root) {rel rest : Path}
    {name : OsString} {node : Node} (names : PlainNames (rel ++ name :: rest))
    (found : disk.node? (root ++ (rel ++ name :: rest)) = some node)
    : ∃ listing child, disk.node? (root ++ rel) = some (.dir listing child) := by
  have namesAbove := (PlainNames.append.mp names).1
  rw [orderly.node? names] at found
  rw [orderly.node? namesAbove]
  obtain ⟨listing, child, atRoot, tree⟩ := orderly
  rw [Disk.OrderlyAt.entry? atRoot tree names, Node.descend_append,
    Option.bind_eq_some_iff] at found
  obtain ⟨parent, reached, found⟩ := found
  rw [Disk.OrderlyAt.entry? atRoot tree namesAbove, reached]
  cases parent with
  | dir listing child => exact ⟨listing, child, rfl⟩
  | _ => simp [Node.descend] at found

-----------------------------------------------------------------------------------------
-- The walk of an orderly root
-----------------------------------------------------------------------------------------

/-- Everything below an ignored directory is ignored. -/
def IgnoreMatcher.DownwardClosed (ignore : IgnoreMatcher) : Prop :=
  ∀ path name rest isDirectory,
    ignore.isIgnored path true = true
    → ignore.isIgnored (path ++ name :: rest) isDirectory = true

/-- The directories above what is not ignored are not ignored. -/
theorem IgnoreMatcher.DownwardClosed.above (closed : ignore.DownwardClosed) {path : Path}
    {name : OsString} {rest : Path} {isDirectory : Bool}
    (kept : ignore.keeps (path ++ name :: rest) isDirectory = true)
    : ignore.keeps path true = true := by
  by_contra ignored
  simp only [IgnoreMatcher.keeps, Bool.not_eq_true', Bool.not_eq_false] at ignored kept
  rw [closed path name rest isDirectory ignored] at kept
  contradiction

/-- The walk of an orderly root enters every directory that is not ignored. -/
theorem Disk.OrderlyAt.enters (orderly : disk.OrderlyAt root) (closed : ignore.DownwardClosed)
    {rel : Path} {listing : Listing} {child : OsString → Node} (names : PlainNames rel)
    (found : disk.entry? (root ++ rel) = some (.dir listing child))
    (kept : ignore.keeps (root ++ rel) true = true)
    : disk.Enters root ignore.keeps (root ++ rel) listing child := by
  induction rel using List.reverseRecOn generalizing listing child with
  | nil => simpa using Disk.Enters.root (by simpa using found) (by simpa using kept)
  | append_singleton above name ih =>
      obtain ⟨tree, children, atRoot, treeOrderly⟩ := id orderly
      obtain ⟨namesAbove, nameAlone⟩ := PlainNames.append.mp names
      rw [Disk.OrderlyAt.entry? atRoot treeOrderly names, Node.descend_append,
        Option.bind_eq_some_iff] at found
      obtain ⟨parent, reached, found⟩ := found
      cases parent with
      | dir listing' child' =>
          simp only [Node.descend, Node.descend_nil, Option.ite_none_right_eq_some,
            Option.some.injEq] at found
          obtain ⟨member, found⟩ := found
          have keptAbove : ignore.keeps (root ++ above) true = true := by
            rw [← List.append_assoc] at kept
            exact closed.above kept
          have entered := ih namesAbove
            (by rw [Disk.OrderlyAt.entry? atRoot treeOrderly namesAbove, reached]) keptAbove
          have readError := (treeOrderly.descend reached).1.1
          rw [← List.append_assoc] at kept ⊢
          exact .child entered (by simpa [Listing.yielded, readError] using member) found kept
      | _ => simp [Node.descend] at found

/-- What the walk of an orderly root yields is not ignored and found along plain names. -/
theorem Disk.OrderlyAt.of_yields (orderly : disk.OrderlyAt root) {path : Path} {node : Node}
    (yielded : disk.Yields root ignore.keeps path node)
    : ∃ rel, path = root ++ rel ∧ PlainNames rel ∧ disk.node? path = some node
      ∧ ignore.keeps path (node.fileType = .dir) = true := by
  obtain ⟨tree, children, atRoot, treeOrderly⟩ := id orderly
  have entered {path listing child} (entered : disk.Enters root ignore.keeps path listing child)
      : ∃ rel, path = root ++ rel ∧ PlainNames rel
        ∧ (Node.dir tree children).descend rel = some (.dir listing child) := by
    induction entered with
    | root found kept =>
        rw [atRoot, Option.some.injEq] at found
        exact ⟨[], by simp, by simp [PlainNames], by simpa using found⟩
    | link found followed => simp [atRoot] at found
    | @child path listing child name listing' child' above yields found kept ih =>
        obtain ⟨rel, rfl, names, reached⟩ := ih
        have reached' : (Node.dir tree children).descend (rel ++ [name])
            = some (.dir listing' child') := by
          rw [Node.descend_append, reached]
          simp [Node.descend, Listing.mem_names yields, found]
        exact ⟨rel ++ [name], by simp, (treeOrderly.descend reached').2, reached'⟩
  cases yielded with
  | root found kept =>
      have found' : disk.node? (root ++ []) = some node := by
        rw [orderly.node? (by simp [PlainNames])]
        simpa using found
      exact ⟨[], by simp, by simp [PlainNames], by simpa using found', kept⟩
  | @child path listing child name above yields kept =>
      obtain ⟨rel, rfl, names, reached⟩ := entered above
      have reached' : (Node.dir tree children).descend (rel ++ [name]) = some (child name) := by
        rw [Node.descend_append, reached]
        simp [Node.descend, Listing.mem_names yields]
      have names' := (treeOrderly.descend reached').2
      refine ⟨rel ++ [name], by simp, names', ?_, kept⟩
      rw [List.append_assoc, orderly.node? names', Disk.OrderlyAt.entry? atRoot treeOrderly names',
        reached']

/-- The walk of an orderly root yields everything below it that is not ignored. -/
theorem Disk.OrderlyAt.yields (orderly : disk.OrderlyAt root) (closed : ignore.DownwardClosed)
    {rel : Path} {node : Node} (plain : Plain rel)
    (found : disk.node? (root ++ rel) = some node)
    (kept : ignore.keeps (root ++ rel) (node.fileType = .dir) = true)
    : disk.Yields root ignore.keeps (root ++ rel) node := by
  obtain ⟨nonempty, names⟩ := plain
  obtain ⟨tree, children, atRoot, treeOrderly⟩ := id orderly
  obtain ⟨above, name, rfl⟩ := List.eq_nil_or_concat rel |>.resolve_left nonempty
  rw [List.concat_eq_append] at *
  obtain ⟨namesAbove, nameAlone⟩ := PlainNames.append.mp names
  rw [orderly.node? names, Disk.OrderlyAt.entry? atRoot treeOrderly names, Node.descend_append,
    Option.bind_eq_some_iff] at found
  obtain ⟨parent, reached, found⟩ := found
  cases parent with
  | dir listing child =>
      simp only [Node.descend, Node.descend_nil, Option.ite_none_right_eq_some,
        Option.some.injEq] at found
      obtain ⟨member, rfl⟩ := found
      rw [← List.append_assoc] at kept ⊢
      have entered := orderly.enters closed namesAbove
        (by rw [Disk.OrderlyAt.entry? atRoot treeOrderly namesAbove, reached])
        (closed.above kept)
      have readError := (treeOrderly.descend reached).1.1
      exact .child entered (by simpa [Listing.yielded, readError] using member) kept
  | _ => simp [Node.descend] at found

end SyncGDrive
