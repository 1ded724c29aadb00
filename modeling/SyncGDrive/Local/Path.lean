import Mathlib.Data.List.Basic
import Mathlib.Data.List.DropRight

/-! File names, paths of the local disk, and the relative keys the engine derives from them.
A path is the list of its pieces below `/`, as they are spelled; a relative key is the text under
which `file_index`, the path cache and the remote index know a file.
-/

namespace SyncGDrive

-----------------------------------------------------------------------------------------
-- File names
-----------------------------------------------------------------------------------------

/-- The bits a UTF-8 lead byte contributes, and the range of each continuation byte. -/
def utf8Lead (byte : UInt8) : Option (Nat × List (UInt8 × UInt8)) :=
  if byte < 0x80 then some (byte.toNat, [])
  else if 0xC2 ≤ byte ∧ byte ≤ 0xDF then some (byte.toNat - 0xC0, [(0x80, 0xBF)])
  else if byte = 0xE0 then some (0x0, [(0xA0, 0xBF), (0x80, 0xBF)])
  else if byte = 0xED then some (0xD, [(0x80, 0x9F), (0x80, 0xBF)])
  else if 0xE1 ≤ byte ∧ byte ≤ 0xEF then
    some (byte.toNat - 0xE0, [(0x80, 0xBF), (0x80, 0xBF)])
  else if byte = 0xF0 then some (0x0, [(0x90, 0xBF), (0x80, 0xBF), (0x80, 0xBF)])
  else if 0xF1 ≤ byte ∧ byte ≤ 0xF3 then
    some (byte.toNat - 0xF0, [(0x80, 0xBF), (0x80, 0xBF), (0x80, 0xBF)])
  else if byte = 0xF4 then some (0x4, [(0x80, 0x8F), (0x80, 0xBF), (0x80, 0xBF)])
  else none

/-- Read the continuation bytes that fall in their ranges; `none` when one does not. -/
def utf8Continue (scalar : Nat)
    : List (UInt8 × UInt8) → List UInt8 → Option Nat × List UInt8
  | [], rest => (some scalar, rest)
  | _ :: _, [] => (none, [])
  | (low, high) :: ranges, byte :: rest =>
      if low ≤ byte ∧ byte ≤ high then
        utf8Continue (scalar * 64 + (byte.toNat - 0x80)) ranges rest
      else (none, byte :: rest)

/-- The characters of a byte string, `none` for each maximal ill-formed piece. -/
def utf8Chunks (bytes : List UInt8) : List (Option Char) :=
  go bytes.length bytes
where
  go : Nat → List UInt8 → List (Option Char)
    | 0, _ | _, [] => []
    | fuel + 1, byte :: rest =>
        match utf8Lead byte with
        | none => none :: go fuel rest
        | some (bits, ranges) =>
            let (scalar, rest) := utf8Continue bits ranges rest
            scalar.map Char.ofNat :: go fuel rest

/-- A name of the local disk: a UTF-8 text, or bytes that are not UTF-8. -/
inductive OsString
  | utf8 (text : String)
  | raw (bytes : List UInt8) (invalid : none ∈ utf8Chunks bytes)
  deriving DecidableEq

/-- `OsStr::to_string_lossy`: every ill-formed piece becomes one replacement character. -/
def OsString.toStringLossy : OsString → String
  | .utf8 text => text
  | .raw bytes _ => String.ofList ((utf8Chunks bytes).map (·.getD '\uFFFD'))

example : utf8Chunks [0x61, 0xF0, 0x9F, 0x92, 0x62, 0xC3, 0xA9]
    = [some 'a', none, some 'b', some 'é'] := by decide

/-- A name that a path text spells as one component: no separator, no dot entry. -/
def PlainName (name : String) : Prop :=
  name ≠ "" ∧ name ≠ "." ∧ name ≠ ".." ∧ '/' ∉ name.toList

instance (name : String) : Decidable (PlainName name) :=
  inferInstanceAs (Decidable (_ ∧ _ ∧ _ ∧ _))

/-- A name that a directory can hold: the file system allows no separator and reserves the
dot entries.
-/
def OsString.Proper : OsString → Prop
  | .utf8 text => PlainName text
  | .raw bytes _ => 0x2F ∉ bytes

instance : DecidablePred OsString.Proper
  | .utf8 text => inferInstanceAs (Decidable (PlainName text))
  | .raw bytes _ => inferInstanceAs (Decidable (0x2F ∉ bytes))

-----------------------------------------------------------------------------------------
-- Paths
-----------------------------------------------------------------------------------------

/-- An absolute path, piece by piece as it is spelled behind its first `/`; also a relative one. -/
abbrev Path := List OsString

/-- A piece that names nothing: nothing between two separators, or `.`. -/
def OsString.isIdle : OsString → Bool
  | .utf8 text => text = "" || text = "."
  | .raw .. => false

/-- The pieces of a text between its separators. -/
def pieces (text : String) : Path :=
  (text.toList.splitOn '/').map (fun piece => .utf8 (String.ofList piece))

/-- The pieces that name something, among them `..`. By these, two paths are compared. -/
def Path.named (path : Path) : Path := path.filter (fun piece => !piece.isIdle)

/-- `Path::components` of a text. -/
def components (text : String) : Path := (pieces text).named

/-- `Path::join` with a text, which is kept as it is spelled: an absolute text replaces the base.
-/
def Path.join (base : Path) (text : String) : Path :=
  if text.toList.head? = some '/' then (pieces text).tail else base ++ pieces text

/-- The path that a text names, seen from the working directory. -/
def Path.resolve (cwd : Path) (text : String) : Path := Path.named (cwd.join text)

/-- A path without the idle pieces at its end. -/
def Path.trimEnd (path : Path) : Path := path.rdropWhile OsString.isIdle

/-- What `Components::as_path` leaves: idle pieces are dropped at both ends, and kept between. -/
def Path.trim (path : Path) : Path := Path.trimEnd (path.dropWhile OsString.isIdle)

/-- `Path::strip_prefix`: what the root names is taken off piece by piece, whatever idle pieces
stand between.
-/
def Path.stripPrefix : (root path : Path) → Option Path
  | [], path => some path.trim
  | head :: root, path =>
      if head.isIdle then stripPrefix root path
      else
        match path.dropWhile OsString.isIdle with
        | [] => none
        | first :: path => if head = first then stripPrefix root path else none

/-- Is the path strictly below the root: does a prefix remain to strip, and then a name? -/
def Path.isInside (root path : Path) : Bool :=
  match Path.stripPrefix root path with
  | some (_ :: _) => true
  | _ => false

/-- `Path::parent`. -/
def Path.parent (path : Path) : Option Path :=
  if path.trimEnd = [] then none else some (Path.trimEnd path.trimEnd.dropLast)

/-- `Path::file_name`, lossily decoded: a final `..` is no name. -/
def Path.fileName? (path : Path) : Option String :=
  match path.trimEnd.getLast? with
  | none => none
  | some name => if name = .utf8 ".." then none else some name.toStringLossy

/-- The text of a relative path: its lossily decoded pieces, separated by `/`. -/
def relKey (rel : Path) : String :=
  "/".intercalate (rel.map OsString.toStringLossy)

/-- `Path::display` of an absolute path. -/
def Path.display (path : Path) : String := "/" ++ relKey path

/-- One more name behind a relative key, as the folder loop and the remote listing do. -/
def pushKey (key name : String) : String :=
  if key = "" then name else key ++ "/" ++ name

/-- Names that a key spells without ambiguity: UTF-8, and plain. -/
def PlainNames (rel : Path) : Prop :=
  ∀ name ∈ rel, ∃ text, name = .utf8 text ∧ PlainName text

/-- A relative path whose key determines it: at least one name, all of them plain. -/
def Plain (rel : Path) : Prop :=
  rel ≠ [] ∧ PlainNames rel

/-- Components of a path in UTF-8: they may be `..`. -/
def Utf8Path (rel : Path) : Prop :=
  ∀ name ∈ rel, ∃ text, name = .utf8 text ∧ text ≠ "" ∧ text ≠ "." ∧ '/' ∉ text.toList

theorem PlainNames.utf8Path {rel : Path} (names : PlainNames rel) : Utf8Path rel := by
  intro name member
  obtain ⟨text, same, filled, single, -, solid⟩ := names name member
  exact ⟨text, same, filled, single, solid⟩

-----------------------------------------------------------------------------------------
-- Idle pieces
-----------------------------------------------------------------------------------------

/-- A path that names something with each of its pieces. -/
def Clean (path : Path) : Prop := ∀ name ∈ path, name.isIdle = false

theorem OsString.Proper.named {name : OsString} (proper : name.Proper) : name.isIdle = false := by
  cases name with
  | utf8 text => simp [isIdle, proper.1, proper.2.1]
  | raw bytes invalid => rfl

theorem Utf8Path.clean {rel : Path} (names : Utf8Path rel) : Clean rel := by
  intro name member
  obtain ⟨text, rfl, filled, single, -⟩ := names name member
  simp [OsString.isIdle, filled, single]

theorem PlainNames.clean {rel : Path} (names : PlainNames rel) : Clean rel := names.utf8Path.clean

theorem Plain.clean {rel : Path} (plain : Plain rel) : Clean rel := plain.2.clean

theorem Clean.append {path rest : Path} : Clean (path ++ rest) ↔ Clean path ∧ Clean rest := by
  simp only [Clean, List.mem_append, or_imp, forall_and]

theorem Clean.trimEnd {path : Path} (clean : Clean path) : path.trimEnd = path := by
  apply List.rdropWhile_eq_self_iff.mpr
  intro filled
  simp [clean _ (List.getLast_mem filled)]

theorem Clean.trim {path : Path} (clean : Clean path) : path.trim = path := by
  have front : path.dropWhile OsString.isIdle = path := by
    apply List.dropWhile_eq_self_iff.mpr
    intro filled
    simp [clean _ (List.getElem_mem filled)]
  rw [Path.trim, front, clean.trimEnd]

theorem Clean.named {path : Path} (clean : Clean path) : path.named = path := by
  apply List.filter_eq_self.mpr
  intro name member
  simp [clean name member]

theorem clean_named (path : Path) : Clean path.named := by
  intro name member
  simpa using (List.mem_filter.mp member).2

-----------------------------------------------------------------------------------------
-- Prefixes
-----------------------------------------------------------------------------------------

@[simp] theorem Path.named_append (path rest : Path)
    : Path.named (path ++ rest) = Path.named path ++ Path.named rest :=
  List.filter_append ..

theorem Path.stripPrefix_idle (root : Path) {name : OsString} (idle : name.isIdle = true)
    (path : Path)
    : Path.stripPrefix root (name :: path) = Path.stripPrefix root path := by
  induction root with
  | nil => simp [Path.stripPrefix, Path.trim, idle]
  | cons head root ih => simp [Path.stripPrefix, ih, idle]

/-- Whatever names what the root does is taken off, by induction on both. -/
theorem Path.stripPrefix_named {root front : Path} (same : Path.named front = Path.named root)
    (rel : Path)
    : Path.stripPrefix root (front ++ rel) = some rel.trim := by
  induction root generalizing front with
  | nil =>
      induction front with
      | nil => rfl
      | cons first front onFront =>
          cases skip : first.isIdle with
          | true =>
              rw [List.cons_append, Path.stripPrefix_idle _ skip]
              exact onFront (by simpa [Path.named, skip] using same)
          | false => simp [Path.named, skip] at same
  | cons head root ih =>
      cases idle : head.isIdle with
      | true => simpa [Path.stripPrefix, idle] using ih (by simpa [Path.named, idle] using same)
      | false =>
          induction front with
          | nil => simp [Path.named, idle] at same
          | cons first front onFront =>
              cases skip : first.isIdle with
              | true =>
                  rw [List.cons_append, Path.stripPrefix_idle _ skip]
                  exact onFront (by simpa [Path.named, skip] using same)
              | false =>
                  obtain ⟨rfl, rest⟩ : first = head ∧ Path.named front = Path.named root := by
                    simpa [Path.named, idle, skip] using same
                  simpa [Path.stripPrefix, idle] using ih rest

@[simp] theorem Path.stripPrefix_append (root rel : Path)
    : Path.stripPrefix root (root ++ rel) = some rel.trim :=
  Path.stripPrefix_named rfl rel

/-- Idle pieces surround what is left. -/
theorem Path.of_stripPrefix {root path rel : Path}
    (stripped : Path.stripPrefix root path = some rel)
    : ∃ front tail,
        path = front ++ (rel ++ tail) ∧ Path.named front = Path.named root
        ∧ ∀ piece ∈ tail, piece.isIdle = true := by
  induction root generalizing path with
  | nil =>
      obtain rfl := Option.some.inj stripped
      let rest := path.dropWhile OsString.isIdle
      refine ⟨path.takeWhile OsString.isIdle, rest.rtakeWhile OsString.isIdle, ?_, ?_, ?_⟩
      · have back : Path.trimEnd rest ++ rest.rtakeWhile OsString.isIdle = rest :=
          List.rdropWhile_append_rtakeWhile
        rw [Path.trim, back, List.takeWhile_append_dropWhile]
      · refine List.filter_eq_nil_iff.mpr fun piece member => ?_
        simp [List.mem_takeWhile_imp member]
      · exact fun piece member => List.mem_rtakeWhile_imp member
  | cons head root ih =>
      simp only [Path.stripPrefix] at stripped
      split at stripped
      · rename_i idle
        obtain ⟨front, tail, rfl, same, idles⟩ := ih stripped
        exact ⟨front, tail, rfl, by simpa [Path.named, idle] using same, idles⟩
      · rename_i named
        split at stripped
        · cases stripped
        · rename_i first later dropped
          split at stripped
          · rename_i equal
            obtain ⟨front, tail, rfl, same, idles⟩ := ih stripped
            have skipped : Path.named (path.takeWhile OsString.isIdle) = [] := by
              refine List.filter_eq_nil_iff.mpr fun piece member => ?_
              simp [List.mem_takeWhile_imp member]
            refine ⟨path.takeWhile OsString.isIdle ++ first :: front, tail, ?_, ?_, idles⟩
            · rw [List.append_assoc, List.cons_append, ← dropped, List.takeWhile_append_dropWhile]
            · rw [Path.named_append, skipped, ← equal]
              simpa [Path.named, named] using same
          · cases stripped

-----------------------------------------------------------------------------------------
-- Parents and names
-----------------------------------------------------------------------------------------

theorem Path.trimEnd_concat (path : Path) {name : OsString} (named : name.isIdle = false)
    : Path.trimEnd (path ++ [name]) = path ++ [name] :=
  List.rdropWhile_concat_neg _ path name (by simp [named])

theorem Path.trimEnd_append (path : Path) {tail : Path} (idle : ∀ piece ∈ tail, piece.isIdle = true)
    : Path.trimEnd (path ++ tail) = path.trimEnd := by
  induction tail using List.reverseRecOn with
  | nil => rw [List.append_nil]
  | append_singleton tail last ih =>
      have further : Path.trimEnd (path ++ tail ++ [last]) = Path.trimEnd (path ++ tail) :=
        List.rdropWhile_concat_pos _ _ last (idle last (by simp))
      rw [← List.append_assoc, further, ih (fun piece member => idle piece (by simp [member]))]

theorem Path.named_trimEnd (path : Path) : Path.named path.trimEnd = Path.named path := by
  have dropped : Path.named (path.rtakeWhile OsString.isIdle) = [] := by
    refine List.filter_eq_nil_iff.mpr fun piece member => ?_
    simp [List.mem_rtakeWhile_imp member]
  have split : path.trimEnd ++ path.rtakeWhile OsString.isIdle = path :=
    List.rdropWhile_append_rtakeWhile
  conv_rhs => rw [← split, Path.named_append, dropped, List.append_nil]

/-- What is left at either end names something. -/
theorem Path.head?_trim (path : Path) : ∀ name ∈ (Path.trim path).head?, name.isIdle = false := by
  intro name first
  have front : Path.trim path <+: path.dropWhile OsString.isIdle := List.rdropWhile_prefix ..
  obtain ⟨rest, split⟩ := front
  obtain ⟨later, trimmed⟩ := List.head?_eq_some_iff.mp first
  have kept := @List.head?_dropWhile_not _ OsString.isIdle path
  rw [← split, trimmed] at kept
  simpa using kept

theorem Path.trim_trim (path : Path) : Path.trim (Path.trim path) = Path.trim path := by
  have front : (Path.trim path).dropWhile OsString.isIdle = Path.trim path := by
    cases first : Path.trim path with
    | nil => rfl
    | cons name rest =>
        have named := Path.head?_trim path name (by simp [first])
        simp [named]
  rw [Path.trim, front]
  exact List.rdropWhile_idempotent ..

theorem Path.trim_of_stripPrefix {root path rel : Path}
    (stripped : Path.stripPrefix root path = some rel)
    : rel.trim = rel := by
  obtain ⟨front, tail, rfl, same, -⟩ := Path.of_stripPrefix stripped
  rw [Path.stripPrefix_named same] at stripped
  rw [← Option.some.inj stripped, Path.trim_trim]

theorem Clean.stripPrefix {rel : Path} (clean : Clean rel) (root : Path)
    : Path.stripPrefix root (root ++ rel) = some rel := by
  rw [Path.stripPrefix_append, clean.trim]

theorem Clean.parent_concat {path : Path} {name : OsString} (clean : Clean (path ++ [name]))
    : Path.parent (path ++ [name]) = some path := by
  obtain ⟨clean, named⟩ := Clean.append.mp clean
  rw [Path.parent, Path.trimEnd_concat path (named name (by simp)), List.dropLast_concat,
    clean.trimEnd, if_neg (by simp)]

/-- A path whose key ends in a name has that name, and its directory the key without it. -/
theorem Clean.parent_of_stripPrefix {root path above : Path} {name : OsString}
    (clean : Clean (above ++ [name]))
    (stripped : Path.stripPrefix root path = some (above ++ [name]))
    : path.parent.bind (Path.stripPrefix root) = some above
      ∧ (name ≠ .utf8 ".." → path.fileName? = some name.toStringLossy) := by
  obtain ⟨front, tail, rfl, same, idle⟩ := Path.of_stripPrefix stripped
  obtain ⟨clean, named⟩ := Clean.append.mp clean
  have ended : Path.trimEnd (front ++ (above ++ [name] ++ tail)) = front ++ above ++ [name] := by
    rw [← List.append_assoc, Path.trimEnd_append _ idle, ← List.append_assoc,
      Path.trimEnd_concat _ (named name (by simp))]
  refine ⟨?_, fun down => by rw [Path.fileName?, ended]; simp [down]⟩
  rw [Path.parent, ended, List.dropLast_concat, if_neg (by simp), Option.bind_some]
  by_cases top : above = []
  · have here : Path.named (Path.trimEnd front) = Path.named root := by
      rw [Path.named_trimEnd, same]
    have nothing := Path.stripPrefix_named here []
    rw [List.append_nil] at nothing
    rw [top, List.append_nil, nothing]
    rfl
  · obtain ⟨first, last, rfl⟩ := (List.eq_nil_or_concat' above).resolve_left top
    rw [← List.append_assoc, Path.trimEnd_concat _ (clean last (by simp)), List.append_assoc,
      Path.stripPrefix_named same, clean.trim]

theorem Clean.isInside {rel : Path} (clean : Clean rel) (root : Path)
    : Path.isInside root (root ++ rel) = true ↔ rel ≠ [] := by
  rw [Path.isInside, clean.stripPrefix]
  cases rel <;> simp

-----------------------------------------------------------------------------------------
-- Keys determine plain paths
-----------------------------------------------------------------------------------------

@[simp] theorem relKey_nil : relKey [] = "" := by
  simp [relKey]

@[simp] theorem relKey_singleton (name : OsString) : relKey [name] = name.toStringLossy := by
  simp [relKey]

theorem PlainNames.append {rel rest : Path}
    : PlainNames (rel ++ rest) ↔ PlainNames rel ∧ PlainNames rest := by
  simp only [PlainNames, List.mem_append, or_imp, forall_and]

theorem plainNames_singleton {text : String} : PlainNames [.utf8 text] ↔ PlainName text := by
  simp [PlainNames]

/-- A path that ends in a text is one of plain names where the text is one, and what is above. -/
theorem plainNames_concat {rel : Path} {text : String}
    : PlainNames (rel ++ [.utf8 text]) ↔ PlainNames rel ∧ PlainName text := by
  rw [PlainNames.append, plainNames_singleton]

/-- Pieces of a text: in UTF-8 and without a separator. -/
def Solid (rel : Path) : Prop := ∀ name ∈ rel, ∃ text, name = .utf8 text ∧ '/' ∉ text.toList

theorem Utf8Path.solid {rel : Path} (names : Utf8Path rel) : Solid rel := by
  intro name member
  obtain ⟨text, same, -, -, solid⟩ := names name member
  exact ⟨text, same, solid⟩

/-- Splitting a key undoes the separation. -/
theorem Solid.split_relKey {rel : Path} (solid : Solid rel) (nonempty : rel ≠ [])
    : (relKey rel).toList.splitOn '/' = (rel.map OsString.toStringLossy).map String.toList := by
  rw [relKey, String.toList_intercalate]
  refine List.splitOn_intercalate '/' ?_ (by simpa using nonempty)
  intro piece member
  obtain ⟨_, inNames, rfl⟩ := List.mem_map.mp member
  obtain ⟨name, inRel, rfl⟩ := List.mem_map.mp inNames
  obtain ⟨text, rfl, solid⟩ := solid name inRel
  exact solid

theorem Solid.pieces_relKey {rel : Path} (solid : Solid rel) (nonempty : rel ≠ [])
    : pieces (relKey rel) = rel := by
  rw [pieces, solid.split_relKey nonempty]
  simp only [List.map_map]
  refine (List.map_congr_left ?_).trans (List.map_id rel)
  intro name inRel
  obtain ⟨text, rfl, -⟩ := solid name inRel
  simp [OsString.toStringLossy]

theorem pieces_relKey {rel : Path} (plain : Plain rel) : pieces (relKey rel) = rel :=
  plain.2.utf8Path.solid.pieces_relKey plain.1

/-- A path in UTF-8 is its key's list of components. -/
theorem Utf8Path.components_relKey {rel : Path} (names : Utf8Path rel)
    : components (relKey rel) = rel := by
  by_cases empty : rel = []
  · subst rel
    simp [components, pieces, Path.named, OsString.isIdle]
  · rw [components, names.solid.pieces_relKey empty, names.clean.named]

theorem components_relKey {rel : Path} (plain : Plain rel) : components (relKey rel) = rel :=
  plain.2.utf8Path.components_relKey

/-- Plain paths with one key are equal. -/
theorem relKey_inj {rel rel' : Path} (plain : Plain rel) (plain' : Plain rel')
    (same : relKey rel = relKey rel')
    : rel = rel' := by
  rw [← components_relKey plain, same, components_relKey plain']

/-- The key of a plain path is not the root's. -/
theorem relKey_ne_empty {rel : Path} (plain : Plain rel) : relKey rel ≠ "" := by
  intro empty
  have back := components_relKey plain
  rw [empty] at back
  exact plain.1 back.symm

/-- Between separators there are none, by induction on the text. -/
theorem not_mem_of_mem_splitOn {α : Type} [BEq α] [LawfulBEq α] {separator : α}
    {text piece : List α} (member : piece ∈ text.splitOn separator)
    : separator ∉ piece := by
  induction text generalizing piece with
  | nil => simp_all
  | cons first rest ih =>
      rw [List.splitOn_cons_eq_if_modifyHead] at member
      split at member
      · rcases List.mem_cons.mp member with rfl | later
        · exact List.not_mem_nil
        · exact ih later
      · rename_i other
        obtain ⟨head, tail, split⟩ := List.exists_cons_of_ne_nil
          (List.splitOn_ne_nil separator rest)
        rw [split, List.modifyHead_cons] at member
        rcases List.mem_cons.mp member with rfl | later
        · rw [List.mem_cons, not_or]
          refine ⟨fun same => other (by simp [same]), ih (by simp [split])⟩
        · exact ih (by simp [split, later])

theorem solid_pieces (text : String) : Solid (pieces text) := by
  intro name member
  obtain ⟨piece, split, rfl⟩ := List.mem_map.mp member
  exact ⟨_, rfl, by simpa using not_mem_of_mem_splitOn split⟩

/-- A key begins with a separator only if its first piece is empty. -/
theorem Solid.relative {rel : Path} (solid : Solid rel)
    (named : ∀ name ∈ rel.head?, name.isIdle = false)
    : (relKey rel).toList.head? ≠ some '/' := by
  cases rel with
  | nil => simp
  | cons name rest =>
      obtain ⟨text, rfl, unbroken⟩ := solid name (by simp)
      have filled : text ≠ "" := by
        have named := named (.utf8 text) (by simp)
        simp only [OsString.isIdle, Bool.or_eq_false_iff, decide_eq_false_iff_not] at named
        exact named.1
      have first : (relKey (.utf8 text :: rest)).toList.head? = text.toList.head? := by
        cases rest with
        | nil => simp [OsString.toStringLossy]
        | cons second rest =>
            simp only [relKey, OsString.toStringLossy, List.map_cons,
              String.intercalate_cons_cons, String.toList_append, List.append_assoc]
            exact List.head?_append_of_ne_nil _ (by simpa using filled)
      rw [first]
      intro slash
      exact unbroken (List.mem_of_mem_head? slash)

/-- Joining the key of a spelled path to a base spells the path below that base. -/
theorem Solid.join_relKey (base : Path) {rel : Path} (solid : Solid rel)
    (named : ∀ name ∈ rel.head?, name.isIdle = false) (nonempty : rel ≠ [])
    : base.join (relKey rel) = base ++ rel := by
  simp only [Path.join, solid.relative named, if_false, solid.pieces_relKey nonempty]

/-- And taking the base off gives that path back, also where it is the base itself. -/
theorem Solid.stripPrefix_join (base : Path) {rel : Path} (solid : Solid rel)
    (trimmed : rel.trim = rel)
    : Path.stripPrefix base (base.join (relKey rel)) = some rel := by
  by_cases empty : rel = []
  · subst rel
    simp [Path.join, pieces, Path.trim, Path.trimEnd, OsString.isIdle]
  · rw [solid.join_relKey base (trimmed ▸ rel.head?_trim) empty, Path.stripPrefix_append, trimmed]

/-- What is left of a base joined with a text is part of the text. -/
theorem solid_of_join {base rel : Path} {text : String}
    (stripped : Path.stripPrefix base (base.join text) = some rel)
    : Solid rel := by
  have inText : ∀ name ∈ rel, name ∈ pieces text := by
    intro name member
    unfold Path.join at stripped
    split at stripped
    · obtain ⟨front, tail, split, -⟩ := Path.of_stripPrefix stripped
      refine List.mem_of_mem_tail ?_
      rw [split]
      simp [member]
    · rw [Path.stripPrefix_append] at stripped
      obtain rfl := Option.some.inj stripped
      have inside : Path.trim (pieces text) <:+: pieces text :=
        (List.rdropWhile_prefix ..).isInfix.trans (List.dropWhile_suffix _).isInfix
      exact inside.subset member
  exact fun name member => solid_pieces text name (inText name member)

theorem Utf8Path.join_relKey (base : Path) {rel : Path} (names : Utf8Path rel) (nonempty : rel ≠ [])
    : base.join (relKey rel) = base ++ rel :=
  names.solid.join_relKey base (fun name first => names.clean name (List.mem_of_mem_head? first))
    nonempty

theorem join_relKey (base : Path) {rel : Path} (plain : Plain rel)
    : base.join (relKey rel) = base ++ rel :=
  plain.2.utf8Path.join_relKey base plain.1

theorem Utf8Path.stripPrefix_join (base : Path) {rel : Path} (names : Utf8Path rel)
    : Path.stripPrefix base (base.join (relKey rel)) = some rel :=
  names.solid.stripPrefix_join base names.clean.trim

/-- A key grows by one name the way the engine's loops extend it. -/
theorem relKey_push {rel : Path} (names : PlainNames rel) (name : OsString)
    : relKey (rel ++ [name]) = pushKey (relKey rel) name.toStringLossy := by
  by_cases empty : rel = []
  · subst rel
    simp [pushKey]
  · have nonempty : relKey rel ≠ "" := relKey_ne_empty ⟨empty, names⟩
    rw [pushKey, if_neg nonempty, relKey, List.map_append,
      String.intercalate_append_of_ne_nil (by simpa using empty) (by simp)]
    simp [relKey]

/-- A key that has grown by a name spells the key that it has grown from. -/
theorem pushKey_inj {key key' name : String} (same : pushKey key name = pushKey key' name)
    : key = key' := by
  have longer {key : String} (same : name = key ++ "/" ++ name) : False := by
    have lengths := congrArg String.length same
    simp only [String.length_append] at lengths
    have slash : "/".length = 1 := rfl
    omega
  unfold pushKey at same
  split at same
  · rename_i top
    split at same
    · rename_i top'
      rw [top, top']
    · exact (longer same).elim
  · split at same
    · exact (longer same.symm).elim
    · have texts := congrArg String.toList same
      simp only [String.toList_append, List.append_cancel_right_eq] at texts
      exact String.toList_inj.mp texts

/-- The same for a name that is UTF-8. -/
theorem relKey_pushText {rel : Path} (names : PlainNames rel) (text : String)
    : relKey (rel ++ [.utf8 text]) = pushKey (relKey rel) text :=
  relKey_push names (.utf8 text)

end SyncGDrive
