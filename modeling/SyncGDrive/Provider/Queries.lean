import SyncGDrive.Provider.Listing
import SyncGDrive.Text.Literals

/-! The search queries of `mkdir` and `list_remote`, read by the syntax of the service: for which
names and identifiers they say what they are meant to.
-/

namespace SyncGDrive

open Literals GDriveProvider

-----------------------------------------------------------------------------------------
-- Clauses
-----------------------------------------------------------------------------------------

/-- What a query may ask of a file. -/
inductive Clause
  | nameIs (name : String)
  | inParents (id : DriveId)
  | mimeTypeIs (mime : String)
  | trashedIs (trashed : Bool)
  deriving DecidableEq

def Clause.read : List Token → Option Clause
  | [.word "name", .word "=", .literal name] => some (.nameIs name)
  | [.literal id, .word "in", .word "parents"] => some (.inParents id)
  | [.word "mimeType", .word "=", .literal mime] => some (.mimeTypeIs mime)
  | [.word "trashed", .word "=", .word "false"] => some (.trashedIs false)
  | [.word "trashed", .word "=", .word "true"] => some (.trashedIs true)
  | _ => none

/-- The clauses that stand between the words `and`, after the tokens read so far. -/
def readClauses (read : List Token) : List Token → Option (List Clause)
  | [] => (Clause.read read).map ([·])
  | token :: rest =>
      if token = .word "and" then do
        return (← Clause.read read) :: (← readClauses [] rest)
      else readClauses (read ++ [token]) rest

/-- The clauses of a query; none if it is not well formed. -/
def readQuery (query : String) : Option (List Clause) := do
  readClauses [] (← tokens (.word []) query.toList)

/-- What `mkdir` means to ask. -/
def searchClauses (parentId name : String) : List Clause :=
  [.nameIs name, .inParents parentId, .mimeTypeIs folderMime, .trashedIs false]

/-- What `list_remote` means to ask. -/
def listClauses (folderId : DriveId) : List Clause := [.inParents folderId, .trashedIs false]

-----------------------------------------------------------------------------------------
-- From clauses back to tokens
-----------------------------------------------------------------------------------------

/-- The first clause is read from the first tokens, by induction on what is left. -/
theorem readClauses_first {read rest : List Token} {clause : Clause} {clauses : List Clause}
    (same : readClauses read rest = some (clause :: clauses))
    : ∃ front back, rest = front ++ back ∧ Clause.read (read ++ front) = some clause := by
  induction rest generalizing read with
  | nil =>
      simp only [readClauses, Option.map_eq_some_iff, List.cons.injEq] at same
      obtain ⟨_, found, rfl, -⟩ := same
      exact ⟨[], [], rfl, by rwa [List.append_nil]⟩
  | cons token rest ih =>
      unfold readClauses at same
      split at same
      · simp only [Option.bind_eq_bind, Option.bind_eq_some_iff, Option.pure_def,
          Option.some.injEq, List.cons.injEq] at same
        obtain ⟨_, found, -, -, rfl, -⟩ := same
        exact ⟨[], token :: rest, rfl, by rwa [List.append_nil]⟩
      · obtain ⟨front, back, rfl, found⟩ := ih same
        exact ⟨token :: front, back, rfl, by simpa using found⟩

theorem Clause.read_nameIs {read : List Token} {name : String}
    (same : Clause.read read = some (.nameIs name))
    : read = [.word "name", .word "=", .literal name] := by
  unfold Clause.read at same
  split at same <;> cases same
  rfl

theorem Clause.read_inParents {read : List Token} {id : DriveId}
    (same : Clause.read read = some (.inParents id))
    : read = [.literal id, .word "in", .word "parents"] := by
  unfold Clause.read at same
  split at same <;> cases same
  rfl

-----------------------------------------------------------------------------------------
-- Exact queries
-----------------------------------------------------------------------------------------

theorem escapeQuotes_toList (text : String)
    : (escapeQuotes text).toList = escape text.toList := by
  simp [escapeQuotes, escape]

/-- The tokens of a search begin with those before the name. -/
theorem tokens_searchQuery (parentId name : String)
    : tokens (.word []) (searchQuery parentId name).toList
      = (tokens (.literal [])
          (escape name.toList
            ++ '\'' ::
              (" and ".toList ++ '\'' :: (parentId.toList ++ '\'' :: searchTail.toList)))).map
          ([.word "name", .word "="] ++ ·) := by
  have spelled
      : (searchQuery parentId name).toList
        = "name = ".toList
          ++ '\'' :: (escape name.toList
            ++ '\'' ::
              (" and ".toList ++ '\'' :: (parentId.toList ++ '\'' :: searchTail.toList))) := by
    simp [searchQuery, escapeQuotes_toList]
  rw [spelled]
  generalize escape name.toList ++ _ = rest
  simp [tokens, ended]
  rfl

/-- Between the two literals of a search stands the word `and`. -/
theorem tokens_and (rest : List Char)
    : tokens (.word []) (" and ".toList ++ '\'' :: rest)
      = (tokens (.literal []) rest).map (.word "and" :: ·) := by
  simp [tokens, ended]
  rfl

/-- After the parent stands the rest of the template. -/
theorem tokens_searchTail
    : tokens (.word []) searchTail.toList
      = some [.word "in", .word "parents", .word "and", .word "mimeType", .word "=",
          .literal folderMime, .word "and", .word "trashed", .word "=", .word "false"] := by
  decide +kernel

/-- What has been read as a literal first. -/
theorem reads_of_tokens {text : List Char} {result : String} {more : List Token}
    (same : tokens (.literal []) text = some (.literal result :: more))
    : Reads [] text result.toList :=
  ⟨more, by rw [same, String.ofList_toList]⟩

/-- A search asks for the name and the parent that are meant exactly when the name has no backslash,
and the parent neither a quote nor a backslash.
-/
theorem readQuery_search_iff (parentId name : String)
    : readQuery (searchQuery parentId name) = some (searchClauses parentId name)
      ↔ '\\' ∉ name.toList ∧ '\'' ∉ parentId.toList ∧ '\\' ∉ parentId.toList := by
  constructor
  · intro exact_
    simp only [readQuery, tokens_searchQuery, Option.bind_eq_bind, Option.bind_eq_some_iff,
      Option.map_eq_some_iff] at exact_
    obtain ⟨_, ⟨afterName, reads, rfl⟩, clauses⟩ := exact_
    -- The first literal is the name.
    obtain ⟨front, back, split, first⟩ := readClauses_first clauses
    obtain rfl : front = [.word "name", .word "=", .literal name] := Clause.read_nameIs first
    obtain rfl : afterName = .literal name :: back := by simpa using split
    have plainName : '\\' ∉ name.toList :=
      (reads_of_tokens reads).escape_shortens.not_same
        (show '\'' ∉ [' ', 'a', 'n', 'd'] ++ [' '] by decide)
        (show '\\' ∉ [' ', 'a', 'n', 'd'] ++ [' '] by decide)
    -- And so the second one is the parent.
    rw [tokens_escape plainName, tokens_close, List.nil_append, String.ofList_toList, tokens_and,
      Option.map_map, Option.map_eq_some_iff] at reads
    obtain ⟨afterAnd, reads, same⟩ := reads
    obtain rfl : .word "and" :: afterAnd = back := by simpa using same
    have second : readClauses [] afterAnd
        = some [.inParents parentId, .mimeTypeIs folderMime, .trashedIs false] := by
      simpa [readClauses, Clause.read, searchClauses, Option.bind_eq_some_iff] using clauses
    obtain ⟨front, back, rfl, first⟩ := readClauses_first second
    obtain rfl : front = [.literal parentId, .word "in", .word "parents"] :=
      Clause.read_inParents first
    have shortens := (reads_of_tokens reads).raw_shortens
    have split
        : searchTail.toList
          = " in parents and mimeType =".toList
            ++ ' ' :: '\'' :: "application/vnd.google-apps.folder' and trashed = false".toList := by
      decide +kernel
    rw [split] at shortens
    have plainParent :=
      shortens.not_same (by decide +kernel) (by decide +kernel)
    exact ⟨plainName, fun quote => plainParent (.inl quote),
      fun backslash => plainParent (.inr backslash)⟩
  · rintro ⟨plainName, noQuote, noBackslash⟩
    simp only [readQuery, tokens_searchQuery, tokens_escape plainName, tokens_close,
      List.nil_append, String.ofList_toList, tokens_and, tokens_plain noQuote noBackslash,
      tokens_searchTail, Option.map_some, Option.bind_eq_bind, Option.bind_some]
    simp [readClauses, Clause.read, searchClauses]

/-- A listing asks for the folder that is meant exactly when its identifier has no backslash. -/
theorem readQuery_list_iff (folderId : DriveId)
    : readQuery (listQuery folderId) = some (listClauses folderId) ↔ '\\' ∉ folderId.toList := by
  have spelled
      : tokens (.word []) (listQuery folderId).toList
        = tokens (.literal [])
            (escape folderId.toList ++ '\'' :: " in parents and trashed = false".toList) := by
    have text
        : (listQuery folderId).toList
          = '\'' :: (escape folderId.toList
              ++ '\'' :: " in parents and trashed = false".toList) := by
      simp [listQuery, escapeQuotes_toList]
    rw [text]
    generalize escape folderId.toList ++ _ = rest
    simp [tokens, ended]
  constructor
  · intro exact_
    simp only [readQuery, spelled, Option.bind_eq_bind, Option.bind_eq_some_iff] at exact_
    obtain ⟨_, reads, clauses⟩ := exact_
    obtain ⟨front, back, rfl, first⟩ := readClauses_first clauses
    obtain rfl : front = [.literal folderId, .word "in", .word "parents"] :=
      Clause.read_inParents first
    rcases (reads_of_tokens reads).escape_shortens with ⟨-, lt⟩ | ⟨-, read', beyond⟩
    · intro backslash
      have := lt backslash
      simp at this
    · exact absurd beyond (not_reads_open (by decide +kernel) (by decide +kernel))
  · intro plain
    have rest
        : tokens (.word []) " in parents and trashed = false".toList
          = some [.word "in", .word "parents", .word "and", .word "trashed", .word "=",
              .word "false"] := by
      decide +kernel
    simp only [readQuery, spelled, tokens_escape plain, tokens_close, List.nil_append,
      String.ofList_toList, rest, Option.map_some, Option.bind_eq_bind, Option.bind_some]
    simp [readClauses, Clause.read, listClauses]

/-- Both queries mean what they are meant to exactly for names without a backslash, identifiers of
parents without a backslash or a quote, and identifiers to list without a backslash.
-/
theorem queries_exact_iff (parentId folderId : DriveId) (name : String)
    : (readQuery (searchQuery parentId name) = some (searchClauses parentId name)
        ↔ '\\' ∉ name.toList ∧ '\'' ∉ parentId.toList ∧ '\\' ∉ parentId.toList)
      ∧ (readQuery (listQuery folderId) = some (listClauses folderId) ↔ '\\' ∉ folderId.toList) :=
  ⟨readQuery_search_iff parentId name, readQuery_list_iff folderId⟩

/-- A backslash in a name is lost: the search is one for another folder. -/
theorem backslash_lost
    : readQuery (searchQuery "root" "a\\b") = some (searchClauses "root" "ab")
      ∧ readQuery (searchQuery "root" "a\\b") ≠ some (searchClauses "root" "a\\b") := by
  decide +kernel

end SyncGDrive
