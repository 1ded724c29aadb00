import SyncGDrive.Provider.Traversal
import SyncGDrive.Provider.Service

/-! The feed of changes over HTTP, one page after the other from a cursor on. -/

namespace SyncGDrive

open Program

-----------------------------------------------------------------------------------------
-- Changes
-----------------------------------------------------------------------------------------

inductive Change
  | modified (driveId name parentId : String)
  | deleted (driveId : String)
  deriving DecidableEq

structure ChangesPage where
  changes : List Change
  newCursor : String
  hasMore : Bool

/-- `value.get(key)`: there may be a null. -/
def Json.get? (value : Json) (key : String) : Option Json :=
  match value with
  | .object fields => fields.lookup key
  | _ => none

namespace GDriveProvider

def startPageTokenRequest (apiBase token : String) : Request where
  method := .get
  url := apiBase ++ "/changes/startPageToken"
  bearer := token

def changesFields : String :=
  "nextPageToken, newStartPageToken, changes(fileId, file(name, parents), removed)"

def changesRequest (apiBase token cursor : String) : Request where
  method := .get
  url := apiBase ++ "/changes"
  query := [("pageToken", cursor), ("fields", changesFields)]
  bearer := token

/-- Where to begin without a cursor. The status is not looked at, but for a 429. -/
def startCursor (apiBase token : String) : Client String := do
  let res ← propagate (← http (.send (startPageTokenRequest apiBase token)))
  checkRateLimit res "get_changes startToken"
  return textOf (← readJson res) "startPageToken"

/-- One item of the page; nothing where no file is told. -/
def readChange (item : Json) : Option Change :=
  let fileId := textOf item "fileId"
  if (item.field "removed").asBool.getD false then some (.deleted fileId)
  else
    (item.get? "file").map (fun file =>
      .modified fileId (textOf file "name")
        (((file.field "parents").asArray.bind List.head?).bind Json.asStr |>.getD ""))

def readChanges (cursor : String) (data : Json) : ChangesPage where
  changes := ((data.field "changes").asArray.getD []).filterMap readChange
  newCursor :=
    ((data.field "nextPageToken").asStr.or (data.field "newStartPageToken").asStr).getD cursor
  hasMore := (data.field "nextPageToken").asStr.isSome

/-- The page of `get_changes` after a cursor. -/
def fetchChanges (apiBase token cursor : String) : Client ChangesPage := do
  http .acquire
  let res ← propagate (← http (.send (changesRequest apiBase token cursor)))
  checkRateLimit res "get_changes fetch"
  if !res.isSuccess then throw (.msg ("Erreur API (get_changes) : " ++ res.statusText))
  else return readChanges cursor (← readJson res)

/-- `get_changes`. -/
def getChanges (apiBase : String) (cursor : Option String) : Client ChangesPage := do
  http .acquire
  let token ← propagate (← http .getToken)
  let cursor ←
    match cursor with
    | some cursor => pure cursor
    | none => startCursor apiBase token
  fetchChanges apiBase token cursor

end GDriveProvider

open GDriveProvider

-----------------------------------------------------------------------------------------
-- The feed
-----------------------------------------------------------------------------------------

/-- The log of the changes of a drive, with a token for every position in it. -/
structure Feed where
  apiBase : String
  tokenAt : Nat → String
  distinct : Function.Injective tokenAt
  filled : ∀ position, tokenAt position ≠ ""

/-- How an item of a page tells a change. -/
inductive Tells (item : Json) : Change → Prop
  | deleted {id : String} (fileId : item.field "fileId" = .string id)
    (removed : item.field "removed" = .bool true)
    : Tells item (.deleted id)
  | modified {id name parent : String} {file : Json} {others : List Json}
    (fileId : item.field "fileId" = .string id)
    (kept : (item.field "removed").asBool ≠ some true) (there : item.get? "file" = some file)
    (named : file.field "name" = .string name)
    (parents : file.field "parents" = .array (.string parent :: others))
    : Tells item (.modified id name parent)

/-- The end of a page: there are more, or this was the last one as yet. -/
inductive Feed.Ends (feed : Feed) (log : List Change) (position : Nat) (data : Json) : Prop
  | more (next : data.field "nextPageToken" = .string (feed.tokenAt position))
    : Feed.Ends feed log position data
  | last (none_left : position = log.length) (quiet : (data.field "nextPageToken").asStr = none)
    (start : data.field "newStartPageToken" = .string (feed.tokenAt position))
    : Feed.Ends feed log position data

/-- The answers to a request, for the log as it is then. -/
inductive Feed.Answers (feed : Feed) (request : Request) (log : List Change)
    : Except Error Response → Prop
  | lost (error : Error) : Feed.Answers feed request log (.error error)
  | refused {response : Response} (refusal : response.isSuccess = false)
    (told : ∀ data, response.body = some data → (data.field "startPageToken").asStr = none)
    : Feed.Answers feed request log (.ok response)
  | unreadable {response : Response} (garbled : response.body = none)
    : Feed.Answers feed request log (.ok response)
  | start {response : Response} {data : Json}
    (asked : request.url = feed.apiBase ++ "/changes/startPageToken")
    (readable : response.body = some data)
    (told : data.field "startPageToken" = .string (feed.tokenAt log.length))
    : Feed.Answers feed request log (.ok response)
  | page {response : Response} {data : Json} {items : List Json} {position : Nat}
    {changes : List Change} (asked : request.url = feed.apiBase ++ "/changes")
    (cursor : request.query.lookup "pageToken" = some (feed.tokenAt position))
    (readable : response.body = some data) (listed : data.field "changes" = .array items)
    (tells : List.Forall₂ Tells items changes) (part : changes <+: log.drop position)
    (known : position ≤ log.length)
    (ends : feed.Ends log (position + changes.length) data)
    : Feed.Answers feed request log (.ok response)

/-- The service, while others go on changing the drive. -/
def Feed.service (feed : Feed) : Semantics exchanges (List Change)
  | .http (.send request), log, answer, after => log <+: after ∧ feed.Answers request after answer
  | .http (.handleRateLimit _), log, _, after => after = log
  | _, log, _, after => log <+: after

/-- What a page is, that comes from a cursor or without one. -/
structure Feed.Page (feed : Feed) (cursor : Option String) (page : ChangesPage)
    (after : List Change) (position : Nat) : Prop where
  given : ∀ token, cursor = some token → token = feed.tokenAt position
  known : position ≤ after.length
  part : page.changes <+: after.drop position
  next : page.newCursor = feed.tokenAt (position + page.changes.length)
  last : page.hasMore = false → position + page.changes.length = after.length

section Pages

variable {feed : Feed} {log : List Change}

theorem readChange_tells {item : Json} {change : Change} (tells : Tells item change)
    : readChange item = some change := by
  cases tells with
  | deleted fileId removed => simp [readChange, textOf, fileId, removed, Json.asStr, Json.asBool]
  | modified fileId kept there named parents =>
      have stays : (item.field "removed").asBool.getD false = false := by
        cases told : (item.field "removed").asBool with
        | none => rfl
        | some removed =>
            cases removed with
            | false => rfl
            | true => exact absurd told kept
      simp [readChange, textOf, fileId, stays, there, named, parents, Json.asStr, Json.asArray]

/-- The items of a page are read one by one, by induction on the page. -/
theorem readChanges_tell {items : List Json} {changes : List Change}
    (tells : List.Forall₂ Tells items changes)
    : items.filterMap readChange = changes := by
  induction tells with
  | nil => rfl
  | cons first _ ih => rw [List.filterMap_cons_some (readChange_tells first), ih]

theorem Feed.service_punishes : Punishes feed.service := by
  intro secs state answer after served
  exact served

/-- The cursor that a call begins with is the end of the log, if it is one at all. -/
theorem Feed.always_startCursor (token : String)
    : Always feed.service (fun here => log <+: here) (startCursor feed.apiBase token) log
        (fun result _ =>
          ∀ cursor,
            result = .ok cursor
            → cursor = ""
              ∨ ∃ position, cursor = feed.tokenAt position ∧ log.length ≤ position) := by
  refine ⟨List.prefix_rfl, ?_⟩
  intro answer after served
  obtain ⟨grown, answers⟩ := served
  cases answer with
  | error error => exact ⟨grown, by simp⟩
  | ok response =>
      apply always_checkRateLimit feed.service_punishes grown
      · simp
      · intro unpunished
        apply always_readJson grown
        · simp
        · intro data body
          refine ⟨grown, ?_⟩
          intro cursor same
          obtain rfl := Except.ok.inj same
          cases answers with
          | refused refusal told => simp [textOf, told data body]
          | unreadable garbled =>
              rw [garbled] at body
              cases body
          | start asked readable told =>
              obtain rfl := Option.some.inj (readable.symm.trans body)
              exact .inr ⟨_, textOf_eq told, grown.length_le⟩
          | page asked cursor readable listed tells part known ends =>
              -- no page is asked for here
              exact absurd asked (by simp [startPageTokenRequest])

/-- A page starts at its cursor, and ends at the one that it gives back. -/
theorem Feed.always_fetchChanges (token cursor : String)
    : Always feed.service (fun here => log <+: here) (fetchChanges feed.apiBase token cursor) log
        (fun result after =>
          ∀ page, result = .ok page → ∃ position, feed.Page (some cursor) page after position) := by
  refine ⟨List.prefix_rfl, ?_⟩
  intro _ middle waited
  refine ⟨waited, ?_⟩
  intro answer after served
  obtain ⟨grown, answers⟩ := served
  have grown := waited.trans grown
  cases answer with
  | error error => exact ⟨grown, by simp⟩
  | ok response =>
      apply always_checkRateLimit feed.service_punishes grown
      · simp
      · intro unpunished
        cases success : response.isSuccess with
        | false => exact ⟨grown, by simp⟩
        | true =>
            apply always_readJson grown
            · simp
            · intro data body
              refine ⟨grown, ?_⟩
              intro page same
              obtain rfl := Except.ok.inj same
              cases answers with
              | refused refusal told =>
                  rw [success] at refusal
                  cases refusal
              | unreadable garbled =>
                  rw [garbled] at body
                  cases body
              | start asked readable told =>
                  exact absurd asked (by simp [changesRequest])
              | @page _ told items position changes asked known readable listed tells part there
                  ends =>
                  obtain rfl : told = data := Option.some.inj (readable.symm.trans body)
                  have here : cursor = feed.tokenAt position := by
                    simpa [changesRequest, List.lookup_cons] using known
                  have read : (readChanges cursor told).changes = changes := by
                    simp only [readChanges, listed, Json.asArray, Option.getD_some]
                    exact readChanges_tell tells
                  refine ⟨position, ?_, there, read ▸ part, ?_, ?_⟩
                  · intro given same
                    exact (Option.some.inj same).symm.trans here
                  · rw [read]
                    cases ends with
                    | more next => simp [readChanges, next, Json.asStr]
                    | last none_left quiet start =>
                        have newest := congrArg Json.asStr start
                        simp only [readChanges, quiet, newest]
                        rfl
                  · intro done
                    rw [read]
                    cases ends with
                    | more next => simp [readChanges, next, Json.asStr] at done
                    | last none_left quiet start => exact none_left

theorem Feed.Page.of_cursor {page : ChangesPage} {after : List Change} {position : Nat}
    {cursor : String} {given : Option String} (got : feed.Page (some cursor) page after position)
    (same : ∀ token, given = some token → token = cursor)
    : feed.Page given page after position :=
  { got with
    given := fun token here => (same token here).trans (got.given cursor rfl) }

/-- `get_changes` gives back a part of the log: from the cursor on, or what is new since the call.
-/
theorem Feed.always_getChanges (cursor : Option String)
    : Always feed.service (fun here => log <+: here) (getChanges feed.apiBase cursor) log
        (fun result after =>
          ∀ page,
            result = .ok page
            → ∃ position,
                feed.Page cursor page after position
                ∧ (cursor = none → log.length ≤ position)) := by
  refine ⟨List.prefix_rfl, ?_⟩
  intro _ waited grown
  refine ⟨grown, ?_⟩
  intro answer known served
  have grown := grown.trans served
  cases answer with
  | error error => exact ⟨grown, by simp⟩
  | ok token =>
      cases cursor with
      | some cursor =>
          apply ((feed.always_fetchChanges token cursor).weaken
            (fun _ later => grown.trans later)).mono
          intro result after _ fetched page told
          obtain ⟨position, got⟩ := fetched.2 page told
          exact ⟨position, got, by simp⟩
      | none =>
          apply ((feed.always_startCursor token).weaken (fun _ later => grown.trans later)).bind
          · intro given middle here started
            apply ((feed.always_fetchChanges token given).weaken
              (fun _ later => here.trans later)).mono
            intro result after _ fetched page told
            obtain ⟨position, got⟩ := fetched.2 page told
            refine ⟨position, got.of_cursor (by simp), ?_⟩
            intro _
            have from_here : given = feed.tokenAt position := got.given given rfl
            rcases started.2 given rfl with rfl | ⟨origin, same, later⟩
            · exact absurd from_here.symm (feed.filled position)
            · obtain rfl : origin = position := feed.distinct (same.symm.trans from_here)
              exact grown.length_le.trans later
          · intro error after _ _
            simp

end Pages

-----------------------------------------------------------------------------------------
-- Following the feed
-----------------------------------------------------------------------------------------

/-- One who follows the feed: the cursor, all the changes that were told, and whether those were all
at the time.
-/
structure Follower where
  cursor : Option String := none
  seen : List Change := []
  caughtUp : Bool := false

/-- A call that fails leaves the cursor where it was. -/
def Follower.after (follower : Follower) : Except Error ChangesPage → Follower
  | .ok page =>
      { cursor := some page.newCursor, seen := follower.seen ++ page.changes,
        caughtUp := !page.hasMore }
  | .error _ => { follower with caughtUp := false }

/-- The drive changes, and the feed is followed call by call. -/
inductive Feed.Follows (feed : Feed) (log : List Change) (follower : Follower)
    : List Change → Follower → Prop
  | refl : Feed.Follows feed log follower log follower
  | others {middle : List Change} {later : Follower}
    (run : Feed.Follows feed log follower middle later) (more : List Change)
    : Feed.Follows feed log follower (middle ++ more) { later with caughtUp := false }
  | call {middle after : List Change} {later : Follower} {result : Except Error ChangesPage}
    (run : Feed.Follows feed log follower middle later)
    (called
      : Reaches feed.service (getChanges feed.apiBase later.cursor) middle (.done result) after)
    : Feed.Follows feed log follower after (later.after result)

/-- Where a follower stands: after what it was told since it began. -/
structure Feed.Stands (feed : Feed) (log : List Change) (follower : Follower) (origin : Nat)
    : Prop where
  known : origin ≤ log.length
  part : follower.seen <+: log.drop origin
  cursor : follower.cursor = some (feed.tokenAt (origin + follower.seen.length))
  all : follower.caughtUp = true → follower.seen = log.drop origin

theorem Feed.Stands.grow {feed : Feed} {log after : List Change} {follower : Follower}
    {origin : Nat} (stands : feed.Stands log follower origin) (grown : log <+: after)
    : feed.Stands after { follower with caughtUp := false } origin where
  known := stands.known.trans grown.length_le
  part := by
    obtain ⟨more, rfl⟩ := grown
    rw [List.drop_append_of_le_length stands.known]
    exact stands.part.trans (List.prefix_append _ _)
  cursor := stands.cursor
  all := by simp

/-- The first page tells where a follower begins. -/
theorem Feed.Page.begins {feed : Feed} {after : List Change} {position : Nat} {page : ChangesPage}
    (got : feed.Page none page after position)
    : feed.Stands after (Follower.after {} (.ok page)) position where
  known := got.known
  part := got.part
  cursor := congrArg some got.next
  all := by
    intro caughtUp
    have done := got.last (by simpa [Follower.after] using caughtUp)
    apply got.part.eq_of_length
    have known := got.known
    simp only [List.length_drop]
    omega

/-- A page that comes from the cursor of a follower goes on where that one stands. -/
theorem Feed.Stands.page {feed : Feed} {log after : List Change} {follower : Follower}
    {origin position : Nat} {page : ChangesPage} (stands : feed.Stands log follower origin)
    (grown : log <+: after) (got : feed.Page follower.cursor page after position)
    : feed.Stands after (follower.after (.ok page)) origin := by
  have later := stands.grow grown
  have here : position = origin + follower.seen.length :=
    (feed.distinct (got.given _ stands.cursor)).symm
  have rest : after.drop position = (after.drop origin).drop follower.seen.length := by
    rw [List.drop_drop, here]
  have joined : follower.seen ++ page.changes <+: after.drop origin := by
    obtain ⟨tail, whole⟩ := later.part
    have part := got.part
    rw [rest, ← whole, List.drop_left] at part
    rw [← whole]
    exact (List.prefix_append_right_inj _).mpr part
  constructor
  · exact later.known
  · exact joined
  · simp only [Follower.after, List.length_append]
    rw [got.next, here, Nat.add_assoc]
  · intro caughtUp
    have done := got.last (by simpa [Follower.after] using caughtUp)
    apply joined.eq_of_length
    have known := later.known
    simp only [List.length_append, List.length_drop]
    omega

/-- What a follower does goes on where it stands. -/
theorem Feed.Follows.stands {feed : Feed} {log later : List Change} {follower now : Follower}
    {origin : Nat} (run : feed.Follows log follower later now)
    (stands : feed.Stands log follower origin)
    : feed.Stands later now origin := by
  induction run with
  | refl => exact stands
  | others run more ih => exact ih.grow (List.prefix_append _ _)
  | @call middle after now result run called ih =>
      obtain ⟨grown, fetched⟩ := (feed.always_getChanges now.cursor).reaches called
      cases result with
      | error error => exact ih.grow grown
      | ok page =>
          obtain ⟨position, got, _⟩ := fetched page rfl
          exact ih.page grown got

/-- Whoever follows the feed is told every change since the first call that succeeded, once and in
order: through failed calls, across the pages, and while the drive goes on changing. The origin is
fixed by that call, before anything else is told.
-/
theorem following_misses_nothing {feed : Feed} {log first : List Change} {page : ChangesPage}
    (called : Reaches feed.service (getChanges feed.apiBase none) log (.done (.ok page)) first)
    : ∃ origin,
        log.length ≤ origin
        ∧ origin ≤ first.length
        ∧ ∀ {later : List Change} {follower : Follower},
            feed.Follows first (Follower.after {} (.ok page)) later follower
            → feed.Stands later follower origin := by
  obtain ⟨grown, fetched⟩ := (feed.always_getChanges none).reaches called
  obtain ⟨origin, got, since⟩ := fetched page rfl
  refine ⟨origin, since rfl, got.known, ?_⟩
  intro later follower run
  exact run.stands got.begins

/-- A feed whose tokens are as long as the log is at their positions. -/
def strokeFeed : Feed where
  apiBase := "https://www.googleapis.com/drive/v3"
  tokenAt position := String.ofList (List.replicate (position + 1) '|')
  distinct := by
    intro position other same
    have lengths := congrArg List.length (String.ofList_injective same)
    simpa using lengths
  filled := by
    intro position empty
    have lengths := congrArg String.toList empty
    simp [List.replicate_succ] at lengths

/-- One call tells a deletion, made between the two requests of the first one; a second deletion is
told by the next call, after one that failed.
-/
theorem following_misses_no_deletion
    : ∃ (page : ChangesPage) (follower : Follower),
        strokeFeed.Follows [.deleted "1"] (Follower.after {} (.ok page))
          [.deleted "1", .deleted "2"] follower
        ∧ follower.seen = [.deleted "1", .deleted "2"]
        ∧ strokeFeed.Stands [.deleted "1", .deleted "2"] follower 0 := by
  let start : Response :=
    { status := 200, body := some (.object [("startPageToken", .string "|")]) }
  let item (id : String) : Json := .object [("fileId", .string id), ("removed", .bool true)]
  let listing (id cursor : String) : Response :=
    { status := 200
      body :=
        some (.object [("changes", .array [item id]), ("newStartPageToken", .string cursor)]) }
  let gone : List Change := [.deleted "1"]
  let both : List Change := [.deleted "1", .deleted "2"]
  have waits (log : List Change) : strokeFeed.service (.http .acquire) log () log :=
    List.prefix_rfl
  have token (log : List Change) : strokeFeed.service (.http .getToken) log (.ok "token") log :=
    List.prefix_rfl
  have tells (id : String) : Tells (item id) (.deleted id) := .deleted rfl rfl
  have begins
      : strokeFeed.service (.http (.send (startPageTokenRequest strokeFeed.apiBase "token"))) []
          (.ok start) [] :=
    ⟨List.prefix_rfl, .start rfl rfl rfl⟩
  have goes : strokeFeed.service (.http .acquire) [] () gone := List.nil_prefix
  have first
      : strokeFeed.service (.http (.send (changesRequest strokeFeed.apiBase "token" "|"))) gone
          (.ok (listing "1" "||")) gone :=
    ⟨List.prefix_rfl,
      .page rfl rfl rfl rfl (.cons (tells "1") .nil) List.prefix_rfl (Nat.zero_le 1)
        (.last rfl rfl rfl)⟩
  have called
      : Reaches strokeFeed.service (getChanges strokeFeed.apiBase none) []
          (.done (.ok ⟨gone, "||", false⟩)) gone :=
    .step (waits []) (.step (token []) (.step begins (.step goes (.step first .refl))))
  have lost
      : strokeFeed.service (.http .getToken) both (.error (.msg "network")) both :=
    List.prefix_rfl
  have failed
      : Reaches strokeFeed.service (getChanges strokeFeed.apiBase (some "||")) both
          (.done (.error (.msg "network"))) both :=
    .step (waits both) (.step lost .refl)
  have second
      : strokeFeed.service (.http (.send (changesRequest strokeFeed.apiBase "token" "||"))) both
          (.ok (listing "2" "|||")) both :=
    ⟨List.prefix_rfl,
      .page rfl rfl rfl rfl (.cons (tells "2") .nil) List.prefix_rfl (Nat.le_succ 1)
        (.last rfl rfl rfl)⟩
  have again
      : Reaches strokeFeed.service (getChanges strokeFeed.apiBase (some "||")) both
          (.done (.ok ⟨[.deleted "2"], "|||", false⟩)) both :=
    .step (waits both) (.step (token both) (.step (waits both) (.step second .refl)))
  have run : strokeFeed.Follows gone (Follower.after {} (.ok ⟨gone, "||", false⟩)) both _ :=
    .call (.call (.others .refl [.deleted "2"]) failed) again
  obtain ⟨origin, _, early, stands⟩ := following_misses_nothing called
  have stands := stands run
  -- it was told two changes out of two, so it began before them
  have told : 2 = 2 - origin := (congrArg List.length (stands.all rfl)).trans List.length_drop
  obtain rfl : origin = 0 := by omega
  exact ⟨_, _, run, rfl, stands⟩

end SyncGDrive
