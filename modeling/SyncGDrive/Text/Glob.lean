import Mathlib.Data.List.Infix

/-! Globs, where a wildcard also matches separators: the tokens of a pattern, what is left of a text
once they have matched its front, and patterns that end in a directory's whole content.
-/

namespace Glob

-----------------------------------------------------------------------------------------
-- Patterns
-----------------------------------------------------------------------------------------

inductive Token
  | literal (char : Char)
  | any
  | zeroOrMore
  | recursivePrefix
  | recursiveSuffix
  | recursiveZeroOrMore
  | charClass (negated : Bool) (ranges : List (Char × Char))
  | alternates (branches : List (List Token))

inductive Fault
  | unclosedClass
  | invalidRange (low high : Char)
  | unopenedAlternates
  | unclosedAlternates
  | danglingEscape
  deriving DecidableEq

def Fault.description : Fault → String
  | .unclosedClass => "unclosed character class; missing ']'"
  | .invalidRange low high =>
      "invalid range; '" ++ high.toString ++ "' > '" ++ low.toString ++ "'"
  | .unopenedAlternates => "unopened alternate group; missing '\x7b'"
  | .unclosedAlternates => "unclosed alternate group; missing '\x7d'"
  | .danglingEscape => "dangling '\\'"

/-- Between two characters: after one star or two that are not settled, after a backslash, or in a
class.
-/
inductive Reading
  | text
  | star
  | doubleStar
  | escaped
  | opened
  | first (negated : Bool)
  | inside (negated : Bool) (range : Char × Char) (others : List (Char × Char)) (inRange : Bool)

/-- What has been read of a pattern: the last character, which pending stars do not count for, the
groups that are open, with the tokens before each and its finished branches, and the tokens of the
current branch. Tokens are kept last first.
-/
structure State where
  reading : Reading := .text
  last : Option Char := none
  groups : List (List Token × List (List Token)) := []
  current : List Token := []

def State.push (s : State) (token : Token) : State := { s with current := token :: s.current }

/-- Two stars that are a component of their own take the place of the separator before them. -/
def recursive (token : Token) : List Token → List Token
  | [] => [.recursivePrefix]
  | .recursivePrefix :: before => .recursivePrefix :: before
  | .recursiveSuffix :: before => .recursiveSuffix :: before
  | _ :: before => token :: before

/-- A group without a branch that can match something. -/
def Token.isBlank : Token → Bool
  | .alternates [] => true
  | _ => false

/-- A character where none before it is pending. -/
def State.plain (s : State) (c : Char) : Except Fault State :=
  let read := { s with reading := .text, last := some c }
  if c = '?' then .ok (read.push .any)
  else if c = '*' then .ok { s with reading := .star }
  else if c = '[' then .ok { read with reading := .opened }
  else if c = '{' then
    .ok { read with groups := (s.current, []) :: s.groups, current := [] }
  else if c = '}' then
    match s.groups with
    | [] => .error .unopenedAlternates
    | (before, branches) :: groups =>
        -- An empty branch does not count.
        let branches :=
          (branches ++ [s.current.reverse]).filter (fun branch => !branch.all Token.isBlank)
        .ok { read with groups, current := .alternates branches :: before }
  else if c = ',' then
    match s.groups with
    | [] => .ok (read.push (.literal c))
    | (before, branches) :: groups =>
        .ok { read with
          groups := (before, branches ++ [s.current.reverse]) :: groups, current := [] }
  else if c = '\\' then .ok { read with reading := .escaped }
  else .ok (read.push (.literal c))

/-- The next character. -/
def State.step (s : State) (c : Char) : Except Fault State :=
  match s.reading with
  | .text => s.plain c
  | .star =>
      if c = '*' then .ok { s with reading := .doubleStar } else (s.push .zeroOrMore).plain c
  | .doubleStar =>
      if c = '/' ∧ (s.current.isEmpty ∨ s.last = some '/') then
        .ok { s with
          reading := .text, last := some '/', current := recursive .recursiveZeroOrMore s.current }
      else if (c = ',' ∨ c = '}') ∧ !s.groups.isEmpty ∧ !s.current.isEmpty ∧ s.last = some '/' then
        { s with current := recursive .recursiveSuffix s.current }.plain c
      else { (s.push .zeroOrMore).push .zeroOrMore with last := some '*' }.plain c
  | .escaped => .ok { s.push (.literal c) with reading := .text, last := some c }
  | .opened =>
      if c = '!' ∨ c = '^' then .ok { s with reading := .first true }
      else .ok { s with reading := .inside false (c, c) [] false }
  | .first negated => .ok { s with reading := .inside negated (c, c) [] false }
  | .inside negated range others inRange =>
      if c = ']' then
        let ranges := if inRange then ('-', '-') :: range :: others else range :: others
        .ok { s.push (.charClass negated ranges) with reading := .text, last := some c }
      else if inRange then
        if c < range.1 then .error (.invalidRange range.1 c)
        else .ok { s with reading := .inside negated (range.1, c) others false }
      else if c = '-' then .ok { s with reading := .inside negated range others true }
      else .ok { s with reading := .inside negated (c, c) (range :: others) false }

/-- The tokens, if every group has been closed. -/
def State.close (s : State) : Except Fault (List Token) :=
  if s.groups.isEmpty then .ok s.current.reverse else .error .unclosedAlternates

/-- The end of the pattern. -/
def State.finish (s : State) : Except Fault (List Token) :=
  match s.reading with
  | .text => s.close
  | .star => (s.push .zeroOrMore).close
  | .doubleStar =>
      if s.current.isEmpty ∨ s.last = some '/' then
        { s with current := recursive .recursiveSuffix s.current }.close
      else ((s.push .zeroOrMore).push .zeroOrMore).close
  | .escaped => .error .danglingEscape
  | .opened | .first _ | .inside .. => .error .unclosedClass

/-- The tokens of a pattern. -/
def parse (glob : List Char) : Except Fault (List Token) := do
  let read ← glob.foldlM State.step {}
  read.finish

-----------------------------------------------------------------------------------------
-- Matching
-----------------------------------------------------------------------------------------

/-- What follows a separator of the text, for each one. -/
def afterSlashes (text : List Char) : List (List Char) :=
  text.tails.filterMap (fun rest => if rest.head? = some '/' then some rest.tail else none)

mutual

/-- What may be left of a text behind a token. -/
def Token.remainders : Token → List Char → List (List Char)
  | .literal c, text => if text.head? = some c then [text.tail] else []
  | .any, text => if text.isEmpty then [] else [text.tail]
  | .zeroOrMore, text => text.tails
  | .recursivePrefix, text => text :: afterSlashes text
  | .recursiveSuffix, text => if text.head? = some '/' then text.tail.tails else []
  | .recursiveZeroOrMore, text =>
      if text.head? = some '/' then text.tail :: afterSlashes text.tail else []
  | .charClass negated ranges, text =>
      match text with
      | [] => []
      | c :: rest =>
          if ranges.any (fun range => range.1 ≤ c && c ≤ range.2) = negated then [] else [rest]
  | .alternates [], text => [text]
  | .alternates (branch :: branches), text =>
      remainders branch text ++ branchRemainders branches text

/-- The same for a sequence. -/
def remainders : List Token → List Char → List (List Char)
  | [], text => [text]
  | token :: tokens, text => (token.remainders text).flatMap (remainders tokens)

/-- The same for the branches of a group. -/
def branchRemainders : List (List Token) → List Char → List (List Char)
  | [], _ => []
  | branch :: branches, text => remainders branch text ++ branchRemainders branches text

end

/-- Do the tokens match the whole text? Two stars alone match everything. -/
def isMatch (tokens : List Token) (text : List Char) : Bool :=
  match tokens with
  | [.recursivePrefix] => true
  | _ => (remainders tokens text).any List.isEmpty

example : (parse "**/*.log".toList).map (isMatch · "/var/log/app.log".toList) = .ok true := by
  decide +kernel

variable {tokens : List Token} {token : Token} {text rest more : List Char} {c : Char}

theorem mem_afterSlashes : rest ∈ afterSlashes text ↔ '/' :: rest <:+ text := by
  simp only [afterSlashes, List.mem_filterMap, List.mem_tails, Option.ite_none_right_eq_some,
    Option.some.injEq]
  constructor
  · intro ⟨piece, isSuffix, head, tail⟩
    obtain ⟨c, tail', rfl⟩ : ∃ c tail', piece = c :: tail' := by
      cases piece with
      | nil => cases head
      | cons c tail' => exact ⟨c, tail', rfl⟩
    obtain rfl : c = '/' := by simpa using head
    obtain rfl : tail' = rest := tail
    exact isSuffix
  · intro isSuffix
    exact ⟨_, isSuffix, rfl, rfl⟩

theorem append_suffix (isSuffix : rest <:+ text) : rest ++ more <:+ text ++ more := by
  obtain ⟨front, rfl⟩ := isSuffix
  exact ⟨front, by simp⟩

theorem head?_eq_some_iff_cons : text.head? = some c ↔ ∃ tail, text = c :: tail := by
  cases text <;> simp

mutual

/-- More text is left when there was more, by recursion on the token. -/
theorem Token.remainders_append
    : (token : Token) → (text : List Char) → (rest : List Char)
      → rest ∈ token.remainders text → rest ++ more ∈ token.remainders (text ++ more)
  | .literal c, text, rest, mem => by
      simp only [Token.remainders] at mem ⊢
      split at mem
      · rename_i head
        obtain ⟨tail, rfl⟩ := head?_eq_some_iff_cons.mp head
        obtain rfl := List.mem_singleton.mp mem
        simp
      · cases mem
  | .any, text, rest, mem => by
      cases text with
      | nil => cases mem
      | cons c tail =>
          obtain rfl := List.mem_singleton.mp mem
          simp [Token.remainders]
  | .zeroOrMore, text, rest, mem => by
      simp only [Token.remainders, List.mem_tails] at mem ⊢
      exact append_suffix mem
  | .recursivePrefix, text, rest, mem => by
      simp only [Token.remainders, List.mem_cons, mem_afterSlashes] at mem ⊢
      rcases mem with rfl | mem
      · exact .inl rfl
      · exact .inr (append_suffix mem)
  | .recursiveSuffix, text, rest, mem => by
      simp only [Token.remainders] at mem ⊢
      split at mem
      · rename_i head
        obtain ⟨tail, rfl⟩ := head?_eq_some_iff_cons.mp head
        simp only [List.tail_cons, List.mem_tails] at mem
        simp only [List.cons_append, List.head?_cons, if_true, List.tail_cons, List.mem_tails]
        exact append_suffix mem
      · cases mem
  | .recursiveZeroOrMore, text, rest, mem => by
      simp only [Token.remainders] at mem ⊢
      split at mem
      · rename_i head
        obtain ⟨tail, rfl⟩ := head?_eq_some_iff_cons.mp head
        simp only [List.tail_cons, List.mem_cons, mem_afterSlashes] at mem
        simp only [List.cons_append, List.head?_cons, if_true, List.tail_cons, List.mem_cons,
          mem_afterSlashes]
        rcases mem with rfl | mem
        · exact .inl rfl
        · exact .inr (append_suffix mem)
      · cases mem
  | .charClass negated ranges, text, rest, mem => by
      cases text with
      | nil => cases mem
      | cons c tail =>
          simp only [Token.remainders] at mem
          simp only [Token.remainders, List.cons_append]
          split at mem
          · cases mem
          · rename_i inside
            obtain rfl := List.mem_singleton.mp mem
            simp [inside]
  | .alternates [], text, rest, mem => by
      obtain rfl := List.mem_singleton.mp mem
      simp [Token.remainders]
  | .alternates (branch :: branches), text, rest, mem => by
      simp only [Token.remainders, List.mem_append] at mem ⊢
      rcases mem with mem | mem
      · exact .inl (remainders_append branch text rest mem)
      · exact .inr (branchRemainders_append branches text rest mem)

theorem remainders_append
    : (tokens : List Token) → (text : List Char) → (rest : List Char)
      → rest ∈ remainders tokens text → rest ++ more ∈ remainders tokens (text ++ more)
  | [], text, rest, mem => by
      obtain rfl := List.mem_singleton.mp mem
      simp [remainders]
  | token :: tokens, text, rest, mem => by
      simp only [remainders, List.mem_flatMap] at mem ⊢
      obtain ⟨middle, front, back⟩ := mem
      exact ⟨middle ++ more, token.remainders_append text middle front,
        remainders_append tokens middle rest back⟩

theorem branchRemainders_append
    : (branches : List (List Token)) → (text : List Char) → (rest : List Char)
      → rest ∈ branchRemainders branches text
      → rest ++ more ∈ branchRemainders branches (text ++ more)
  | [], text, rest, mem => by cases mem
  | branch :: branches, text, rest, mem => by
      simp only [branchRemainders, List.mem_append] at mem ⊢
      rcases mem with mem | mem
      · exact .inl (remainders_append branch text rest mem)
      · exact .inr (branchRemainders_append branches text rest mem)

end

/-- The tokens match the whole text, each of them a part of it. -/
def Matches (tokens : List Token) (text : List Char) : Prop := [] ∈ remainders tokens text

theorem remainders_concat (front back : List Token) (text : List Char)
    : remainders (front ++ back) text = (remainders front text).flatMap (remainders back) := by
  induction front generalizing text with
  | nil => simp [remainders]
  | cons token front ih =>
      simp only [List.cons_append, remainders, List.flatMap_assoc]
      congr 1
      funext rest
      exact ih rest

theorem matches_snoc
    : Matches (tokens ++ [token]) text
      ↔ ∃ rest ∈ remainders tokens text, [] ∈ token.remainders rest := by
  simp only [Matches, remainders_concat, List.mem_flatMap, remainders]
  simp

/-- One more token matches what comes behind. -/
theorem Matches.push (front : Matches tokens text) (back : [] ∈ token.remainders more)
    : Matches (tokens ++ [token]) (text ++ more) := by
  have left := @remainders_append more tokens text [] front
  exact matches_snoc.mpr ⟨more, left, back⟩

-----------------------------------------------------------------------------------------
-- The whole content of a directory
-----------------------------------------------------------------------------------------

/-- Patterns that match whatever comes behind what they match. -/
def Open (tokens : List Token) : Prop :=
  tokens = [.recursivePrefix] ∨ ∃ front, tokens = front ++ [.recursiveSuffix]

theorem mem_recursiveSuffix
    : [] ∈ Token.recursiveSuffix.remainders text ↔ ∃ tail, text = '/' :: tail := by
  simp only [Token.remainders]
  split
  · rename_i head
    obtain ⟨tail, rfl⟩ := head?_eq_some_iff_cons.mp head
    simp
  · rename_i head
    simpa [head?_eq_some_iff_cons] using head

theorem isMatch_suffix {front : List Token}
    : isMatch (front ++ [.recursiveSuffix]) text = true
      ↔ Matches (front ++ [.recursiveSuffix]) text := by
  unfold isMatch
  split
  · rename_i same
    cases front with
    | nil => cases same
    | cons => simp at same
  · simp [Matches]

theorem Open.isMatch_append (opened : Open tokens) (matched : isMatch tokens text = true)
    : isMatch tokens (text ++ more) = true := by
  rcases opened with rfl | ⟨front, rfl⟩
  · rfl
  · rw [isMatch_suffix] at matched ⊢
    obtain ⟨rest, left, back⟩ := matches_snoc.mp matched
    obtain ⟨tail, rfl⟩ := mem_recursiveSuffix.mp back
    exact matches_snoc.mpr ⟨_, remainders_append _ _ _ left, mem_recursiveSuffix.mpr ⟨_, rfl⟩⟩

/-- A prefix is the first token of its branch. -/
def Leads (current : List Token) : Prop := .recursivePrefix ∉ current.dropLast

theorem Leads.cons {current : List Token} (leads : Leads current)
    (other : token ≠ .recursivePrefix)
    : Leads (token :: current) := by
  cases current with
  | nil => simp [Leads]
  | cons last before =>
      simp only [Leads, List.dropLast_cons_cons, List.mem_cons, not_or]
      exact ⟨Ne.symm other, leads⟩

theorem Leads.recursive {current : List Token} (leads : Leads current)
    (other : token ≠ .recursivePrefix)
    : Leads (recursive token current) := by
  have tail {last : Token} {before : List Token} (whole : Leads (last :: before))
      : Leads before := by
    cases before with
    | nil => simp [Leads]
    | cons next before =>
        simp only [Leads, List.dropLast_cons_cons, List.mem_cons, not_or] at whole
        exact whole.2
  unfold Glob.recursive
  split
  · simp [Leads]
  · exact leads
  · exact leads
  · exact (tail leads).cons other

/-- So it is in every branch that is being read. -/
structure State.Tame (s : State) : Prop where
  current : Leads s.current
  groups : ∀ group ∈ s.groups, Leads group.1

variable {s s' : State}

theorem State.Tame.push (tame : s.Tame) (other : token ≠ .recursivePrefix) : (s.push token).Tame :=
  ⟨tame.current.cons other, tame.groups⟩

theorem State.Tame.plain (tame : s.Tame) (done : s.plain c = .ok s') : s'.Tame := by
  obtain ⟨current, groups⟩ := tame
  unfold State.plain at done
  simp only at done
  split at done
  · cases done
    exact ⟨current.cons (by simp), groups⟩
  split at done
  · cases done
    exact ⟨current, groups⟩
  split at done
  · cases done
    exact ⟨current, groups⟩
  split at done
  · cases done
    exact ⟨by simp [Leads], List.forall_mem_cons.mpr ⟨current, groups⟩⟩
  split at done
  · split at done
    · cases done
    · rename_i before branches others pending
      cases done
      rw [pending, List.forall_mem_cons] at groups
      exact ⟨groups.1.cons (by simp), groups.2⟩
  split at done
  · split at done
    · cases done
      exact ⟨current.cons (by simp), groups⟩
    · rename_i before branches others pending
      cases done
      rw [pending, List.forall_mem_cons] at groups
      exact ⟨by simp [Leads], List.forall_mem_cons.mpr groups⟩
  split at done
  · cases done
    exact ⟨current, groups⟩
  · cases done
    exact ⟨current.cons (by simp), groups⟩

theorem State.Tame.step (tame : s.Tame) (done : s.step c = .ok s') : s'.Tame := by
  obtain ⟨reading, last, groups, current⟩ := s
  have pushed (token : Token) (other : token ≠ .recursivePrefix) (reading : Reading)
      (last : Option Char)
      : State.Tame ⟨reading, last, groups, token :: current⟩ :=
    ⟨tame.current.cons other, tame.groups⟩
  have deepened (token : Token) (other : token ≠ .recursivePrefix) (reading : Reading)
      (last : Option Char)
      : State.Tame ⟨reading, last, groups, recursive token current⟩ :=
    ⟨tame.current.recursive other, tame.groups⟩
  have same (reading : Reading) (last : Option Char)
      : State.Tame ⟨reading, last, groups, current⟩ :=
    ⟨tame.current, tame.groups⟩
  cases reading with
  | text => exact tame.plain done
  | star =>
      simp only [State.step] at done
      split at done
      · cases done
        exact same _ _
      · exact (tame.push (by simp)).plain done
  | doubleStar =>
      simp only [State.step] at done
      split at done
      · cases done
        exact deepened _ (by simp) _ _
      split at done
      · exact (deepened _ (by simp) _ _).plain done
      · have stars
            : State.Tame ⟨.doubleStar, some '*', groups, .zeroOrMore :: .zeroOrMore :: current⟩ :=
          ⟨(tame.current.cons (by simp)).cons (by simp), tame.groups⟩
        exact stars.plain done
  | escaped =>
      cases done
      exact pushed _ (by simp) _ _
  | opened =>
      simp only [State.step] at done
      split at done
      · cases done
        exact same _ _
      · cases done
        exact same _ _
  | first negated =>
      cases done
      exact same _ _
  | inside negated range others inRange =>
      simp only [State.step] at done
      split at done
      · cases done
        exact pushed _ (by simp) _ _
      split at done
      · split at done
        · cases done
        · cases done
          exact same _ _
      split at done
      · cases done
        exact same _ _
      · cases done
        exact same _ _

/-- Over a whole text, by induction on it. -/
theorem State.Tame.run {glob : List Char} (tame : s.Tame)
    (done : glob.foldlM State.step s = .ok s')
    : s'.Tame := by
  induction glob generalizing s with
  | nil =>
      cases done
      exact tame
  | cons c glob ih =>
      rw [List.foldlM_cons] at done
      cases stepped : s.step c with
      | error fault => simp [stepped, bind, Except.bind] at done
      | ok next => exact ih (tame.step stepped) (by simpa [stepped, bind, Except.bind] using done)

theorem open_recursive {current : List Token} (leads : Leads current)
    : Open (recursive .recursiveSuffix current).reverse := by
  unfold recursive
  split
  · exact .inl rfl
  · rename_i before
    cases before with
    | nil => exact .inl rfl
    | cons next before => simp [Leads] at leads
  · exact .inr ⟨_, List.reverse_cons⟩
  · exact .inr ⟨_, List.reverse_cons⟩

/-- A class that is being read. -/
def State.InClass (s : State) : Prop :=
  ∃ negated range others inRange, s.reading = .inside negated range others inRange

theorem State.InClass.step (inClass : s.InClass) (other : c ≠ ']') (done : s.step c = .ok s')
    : s'.InClass := by
  obtain ⟨negated, range, others, inRange, reading⟩ := inClass
  simp only [State.step, reading, if_neg other] at done
  split at done
  · split at done
    · cases done
    · cases done
      exact ⟨_, _, _, _, rfl⟩
  split at done
  · cases done
    exact ⟨_, _, _, _, rfl⟩
  · cases done
    exact ⟨_, _, _, _, rfl⟩

/-- A separator that is not in a class settles what was pending. -/
theorem State.step_slash (done : s.step '/' = .ok s')
    : s'.reading = .text ∧ s'.last = some '/' ∨ s'.InClass := by
  obtain ⟨reading, last, groups, current⟩ := s
  cases reading with
  | text =>
      cases done
      exact .inl ⟨rfl, rfl⟩
  | star =>
      cases done
      exact .inl ⟨rfl, rfl⟩
  | doubleStar =>
      simp only [State.step] at done
      split at done
      · cases done
        exact .inl ⟨rfl, rfl⟩
      split at done
      · cases done
        exact .inl ⟨rfl, rfl⟩
      · cases done
        exact .inl ⟨rfl, rfl⟩
  | escaped =>
      cases done
      exact .inl ⟨rfl, rfl⟩
  | opened =>
      cases done
      exact .inr ⟨_, _, _, _, rfl⟩
  | first negated =>
      cases done
      exact .inr ⟨_, _, _, _, rfl⟩
  | inside negated range others inRange =>
      exact .inr (State.InClass.step ⟨_, _, _, _, rfl⟩ (by decide) done)

/-- Two stars at the end, behind a separator. -/
theorem State.finish_stars (reading : s.reading = .text) (last : s.last = some '/')
    : (['*', '*'].foldlM State.step s >>= State.finish)
      = { s with
          reading := .doubleStar, current := recursive .recursiveSuffix s.current }.close := by
  obtain ⟨_, _, groups, current⟩ := s
  cases reading
  cases last
  simp [State.step, State.plain, bind, Except.bind, pure, Except.pure, State.finish]

theorem State.InClass.finish_stars (inClass : s.InClass)
    : (['*', '*'].foldlM State.step s >>= State.finish) ≠ .ok tokens := by
  intro done
  simp only [List.foldlM_cons, List.foldlM_nil] at done
  cases first : s.step '*' with
  | error fault => simp [first, bind, Except.bind] at done
  | ok middle =>
      have inside := inClass.step (by decide) first
      cases second : middle.step '*' with
      | error fault => simp [first, second, bind, Except.bind] at done
      | ok after =>
          obtain ⟨_, _, _, _, reading⟩ := inside.step (by decide) second
          simp [first, second, bind, Except.bind, pure, Except.pure, State.finish, reading] at done

/-- A pattern that ends so is open. -/
theorem open_of_parse {front : List Char} (done : parse (front ++ ['/', '*', '*']) = .ok tokens)
    : Open tokens := by
  unfold parse at done
  rw [List.foldlM_append] at done
  cases run : front.foldlM State.step {} with
  | error fault => simp [run, bind, Except.bind] at done
  | ok s =>
      have tame : s.Tame := State.Tame.run ⟨by simp [Leads], by simp⟩ run
      rw [run] at done
      cases slash : s.step '/' with
      | error fault => simp [slash, bind, Except.bind] at done
      | ok middle =>
          have ends : (['*', '*'].foldlM State.step middle >>= State.finish) = .ok tokens := by
            rw [← done]
            simp only [List.foldlM_cons, bind, Except.bind, slash]
          rcases State.step_slash slash with ⟨reading, last⟩ | inClass
          · rw [State.finish_stars reading last] at ends
            simp only [State.close] at ends
            split at ends
            · cases ends
              exact open_recursive (tame.step slash).current
            · cases ends
          · exact absurd ends inClass.finish_stars

-----------------------------------------------------------------------------------------
-- Texts that are read as patterns for themselves
-----------------------------------------------------------------------------------------

/-- The characters that a pattern does not read as something that matches them. -/
def special : List Char := ['[', '{', '}', '\\']

/-- What two stars in a component of their own may follow. -/
def Slashed (current : List Token) : Prop :=
  current = [.recursivePrefix]
    ∨ ∃ token before, current = token :: before
        ∧ (token = .literal '/' ∨ token = .recursiveZeroOrMore)

/-- Outside of groups, the tokens so far match the target. -/
structure Settled (target : List Char) (s : State) : Prop where
  groups : s.groups = []
  filled : s.current.isEmpty = false
  matched : Matches s.current.reverse target

/-- The same once pending stars are taken as they stand. -/
def Follows (target : List Char) (s : State) : Prop :=
  ∃ before, Settled before s ∧ (s.last = some '/' → Slashed s.current)
    ∧ (s.reading = .text ∧ target = before
      ∨ s.reading = .star ∧ target = before ++ ['*']
      ∨ s.reading = .doubleStar ∧ target = before ++ ['*', '*'])

variable {target : List Char}

theorem Settled.push (settled : Settled target s) (token : Token) (more : List Char)
    (matched : [] ∈ token.remainders more)
    : Settled (target ++ more) (s.push token) where
  groups := settled.groups
  filled := rfl
  matched := by
    simp only [State.push, List.reverse_cons]
    exact settled.matched.push matched

/-- A character that is not special is read as something that matches it. -/
theorem Settled.plain (settled : Settled target s) (ordinary : c ∉ special)
    (slashed : c = '*' → s.last = some '/' → Slashed s.current)
    : ∃ s', s.plain c = .ok s' ∧ Follows (target ++ [c]) s' := by
  simp only [special, List.mem_cons, List.not_mem_nil, or_false, not_or] at ordinary
  obtain ⟨noClass, noGroup, noEnd, noEscape⟩ := ordinary
  have literal := settled.push (.literal c) [c] (by simp [Token.remainders])
  unfold State.plain
  simp only [if_neg noClass, if_neg noGroup, if_neg noEnd, if_neg noEscape, settled.groups]
  by_cases question : c = '?'
  · have pushed := settled.push .any [c] (by simp [Token.remainders])
    rw [if_pos question]
    refine ⟨_, rfl, _, ⟨rfl, rfl, pushed.matched⟩, ?_, .inl ⟨rfl, rfl⟩⟩
    simp [State.push, question]
  rw [if_neg question]
  by_cases star : c = '*'
  · rw [if_pos star]
    exact ⟨_, rfl, target, ⟨rfl, settled.filled, settled.matched⟩, slashed star,
      .inr (.inl ⟨rfl, by rw [star]⟩)⟩
  rw [if_neg star, ite_self]
  refine ⟨_, rfl, _, ⟨rfl, rfl, literal.matched⟩, ?_, .inl ⟨rfl, rfl⟩⟩
  intro slash
  obtain rfl : c = '/' := Option.some.inj slash
  exact .inr ⟨_, _, rfl, .inl rfl⟩

theorem remainders_slashed (ends : token = .literal '/' ∨ token = .recursiveZeroOrMore)
    (matched : [] ∈ token.remainders text)
    : ∃ tail, text = '/' :: tail := by
  rcases ends with rfl | rfl
  · simp only [Token.remainders] at matched
    split at matched
    · rename_i head
      exact head?_eq_some_iff_cons.mp head
    · cases matched
  · simp only [Token.remainders] at matched
    split at matched
    · rename_i head
      exact head?_eq_some_iff_cons.mp head
    · cases matched

/-- Two stars in a component of their own, with the separator behind them. -/
theorem Settled.middle (settled : Settled target s) (slashed : Slashed s.current)
    : Matches (recursive .recursiveZeroOrMore s.current).reverse (target ++ ['*', '*', '/']) := by
  rcases slashed with only | ⟨token, before, split, ends⟩
  · rw [only]
    have last : [] ∈ afterSlashes (target ++ ['*', '*', '/']) :=
      mem_afterSlashes.mpr ⟨target ++ ['*', '*'], by simp⟩
    simp [recursive, Matches, remainders, Token.remainders, last]
  · have matched := settled.matched
    rw [split, List.reverse_cons] at matched
    obtain ⟨rest, left, back⟩ := matches_snoc.mp matched
    obtain ⟨tail, rfl⟩ := remainders_slashed ends back
    have deepened
        : recursive .recursiveZeroOrMore (token :: before) = .recursiveZeroOrMore :: before := by
      rcases ends with rfl | rfl <;> rfl
    have last : [] ∈ afterSlashes (tail ++ ['*', '*', '/']) :=
      mem_afterSlashes.mpr ⟨tail ++ ['*', '*'], by simp⟩
    rw [split, deepened, List.reverse_cons]
    apply matches_snoc.mpr
    exact ⟨_, remainders_append _ _ _ left, by simp [Token.remainders, last]⟩

/-- Two stars at the end match what the separator before them matched. -/
theorem Settled.suffix (settled : Settled target s) (slashed : Slashed s.current)
    : isMatch (recursive .recursiveSuffix s.current).reverse target = true := by
  rcases slashed with only | ⟨token, before, split, ends⟩
  · rw [only]
    rfl
  · have matched := settled.matched
    rw [split, List.reverse_cons] at matched
    obtain ⟨rest, left, back⟩ := matches_snoc.mp matched
    obtain ⟨tail, rfl⟩ := remainders_slashed ends back
    have deepened : recursive .recursiveSuffix (token :: before) = .recursiveSuffix :: before := by
      rcases ends with rfl | rfl <;> rfl
    rw [split, deepened, List.reverse_cons, isMatch_suffix]
    exact matches_snoc.mpr ⟨_, left, mem_recursiveSuffix.mpr ⟨tail, rfl⟩⟩

theorem Slashed.recursive {current : List Token} (slashed : Slashed current)
    : Slashed (recursive .recursiveZeroOrMore current) := by
  rcases slashed with rfl | ⟨token, before, rfl, rfl | rfl⟩
  · exact .inl rfl
  · exact .inr ⟨_, _, rfl, .inr rfl⟩
  · exact .inr ⟨_, _, rfl, .inr rfl⟩

theorem Slashed.filled {current : List Token} (slashed : Slashed current)
    : current.isEmpty = false := by
  rcases slashed with rfl | ⟨token, before, rfl, -⟩ <;> rfl

theorem Follows.step (follows : Follows target s) (ordinary : c ∉ special)
    : ∃ s', s.step c = .ok s' ∧ Follows (target ++ [c]) s' := by
  obtain ⟨before, settled, slashed, ⟨reading, rfl⟩ | ⟨reading, rfl⟩ | ⟨reading, rfl⟩⟩ := follows
  · obtain ⟨s', done, follows⟩ := settled.plain ordinary (fun _ => slashed)
    exact ⟨s', by simpa only [State.step, reading] using done, follows⟩
  · by_cases star : c = '*'
    · refine ⟨{ s with reading := .doubleStar }, by simp [State.step, reading, star], before,
        ⟨settled.groups, settled.filled, settled.matched⟩, slashed, .inr (.inr ⟨rfl, ?_⟩)⟩
      simp [star]
    · have taken := settled.push .zeroOrMore ['*'] (by simp [Token.remainders])
      obtain ⟨s', done, follows⟩ := taken.plain ordinary (fun same => absurd same star)
      exact ⟨s', by simpa only [State.step, reading, if_neg star] using done, follows⟩
  · by_cases component : c = '/' ∧ s.last = some '/'
    · obtain ⟨rfl, last⟩ := component
      have deeper := (slashed last).recursive
      refine ⟨⟨.text, some '/', s.groups, recursive .recursiveZeroOrMore s.current⟩, ?_,
        before ++ ['*', '*', '/'], ⟨settled.groups, deeper.filled, settled.middle (slashed last)⟩,
        fun _ => deeper, .inl ⟨rfl, by simp⟩⟩
      simp only [State.step, reading, last, or_true, and_self, if_true]
    · -- The stars are not a component of their own: each of them matches itself.
      have one := settled.push .zeroOrMore ['*'] (by simp [Token.remainders])
      have two := one.push .zeroOrMore ['*'] (by simp [Token.remainders])
      have taken
          : Settled (before ++ ['*'] ++ ['*'])
              { (s.push .zeroOrMore).push .zeroOrMore with last := some '*' } :=
        ⟨two.groups, two.filled, two.matched⟩
      obtain ⟨s', done, follows⟩ := taken.plain ordinary (fun _ last => absurd last (by simp))
      refine ⟨s', ?_, by simpa using follows⟩
      have open_end : ¬ (c = '/' ∧ (s.current.isEmpty ∨ s.last = some '/')) := by
        simpa [settled.filled] using component
      simp only [State.step, reading, if_neg open_end, settled.groups]
      simpa [settled.groups] using done

/-- Over a whole text, by induction on it. -/
theorem Follows.run {glob : List Char} (follows : Follows target s)
    (ordinary : ∀ c ∈ glob, c ∉ special)
    : ∃ s', glob.foldlM State.step s = .ok s' ∧ Follows (target ++ glob) s' := by
  induction glob generalizing s target with
  | nil => exact ⟨s, rfl, by simpa using follows⟩
  | cons c glob ih =>
      rw [List.forall_mem_cons] at ordinary
      obtain ⟨middle, stepped, follows⟩ := follows.step ordinary.1
      obtain ⟨s', run, follows⟩ := ih follows ordinary.2
      refine ⟨s', ?_, by simpa using follows⟩
      rw [List.foldlM_cons, stepped]
      exact run

/-- A text without special characters, put between `**/` and `/**`, is a pattern that matches what
lies below any path that ends with the text.
-/
theorem parse_ordinary {front glob : List Char} (start : front = [] ∨ ∃ path, front = path ++ ['/'])
    (ordinary : ∀ c ∈ glob, c ∉ special)
    : ∃ tokens, parse (['*', '*', '/'] ++ glob ++ ['/', '*', '*']) = .ok tokens
        ∧ isMatch tokens (front ++ glob ++ ['/']) = true := by
  have begun : Follows front ⟨.text, some '/', [], [.recursivePrefix]⟩ := by
    refine ⟨front, ⟨rfl, rfl, ?_⟩, fun _ => .inl rfl, .inl ⟨rfl, rfl⟩⟩
    rcases start with rfl | ⟨path, rfl⟩
    · simp [Matches, remainders, Token.remainders]
    · have last : [] ∈ afterSlashes (path ++ ['/']) := mem_afterSlashes.mpr ⟨path, rfl⟩
      simp [Matches, remainders, Token.remainders, last]
  obtain ⟨s, run, follows⟩ := begun.run ordinary
  obtain ⟨middle, slash, follows⟩
      : ∃ middle, s.step '/' = .ok middle ∧ Follows (front ++ glob ++ ['/']) middle :=
    follows.step (by decide)
  obtain ⟨before, settled, slashed, pending⟩ := follows
  obtain ⟨reading, last⟩ : middle.reading = .text ∧ middle.last = some '/' := by
    rcases State.step_slash slash with here | ⟨_, _, _, _, inside⟩
    · exact here
    · simp [inside] at pending
  obtain rfl : front ++ glob ++ ['/'] = before := by simpa [reading] using pending
  refine ⟨_, ?_, settled.suffix (slashed last)⟩
  have closed := State.finish_stars reading last
  simp only [State.close, settled.groups] at closed
  have entered
      : ['*', '*', '/'].foldlM State.step {} = .ok ⟨.text, some '/', [], [.recursivePrefix]⟩ := rfl
  simp only [parse, List.foldlM_append, entered, bind, Except.bind, run]
  simp only [List.foldlM_cons, slash, bind, Except.bind] at closed ⊢
  exact closed

end Glob
