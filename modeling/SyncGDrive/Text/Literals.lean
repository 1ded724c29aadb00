import Mathlib.Data.List.Induction

/-! Texts with quoted literals, as a search service reads them: a backslash in a literal escapes
the next character, and a quote that is not escaped ends it. What a text put between two quotes is
read as.
-/

namespace Literals

/-- A word, or the text of a literal. -/
inductive Token
  | word (text : String)
  | literal (text : String)
  deriving DecidableEq

/-- Where the reader is, with what it has read of the current word or literal. -/
inductive Reading
  | word (read : List Char)
  | literal (read : List Char)
  | escaped (read : List Char)

/-- A word that has ended; between two separators there is none. -/
def ended (read : List Char) : List Token :=
  if read = [] then [] else [.word (String.ofList read)]

/-- The tokens of a text; none if it ends inside a literal. -/
def tokens : Reading → List Char → Option (List Token)
  | .word read, [] => some (ended read)
  | .word read, c :: rest =>
      if c = ' ' then (tokens (.word []) rest).map (ended read ++ ·)
      else if c = '\'' then (tokens (.literal []) rest).map (ended read ++ ·)
      else tokens (.word (read ++ [c])) rest
  | .literal _, [] => none
  | .literal read, c :: rest =>
      if c = '\'' then (tokens (.word []) rest).map (.literal (String.ofList read) :: ·)
      else if c = '\\' then tokens (.escaped read) rest
      else tokens (.literal (read ++ [c])) rest
  | .escaped _, [] => none
  | .escaped read, c :: rest => tokens (.literal (read ++ [c])) rest

/-- Put a backslash before every quote. -/
def escape (text : List Char) : List Char :=
  text.flatMap (fun c => if c = '\'' then ['\\', '\''] else [c])

/-- The next literal that is read. -/
def Reads (read text result : List Char) : Prop :=
  ∃ more, tokens (.literal read) text = some (.literal (String.ofList result) :: more)

variable {read text rest result : List Char}

-----------------------------------------------------------------------------------------
-- What is read as it stands
-----------------------------------------------------------------------------------------

/-- Without quotes and backslashes a text is read as it stands, by induction on it. -/
theorem tokens_plain (noQuote : '\'' ∉ text) (noBackslash : '\\' ∉ text)
    : tokens (.literal read) (text ++ rest) = tokens (.literal (read ++ text)) rest := by
  induction text generalizing read with
  | nil => simp
  | cons c text ih =>
      simp only [List.mem_cons, not_or] at noQuote noBackslash
      rw [List.cons_append, tokens, if_neg (Ne.symm noQuote.1), if_neg (Ne.symm noBackslash.1),
        ih noQuote.2 noBackslash.2, List.append_assoc, List.singleton_append]

/-- With its quotes escaped, a text without backslashes is read back. -/
theorem tokens_escape (noBackslash : '\\' ∉ text)
    : tokens (.literal read) (escape text ++ rest) = tokens (.literal (read ++ text)) rest := by
  induction text generalizing read with
  | nil => simp [escape]
  | cons c text ih =>
      simp only [List.mem_cons, not_or] at noBackslash
      rw [escape, List.flatMap_cons, List.append_assoc, ← escape]
      by_cases quote : c = '\''
      · subst quote
        simp only [if_true, List.cons_append, List.nil_append, tokens]
        simp [ih noBackslash.2]
      · simp only [quote, if_false, List.cons_append, List.nil_append, tokens,
          Ne.symm noBackslash.1]
        simp [ih noBackslash.2]

/-- A closing quote ends the literal. -/
theorem tokens_close
    : tokens (.literal read) ('\'' :: rest)
      = (tokens (.word []) rest).map (.literal (String.ofList read) :: ·) := by
  simp [tokens]

/-- After a plain text and a quote, what has been read is known. -/
theorem Reads.plain (reads : Reads read (text ++ '\'' :: rest) result) (noQuote : '\'' ∉ text)
    (noBackslash : '\\' ∉ text)
    : result = read ++ text := by
  obtain ⟨more, same⟩ := reads
  rw [tokens_plain noQuote noBackslash, tokens_close, Option.map_eq_some_iff] at same
  obtain ⟨others, -, same⟩ := same
  simp only [List.cons.injEq, Token.literal.injEq, String.ofList_inj] at same
  exact same.1.symm

/-- A plain text without a closing quote is no literal. -/
theorem not_reads_open (noQuote : '\'' ∉ text) (noBackslash : '\\' ∉ text)
    : ¬ Reads read text result := by
  rintro ⟨more, same⟩
  have whole := @tokens_plain read text [] noQuote noBackslash
  rw [List.append_nil] at whole
  rw [whole] at same
  cases same

-----------------------------------------------------------------------------------------
-- What is read as another text
-----------------------------------------------------------------------------------------

/-- How a text before a closing quote is read: with a character less where a special one is taken
for an escape or an end, or on beyond the quote, which then a final backslash has escaped.
-/
def Shortens (read text rest result : List Char) (special : Prop) : Prop :=
  result.length ≤ read.length + text.length
    ∧ (special → result.length < read.length + text.length)
  ∨ text.getLast? = some '\\' ∧ ∃ read', Reads read' rest result

/-- One character more, which is read as it stands. -/
theorem Shortens.cons {c d : Char} {special special' : Prop}
    (shortens : Shortens (read ++ [d]) text rest result special) (same : special' → special)
    : Shortens read (c :: text) rest result special' := by
  rcases shortens with ⟨le, lt⟩ | ⟨last, beyond⟩
  · simp only [List.length_append, List.length_singleton] at le lt
    refine .inl ⟨?_, fun holds => ?_⟩
    · rw [List.length_cons]
      omega
    · have := lt (same holds)
      rw [List.length_cons]
      omega
  · refine .inr ⟨?_, beyond⟩
    rw [List.getLast?_cons, last]
    rfl

/-- A backslash and the character that it escapes. -/
theorem Shortens.escaped {c d e : Char} {special special' : Prop}
    (shortens : Shortens (read ++ [d]) text rest result special)
    : Shortens read (c :: e :: text) rest result special' := by
  rcases shortens with ⟨le, -⟩ | ⟨last, beyond⟩
  · simp only [List.length_append, List.length_singleton] at le
    refine .inl ⟨?_, fun _ => ?_⟩ <;> simp only [List.length_cons] <;> omega
  · refine .inr ⟨?_, beyond⟩
    rw [List.getLast?_cons, List.getLast?_cons, last]
    rfl

theorem reads_step {c : Char} (noQuote : c ≠ '\'') (noBackslash : c ≠ '\\')
    : Reads read (c :: text) result ↔ Reads (read ++ [c]) text result := by
  simp [Reads, tokens, noQuote, noBackslash]

theorem reads_escaped {c : Char}
    : Reads read ('\\' :: c :: text) result ↔ Reads (read ++ [c]) text result := by
  simp [Reads, tokens]

theorem reads_close (reads : Reads read ('\'' :: rest) result) : result = read := by
  have same := @Reads.plain read [] rest result reads (by simp) (by simp)
  rwa [List.append_nil] at same

/-- With its quotes escaped, a text with a backslash is not read back. By induction on the text,
two characters at a time where the first is a backslash.
-/
theorem Reads.escape_shortens (reads : Reads read (escape text ++ '\'' :: rest) result)
    : Shortens read text rest result ('\\' ∈ text) := by
  induction text using List.twoStepInduction generalizing read with
  | nil =>
      obtain rfl := reads_close reads
      exact .inl ⟨by simp, by simp⟩
  | singleton c =>
      by_cases quote : c = '\''
      · subst quote
        obtain rfl := reads_close (reads_escaped.mp reads)
        exact .inl ⟨by simp, by simp⟩
      have spelled : escape [c] = [c] := by simp [escape, quote]
      rw [spelled] at reads
      by_cases backslash : c = '\\'
      · subst backslash
        exact .inr ⟨rfl, _, reads_escaped.mp reads⟩
      · obtain rfl := reads_close ((reads_step quote backslash).mp reads)
        exact .inl ⟨by simp, by simp [Ne.symm backslash]⟩
  | cons_cons c d text ih ih' =>
      by_cases quote : c = '\''
      · subst quote
        exact (ih' d (reads_escaped.mp reads)).cons (by simp)
      have spelled : escape (c :: d :: text) = c :: escape (d :: text) := by
        simp [escape, quote]
      rw [spelled, List.cons_append] at reads
      by_cases backslash : c = '\\'
      · subst backslash
        by_cases quoted : d = '\''
        · subst quoted
          have closed : result = read ++ ['\\'] := reads_close (reads_escaped.mp reads)
          subst closed
          refine .inl ⟨?_, fun _ => ?_⟩ <;> simp
        · have spelled : escape (d :: text) = d :: escape text := by
            simp [escape, quoted]
          rw [spelled, List.cons_append] at reads
          exact (ih (reads_escaped.mp reads)).escaped
      · exact (ih' d ((reads_step quote backslash).mp reads)).cons (by simp [Ne.symm backslash])

/-- As it stands, a text with a quote or a backslash is not read back either. -/
theorem Reads.raw_shortens (reads : Reads read (text ++ '\'' :: rest) result)
    : Shortens read text rest result ('\'' ∈ text ∨ '\\' ∈ text) := by
  induction text using List.twoStepInduction generalizing read with
  | nil =>
      obtain rfl := reads_close reads
      exact .inl ⟨by simp, by simp⟩
  | singleton c =>
      by_cases quote : c = '\''
      · subst quote
        obtain rfl := reads_close reads
        exact .inl ⟨by simp, by simp⟩
      by_cases backslash : c = '\\'
      · subst backslash
        exact .inr ⟨rfl, _, reads_escaped.mp reads⟩
      · obtain rfl := reads_close ((reads_step quote backslash).mp reads)
        exact .inl ⟨by simp, by simp [Ne.symm quote, Ne.symm backslash]⟩
  | cons_cons c d text ih ih' =>
      by_cases quote : c = '\''
      · subst quote
        obtain rfl := reads_close reads
        exact .inl ⟨by simp, by simp⟩
      by_cases backslash : c = '\\'
      · subst backslash
        exact (ih (reads_escaped.mp reads)).escaped
      · exact (ih' d ((reads_step quote backslash).mp reads)).cons
          (by simp [Ne.symm quote, Ne.symm backslash])

/-- What is read back before a text that ends in another character is what was put there. -/
theorem Shortens.not_same {special : Prop} {last : Char} {beyond : List Char}
    (shortens : Shortens [] text (beyond ++ last :: '\'' :: rest) text special)
    (noQuote : '\'' ∉ beyond ++ [last]) (noBackslash : '\\' ∉ beyond ++ [last])
    : ¬ special := by
  intro holds
  rcases shortens with ⟨-, lt⟩ | ⟨ends, read', reads⟩
  · have := lt holds
    simp at this
  · have reads : Reads read' ((beyond ++ [last]) ++ '\'' :: rest) text := by simpa using reads
    have same := reads.plain noQuote noBackslash
    rw [same, ← List.append_assoc, List.getLast?_concat, Option.some.injEq] at ends
    subst ends
    simp at noBackslash

end Literals
