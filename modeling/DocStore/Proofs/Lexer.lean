import DocStore.Proofs.QuotedText

/-!
# Cutting a text into tokens

The tokens of a text are what the engine cuts out of it before it reads
conditions: words, operator signs, brackets and commas, quoted text and bound
values.  Quoted text ends by the rules of the dialect, as for the reader of
clauses.  The lexer refuses what would give a quote another meaning: comments, a
word directly before a quote, as in `E'…'`, and the dollar signs of Postgres.

A lexer that stands between two tokens, or at the end of one, goes on as at the
start of a text.  Texts with such a border between them are therefore cut apart
from each other.
-/

namespace DocStore.Sql

inductive Lexeme where
  | word (content : List Char)
  | sign (content : List Char)
  /-- A bracket or a comma. -/
  | separator (character : Char)
  | quoted (quote : Char) (content : List Char)
  | bound (value : Value)

namespace Lexer

variable (dialect : Dialect)

/-- The token that the lexer is in, where another one begins or the text ends. -/
def finish : Pending → Option (List Lexeme)
  | .between => some []
  | .word content => some [.word content]
  | .sign content =>
      if beginsComment dialect content || content.contains '$' then none
      else some [.sign content]
  | .closing quote content => some [.quoted quote content]
  | .quoted _ _ => none
  | .escaped _ _ => none

/-- Begins a token, or passes over a blank. -/
def start (character : Char) : List Lexeme × Pending :=
  if character = ' ' ∨ character = '\n' then ([], .between)
  else if isSeparator character then ([.separator character], .between)
  else if isQuote dialect character then ([], .quoted character [])
  else if isNamePart character then ([], .word [character])
  else ([], .sign [character])

/-- What is cut out before, and what the lexer does after it. -/
def prepend (before : List Lexeme) (next : List Lexeme × Pending) : List Lexeme × Pending :=
  (before ++ next.1, next.2)

def restart (pending : Pending) (character : Char) : Option (List Lexeme × Pending) :=
  (finish dialect pending).map fun last => prepend last (start dialect character)

/-- Reads one mark: the tokens that are complete then, and the one that is not. -/
def step (pending : Pending) : Mark → Option (List Lexeme × Pending)
  | .bound value => (finish dialect pending).map fun last => (last ++ [.bound value], .between)
  | .character character =>
      match pending with
      | .between => restart dialect pending character
      | .word content =>
          if isNamePart character then some ([], .word (content ++ [character]))
          else if isQuote dialect character then none
          else restart dialect pending character
      | .sign content =>
          if isSignPart dialect character then some ([], .sign (content ++ [character]))
          else restart dialect pending character
      | .quoted quote content =>
          if character = quote then some ([], .closing quote content)
          else if character = '\\' ∧ hasEscapes dialect quote then
            some ([], .escaped quote (content ++ [character]))
          else some ([], .quoted quote (content ++ [character]))
      | .escaped quote content => some ([], .quoted quote (content ++ [character]))
      | .closing quote content =>
          if character = quote then some ([], .quoted quote (content ++ [quote, quote]))
          else restart dialect pending character

/-- Reads marks one after the other. -/
def run (pending : Pending) : List Mark → Option (List Lexeme × Pending)
  | [] => some ([], pending)
  | mark :: marks =>
      (step dialect pending mark).bind fun next =>
        (run next.2 marks).map (prepend next.1)

end Lexer

/-- The tokens of a text.  There are none if it has a comment or an open quote. -/
def lex (dialect : Dialect) (marks : List Mark) : Option (List Lexeme) :=
  (Lexer.run dialect .between marks).bind fun last =>
    (Lexer.finish dialect last.2).map (last.1 ++ ·)

namespace Lexer

variable {dialect : Dialect}

@[simp] theorem prepend_nil : prepend [] = id := rfl

@[simp] theorem prepend_comp_prepend (first second : List Lexeme) :
    prepend first ∘ prepend second = prepend (first ++ second) := by
  funext next
  simp [prepend]

theorem run_append (pending : Pending) (left right : List Mark) :
    run dialect pending (left ++ right) =
      (run dialect pending left).bind fun next =>
        (run dialect next.2 right).map (prepend next.1) := by
  induction left generalizing pending with
  | nil => simp [run]
  | cons mark left ih =>
      rw [List.cons_append, run, run]
      cases step dialect pending mark with
      | none => rfl
      | some next =>
          simp only [Option.bind_some, ih]
          cases run dialect next.2 left with
          | none => rfl
          | some later =>
              simp only [Option.bind_some, Option.map_some, Option.map_map,
                prepend_comp_prepend, prepend]

/-! ## Borders of tokens -/

/-- A token may begin here: the lexer is in none, or in a sign that is complete. -/
def isOpen (dialect : Dialect) : Pending → Bool
  | .between => true
  | .sign content => !(beginsComment dialect content || content.contains '$')
  | _ => false

/-- A token may end here: the text may, or a separator may follow. -/
def isComplete (dialect : Dialect) : Pending → Bool
  | .word _ => true
  | .closing quote _ => !isSeparator quote
  | pending => isOpen dialect pending

theorem isComplete_of_isOpen {pending : Pending} (opened : isOpen dialect pending = true) :
    isComplete dialect pending = true := by
  cases pending <;> first | exact opened | cases opened

/-- Where a fragment may stand: where a token may begin, or after a complete one. -/
def isBorder (dialect : Dialect) (opened : Bool) : Pending → Bool :=
  if opened then isOpen dialect else isComplete dialect

theorem isComplete_of_isBorder {opened : Bool} {pending : Pending}
    (border : isBorder dialect opened pending = true) : isComplete dialect pending = true := by
  cases opened with
  | true => exact isComplete_of_isOpen border
  | false => exact border

/-- Where a token may end, it is cut out. -/
theorem finish_of_isComplete {pending : Pending} (complete : isComplete dialect pending = true) :
    ∃ last, finish dialect pending = some last := by
  cases pending with
  | between => exact ⟨_, rfl⟩
  | word content => exact ⟨_, rfl⟩
  | closing quote content => exact ⟨_, rfl⟩
  | sign content =>
      have allowed : (beginsComment dialect content || content.contains '$') = false := by
        simpa [isComplete, isOpen] using complete
      exact ⟨[.sign content], by rw [finish, allowed]; rfl⟩
  | quoted quote content => cases complete
  | escaped quote content => cases complete

/-- A separator, or a character that is no part of a sign, where a token may begin. -/
def Begins (dialect : Dialect) (pending : Pending) (character : Char) : Prop :=
  isSeparator character = true ∧ isComplete dialect pending = true ∨
    isSignPart dialect character = false ∧ isOpen dialect pending = true

theorem isQuote_of_isSeparator (dialect : Dialect) {character : Char}
    (separator : isSeparator character = true) :
    isQuote dialect character = false ∧ isNamePart character = false := by
  simp only [isSeparator, Bool.or_eq_true, beq_iff_eq] at separator
  rcases separator with (((rfl | rfl) | rfl) | rfl) | rfl <;> cases dialect <;> decide

theorem step_of_begins {pending : Pending} {character : Char}
    (begins : Begins dialect pending character) :
    step dialect pending (.character character) = restart dialect pending character := by
  have noSign : isSignPart dialect character = false := by
    rcases begins with ⟨separator, _⟩ | ⟨noSign, _⟩
    · simp [isSignPart, separator]
    · exact noSign
  rcases begins with ⟨separator, complete⟩ | ⟨_, opened⟩
  · obtain ⟨noQuote, noName⟩ := isQuote_of_isSeparator dialect separator
    cases pending with
    | between => rfl
    | word content => simp [step, noName, noQuote]
    | sign content => simp [step, noSign]
    | closing quote content =>
        have other : character ≠ quote := by
          rintro rfl
          simp [isComplete, separator] at complete
        simp [step, other]
    | quoted quote content => cases complete
    | escaped quote content => cases complete
  · cases pending with
    | between => rfl
    | sign content => simp [step, noSign]
    | _ => cases opened

/-- At a border the lexer goes on as at the start of a text. -/
theorem run_of_begins {pending : Pending} {character : Char}
    (begins : Begins dialect pending character) (marks : List Mark) :
    run dialect pending (.character character :: marks) =
      (finish dialect pending).bind fun last =>
        (run dialect .between (.character character :: marks)).map (prepend last) := by
  rw [run, run, step_of_begins begins]
  change _ = (finish dialect pending).bind fun last =>
    ((run dialect (start dialect character).2 marks).map
      (prepend ([] ++ (start dialect character).1))).map (prepend last)
  unfold restart
  cases finish dialect pending with
  | none => rfl
  | some last => simp [prepend]

/-! ## Quoted text -/

section Quoted

variable {quote : Char}

/-- The lexer stays in its quotes and takes the text as it is written. -/
def Stays (dialect : Dialect) (quote : Char) (text : List Char) : Prop :=
  ∀ content, run dialect (.quoted quote content) (characters text) =
    some ([], .quoted quote (content ++ text))

theorem Stays.append {left right : List Char} (leftStays : Stays dialect quote left)
    (rightStays : Stays dialect quote right) : Stays dialect quote (left ++ right) := by
  intro content
  rw [characters_append, run_append, leftStays]
  simp [rightStays (content ++ left)]

theorem stays_character {character : Char}
    (noEscape : character = '\\' → hasEscapes dialect quote = false) :
    Stays dialect quote (quotedCharacter quote character) := by
  intro content
  by_cases same : character = quote
  · simp [same, quotedCharacter, characters, run, step]
  · by_cases backslash : character = '\\'
    · simp [quotedCharacter, characters, run, step, same, noEscape backslash]
    · simp [quotedCharacter, characters, run, step, same, backslash]

theorem stays_escape {character : Char} (noQuote : character ≠ quote)
    (noBackslash : quote ≠ '\\') (escapes : hasEscapes dialect quote = true) :
    Stays dialect quote (quotedCharacter quote '\\' ++ quotedCharacter quote character) := by
  intro content
  simp [quotedCharacter, characters, run, step, escapes, noQuote, noBackslash.symm]

/-- Well-escaped text does not end the quotes that it stands in. -/
theorem stays_of_wellEscaped {text : List Char} (escaped : WellEscaped dialect quote text)
    (noBackslash : quote ≠ '\\') :
    Stays dialect quote (text.flatMap (quotedCharacter quote)) := by
  induction escaped with
  | nil =>
      intro content
      simp [run, characters]
  | plain noEscape _ ih => exact (stays_character noEscape).append ih
  | @escape character text noQuote _ ih =>
      cases escapes : hasEscapes dialect quote with
      | true =>
          simpa using (stays_escape noQuote noBackslash escapes).append ih
      | false =>
          exact (stays_character fun _ => escapes).append
            ((stays_character fun _ => escapes).append ih)

/-- Quoted text is one token, which ends at the closing quote. -/
theorem run_quotedText (isQuote : isQuote dialect quote = true) {content : String}
    (escaped : WellEscaped dialect quote content.toList) :
    run dialect .between (characters (quotedText quote content)) =
      some ([], .closing quote (quotedBody quote content)) := by
  have noBackslash : quote ≠ '\\' := by
    rintro rfl
    cases dialect <;> cases isQuote
  have opening : run dialect .between (characters [quote]) = some ([], .quoted quote []) := by
    simp only [Sql.isQuote, Bool.or_eq_true, beq_iff_eq] at isQuote
    rcases isQuote with (rfl | rfl) | rfl <;> cases dialect <;> rfl
  have body := stays_of_wellEscaped escaped noBackslash []
  have closing : run dialect (.quoted quote (quotedBody quote content)) (characters [quote]) =
      some ([], .closing quote (quotedBody quote content)) := by
    simp [run, step, characters]
  have parts : quotedText quote content = [quote] ++ (quotedBody quote content ++ [quote]) := rfl
  rw [parts, characters_append, run_append, opening, characters_append, Option.bind_some,
    run_append, quotedBody, body]
  simpa [quotedBody] using closing

end Quoted

/-! ## The characters of words -/

section Words

variable {test : Char → Bool}

/-- All characters of a word pass a test.  No value is bound. -/
def PassesLexeme (test : Char → Bool) : Lexeme → Prop
  | .word content => content.all test = true
  | .bound _ => False
  | _ => True

def PassesPending (test : Char → Bool) : Pending → Prop
  | .word content => content.all test = true
  | _ => True

theorem passes_finish {pending : Pending} (passes : PassesPending test pending)
    {tokens : List Lexeme} (finished : finish dialect pending = some tokens) :
    ∀ token ∈ tokens, PassesLexeme test token := by
  cases pending with
  | word content =>
      cases finished
      exact List.forall_mem_singleton.mpr passes
  | sign content =>
      rw [finish] at finished
      split at finished <;> cases finished
      simp [PassesLexeme]
  | _ => cases finished <;> simp [PassesLexeme]

theorem passes_restart {pending : Pending} (passes : PassesPending test pending)
    {character : Char} (passesCharacter : test character = true)
    {next : List Lexeme × Pending} (restarted : restart dialect pending character = some next) :
    (∀ token ∈ next.1, PassesLexeme test token) ∧ PassesPending test next.2 := by
  obtain ⟨last, finished, rfl⟩ := Option.map_eq_some_iff.mp restarted
  have before := passes_finish passes finished
  have begun : (∀ token ∈ (start dialect character).1, PassesLexeme test token) ∧
      PassesPending test (start dialect character).2 := by
    unfold start
    split
    · simp [PassesPending]
    · split
      · simp [PassesLexeme, PassesPending]
      · split
        · simp [PassesPending]
        · split <;> simp [PassesPending, passesCharacter]
  exact ⟨List.forall_mem_append.mpr ⟨before, begun.1⟩, begun.2⟩

theorem passes_step {pending : Pending} (passes : PassesPending test pending) {character : Char}
    (passesCharacter : test character = true) {next : List Lexeme × Pending}
    (stepped : step dialect pending (.character character) = some next) :
    (∀ token ∈ next.1, PassesLexeme test token) ∧ PassesPending test next.2 := by
  cases pending with
  | between => exact passes_restart passes passesCharacter stepped
  | word content =>
      simp only [step] at stepped
      split at stepped
      · cases stepped
        simpa [PassesPending, passesCharacter] using passes
      · split at stepped
        · cases stepped
        · exact passes_restart passes passesCharacter stepped
  | sign content =>
      simp only [step] at stepped
      split at stepped
      · cases stepped
        simp [PassesPending]
      · exact passes_restart passes passesCharacter stepped
  | quoted quote content =>
      simp only [step] at stepped
      split at stepped
      · cases stepped
        simp [PassesPending]
      · split at stepped <;> cases stepped <;> simp [PassesPending]
  | escaped quote content =>
      cases stepped
      simp [PassesPending]
  | closing quote content =>
      simp only [step] at stepped
      split at stepped
      · cases stepped
        simp [PassesPending]
      · exact passes_restart passes passesCharacter stepped

/-- The words of a text have no other characters than the text, which binds nothing. -/
theorem passes_run {text : List Char} (all : text.all test = true) {pending : Pending}
    (passes : PassesPending test pending) {next : List Lexeme × Pending}
    (ran : run dialect pending (characters text) = some next) :
    (∀ token ∈ next.1, PassesLexeme test token) ∧ PassesPending test next.2 := by
  induction text generalizing pending next with
  | nil =>
      cases ran
      exact ⟨by simp, passes⟩
  | cons character text ih =>
      rw [List.all_cons, Bool.and_eq_true] at all
      obtain ⟨first, stepped, ran⟩ := Option.bind_eq_some_iff.mp ran
      obtain ⟨later, laterRan, rfl⟩ := Option.map_eq_some_iff.mp ran
      obtain ⟨firstPasses, pendingPasses⟩ := passes_step passes all.1 stepped
      obtain ⟨laterPasses, lastPasses⟩ := ih all.2 pendingPasses laterRan
      exact ⟨List.forall_mem_append.mpr ⟨firstPasses, laterPasses⟩, lastPasses⟩

theorem passes_lex {text : List Char} (all : text.all test = true) {tokens : List Lexeme}
    (cut : lex dialect (characters text) = some tokens) :
    ∀ token ∈ tokens, PassesLexeme test token := by
  obtain ⟨next, ran, cut⟩ := Option.bind_eq_some_iff.mp cut
  obtain ⟨last, finished, rfl⟩ := Option.map_eq_some_iff.mp cut
  have start : PassesPending test .between := trivial
  obtain ⟨passes, lastPasses⟩ := passes_run all start ran
  exact List.forall_mem_append.mpr ⟨passes, passes_finish lastPasses finished⟩

end Words

end Lexer

end DocStore.Sql
