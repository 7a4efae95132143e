import DocStore.Proofs.Formatting
import DocStore.Operator
import DocStore.Sql.Dialect

/-!
# Reading a clause as trees

The engine reads the marks of a text as tokens, and what stands in parentheses or
between `CASE` and `END` as one tree.  The reader goes over the marks once and
keeps the token that it is in and the brackets that are open.

Quoted text ends at a single quote character; a doubled one belongs to it.  In
the literals of MySQL a backslash also takes the next character with it.  Quoted
text is kept as it is written, so texts that differ stay different.
-/

namespace DocStore.Sql

/-- The words that are more than names here. -/
inductive Keyword where
  | and | or | not | is | null | member | coalesce | truth | falsity | restriction
  | choiceStart | choiceEnd
deriving DecidableEq

namespace Keyword

def text : Keyword → String
  | and => "AND"
  | or => "OR"
  | not => "NOT"
  | is => "IS"
  | null => "NULL"
  | member => "IN"
  | coalesce => "COALESCE"
  | truth => "TRUE"
  | falsity => "FALSE"
  | restriction => "WHERE"
  | choiceStart => "CASE"
  | choiceEnd => "END"

def all : List Keyword :=
  [and, or, not, is, null, member, coalesce, truth, falsity, restriction, choiceStart, choiceEnd]

def ofWord? (content : List Char) : Option Keyword :=
  all.find? fun keyword => keyword.text.toList == content

end Keyword

inductive Relation where
  | equal
  | different
  | ordered (comparison : Comparison)
deriving DecidableEq

def Relation.ofSign? : List Char → Option Relation
  | ['='] => some .equal
  | ['<', '>'] => some .different
  | ['>'] => some (.ordered .greater)
  | ['>', '='] => some (.ordered .greaterOrEqual)
  | ['<'] => some (.ordered .less)
  | ['<', '='] => some (.ordered .lessOrEqual)
  | _ => none

/-- What a text consists of between blanks and brackets. -/
inductive Token where
  | keyword (keyword : Keyword)
  | word (content : List Char)
  | relation (relation : Relation)
  | sign (content : List Char)
  | comma
  | quoted (quote : Char) (content : List Char)
  | bound (value : Value)

/-- A token, or what stands between two brackets. -/
inductive Tree where
  | token (token : Token)
  | group (inner : List Tree)
  | choice (inner : List Tree)

inductive Bracket where
  | parenthesis
  | choice
deriving DecidableEq

def Bracket.tree : Bracket → List Tree → Tree
  | parenthesis, inner => .group inner
  | choice, inner => .choice inner

/-- The token that the reader is in. -/
inductive Pending where
  | between
  | word (content : List Char)
  | sign (content : List Char)
  | quoted (quote : Char) (content : List Char)
  /-- Inside quotes, after a backslash. -/
  | escaped (quote : Char) (content : List Char)
  /-- After a quote that ends the text unless it is doubled. -/
  | closing (quote : Char) (content : List Char)

/-- The state of the reader: the trees that are complete, the last one first, and
around them the open brackets with the trees before each. -/
structure Reader where
  pending : Pending
  outer : List (Bracket × List Tree)
  trees : List Tree

def isQuote (dialect : Dialect) (character : Char) : Bool :=
  character == '\'' || character == '"' || character == dialect.identifierQuote

/-- A character that ends every token outside quotes. -/
def isSeparator (character : Char) : Bool :=
  character == ' ' || character == '\n' || character == '(' || character == ')'
    || character == ','

/-- A character of which operator signs are made. -/
def isSignPart (dialect : Dialect) (character : Char) : Bool :=
  !(isSeparator character || isQuote dialect character || isNamePart character)

def hasEscapes (dialect : Dialect) (quote : Char) : Bool :=
  dialect == .mysql && quote != dialect.identifierQuote

def beginsComment (dialect : Dialect) : List Char → Bool
  | '-' :: '-' :: _ => true
  | '/' :: '*' :: _ => true
  | character :: signs => (dialect == .mysql && character == '#') || beginsComment dialect signs
  | [] => false

namespace Reader

variable (dialect : Dialect) (reader : Reader)

def put (tree : Tree) : Reader :=
  { reader with pending := .between, trees := tree :: reader.trees }

def enter (bracket : Bracket) : Reader :=
  { pending := .between, outer := (bracket, reader.trees) :: reader.outer, trees := [] }

def leave (bracket : Bracket) : Option Reader :=
  match reader.outer with
  | [] => none
  | (entered, before) :: outer =>
      if entered = bracket then
        some { pending := .between, outer, trees := bracket.tree reader.trees.reverse :: before }
      else none

/-- Adds a word; `CASE` and `END` are brackets. -/
def putWord (content : List Char) : Option Reader :=
  match Keyword.ofWord? content with
  | some .choiceStart => some (reader.enter .choice)
  | some .choiceEnd => reader.leave .choice
  | some keyword => some (reader.put (.token (.keyword keyword)))
  | none => some (reader.put (.token (.word content)))

/-- Adds a sign; comments are not read. -/
def putSign (content : List Char) : Option Reader :=
  if beginsComment dialect content then none
  else
    match Relation.ofSign? content with
    | some relation => some (reader.put (.token (.relation relation)))
    | none => some (reader.put (.token (.sign content)))

/-- Adds the token that the reader is in; quoted text must have ended. -/
def settle : Option Reader :=
  match reader.pending with
  | .between => some reader
  | .word content => reader.putWord content
  | .sign content => reader.putSign dialect content
  | .closing quote content => some (reader.put (.token (.quoted quote content)))
  | .quoted _ _ => none
  | .escaped _ _ => none

/-- Reads a character that continues no token. -/
def start (character : Char) : Option Reader :=
  if character = ' ' ∨ character = '\n' then some reader
  else if character = '(' then some (reader.enter .parenthesis)
  else if character = ')' then reader.leave .parenthesis
  else if character = ',' then some (reader.put (.token .comma))
  else if isQuote dialect character then some { reader with pending := .quoted character [] }
  else if isNamePart character then some { reader with pending := .word [character] }
  else some { reader with pending := .sign [character] }

/-- Adds the token that the reader is in and reads a character after it. -/
def restart (character : Char) : Option Reader :=
  (reader.settle dialect).bind fun settled => settled.start dialect character

def step : Mark → Option Reader
  | .bound value => (reader.settle dialect).map fun settled => settled.put (.token (.bound value))
  | .character character =>
      match reader.pending with
      | .between => reader.restart dialect character
      | .word content =>
          if isNamePart character then
            some { reader with pending := .word (content ++ [character]) }
          else reader.restart dialect character
      | .sign content =>
          if isSignPart dialect character then
            some { reader with pending := .sign (content ++ [character]) }
          else reader.restart dialect character
      | .quoted quote content =>
          if character = quote then some { reader with pending := .closing quote content }
          else if character = '\\' ∧ hasEscapes dialect quote then
            some { reader with pending := .escaped quote (content ++ [character]) }
          else some { reader with pending := .quoted quote (content ++ [character]) }
      | .escaped quote content =>
          some { reader with pending := .quoted quote (content ++ [character]) }
      | .closing quote content =>
          if character = quote then
            some { reader with pending := .quoted quote (content ++ [quote, quote]) }
          else reader.restart dialect character

def scan (reader : Reader) : List Mark → Option Reader
  | [] => reader.settle dialect
  | mark :: marks => (reader.step dialect mark).bind fun next => next.scan marks

/-- The marks end here or go on with a separator. -/
def Separated : List Mark → Prop
  | [] => True
  | .character character :: _ => isSeparator character = true
  | .bound _ :: _ => False

variable {dialect} {reader}

theorem pending_of_settle {settled : Reader} (settles : reader.settle dialect = some settled) :
    settled.pending = .between := by
  unfold settle at settles
  split at settles
  · cases settles
    assumption
  · unfold putWord at settles
    split at settles
    · cases settles
      rfl
    · unfold leave at settles
      split at settles
      · cases settles
      · split at settles
        · cases settles
          rfl
        · cases settles
    · cases settles
      rfl
    · cases settles
      rfl
  · unfold putSign at settles
    split at settles
    · cases settles
    · split at settles <;> (cases settles; rfl)
  · cases settles
    rfl
  · cases settles
  · cases settles

theorem settle_between (between : reader.pending = .between) :
    reader.settle dialect = some reader := by
  simp [settle, between]

theorem step_separator {character : Char} (separator : isSeparator character = true)
    {settled : Reader} (settles : reader.settle dialect = some settled)
    (quotes : ∀ quote content, reader.pending = .closing quote content →
      isSeparator quote = false) :
    reader.step dialect (.character character) = settled.start dialect character := by
  have restarts : reader.restart dialect character = settled.start dialect character := by
    simp [restart, settles]
  have noName : isNamePart character = false := by
    simp only [isSeparator, Bool.or_eq_true, beq_iff_eq] at separator
    rcases separator with (((rfl | rfl) | rfl) | rfl) | rfl <;> decide
  cases pending : reader.pending with
  | between => simpa [step, pending] using restarts
  | word content => simpa [step, pending, noName] using restarts
  | sign content => simpa [step, pending, isSignPart, separator] using restarts
  | closing quote content =>
      have other : character ≠ quote := by
        rintro rfl
        simp [quotes character content pending] at separator
      simpa [step, pending, other] using restarts
  | quoted quote content => simp [settle, pending] at settles
  | escaped quote content => simp [settle, pending] at settles

/-- Before a separator the token that the reader is in is complete. -/
theorem scan_settled {settled : Reader} (settles : reader.settle dialect = some settled)
    (quotes : ∀ quote content, reader.pending = .closing quote content →
      isSeparator quote = false)
    {rest : List Mark} (separated : Separated rest) :
    reader.scan dialect rest = settled.scan dialect rest := by
  have between := pending_of_settle settles
  cases rest with
  | nil => simp [scan, settles, settle_between between]
  | cons mark rest =>
      cases mark with
      | bound value => cases separated
      | character character =>
          have same : settled.step dialect (.character character) =
              settled.start dialect character :=
            step_separator separated (settle_between between) (by simp [between])
          simp [scan, step_separator separated settles quotes, same]

end Reader

/-- The trees of a text; every bracket must be closed. -/
def treesOf? (dialect : Dialect) (marks : List Mark) : Option (List Tree) :=
  (Reader.scan dialect { pending := .between, outer := [], trees := [] } marks).bind fun reader =>
    if reader.outer.isEmpty then some reader.trees.reverse else none

/-- A reader between two tokens reads these marks as these trees, in whatever
brackets it is and whatever separator comes after. -/
def Reads (dialect : Dialect) (marks : List Mark) (trees : List Tree) : Prop :=
  ∀ outer before rest, Reader.Separated rest →
    Reader.scan dialect { pending := .between, outer, trees := before } (marks ++ rest) =
      Reader.scan dialect { pending := .between, outer, trees := trees.reverse ++ before } rest

variable {dialect : Dialect}

theorem Reads.treesOf?_eq {marks : List Mark} {trees : List Tree}
    (reads : Reads dialect marks trees) : treesOf? dialect marks = some trees := by
  have scanned := reads [] [] [] trivial
  simp only [List.append_nil] at scanned
  simp [treesOf?, scanned, Reader.scan, Reader.settle]

theorem reads_bound (value : Value) : Reads dialect [.bound value] [.token (.bound value)] :=
  fun _ _ _ _ => rfl

theorem Reads.append {left right : List Mark} {leftTrees rightTrees : List Tree}
    (leftReads : Reads dialect left leftTrees) (rightReads : Reads dialect right rightTrees)
    (separates : ∀ rest, Reader.Separated (right ++ rest)) :
    Reads dialect (left ++ right) (leftTrees ++ rightTrees) := by
  intro outer before rest separated
  rw [List.append_assoc, leftReads _ _ _ (separates rest), rightReads _ _ _ separated,
    List.reverse_append, List.append_assoc]

/-- Text from between two tokens to between two tokens that begins with a
separator. -/
structure Connects (dialect : Dialect) (text : List Char) (trees : List Tree) : Prop where
  separates : ∀ rest, Reader.Separated (characters text ++ rest)
  scan : ∀ outer before rest,
    Reader.scan dialect { pending := .between, outer, trees := before }
        (characters text ++ rest) =
      Reader.scan dialect { pending := .between, outer, trees := trees.reverse ++ before } rest

theorem Reads.connected {left right : List Mark} {text : List Char}
    {leftTrees middle rightTrees : List Tree} (leftReads : Reads dialect left leftTrees)
    (connects : Connects dialect text middle) (rightReads : Reads dialect right rightTrees) :
    Reads dialect (left ++ characters text ++ right) (leftTrees ++ middle ++ rightTrees) := by
  intro outer before rest separated
  simp only [List.append_assoc]
  rw [leftReads _ _ _ (connects.separates _), connects.scan, rightReads _ _ _ separated]
  simp only [List.reverse_append, List.append_assoc]

/-- An expression with text around it that opens a bracket before it and closes
the bracket after it. -/
theorem Reads.surrounded {marks : List Mark} {trees : List Tree}
    (reads : Reads dialect marks trees) (bracket : Bracket) (opening closing : List Char)
    (lead first last trail : List Tree)
    (opens : ∀ outer before rest,
      Reader.scan dialect { pending := .between, outer, trees := before }
          (characters opening ++ rest) =
        Reader.scan dialect
          { pending := .between
            outer := (bracket, lead.reverse ++ before) :: outer
            trees := first.reverse } rest)
    (separates : ∀ rest, Reader.Separated (characters closing ++ rest))
    (closes : ∀ outer before inner rest, Reader.Separated rest →
      Reader.scan dialect
          { pending := .between, outer := (bracket, before) :: outer, trees := inner }
          (characters closing ++ rest) =
        Reader.scan dialect
          { pending := .between, outer
            trees := trail.reverse ++ bracket.tree (last.reverse ++ inner).reverse :: before }
          rest) :
    Reads dialect (characters opening ++ marks ++ characters closing)
      (lead ++ bracket.tree (first ++ trees ++ last) :: trail) := by
  intro outer before rest separated
  rw [List.append_assoc, List.append_assoc, opens, reads _ _ _ (separates rest),
    closes _ _ _ _ separated]
  simp

/-- What stands in parentheses is one tree. -/
theorem Reads.parenthesised {marks : List Mark} {trees : List Tree}
    (reads : Reads dialect marks trees) :
    Reads dialect (characters ['('] ++ marks ++ characters [')']) [.group trees] := by
  have surrounded := reads.surrounded .parenthesis ['('] [')'] [] [] [] []
    (fun _ _ _ => by cases dialect <;> rfl) (fun _ => rfl)
    (fun _ _ _ _ _ => by cases dialect <;> rfl)
  simpa [Bracket.tree] using surrounded

/-! ## Quoted text -/

/-- Inside quotes the text is passed over as it is written. -/
def Quotable (dialect : Dialect) (quote : Char) (text : List Char) : Prop :=
  ∀ outer before content rest,
    Reader.scan dialect { pending := .quoted quote content, outer, trees := before }
        (characters (text.flatMap (quotedCharacter quote)) ++ rest) =
      Reader.scan dialect
        { pending := .quoted quote (content ++ text.flatMap (quotedCharacter quote))
          outer, trees := before } rest

variable {quote : Char}

theorem quotable_nil : Quotable dialect quote [] := by
  intro outer before content rest
  simp [characters]

theorem Quotable.append {left right : List Char} (leftQuotable : Quotable dialect quote left)
    (rightQuotable : Quotable dialect quote right) : Quotable dialect quote (left ++ right) := by
  intro outer before content rest
  simp only [List.flatMap_append, characters_append, List.append_assoc]
  rw [leftQuotable, rightQuotable]
  simp only [List.append_assoc]

theorem quotable_character {character : Char}
    (plain : character = '\\' → character = quote ∨ hasEscapes dialect quote = false) :
    Quotable dialect quote [character] := by
  intro outer before content rest
  by_cases same : character = quote
  · subst character
    simp [quotedCharacter, characters, Reader.scan, Reader.step]
  · by_cases backslash : character = '\\'
    · have noEscapes := (plain backslash).resolve_left same
      simp [quotedCharacter, characters, Reader.scan, Reader.step, same, noEscapes]
    · simp [quotedCharacter, characters, Reader.scan, Reader.step, same, backslash]

theorem quotable_escape {character : Char} (noQuote : character ≠ quote)
    (noBackslash : quote ≠ '\\') (escapes : hasEscapes dialect quote = true) :
    Quotable dialect quote ['\\', character] := by
  intro outer before content rest
  simp [quotedCharacter, characters, Reader.scan, Reader.step, escapes, noQuote,
    noBackslash.symm]

theorem quotable_of_notMem {text : List Char} (plain : '\\' ∉ text) :
    Quotable dialect quote text := by
  induction text with
  | nil => exact quotable_nil
  | cons character text ih =>
      have first : character ≠ '\\' := fun equal => plain (by simp [equal])
      have others : '\\' ∉ text := fun member => plain (List.mem_cons_of_mem _ member)
      exact (quotable_character fun equal => absurd equal first).append (ih others)

theorem quotable_of_noEscapes (noEscapes : hasEscapes dialect quote = false) (text : List Char) :
    Quotable dialect quote text := by
  induction text with
  | nil => exact quotable_nil
  | cons character text ih => exact (quotable_character fun _ => .inr noEscapes).append ih

theorem Quotable.scan_close {content : String} (quotable : Quotable dialect quote content.toList)
    (noSeparator : isSeparator quote = false) (outer : List (Bracket × List Tree))
    (before : List Tree) {rest : List Mark} (separated : Reader.Separated rest) :
    Reader.scan dialect { pending := .quoted quote [], outer, trees := before }
        (characters (quotedBody quote content ++ [quote]) ++ rest) =
      Reader.scan dialect
        { pending := .between, outer
          trees := .token (.quoted quote (quotedBody quote content)) :: before } rest := by
  simp only [quotedBody, characters_append, List.append_assoc]
  rw [quotable]
  have closing : Reader.scan dialect
        ⟨.quoted quote (content.toList.flatMap (quotedCharacter quote)), outer, before⟩
        (characters [quote] ++ rest) =
      Reader.scan dialect
        ⟨.closing quote (content.toList.flatMap (quotedCharacter quote)), outer, before⟩ rest := by
    simp [characters, Reader.scan, Reader.step]
  rw [List.nil_append, closing]
  refine Reader.scan_settled rfl ?_ separated
  intro other text equal
  cases equal
  exact noSeparator

/-- Quoted text after text that ends where quotes may begin. -/
theorem reads_quoted {content : String} (quotable : Quotable dialect quote content.toList)
    (noSeparator : isSeparator quote = false) (opening : List Char) (lead : List Tree)
    (opens : ∀ outer before rest,
      Reader.scan dialect { pending := .between, outer, trees := before }
          (characters opening ++ .character quote :: rest) =
        Reader.scan dialect
          { pending := .quoted quote [], outer, trees := lead.reverse ++ before } rest) :
    Reads dialect (characters opening ++ characters (quotedText quote content))
      (lead ++ [.token (.quoted quote (quotedBody quote content))]) := by
  intro outer before rest separated
  have closed := quotable.scan_close noSeparator outer (lead.reverse ++ before) separated
  rw [List.append_assoc]
  refine (opens outer before _).trans (closed.trans ?_)
  simp

end DocStore.Sql
