import DocStore.Fault
import DocStore.Json.Decode
import DocStore.Number.Numeral
import DocStore.Pattern.Basic
import DocStore.Text.CharacterName
import DocStore.Text.Identifier

/-!
# Reading patterns

The written form of patterns.  A text that breaks its rules is no pattern: an
open bracket, a repetition of nothing, an unknown escape, a range whose ends are
in the wrong order, a reference to a group that is not closed, or an assertion
on text before the spot without a fixed length.
-/

namespace DocStore

namespace Pattern

/-- Switches that change the meaning of a pattern. -/
structure Switches where
  comparison : CharacterComparison := {}
  /-- Whether lines have starts and ends of their own. -/
  eachLine : Bool := false
  /-- Whether the dot stands for a line feed too. -/
  dotAll : Bool := false
  /-- Whether blanks and comments stand between the items. -/
  spaced : Bool := false
  /-- Whether repetitions are refused. -/
  single : Bool := false

/-- What is known while a pattern is read. -/
structure Reading where
  rest : List Token
  /-- The lengths of the groups, the last one first; a group that is open has none. -/
  groups : List (Option Width) := []
  names : List (String × Nat) := []
  /-- The number of groups before the outermost assertion on text before the spot,
  while it is read. -/
  behindFrom : Option Nat := none
  /-- The greatest number of a group that a condition asks for. -/
  asked : Nat := 0
  /-- Whether an assertion on text before the spot has no fixed length, or a
  repetition stands where it is refused. -/
  unfit : Bool := false
  switches : Switches := {}
  /-- Whether the whole pattern is to know ASCII only, and all scripts. -/
  (ascii scripts : Bool := false)

abbrev Reader (α : Type) := StateT Reading (Except Fault) α

def malformed {α : Type} : Reader α := throw .malformedPattern

def demand (holds : Bool) : Reader Unit := if holds then pure () else malformed

def peek : Reader (Option Token) := do pure (← get).rest.head?

/-- Goes to the next token; the backslash at the end is found as soon as it is next. -/
def goTo (rest : List Token) : Reader Unit := do
  demand (rest.head? != some .dangling)
  modify fun reading => { reading with rest }

def advance : Reader (Option Token) := do
  let reading ← get
  goTo (reading.rest.drop 1)
  pure reading.rest.head?

def takeIf (character : Char) : Reader Bool := do
  if (← peek) = some (.plain character) then do
    discard advance
    pure true
  else pure false

/-- Takes characters of a class, at most a number of them. -/
def takeWhile (accepted : Char → Bool) : Nat → Reader (List Char)
  | 0 => pure []
  | count + 1 => do
      match ← peek with
      | some (.plain character) =>
          if accepted character then do
            discard advance
            let others ← takeWhile accepted count
            pure (character :: others)
          else pure []
      | _ => pure []

/-- Takes a number of digits of base sixteen. -/
def takeHex (count : Nat) : Reader Nat := do
  let digits ← takeWhile (fun character => (hexValue? character).isSome) count
  demand (digits.length == count)
  pure (digits.foldl (fun total digit => total * 16 + (hexValue? digit).getD 0) 0)

/-- Takes everything up to a character, which is taken too. -/
def takeUntil (closing : Char) : Nat → Reader (List Char)
  | 0 => malformed
  | fuel + 1 => do
      match ← advance with
      | none => malformed
      | some token =>
          if token = .plain closing then pure []
          else do
            let others ← takeUntil closing fuel
            pure (token.text ++ others)

/-- Takes a name up to a character; it is not empty. -/
def takeName (closing : Char) : Reader (List Char) := do
  let name ← takeUntil closing ((← get).rest.length + 1)
  demand (!name.isEmpty)
  pure name

def isOctal (character : Char) : Bool := '0' ≤ character && character ≤ '7'

/-- The value of octal digits, which must be one of a byte. -/
def octalValue (digits : List Char) : Reader Nat := do
  let value := digits.foldl (fun total digit => total * 8 + (digit.toNat - '0'.toNat)) 0
  demand (value ≤ 0o377)
  pure value

def classEscape? : Char → Option CharacterClass
  | 'd' => some .digit
  | 'D' => some (.outside .digit)
  | 's' => some .blank
  | 'S' => some (.outside .blank)
  | 'w' => some .word
  | 'W' => some (.outside .word)
  | _ => none

def letterEscape? : Char → Option Nat
  | 'a' => some 0x07
  | 'f' => some 0x0c
  | 'n' => some 0x0a
  | 'r' => some 0x0d
  | 't' => some 0x09
  | 'v' => some 0x0b
  | _ => none

/-- An escape that stands for one character both inside and outside a class. -/
def characterEscape (letter : Char) : Reader Nat := do
  match letter with
  | 'x' => takeHex 2
  | 'u' => takeHex 4
  | 'U' => do
      let code ← takeHex 8
      demand (code ≤ 0x10ffff)
      pure code
  | 'N' => do
      demand (← takeIf '\x7b')
      let name ← takeName '\x7d'
      match codeNamed? (String.ofList name) with
      | some code => pure code
      | none => malformed
  | letter =>
      match letterEscape? letter with
      | some code => pure code
      | none => do
          demand (!letter.isAlphanum)
          pure letter.toNat

/-! ### Classes in brackets -/

def codeOf? : CharacterClass → Option Nat
  | .listed code => some code
  | _ => none

def escapeInClass (letter : Char) : Reader CharacterClass := do
  match classEscape? letter with
  | some charClass => pure charClass
  | none =>
      if letter = 'b' then pure (.listed 0x08)
      else if isOctal letter then do
        let digits ← takeWhile isOctal 2
        .listed <$> octalValue (letter :: digits)
      else .listed <$> characterEscape letter

def classItem : Option Token → Reader CharacterClass
  | some (.plain character) => pure (.listed character.toNat)
  | some (.escaped letter) => escapeInClass letter
  | _ => malformed

/-- Reads the items of a class up to its closing bracket; a bracket that comes first
stands for itself. -/
def classItems : Nat → Bool → Reader (List CharacterClass)
  | 0, _ => malformed
  | fuel + 1, first => do
      let token ← advance
      if token = some (.plain ']') ∧ !first then pure []
      else do
        let lower ← classItem token
        if ← takeIf '-' then do
          let token ← advance
          if token = some (.plain ']') then pure [lower, .listed '-'.toNat]
          else do
            let upper ← classItem token
            match codeOf? lower, codeOf? upper with
            | some lower, some upper => do
                demand (lower ≤ upper)
                let others ← classItems fuel false
                pure (.range lower upper :: others)
            | _, _ => malformed
        else do
          let others ← classItems fuel false
          pure (lower :: others)

/-- The class of the items in brackets; one that lists a single character is that
character. -/
def classOf (items : List CharacterClass) : CharacterClass :=
  match items.eraseDups with
  | [.listed code] => .single code
  | items => items.foldr .union .nothing

def bracketClass : Reader CharacterClass := do
  let negated ← takeIf '^'
  let items ← classItems ((← get).rest.length + 1) true
  pure (if negated then .outside (classOf items) else classOf items)

/-! ### Items -/

/-- What may follow an item. -/
inductive ItemKind where
  /-- An anchor, which cannot be repeated. -/
  | anchor
  /-- A repetition, which cannot be repeated again. -/
  | repetition
  | other
deriving DecidableEq

/-- A part of a sequence. -/
structure Item where
  pattern : Pattern
  kind : ItemKind := .other

def sequenceOf (items : List Item) : Pattern :=
  items.foldl (fun rest item => .sequence item.pattern rest) .empty

/-- A class as an item under the current switches. -/
def oneOf (charClass : CharacterClass) : Reader Item := do
  pure { pattern := .one charClass (← get).switches.comparison }

def anchored (place : Anchor) : Item := { pattern := .anchor place, kind := .anchor }

/-- Refuses a group that is open, or that an assertion on text before the spot holds
itself. -/
def notInsideBehind (number : Nat) : Reader Unit := do
  let reading ← get
  match reading.behindFrom with
  | none => pure ()
  | some before => do
      let closed := (reading.groups.reverse[number - 1]?).any Option.isSome
      demand (closed && number ≤ before)

/-- Refers to a group, which must be closed. -/
def referTo (number : Nat) : Reader Item := do
  let reading ← get
  demand (0 < number && (reading.groups.reverse[number - 1]?).any Option.isSome)
  notInsideBehind number
  pure { pattern := .reference number reading.switches.comparison }

/-- Reads an escape that begins with a digit: a character by three octal digits, or
a group by one or two digits. -/
def numbered (first : Char) : Reader Item := do
  match ← takeWhile Char.isDigit 1 with
  | [second] =>
      let octal ← if isOctal first && isOctal second then takeWhile isOctal 1 else pure []
      if octal.isEmpty then referTo (Decimal.natOfDigits [first, second])
      else do
        let code ← octalValue ([first, second] ++ octal)
        oneOf (.single code)
  | _ => referTo (Decimal.natOfDigits [first])

def escape (letter : Char) : Reader Item := do
  let asciiOnly := (← get).switches.comparison.asciiOnly
  match letter with
  | 'A' => pure (anchored .textStart)
  | 'Z' => pure (anchored .textEnd)
  | 'b' => pure (anchored (.wordBoundary asciiOnly))
  | 'B' => pure (anchored (.noWordBoundary asciiOnly))
  | '0' => do
      let digits ← takeWhile isOctal 2
      let code ← octalValue digits
      oneOf (.single code)
  | letter =>
      match classEscape? letter with
      | some charClass => oneOf charClass
      | none =>
          if letter.isDigit then numbered letter
          else do
            let code ← characterEscape letter
            oneOf (.single code)

/-- Reads a single character outside a class. -/
def plain (character : Char) : Reader Item := do
  let switches := (← get).switches
  match character with
  | '.' => oneOf (.outside (if switches.dotAll then .nothing else .single 0x0a))
  | '^' => pure (anchored (if switches.eachLine then .lineStart else .textStart))
  | '$' => pure (anchored (if switches.eachLine then .lineEnd else .lastLine))
  | character => oneOf (.single character.toNat)

/-! ### Repetitions -/

structure Bounds where
  least : Nat
  most : Option Nat

/-- The least number of rounds that is too large to be written. -/
def roundsLimit : Nat := Nat.pow 2 32 - 1

/-- The number of rounds that digits write; no digits write none. -/
def roundsOf (digits : List Char) : Reader (Option Nat) := do
  if digits.isEmpty then pure none
  else
    match readNatural? digits with
    | none => throw .malformedValue
    | some number => if roundsLimit ≤ number then throw .outOfRange else pure (some number)

/-- Reads the bounds in braces, the opening one of which has been taken; a text that
is no bounds leaves the brace for itself. -/
def braceBounds : Reader (Option Bounds) := do
  let start ← get
  let count := start.rest.length
  let lower ← takeWhile Char.isDigit count
  let comma ← takeIf ','
  let upper ← if comma then takeWhile Char.isDigit count else pure lower
  let closed ← takeIf '\x7d'
  if !closed || (lower.isEmpty && !comma) then do
    set start
    pure none
  else
    let least := (← roundsOf lower).getD 0
    let most ← roundsOf upper
    demand (most.all (least ≤ ·))
    pure (some { least, most })

def boundsFrom (character : Char) : Reader (Option Bounds) :=
  match character with
  | '*' => pure (some { least := 0, most := none })
  | '+' => pure (some { least := 1, most := none })
  | '?' => pure (some { least := 0, most := some 1 })
  | '\x7b' => braceBounds
  | _ => pure none

def repeatLast (items : List Item) (bounds : Bounds) : Reader (List Item) := do
  match items with
  | [] => malformed
  | item :: others => do
      demand (item.kind = .other)
      let reluctant ← takeIf '?'
      let possessive ← if reluctant then pure false else takeIf '+'
      let eagerness : Eagerness :=
        if reluctant then .reluctant else if possessive then .possessive else .greedy
      modify fun reading => { reading with unfit := reading.unfit || reading.switches.single }
      let pattern := Pattern.repeated eagerness bounds.least bounds.most item.pattern
      pure ({ pattern, kind := .repetition } :: others)

/-! ### Groups -/

def openGroup (name : Option String) : Reader Nat := do
  let reading ← get
  let number := reading.groups.length + 1
  match name with
  | none => set { reading with groups := none :: reading.groups }
  | some name => do
      demand ((reading.names.lookup name).isNone)
      set { reading with
        groups := none :: reading.groups
        names := (name, number) :: reading.names }
  pure number

/-- The length of a group that is closed. -/
def Reading.groupWidth (reading : Reading) (number : Nat) : Width :=
  ((reading.groups.reverse[number - 1]?).bind id).getD {}

def closeGroup (number : Nat) (inner : Pattern) : Reader Unit :=
  modify fun reading =>
    let width := inner.width reading.groupWidth
    { reading with
      groups := (reading.groups.reverse.set (number - 1) (some width)).reverse }

def closing : Reader Unit := do demand (← takeIf ')')

/-- The greatest length of text before the spot that can be asserted. -/
def behindLimit : Nat := Nat.pow 2 32 - 1

/-- An assertion on text before the spot.  Without a fixed length it makes the whole
pattern unfit, once that has been read. -/
def behindOf (negated : Bool) (inner : Pattern) : Reader Item := do
  let reading ← get
  let width := inner.width reading.groupWidth
  if width.most = some width.least ∧ width.least ≤ behindLimit then
    pure { pattern := .behind negated width.least inner }
  else do
    set { reading with unfit := true }
    pure { pattern := .empty }

def isSwitch (letter : Char) : Bool := "imsxatu".toList.contains letter

/-- Reads letters of switches, at least one; none of them may be refused. -/
def switchLetters (refused : List Char) (ends : List Char) : Nat → Reader (List Char × Char)
  | 0 => malformed
  | fuel + 1 => do
      match ← advance with
      | some (.plain letter) => do
          demand (isSwitch letter && !refused.contains letter)
          match ← peek with
          | some (.plain next) =>
              if ends.contains next then do
                discard advance
                pure ([letter], next)
              else do
                let (letters, last) ← switchLetters refused ends fuel
                pure (letter :: letters, last)
          | _ => malformed
      | _ => malformed

def Switches.turnOn (switches : Switches) (letters : List Char) : Switches :=
  let on (letter : Char) (before : Bool) : Bool := before || letters.contains letter
  { comparison :=
      { asciiOnly :=
          letters.contains 'a' || (switches.comparison.asciiOnly && !letters.contains 'u')
        ignoreCase := on 'i' switches.comparison.ignoreCase }
    eachLine := on 'm' switches.eachLine
    dotAll := on 's' switches.dotAll
    spaced := on 'x' switches.spaced
    single := on 't' switches.single }

def Switches.turnOff (switches : Switches) (letters : List Char) : Switches :=
  let off (letter : Char) (before : Bool) : Bool := before && !letters.contains letter
  { switches with
    comparison.ignoreCase := off 'i' switches.comparison.ignoreCase
    eachLine := off 'm' switches.eachLine
    dotAll := off 's' switches.dotAll
    spaced := off 'x' switches.spaced }

/-- Reads the switches of a group, the last of whose characters is returned: a closing
parenthesis if they hold for the whole pattern, and otherwise a colon. -/
def groupSwitches : Reader (Switches × Char × List Char) := do
  let fuel := (← get).rest.length + 1
  let (turnedOn, last) ←
    if ← takeIf '-' then pure ([], '-') else switchLetters [] [')', '-', ':'] fuel
  demand (!(turnedOn.contains 'a' && turnedOn.contains 'u'))
  demand (last == ')' || !turnedOn.contains 't')
  let (turnedOff, last) ←
    if last = '-' then switchLetters ['a', 'u', 't'] [':'] fuel else pure ([], last)
  demand (!turnedOff.any turnedOn.contains)
  let switches := ((← get).switches.turnOn turnedOn).turnOff turnedOff
  pure (switches, last, turnedOn)

/-- The number of the group that a condition asks for: a name, or an integer. -/
def askedGroup (name : List Char) : Reader Nat := do
  let text := String.ofList name
  let reading ← get
  if isIdentifier name then
    match reading.names.lookup text with
    | some number => pure number
    | none => malformed
  else
    match readInteger? text with
    | some (.ofNat (number + 1)) => do
        set { reading with asked := max reading.asked (number + 1) }
        pure (number + 1)
    | _ => malformed

def groupName (closing : Char) : Reader String := do
  let name ← takeName closing
  demand (isIdentifier name)
  pure (String.ofList name)

/-- Goes past a comment up to the end of its line. -/
def skipLine : Nat → Reader Unit
  | 0 => pure ()
  | fuel + 1 => do
      match ← advance with
      | none => pure ()
      | some token => if token = .plain '\n' then pure () else skipLine fuel

/-- Whether a character is a blank between items. -/
def isSpacing (character : Char) : Bool :=
  character == ' ' || ('\t' ≤ character && character ≤ '\r')

/-- Where a sequence stands. -/
structure Place where
  /-- Whether it lies in a group. -/
  nested : Bool
  /-- Whether it is the first of several alternatives. -/
  first : Bool

mutual

/-- Reads alternatives up to a closing parenthesis or the end. -/
def alternatives : Nat → Place → Reader Pattern
  | 0, _ => malformed
  | fuel + 1, place => do
      let left ← branch fuel place []
      if ← takeIf '|' then do
        let right ← alternatives fuel { place with first := false }
        pure (.either left right)
      else pure left

/-- Reads a sequence of items; those before are given, the last one first. -/
def branch : Nat → Place → List Item → Reader Pattern
  | 0, _, _ => malformed
  | fuel + 1, place, items => do
      match ← peek with
      | none => pure (sequenceOf items)
      | some (.plain '|') => pure (sequenceOf items)
      | some (.plain ')') => pure (sequenceOf items)
      | some token => do
          discard advance
          let items ← extend fuel place items token
          branch fuel place items

def extend : Nat → Place → List Item → Token → Reader (List Item)
  | 0, _, _, _ => malformed
  | _, _, _, .dangling => malformed
  | _, _, items, .escaped letter => do
      let item ← escape letter
      pure (item :: items)
  | fuel + 1, place, items, .plain character => do
      let spaced := (← get).switches.spaced
      if spaced ∧ isSpacing character then pure items
      else if spaced ∧ character = '#' then do
        skipLine (← get).rest.length
        pure items
      else
        match character with
        | '[' => do
            let charClass ← bracketClass
            let item ← oneOf charClass
            pure (item :: items)
        | '(' => do
            if ← takeIf '?' then special fuel place items
            else do
              let number ← openGroup none
              capturing fuel number items
        | character => do
            match ← boundsFrom character with
            | some bounds => repeatLast items bounds
            | none => do
                let item ← plain character
                pure (item :: items)

/-- Reads the inside of a group up to its closing parenthesis. -/
def inside : Nat → Reader Pattern
  | 0 => malformed
  | fuel + 1 => do
      let inner ← alternatives fuel { nested := true, first := false }
      closing
      pure inner

/-- Reads a group that has been opened. -/
def capturing : Nat → Nat → List Item → Reader (List Item)
  | 0, _, _ => malformed
  | fuel + 1, number, items => do
      let inner ← inside fuel
      closeGroup number inner
      pure ({ pattern := .group number inner } :: items)

/-- Reads an assertion on text before the spot. -/
def lookBehind : Nat → List Item → Reader (List Item)
  | 0, _ => malformed
  | fuel + 1, items => do
      let negated ← takeIf '!'
      if !negated then demand (← takeIf '=')
      let before := (← get).behindFrom
      modify fun reading =>
        { reading with behindFrom := before.orElse fun _ => some reading.groups.length }
      let inner ← alternatives fuel { nested := true, first := false }
      modify fun reading => { reading with behindFrom := before }
      closing
      let item ← behindOf negated inner
      pure (item :: items)

def condition : Nat → List Item → Reader (List Item)
  | 0, _ => malformed
  | fuel + 1, items => do
      let name ← takeName ')'
      let number ← askedGroup name
      notInsideBehind number
      let place : Place := { nested := true, first := false }
      let left ← branch fuel place []
      let right ← if ← takeIf '|' then branch fuel place [] else pure .empty
      closing
      pure ({ pattern := .conditional number left right } :: items)

/-- Reads a group that begins with a question mark. -/
def special : Nat → Place → List Item → Reader (List Item)
  | 0, _, _ => malformed
  | fuel + 1, place, items => do
      let whole (wrap : Pattern → Pattern) : Reader (List Item) := do
        let inner ← inside fuel
        pure ({ pattern := wrap inner } :: items)
      if ← takeIf ':' then whole id
      else if ← takeIf '=' then whole (.ahead false)
      else if ← takeIf '!' then whole (.ahead true)
      else if ← takeIf '>' then whole .atomic
      else if ← takeIf '<' then lookBehind fuel items
      else if ← takeIf '(' then condition fuel items
      else if ← takeIf '#' then do
        discard (takeUntil ')' ((← get).rest.length + 1))
        pure items
      else if ← takeIf 'P' then do
        if ← takeIf '<' then do
          let name ← groupName '>'
          let number ← openGroup (some name)
          capturing fuel number items
        else do
          demand (← takeIf '=')
          let name ← groupName ')'
          match (← get).names.lookup name with
          | some number => do
              let item ← referTo number
              pure (item :: items)
          | none => malformed
      else do
        let (switches, last, letters) ← groupSwitches
        if last = ')' then do
          -- switches for the whole pattern stand at its very start
          demand (place.first && !place.nested && items.isEmpty)
          modify fun reading =>
            { reading with
              switches
              ascii := reading.ascii || letters.contains 'a'
              scripts := reading.scripts || letters.contains 'u' }
          pure items
        else do
          let before := (← get).switches
          modify fun reading => { reading with switches }
          let inner ← inside fuel
          modify fun reading => { reading with switches := before }
          pure ({ pattern := inner } :: items)

end

def whole (fuel : Nat) : Reader Pattern := do
  goTo (← get).rest
  let pattern ← alternatives fuel { nested := false, first := true }
  let reading ← get
  if reading.ascii && reading.scripts then throw .malformedValue
  demand reading.rest.isEmpty
  demand (reading.asked ≤ reading.groups.length)
  demand (!reading.unfit)
  pure pattern

/-- Reads a pattern.  A text that is no pattern is malformed; a number of rounds can
also be too large. -/
def read (text : String) : Except Fault Pattern := do
  let tokens := Token.ofText text.toList
  let (pattern, _) ← (whole (6 * tokens.length + 6)).run { rest := tokens }
  pure pattern

end Pattern

end DocStore
