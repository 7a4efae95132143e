import DocStore.Options.Issue
import DocStore.Text.Encoding

/-!
# Checks of option data

A check reads a value of an option from dynamic data.  How a plain value is read is left
to a library; the usual one is lenient where the meaning is plain: a numeral stands for its
number, an integral double for an integer, and a word such as `yes` for a truth value.
Checks of several fields report the issues of all of them.
-/

namespace DocStore

/-- Replaces the entry of a name where it stands, or adds it at the end. -/
def Table.set {α : Type} (name : String) (value : α) : List (String × α) → List (String × α)
  | [] => [(name, value)]
  | (known, old) :: table =>
      if known = name then (name, value) :: table else (known, old) :: Table.set name value table

inductive Checked (α : Type) where
  | accepted (value : α)
  | rejected (issues : List Issue)

namespace Checked

variable {α β : Type}

def map (function : α → β) : Checked α → Checked β
  | accepted value => accepted (function value)
  | rejected issues => rejected issues

/-- Combines two outcomes; the issues of both sides are kept, in order. -/
def both : Checked (α → β) → Checked α → Checked β
  | accepted function, accepted value => accepted (function value)
  | accepted _, rejected issues => rejected issues
  | rejected issues, accepted _ => rejected issues
  | rejected first, rejected second => rejected (first ++ second)

instance : Functor Checked := ⟨map, fun value => map fun _ => value⟩

instance : Applicative Checked where
  pure := accepted
  seq function value := both function (value ())

/-- Continues with an accepted value. -/
def andThen (outcome : Checked α) (next : α → Checked β) : Checked β :=
  match outcome with
  | accepted value => next value
  | rejected issues => rejected issues

/-- Rejects a value for one reason. -/
def reject (place : Place) (kind : IssueKind) : Checked α := rejected [{ place, kind }]

def all : List (Checked α) → Checked (List α)
  | [] => accepted []
  | outcome :: outcomes => both (map List.cons outcome) (all outcomes)

/-- The outcome as a result or a report on a kind of record. -/
def report (record : String) : Checked α → Except IssueReport α
  | accepted value => .ok value
  | rejected issues => .error { record, issues }

end Checked

/-- How values of plain types are read.  A value of the wanted type stands for itself. -/
structure ScalarReader where
  integer : Value → Except IssueKind Int
  number : Value → Except IssueKind Float
  truth : Value → Except IssueKind Bool
  text : Value → Except IssueKind String
  integer_int : ∀ whole, integer (.int whole) = .ok whole
  number_float : ∀ double, number (.float double) = .ok double
  truth_bool : ∀ flag, truth (.bool flag) = .ok flag
  text_text : ∀ content, text (.text content) = .ok content

/-! ## Lenient readings -/

namespace ScalarReader

/-- What a JSON integer amounts to. -/
inductive IntegerReading where
  | value (number : Int)
  | oversized
  | malformed

/-- Reads an integer as JSON writes one: no padding, no plus sign and no leading
zeros.  A sign and digits that are too many are told apart from other texts. -/
def integerOfJson (text : List Char) : IntegerReading :=
  let (negative, unsigned) := match text with
    | '-' :: rest => (true, rest)
    | rest => (false, rest)
  let digits := unsigned.takeWhile Char.isDigit
  match digits with
  | [] => .malformed
  | '0' :: _ => if unsigned.length = 1 then .value 0 else .malformed
  | _ :: _ =>
      if longestNumeral < digits.length + (if negative then 1 else 0) then .oversized
      else if digits.length < unsigned.length then .malformed
      else
        let magnitude := Int.ofNat (Decimal.natOfDigits digits)
        .value (if negative then -magnitude else magnitude)

/-- Goes on with leading zeros, of which `last` is the last character before the
text at hand.  A point keeps the zero before it, and a text of nothing but zeros keeps
its last character. -/
def afterZeros? (last : Char) : List Char → Option (List Char)
  | [] => some [last]
  | character :: rest =>
      if character = '0' ∨ character = '_' then afterZeros? character rest
      else if character.isDigit ∨ character = '-' then some (character :: rest)
      else if character = '.' then some (last :: character :: rest)
      else none

/-- A numeral without its leading zeros, among which underscores may stand. -/
def dropLeadingZeros? : List Char → Option (List Char)
  | '0' :: rest => afterZeros? '0' rest
  | character :: rest =>
      if character.isDigit ∨ character = '-' then some (character :: rest) else none
  | [] => none

/-- A numeral without a fraction of zeros only, of which there is one at least. -/
def dropZeroFraction (text : List Char) : List Char :=
  match text.dropWhile (· != '.') with
  | '.' :: fraction =>
      if !fraction.isEmpty && fraction.all (· == '0') then text.takeWhile (· != '.') else text
  | _ => text

/-- A numeral without the underscores between its characters. -/
def dropGroups (text : List Char) : List Char := (joinGroups? text).getD text

/-- A lenient numeral as JSON would write it, if it has such a form. -/
def plainInteger? (text : List Char) : Option (List Char) :=
  let unpadded := trimPadding text
  let unsigned := match unpadded with
    | '+' :: '-' :: _ => none
    | '+' :: rest => some rest
    | rest => some rest
  (unsigned.bind dropLeadingZeros?).map fun digits => dropGroups (dropZeroFraction digits)

/-- Reads an integer from text: as JSON writes it, or else in a lenient form. -/
def integerOfText (text : String) : Except IssueKind Int :=
  match integerOfJson text.toList with
  | .value number => .ok number
  | .oversized => .error .oversizedInteger
  | .malformed =>
      match (plainInteger? text.toList).map integerOfJson with
      | some (.value number) => .ok number
      | some .oversized => .error .oversizedInteger
      | _ => .error .malformedInteger

/-- Reads an integer from a double. -/
def integerOfFloat (number : Float) : Except IssueKind Int :=
  let double := Double.ofFloat number
  match double.truncate? with
  | none => .error .infiniteInteger
  | some whole =>
      if !double.isIntegral then .error .fractionalInteger
      else if whole.natAbs < Nat.pow 2 63 then .ok whole
      else .error .oversizedInteger

/-- The text of a byte string, which is read wherever text is read. -/
def textOfBytes (content : List UInt8) (malformed : IssueKind) : Except IssueKind String :=
  match Utf8.decode? content with
  | some characters => .ok (String.ofList characters)
  | none => .error malformed

def integerOf : Value → Except IssueKind Int
  | .int number => .ok number
  | .bool flag => .ok (if flag then 1 else 0)
  | .float number => integerOfFloat number
  | .text content => integerOfText content
  | .bytes content => (textOfBytes content .malformedInteger).bind integerOfText
  | .decimal number =>
      if number.isIntegral then number.truncate?.elim (.error .infiniteInteger) .ok
      else
        match number with
        | .finite .. => .error .fractionalInteger
        | _ => .error .infiniteInteger
  | _ => .error .notInteger

/-- Reads a decimal numeral or the name of a value that is not finite, without
padding. -/
def plainFloat? (text : List Char) : Option Float :=
  match Decimal.read? (String.ofList text) with
  | some (.nan _ false []) =>
      if text.any Char.isDigit then none else some Double.nanFloat
  | some (.nan ..) => none
  | some number => some number.toFloat
  | none => none

/-- Reads a double from text: with padding around it, or with underscores between its
characters. -/
def floatOfText (text : String) : Except IssueKind Float :=
  match (plainFloat? (trimPadding text.toList)).orElse fun _ =>
      (joinGroups? text.toList).bind plainFloat? with
  | some number => .ok number
  | none => .error .malformedNumber

/-- Reads a double. -/
def floatOf : Value → Except IssueKind Float
  | .float number => .ok number
  | .int number => (Double.ofInt? number).elim (.error .notNumber) .ok
  | .bool flag => .ok (if flag then 1.0 else 0.0)
  | .text content => floatOfText content
  | .bytes content => (textOfBytes content .malformedNumber).bind floatOfText
  | .decimal (.nan _ true _) => .error .notNumber
  | .decimal number => .ok number.toFloat
  | _ => .error .notNumber

def trueWords : List String := ["1", "true", "t", "yes", "y", "on"]

def falseWords : List String := ["0", "false", "f", "no", "n", "off"]

/-- Reads a truth value from a word in any letter case. -/
def truthOfText (text : String) : Except IssueKind Bool :=
  let word := text.toLower
  if trueWords.contains word then .ok true
  else if falseWords.contains word then .ok false
  else .error .malformedTruthValue

/-- Reads a truth value from a number: zero, one, or a small integer that is neither. -/
def truthOfFloat (number : Float) : Except IssueKind Bool :=
  match integerOfFloat number with
  | .ok 0 => .ok false
  | .ok 1 => .ok true
  | .ok _ => .error .malformedTruthValue
  | .error _ => .error .notTruthValue

def truthOf : Value → Except IssueKind Bool
  | .bool flag => .ok flag
  | .int 0 => .ok false
  | .int 1 => .ok true
  | .int number =>
      if isSmallInteger number then .error .malformedTruthValue
      else .error .notTruthValue
  | .float number => truthOfFloat number
  | .decimal (.nan ..) => .error .notTruthValue
  | .decimal number => truthOfFloat number.toFloat
  | .text content => truthOfText content
  | .bytes content => (textOfBytes content .malformedTruthValue).bind truthOfText
  | _ => .error .notTruthValue

def textOf : Value → Except IssueKind String
  | .text content => .ok content
  | .bytes content => textOfBytes content .malformedText
  | _ => .error .notText

/-- Reads values of other types where the meaning is plain. -/
def lenient : ScalarReader :=
  { integer := integerOf
    number := floatOf
    truth := truthOf
    text := textOf
    integer_int := fun _ => rfl
    number_float := fun _ => rfl
    truth_bool := fun _ => rfl
    text_text := fun _ => rfl }

end ScalarReader

/-! ## Checks of single values -/

abbrev Check (α : Type) := ScalarReader → Place → Value → Checked α

namespace Check

def ofReading {α : Type} (reading : ScalarReader → Value → Except IssueKind α) : Check α :=
  fun scalars place value =>
    match reading scalars value with
    | .ok result => .accepted result
    | .error kind => .reject place kind

def integer : Check Int := ofReading ScalarReader.integer

def number : Check Float := ofReading ScalarReader.number

def truth : Check Bool := ofReading ScalarReader.truth

def text : Check String := ofReading ScalarReader.text

def integerFrom (bound : Int) : Check Int := fun scalars place value =>
  (integer scalars place value).andThen fun number =>
    if bound ≤ number then .accepted number else .reject place (.belowLeast bound)

def naturalFrom (bound : Nat) : Check Nat := fun scalars place value =>
  (integerFrom bound scalars place value).map Int.toNat

/-- A double that is not below a bound. -/
def numberFrom (bound : Nat) : Check Float := fun scalars place value =>
  (number scalars place value).andThen fun number =>
    if Float.ofNat bound ≤ number then .accepted number
    else .reject place (.belowLeast bound)

def numberAbove (bound : Nat) : Check Float := fun scalars place value =>
  (number scalars place value).andThen fun number =>
    if Float.ofNat bound < number then .accepted number
    else .reject place (.notAbove bound)

def anything : Check Value := fun _ _ value => .accepted value

def nullable {α : Type} (check : Check α) : Check (Option α) := fun scalars place value =>
  match value with
  | .null => .accepted none
  | value => (check scalars place value).map some

/-- One member of a table: a key that is a text, and a value that passes a check. -/
def entry {α : Type} (check : Check α) (scalars : ScalarReader) (place : Place)
    (member : Key × Value) : Checked (String × α) :=
  let below := place ++ [.key member.1]
  .both ((text scalars (below ++ [.keyItself]) member.1.toValue).map Prod.mk)
    (check scalars below member.2)

/-- A table whose values all pass a check.  Keys that are read as one text count once:
the last value stands at the first place. -/
def table {α : Type} (check : Check α) : Check (List (String × α)) := fun scalars place value =>
  match value with
  | .object members =>
      (Checked.all (members.map (entry check scalars place))).map fun entries =>
        entries.foldl (fun table item => Table.set item.1 item.2 table) []
  | _ => .reject place .notTable

def object (check : Check Value) : Check Members := fun scalars place value =>
  (table check scalars place value).map fun entries =>
    entries.map fun entry => (.text entry.1, entry.2)

/-- A list whose elements all pass a check. -/
def list {α : Type} (check : Check α) : Check (List α) := fun scalars place value =>
  match value with
  | .list items =>
      .all (items.mapIdx fun position item => check scalars (place ++ [.index position]) item)
  | _ => .reject place .notList

/-- One of a few names. -/
def choice {α : Type} (choices : List (String × α)) : Check α := fun _ place value =>
  let rejected := Checked.reject place
    (.outsideChoices (choices.map fun choice => Display.quoted choice.1))
  match value with
  | .text name =>
      match choices.find? fun choice => choice.1 == name with
      | some choice => .accepted choice.2
      | none => rejected
  | _ => rejected

end Check

/-! ## Checks of records -/

abbrev FieldCheck (α : Type) := ScalarReader → Place → Members → Checked α

namespace FieldCheck

variable {α : Type}

def required (name : String) (check : Check α) : FieldCheck α := fun scalars place members =>
  match members.get? name with
  | some value => check scalars (place ++ [.key name]) value
  | none => .reject (place ++ [.key name]) .missing

def withDefault (name : String) (default : α) (check : Check α) : FieldCheck α :=
  fun scalars place members =>
    match members.get? name with
    | some value => check scalars (place ++ [.key name]) value
    | none => .accepted default

def onlyKnown (known : List String) : FieldCheck Unit := fun _ place members =>
  match (members.filter fun member => !(known.map Key.text).contains member.1).map fun member =>
      ({ place := place ++ [.key member.1], kind := .unknownField } : Issue) with
  | [] => .accepted ()
  | issues => .rejected issues

/-- A record, whose data must be an object. -/
def toCheck (record : String) (fields : FieldCheck α) : Check α := fun scalars place value =>
  match value with
  | .object members => fields scalars place members
  | _ => .reject place (.notRecord record)

/-- A record without further fields. -/
def closed (known : List String) (fields : FieldCheck α) : FieldCheck α :=
  fun scalars place members =>
    .both ((fields scalars place members).map fun value _ => value)
      (onlyKnown known scalars place members)

end FieldCheck

end DocStore
