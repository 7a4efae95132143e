import DocStore.Text.Character
import DocStore.Text.LetterCase

/-!
# Character classes

The classes that patterns are made of, and how a character is compared with them:
the named classes cover all scripts or ASCII only, and letter case may be ignored.
Characters are given by their codes, so that a class may also list codes that are
no characters.
-/

namespace DocStore

structure CharacterComparison where
  /-- Whether the named classes and the letter case know ASCII only. -/
  asciiOnly : Bool := false
  ignoreCase : Bool := false
deriving DecidableEq, Repr

inductive CharacterClass where
  | single (code : Nat)
  /-- One of several characters that a class lists. -/
  | listed (code : Nat)
  | range (first last : Nat)
  | digit
  | blank
  | word
  | outside (inner : CharacterClass)
  | union (left right : CharacterClass)
  | nothing
deriving DecidableEq, Repr

/-- A letter, a digit or an underscore of any script. -/
def isWordCharacter (character : Char) : Bool :=
  isAlphanumeric character || character == '_'

/-- Whether a class of characters holds a code; without other scripts it holds ASCII
characters only. -/
def inScripts (asciiOnly : Bool) (holds : Char → Bool) (code : Nat) : Bool :=
  (!asciiOnly || code < 128) && holds (Char.ofNat code)

def isDigitCode (asciiOnly : Bool) (code : Nat) : Bool :=
  inScripts asciiOnly (fun character => (digitValue? character).isSome) code

/-- Whether a code is one of a blank; the information separators are blanks only
among all scripts. -/
def isBlankCode (asciiOnly : Bool) (code : Nat) : Bool :=
  inScripts asciiOnly isBlank code && !(asciiOnly && 0x1c ≤ code && code ≤ 0x1f)

def isWordCode (asciiOnly : Bool) (code : Nat) : Bool :=
  inScripts asciiOnly isWordCharacter code

namespace CharacterComparison

/-- The form in which letters are compared. -/
def fold (comparison : CharacterComparison) (code : Nat) : Nat :=
  if !comparison.ignoreCase then code
  else if comparison.asciiOnly then asciiLowerCode code
  else lowerCode code

def same (comparison : CharacterComparison) (expected code : Nat) : Bool :=
  let form := comparison.fold expected
  if comparison.ignoreCase && !comparison.asciiOnly then
    (caseFamily form).contains (comparison.fold code)
  else form == comparison.fold code

/-- Whether a character is one that a class lists.  Characters beyond the first plane
are listed in the form in which they are compared. -/
def lists (comparison : CharacterComparison) (expected code : Nat) : Bool :=
  if comparison.ignoreCase && 0xffff < expected then comparison.fold code == expected
  else comparison.same expected code

/-- The characters in whose stead a character may lie in a range.  Beyond the first
plane letter case always knows all scripts. -/
def variants (comparison : CharacterComparison) (code : Nat) : List Nat :=
  let form := comparison.fold code
  if !comparison.ignoreCase then [code]
  else if comparison.asciiOnly then
    form :: asciiUpperCode form :: (lowerSources form).filter (0xffff < ·)
  else (caseFamily form).flatMap fun member => member :: lowerSources member

/-- Whether a character lies in a range. -/
def reaches (comparison : CharacterComparison) (first last code : Nat) : Bool :=
  (comparison.variants code).any fun variant => first ≤ variant && variant ≤ last

end CharacterComparison

def CharacterClass.contains (comparison : CharacterComparison) : CharacterClass → Nat → Bool
  | single expected, code => comparison.same expected code
  | listed expected, code => comparison.lists expected code
  | range first last, code => comparison.reaches first last code
  | digit, code => isDigitCode comparison.asciiOnly code
  | blank, code => isBlankCode comparison.asciiOnly code
  | word, code => isWordCode comparison.asciiOnly code
  | outside inner, code => !inner.contains comparison code
  | union left right, code => left.contains comparison code || right.contains comparison code
  | nothing, _ => false

end DocStore
