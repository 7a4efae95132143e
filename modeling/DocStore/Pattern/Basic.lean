import DocStore.Pattern.CharacterClass

/-!
# Patterns of texts

Regular expressions with captures, back-references and assertions, the lengths that
their matches can have, and the tokens of their written form.
-/

namespace DocStore

/-- Places between characters that a pattern may ask for. -/
inductive Anchor where
  | textStart
  | textEnd
  /-- The end of the text, or the place before a line feed that ends it. -/
  | lastLine
  | lineStart
  | lineEnd
  | wordBoundary (asciiOnly : Bool)
  | noWordBoundary (asciiOnly : Bool)
deriving DecidableEq, Repr

/-- In which order a repetition tries its numbers of rounds. -/
inductive Eagerness where
  /-- As many rounds as possible first. -/
  | greedy
  /-- As few rounds as possible first. -/
  | reluctant
  /-- As many rounds as possible, and no other number. -/
  | possessive
deriving DecidableEq, Repr

inductive Pattern where
  | empty
  | one (charClass : CharacterClass) (comparison : CharacterComparison)
  | anchor (anchor : Anchor)
  | sequence (first second : Pattern)
  | either (left right : Pattern)
  | repeated (eagerness : Eagerness) (least : Nat) (most : Option Nat) (inner : Pattern)
  | group (number : Nat) (inner : Pattern)
  /-- Only the first match of the inner pattern counts. -/
  | atomic (inner : Pattern)
  | reference (number : Nat) (comparison : CharacterComparison)
  | ahead (negated : Bool) (inner : Pattern)
  | behind (negated : Bool) (width : Nat) (inner : Pattern)
  /-- The left pattern if a group has matched, and otherwise the right one. -/
  | conditional (number : Nat) (left right : Pattern)
deriving DecidableEq, Repr

/-- The least and the greatest length of a match. -/
structure Width where
  least : Nat := 0
  /-- Without a greatest length matches can be arbitrarily long. -/
  most : Option Nat := some 0
deriving DecidableEq, Repr

namespace Width

/-- The lengths of two matches in a row. -/
def append (first second : Width) : Width :=
  { least := first.least + second.least
    most := do pure ((← first.most) + (← second.most)) }

/-- The lengths of a match of one of two patterns. -/
def either (left right : Width) : Width :=
  { least := min left.least right.least
    most := do pure (max (← left.most) (← right.most)) }

/-- The lengths of matches in a row, between two numbers of them. -/
def rounds (width : Width) (least : Nat) (most : Option Nat) : Width :=
  { least := width.least * least
    most :=
      if width.most = some 0 ∨ most = some 0 then some 0
      else do pure ((← width.most) * (← most)) }

end Width

/-- The lengths that matches of a pattern can have, with the lengths of the groups
that it refers to. -/
def Pattern.width (groups : Nat → Width) : Pattern → Width
  | empty => {}
  | one .. => { least := 1, most := some 1 }
  | anchor _ => {}
  | sequence first second => (first.width groups).append (second.width groups)
  | either left right => (left.width groups).either (right.width groups)
  | repeated _ least most inner => (inner.width groups).rounds least most
  | group _ inner => inner.width groups
  | atomic inner => inner.width groups
  | reference number _ => groups number
  | ahead .. => {}
  | behind .. => {}
  | conditional _ left right => (left.width groups).either (right.width groups)

/-! ## Tokens of written patterns

The written form of a pattern is read one token at a time: a character, or a
backslash together with the character after it.
-/

namespace Pattern

/-- A unit of the written form of a pattern. -/
inductive Token where
  | plain (character : Char)
  | escaped (character : Char)
  /-- A backslash at the end of the text. -/
  | dangling
deriving DecidableEq, Repr

namespace Token

def ofText : List Char → List Token
  | [] => []
  | ['\\'] => [.dangling]
  | '\\' :: character :: rest => .escaped character :: ofText rest
  | character :: rest => .plain character :: ofText rest

def text : Token → List Char
  | .plain character => [character]
  | .escaped character => ['\\', character]
  | .dangling => ['\\']

/-- Tokens write the text that they were read from. -/
theorem flatMap_text_ofText (characters : List Char) :
    (ofText characters).flatMap text = characters := by
  fun_induction ofText characters <;> simp_all [text]

end Token

end Pattern

end DocStore
