import DocStore.Pattern.Basic

/-!
# Matching patterns

A pattern is matched from a spot in a text towards a goal, which stands for what
has to match after it.  The ways of matching are tried in their order, and the
first one that meets the goal counts; so an atomic group or an assertion, whose
goal is met at once, keeps the first way only.
-/

namespace DocStore

/-- A place in a text, with the starts and the ends of the groups so far. -/
structure Spot where
  position : Nat
  starts : List (Nat × Nat) := []
  finishes : List (Nat × Nat) := []
deriving DecidableEq, Repr

/-- What has to match after a pattern. -/
abbrev Goal := Spot → Option Spot

namespace Spot

def record (number position : Nat) (places : List (Nat × Nat)) : List (Nat × Nat) :=
  (number, position) :: places.filter fun place => place.1 != number

/-- Begins a group. -/
def enter (number : Nat) (spot : Spot) : Spot :=
  { spot with starts := record number spot.position spot.starts }

/-- Ends a group. -/
def leave (number : Nat) (spot : Spot) : Spot :=
  { spot with finishes := record number spot.position spot.finishes }

/-- The last match of a group; there is none while the group is matched anew. -/
def captured? (spot : Spot) (number : Nat) : Option (Nat × Nat) := do
  let start ← spot.starts.lookup number
  let finish ← spot.finishes.lookup number
  if start ≤ finish then some (start, finish) else none

end Spot

namespace Pattern

def wordAt (asciiOnly : Bool) (text : Array Nat) (index : Nat) : Bool :=
  match text[index]? with
  | some code => isWordCode asciiOnly code
  | none => false

def atWordBoundary (asciiOnly : Bool) (text : Array Nat) (position : Nat) : Bool :=
  (position != 0 && wordAt asciiOnly text (position - 1)) != wordAt asciiOnly text position

def lineFeedAt (text : Array Nat) (index : Nat) : Bool := text[index]? == some 0x0a

/-- Whether a position is the asked-for place. -/
def holds (text : Array Nat) (position : Nat) : Anchor → Bool
  | .textStart => position == 0
  | .textEnd => position == text.size
  | .lastLine =>
      position == text.size || (position + 1 == text.size && lineFeedAt text position)
  | .lineStart => position == 0 || lineFeedAt text (position - 1)
  | .lineEnd => position == text.size || lineFeedAt text position
  | .wordBoundary asciiOnly => atWordBoundary asciiOnly text position
  | .noWordBoundary asciiOnly => text.size != 0 && !atWordBoundary asciiOnly text position

/-- Tries a way of matching, and another one if it fails. -/
def orElse (first : Option Spot) (second : Unit → Option Spot) : Option Spot :=
  match first with
  | some found => some found
  | none => second ()

def rounds (step : Spot → Goal → Option Spot) : Nat → Spot → Goal → Option Spot
  | 0, spot, goal => goal spot
  | count + 1, spot, goal => step spot fun next => rounds step count next goal

/-- What decides whether another round may begin. -/
structure Turn where
  /-- Rounds that are left, if their number is limited. -/
  left : Option Nat
  /-- Where the last round began, if there was one. -/
  last : Option Nat := none

/-- Whether another round may begin: the last one must have moved on. -/
def Turn.open (turn : Turn) (position : Nat) : Bool :=
  turn.left != some 0 && turn.last != some position

/-- The turn after a round that begins at a position. -/
def Turn.next (turn : Turn) (position : Nat) : Turn :=
  { left := turn.left.map (· - 1), last := some position }

/-- Matches more rounds, as many as possible first. -/
def greedily (step : Spot → Goal → Option Spot) : Nat → Turn → Spot → Goal → Option Spot
  | 0, _, spot, goal => goal spot
  | fuel + 1, turn, spot, goal =>
      if turn.open spot.position then
        orElse
          (step spot fun next => greedily step fuel (turn.next spot.position) next goal)
          fun _ => goal spot
      else goal spot

/-- Matches more rounds, as few as possible first. -/
def reluctantly (step : Spot → Goal → Option Spot) : Nat → Turn → Spot → Goal → Option Spot
  | 0, _, spot, goal => goal spot
  | fuel + 1, turn, spot, goal =>
      orElse (goal spot) fun _ =>
        if turn.open spot.position then
          step spot fun next => reluctantly step fuel (turn.next spot.position) next goal
        else none

/-- Matches more rounds, each in its first way, while there are any. -/
def exhaustively (step : Spot → Option Spot) : Nat → Turn → Spot → Spot
  | 0, _, spot => spot
  | fuel + 1, turn, spot =>
      if turn.open spot.position then
        match step spot with
        | some next => exhaustively step fuel (turn.next spot.position) next
        | none => spot
      else spot

/-- Matches a repetition.  No more rounds than there are places can move on. -/
def repeatedly (size : Nat) (step : Spot → Goal → Option Spot) (eagerness : Eagerness)
    (least : Nat) (most : Option Nat) (spot : Spot) (goal : Goal) : Option Spot :=
  let fuel := size + 2
  let turn : Turn := { left := most.map (· - least) }
  match eagerness with
  | .greedy => rounds step least spot fun next => greedily step fuel turn next goal
  | .reluctant => rounds step least spot fun next => reluctantly step fuel turn next goal
  | .possessive =>
      let first (here : Spot) : Option Spot := step here some
      (rounds (fun here goal => (first here).bind goal) least spot some).bind fun next =>
        goal (exhaustively first fuel turn next)

/-- Whether the characters from two places on are the same, as far as a length. -/
def sameParts (comparison : CharacterComparison) (text : Array Nat)
    (left right length : Nat) : Bool :=
  (List.range length).all fun offset =>
    match text[left + offset]?, text[right + offset]? with
    | some expected, some code => comparison.fold expected == comparison.fold code
    | _, _ => false

def run (text : Array Nat) : Pattern → Spot → Goal → Option Spot
  | empty, spot, goal => goal spot
  | one charClass comparison, spot, goal =>
      match text[spot.position]? with
      | some code =>
          if charClass.contains comparison code then
            goal { spot with position := spot.position + 1 }
          else none
      | none => none
  | anchor place, spot, goal => if holds text spot.position place then goal spot else none
  | sequence first second, spot, goal => run text first spot fun next => run text second next goal
  | either left right, spot, goal =>
      orElse (run text left spot goal) fun _ => run text right spot goal
  | repeated eagerness least most inner, spot, goal =>
      repeatedly text.size (run text inner) eagerness least most spot goal
  | group number inner, spot, goal =>
      run text inner (spot.enter number) fun next => goal (next.leave number)
  | atomic inner, spot, goal => (run text inner spot some).bind goal
  | reference number comparison, spot, goal =>
      match spot.captured? number with
      | some (start, finish) =>
          if sameParts comparison text start spot.position (finish - start) then
            goal { spot with position := spot.position + (finish - start) }
          else none
      | none => none
  | ahead negated inner, spot, goal =>
      match negated, run text inner spot some with
      | false, some found => goal { found with position := spot.position }
      | true, none => goal spot
      | _, _ => none
  | behind negated width inner, spot, goal =>
      let found :=
        if width ≤ spot.position then
          run text inner { spot with position := spot.position - width } some
        else none
      match negated, found with
      | false, some found => goal { found with position := spot.position }
      | true, none => goal spot
      | _, _ => none
  | conditional number left right, spot, goal =>
      if (spot.captured? number).isSome then run text left spot goal
      else run text right spot goal

def occursIn (pattern : Pattern) (content : String) : Bool :=
  let text := (content.toList.map Char.toNat).toArray
  (List.range (text.size + 1)).any fun position => (pattern.run text { position } some).isSome

end Pattern

end DocStore
