import DocStore.Value.Equality

/-!
# Equality and order of JSON values

The equality of schemas: numbers are equal across their kinds, truth values are equal to
truth values only, at any depth, and a byte string is equal to the list of its bytes.

Numbers, texts, byte strings and lists have an order, each among themselves.  Whether the
elements of a list are distinct is found by putting equal elements beside each other,
as far as they have an order.
-/

namespace DocStore

/-- Equality of two values that are no containers and no byte strings. -/
def Value.compareJsonAtoms : Value → Value → Except Fault Bool
  | .bool left, .bool right => .ok (left == right)
  | .bool _, _ => .ok false
  | _, .bool _ => .ok false
  | left, right => left.compareScalars right

/-- Equality of two lists of values of which one has no containers. -/
def Value.compareJsonRows : List Value → List Value → Except Fault Bool
  | [], [] => .ok true
  | left :: lefts, right :: rights => do
      let same ← left.compareJsonAtoms right
      if same then compareJsonRows lefts rights else pure false
  | _, _ => .ok false

/-- Equality of two values that are not both lists or both objects. -/
def Value.compareJsonScalars (left right : Value) : Except Fault Bool :=
  match left.sequence?, right.sequence? with
  | some lefts, some rights =>
      if lefts.length = rights.length then Value.compareJsonRows lefts rights else .ok false
  | _, _ => left.compareJsonAtoms right

def Value.compareJson (left right : Value) : Except Fault Bool :=
  Value.compareBy Value.compareJsonScalars left right

/-- Two numbers to be compared.  A decimal has no order with a value that is not a
number. -/
def Value.numbers (left right : Value) : Except Fault (Exact × Exact) :=
  match left.exactNumber?, right.exactNumber? with
  | some leftNumber, some rightNumber =>
      let undefined := leftNumber matches .undefined || rightNumber matches .undefined
      if undefined && (left.kind = .decimal || right.kind = .decimal) then
        .error .undefinedDecimal
      else .ok (leftNumber, rightNumber)
  | _, _ => .error .unsuitableKind

/-- Whether a number is below another one. -/
def Value.isBelow (left right : Value) : Except Fault Bool :=
  (left.numbers right).map fun numbers => numbers.1.less numbers.2

/-- Whether a number is not above another one. -/
def Value.isAtMost (left right : Value) : Except Fault Bool :=
  (left.numbers right).map fun numbers =>
    numbers.1.less numbers.2 || numbers.1.equal numbers.2

mutual

def Value.less : Value → Value → Except Fault Bool
  | .text left, .text right => .ok (left < right)
  | .bytes left, .bytes right => .ok (left < right)
  | .list left, .list right => Value.lessLists left right
  | left, right => left.isBelow right

/-- The order of lists: that of the first elements that differ. -/
def Value.lessLists : List Value → List Value → Except Fault Bool
  | [], [] => .ok false
  | [], _ :: _ => .ok true
  | _ :: _, [] => .ok false
  | left :: lefts, right :: rights => do
      let same ← left.compare right
      if same then Value.lessLists lefts rights else left.less right

end

namespace Distinct

/-- The order by which elements are put beside each other; truth values have none. -/
def less (left right : Value) : Except Fault Bool :=
  if left.kind = .bool ∨ right.kind = .bool then .error .unsuitableKind else left.less right

/-- Splits off the elements that go on as a run began: each one below the one before, or
none of them. -/
def takeRun (falling : Bool) (last : Value) :
    List Value → Except Fault (List Value × List Value)
  | [] => .ok ([], [])
  | item :: items => do
      let below ← less item last
      if below = falling then
        let (run, rest) ← takeRun falling item items
        pure (item :: run, rest)
      else pure ([], item :: items)

/-- The position of an element in a sorted list, after all that are not above it, found
by halving the range of positions. -/
def position (sorted : List Value) (item : Value) : Nat → Nat → Nat → Except Fault Nat
  | 0, low, _ => .ok low
  | fuel + 1, low, high =>
      if low < high then
        let middle := low + (high - low) / 2
        match sorted[middle]? with
        | none => .ok low
        | some other => do
            let below ← less item other
            if below then position sorted item fuel low middle
            else position sorted item fuel (middle + 1) high
      else .ok low

def insert (sorted : List Value) (item : Value) : Except Fault (List Value) := do
  let place ← position sorted item (sorted.length + 1) 0 sorted.length
  pure (sorted.take place ++ item :: sorted.drop place)

/-- Sorts a list: its first run is taken as it is, or turned around if it falls, and
every other element is inserted. -/
def sort : List Value → Except Fault (List Value)
  | first :: second :: items => do
      let falling ← less second first
      let (run, rest) ← takeRun falling second items
      let run := first :: second :: run
      rest.foldlM insert (if falling then run.reverse else run)
  | items => .ok items

def hasEqualNeighbours : List Value → Except Fault Bool
  | first :: second :: items => do
      let same ← first.compareJson second
      if same then pure true else hasEqualNeighbours (second :: items)
  | _ => .ok false

/-- Whether a list has two equal elements; `seen` are the elements before it. -/
def hasEqualPair (seen : List Value) : List Value → Except Fault Bool
  | [] => .ok false
  | item :: items => do
      let same ← seen.anyM fun other => other.compareJson item
      if same then pure true else hasEqualPair (seen ++ [item]) items

end Distinct

/-- Whether no two elements of a list are equal.  Where elements have no order, all pairs
are compared. -/
def areDistinct (items : List Value) : Except Fault Bool :=
  match Distinct.sort items with
  | .ok sorted => (Distinct.hasEqualNeighbours sorted).map not
  | .error .unsuitableKind => (Distinct.hasEqualPair [] items).map not
  | .error fault => .error fault

end DocStore
