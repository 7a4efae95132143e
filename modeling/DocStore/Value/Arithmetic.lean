import DocStore.Value

/-!
# Sums of values

Numbers are added exactly where both are integers, as doubles where one is a double, and
as decimals otherwise; truth values count as zero and one.  Texts, bytes and lists are
joined.
-/

namespace DocStore

namespace Value

def asInteger? : Value → Option Int
  | .bool flag => some (if flag then 1 else 0)
  | .int number => some number
  | _ => none

/-- An integer, a truth value or a decimal, as a decimal. -/
def asDecimal? : Value → Option Decimal
  | .decimal number => some number
  | value => value.asInteger?.map .ofInt

/-- A double plus an integer, which must lie in the range of doubles. -/
def addToFloat (number : Float) (amount : Int) : Except Fault Value :=
  match Double.ofInt? amount with
  | some amount => .ok (.float (number + amount))
  | none => .error .outOfRange

/-- Addition as an increment does it: integers exactly, a double with an integer as
doubles, a decimal with an integer as decimals, texts, bytes and lists by joining
them. -/
def add (left right : Value) : Except Fault Value :=
  match left, right with
  | .float left, .float right => .ok (.float (left + right))
  | .text left, .text right => .ok (.text (left ++ right))
  | .bytes left, .bytes right => .ok (.bytes (left ++ right))
  | .list left, .list right => .ok (.list (left ++ right))
  | .float left, right =>
      match right.asInteger? with
      | some amount => addToFloat left amount
      | none => .error .unsuitableKind
  | left, .float right =>
      match left.asInteger? with
      | some amount => addToFloat right amount
      | none => .error .unsuitableKind
  | .decimal left, right =>
      match right.asDecimal? with
      | some right => (left.add right).map .decimal
      | none => .error .unsuitableKind
  | left, .decimal right =>
      match left.asInteger? with
      | some left => (right.add (.ofInt left)).map .decimal
      | none => .error .unsuitableKind
  | left, right =>
      match left.asInteger?, right.asInteger? with
      | some left, some right => .ok (.int (left + right))
      | _, _ => .error .unsuitableKind

/-- An integer or a truth value where a number of things is asked for; numbers of other
kinds are refused. -/
def asCount (value : Value) : Except Fault Nat :=
  value.asInteger?.elim (.error .unsuitableKind) fun number => .ok number.toNat

end Value

end DocStore
