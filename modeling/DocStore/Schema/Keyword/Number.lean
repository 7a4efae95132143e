import DocStore.Schema.Keyword.Basic
import DocStore.Schema.Order

/-!
# Keywords on numbers and texts
-/

namespace DocStore

namespace Keyword

/-- Whether a number is a multiple of another one, exactly; a value that is not finite is
a multiple of nothing. -/
def exactMultiple (value divisor : Exact) : Bool :=
  match value, divisor with
  | .ratio top bottom, .ratio divisorTop divisorBottom =>
      let product : Int := bottom * divisorTop
      if product = 0 then false else (top * divisorBottom) % product == 0
  | _, _ => false

def asFloat : Value → Except Fault Float
  | .float number => .ok number
  | .int number => (Double.ofInt? number).elim (.error .outOfRange) .ok
  | .bool flag => .ok (if flag then 1.0 else 0.0)
  | _ => .error .unsuitableKind

/-- The exact value of a number, which must be finite. -/
def finite (value : Value) : Except Fault Exact :=
  match value.exactNumber? with
  | some (.ratio top bottom) => .ok (.ratio top bottom)
  | _ => .error .outOfRange

/-- Whether a number is a multiple of a double: their quotient as a double is an
integer.  Where the quotient is too great for a double, the exact one decides. -/
def isMultipleOfFloat (value : Value) (divisor : Float) : Except Fault Bool := do
  let number ← asFloat value
  if divisor == 0.0 then throw .divisionByZero
  else
    let quotient := number / divisor
    if quotient.isNaN then throw .malformedValue
    else if quotient.isInf then
      let exact ← finite value
      pure (exactMultiple exact (Exact.ofFloat divisor))
    else pure (Double.ofFloat quotient).isIntegral

def isMultipleOfInteger (value : Value) (divisor : Int) : Except Fault Bool :=
  match value with
  | .decimal number => (number.leavesRemainder (.ofInt divisor)).map not
  | .float number => do
      let divisor ← asFloat (.int divisor)
      if divisor == 0.0 then throw .divisionByZero
      else pure (exactMultiple (Exact.ofFloat number) (Exact.ofFloat divisor))
  | .int number =>
      if divisor = 0 then .error .divisionByZero else .ok (number % divisor == 0)
  | _ => .error .unsuitableKind

def isMultiple (value divisor : Value) : Except Fault Bool :=
  match divisor with
  | .float divisor => isMultipleOfFloat value divisor
  | .int divisor => isMultipleOfInteger value divisor
  | .bool flag => isMultipleOfInteger value (if flag then 1 else 0)
  | .decimal divisor =>
      match value with
      | .int number => ((Decimal.ofInt number).leavesRemainder divisor).map not
      | .decimal number => (number.leavesRemainder divisor).map not
      | _ => .error .unsuitableKind
  | _ => .error .unsuitableKind

variable (task : KeywordTask)

/-- Whether a bound itself is outside, which in the early drafts another keyword says. -/
def excludesBound (keyword : String) : Bool :=
  match task.scope.draft with
  | .three => (task.schema.getD keyword).isTruthy
  | .four => (task.schema.getD keyword).isTruthy
  | _ => false

/-- A lower bound that is outside. -/
def aboveMinimum : List Finding :=
  forbid (task.value.isAtMost task.operand)
    (task.value.wording ++ " is less than or equal to the minimum of " ++ task.operand.wording)

/-- An upper bound that is outside. -/
def belowMaximum : List Finding :=
  forbid (task.operand.isAtMost task.value)
    (task.value.wording ++ " is greater than or equal to the maximum of "
      ++ task.operand.wording)

/-- A lower bound. -/
def minimum : List Finding :=
  if excludesBound task "exclusiveMinimum" then aboveMinimum task
  else
    forbid (task.value.isBelow task.operand)
      (task.value.wording ++ " is less than the minimum of " ++ task.operand.wording)

/-- An upper bound. -/
def maximum : List Finding :=
  if excludesBound task "exclusiveMaximum" then belowMaximum task
  else
    forbid (task.operand.isBelow task.value)
      (task.value.wording ++ " is greater than the maximum of " ++ task.operand.wording)

/-- A divisor. -/
def multiples : List Finding :=
  require (isMultiple task.value task.operand)
    (task.value.wording ++ " is not a multiple of " ++ task.operand.plainWording)

/-- A pattern that must occur in a text. -/
def pattern : List Finding :=
  require (occurs task.operand task.value)
    (task.value.wording ++ " does not match " ++ task.operand.wording)

/-- A text that is no pattern is a violation, not a fault. -/
def isPattern (content : String) : Except Fault Bool :=
  match Pattern.read content with
  | .ok _ => .ok true
  | .error .malformedPattern => .ok false
  | .error fault => .error fault

/-- The format of a text; only that of patterns is checked. -/
def format (content : String) : List Finding :=
  if task.scope.formats && task.operand.equal (.text "regex") then
    require (isPattern content) (task.value.wording ++ " is not a 'regex'")
  else []

def onNumber (name : String) : List Finding :=
  match name with
  | "minimum" => minimum task
  | "maximum" => maximum task
  | "exclusiveMinimum" => aboveMinimum task
  | "exclusiveMaximum" => belowMaximum task
  | "multipleOf" => multiples task
  | "divisibleBy" => multiples task
  | _ => []

def onText (name content : String) : List Finding :=
  match name with
  | "minLength" => atLeast task content.length " is too short"
  | "maxLength" => atMost task content.length " is too long"
  | "pattern" => pattern task
  | "format" => format task content
  | _ => []

end Keyword

end DocStore
