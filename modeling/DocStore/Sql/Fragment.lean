import DocStore.Value

/-!
# SQL fragments

A fragment is a list of pieces: fixed text, quoted user text, and bound
parameters.  The text of a statement and the list of its parameters are both
read off the same pieces, so they cannot drift apart.  Statement texts go
through percent formatting in the engine's native layer; quoted user text
therefore doubles its percent signs.
-/

namespace DocStore

/-- The two engines. -/
inductive Dialect where
  | postgres
  | mysql
deriving DecidableEq, Repr

def Dialect.name : Dialect → String
  | .postgres => "postgres"
  | .mysql => "mysql"

def Dialect.identifierQuote : Dialect → Char
  | .postgres => '"'
  | .mysql => '`'

namespace Sql

/-- A piece of SQL text. -/
inductive Piece where
  /-- Text that the library itself writes. -/
  | raw (content : String)
  /-- A string literal with the given content. -/
  | literal (content : String)
  /-- A quoted identifier. -/
  | identifier (name : String)
  /-- A bound value. -/
  | parameter (value : Value)
  /-- A bound JSON text, read by the engine as a JSON value. -/
  | document (json : String)

abbrev Fragment := List Piece

/-- One character of quoted text: the quote and the percent sign are doubled. -/
def doubleCharacter (quote character : Char) : List Char :=
  if character = quote ∨ character = '%' then [character, character] else [character]

/-- User text between quotes. -/
def enclose (quote : Char) (content : String) : String :=
  String.ofList (quote :: (content.toList.flatMap (doubleCharacter quote) ++ [quote]))

def literalText (content : String) : String := enclose '\'' content

def identifierText (dialect : Dialect) (name : String) : String :=
  enclose dialect.identifierQuote name

/-- The mark that stands for a bound value. -/
def placeholder : String := "%s"

/-- The mark that stands for a bound JSON text. -/
def documentPlaceholder : Dialect → String
  | .postgres => placeholder ++ "::jsonb"
  | .mysql => "CAST(" ++ placeholder ++ " AS JSON)"

/-- The text of one piece; `mark` stands for bound values. -/
def Piece.render (dialect : Dialect) (mark : String) : Piece → String
  | .raw content => content
  | .literal content => literalText content
  | .identifier name => identifierText dialect name
  | .parameter _ => mark
  | .document _ => documentPlaceholder dialect

def Piece.bound? : Piece → Option Value
  | .parameter value => some value
  | .document json => some (.text json)
  | _ => none

namespace Fragment

/-- The text of a fragment with a chosen mark for bound values. -/
def renderWith (dialect : Dialect) (mark : String) (fragment : Fragment) : String :=
  String.join (fragment.map (Piece.render dialect mark))

def render (dialect : Dialect) (fragment : Fragment) : String :=
  renderWith dialect placeholder fragment

/-- The values that a fragment binds, in text order. -/
def params (fragment : Fragment) : List Value := fragment.filterMap Piece.bound?

theorem render_append (dialect : Dialect) (left right : Fragment) :
    render dialect (left ++ right) = render dialect left ++ render dialect right := by
  simp [render, renderWith]

@[simp] theorem params_nil : params [] = [] := rfl

theorem params_cons (piece : Piece) (fragment : Fragment) :
    params (piece :: fragment) = piece.bound?.toList ++ params fragment := by
  unfold params
  cases bound : piece.bound? <;> simp [bound]

theorem params_append (left right : Fragment) :
    params (left ++ right) = params left ++ params right := by
  simp [params]

def parenthesised (fragment : Fragment) : Fragment :=
  .raw "(" :: (fragment ++ [.raw ")"])

def joined (separator : String) : List Fragment → Fragment
  | [] => []
  | [last] => last
  | first :: rest => first ++ .raw separator :: joined separator rest

@[simp] theorem params_parenthesised (fragment : Fragment) :
    params (parenthesised fragment) = params fragment := by
  simp [parenthesised, params_cons, params_append, Piece.bound?]

/-- A separator binds nothing. -/
theorem params_joined (separator : String) (fragments : List Fragment) :
    params (joined separator fragments) = (fragments.map params).flatten := by
  induction fragments with
  | nil => rfl
  | cons first rest ih =>
      cases rest with
      | nil => simp [joined, params]
      | cons second rest =>
          rw [joined, params_append, params_cons, ih]
          · simp [Piece.bound?]
          · simp

end Fragment

end Sql

end DocStore
