import DocStore.Error
import DocStore.Text.Character
import DocStore.Text.LetterCase

/-!
# Isolation levels

A level is given by its name in any letter case, with blanks or underscores
between its words.
-/

namespace DocStore

inductive IsolationLevel where
  | readUncommitted
  | readCommitted
  | repeatableRead
  | serializable
deriving DecidableEq, Repr

namespace IsolationLevel

def name : IsolationLevel → String
  | readUncommitted => "READ UNCOMMITTED"
  | readCommitted => "READ COMMITTED"
  | repeatableRead => "REPEATABLE READ"
  | serializable => "SERIALIZABLE"

def all : List IsolationLevel :=
  [.readUncommitted, .readCommitted, .repeatableRead, .serializable]

/-- The words of a text in upper case, with one blank between them. -/
def normalized (text : String) : String :=
  let spaced := text.toList.map fun character => if character = '_' then ' ' else character
  String.intercalate " " ((blankWords (spaced.flatMap asciiUppercase)).map String.ofList)

def read (text : String) : Except StoreError IsolationLevel :=
  match all.find? fun level => level.name == normalized text with
  | some level => .ok level
  | none =>
      .error (.transaction ("Unsupported isolation level: '" ++ text ++ "'.")
        "INVALID_ISOLATION_LEVEL")

def read? : Option String → Except StoreError (Option IsolationLevel)
  | none => .ok none
  | some text => (read text).map some

end IsolationLevel

end DocStore
