import DocStore.Text.Cut
import DocStore.Text.Character

/-!
# Hosts in addresses

A host may be written in brackets: an address of eight groups of hexadecimal digits, of
which a run of zeros may be left out and the last two may be written as four numbers, or
an address of a later version.
-/

namespace DocStore

namespace Host

/-- One of the four numbers at the end of an address, without leading zeros. -/
def isOctet (text : List Char) : Bool :=
  text.all Char.isDigit && !text.isEmpty && text.length ≤ 3
    && (text = ['0'] || text.head? != some '0')
    && text.foldl (fun total digit => total * 10 + (digit.toNat - '0'.toNat)) 0 ≤ 255

/-- Four numbers with points between them. -/
def isQuad (text : List Char) : Bool :=
  let octets := cutAt '.' text
  octets.length = 4 && octets.all isOctet

/-- A group of hexadecimal digits. -/
def isGroup (text : List Char) : Bool :=
  !text.isEmpty && text.length ≤ 4 && text.all fun character => (hexValue? character).isSome

/-- The groups of an address, the four numbers at its end standing for two groups. -/
def groups? (text : List Char) : Option (List (List Char)) :=
  let parts := cutAt ':' text
  match parts.getLast? with
  | none => none
  | some last =>
      if parts.length < 3 then none
      else if last.contains '.' then
        if isQuad last then some (parts.dropLast ++ [['0'], ['0']]) else none
      else some parts

/-- The groups on one side of a run of zeros that is left out.  An empty group at the
far end is part of the run, and then must be the only one. -/
def isSide (atEnd : Option (List Char)) (groups : List (List Char)) : Bool :=
  if atEnd = some [] then groups.length = 1 else groups.all isGroup

/-- The number of groups on one side that are written. -/
def written (groups : List (List Char)) : Nat :=
  if groups.any List.isEmpty then 0 else groups.length

/-- Whether groups make up an address: eight of them, or fewer with one run left out. -/
def areGroups (groups : List (List Char)) : Bool :=
  let inner := (groups.drop 1).dropLast
  match inner.findIdx? List.isEmpty with
  | none => groups.length = 8 && groups.all isGroup
  | some position =>
      let before := groups.take (position + 1)
      let after := groups.drop (position + 2)
      (inner.drop (position + 1)).all (fun group => !group.isEmpty)
        && isSide before.head? before && isSide after.getLast? after
        && written before + written after < 8

/-- An address of eight groups, which may have a zone behind a percent sign. -/
def isGrouped (text : List Char) : Bool :=
  let address := text.takeWhile (· != '%')
  let zone := text.dropWhile (· != '%')
  let hasGoodZone := match zone with
    | _ :: name => !name.isEmpty && !name.contains '%'
    | [] => true
  hasGoodZone && ((groups? address).map areGroups).getD false

/-- An address of a later version: its number, a point, and some text. -/
def isVersioned (text : List Char) : Bool :=
  let digits := text.takeWhile fun character => (hexValue? character).isSome
  match text.drop digits.length with
  | '.' :: _ :: _ => !digits.isEmpty
  | _ => false

/-- Whether a text may stand in brackets. -/
def isBracketed : List Char → Bool
  | 'v' :: rest => isVersioned rest
  | text => isGrouped text

/-- Characters that stand for others, among them one that ends or divides a host. -/
def disguises : List Nat :=
  [ 0x2047, 0x2048, 0x2049, 0x2100, 0x2101, 0x2105, 0x2106, 0x2a74, 0xfe13, 0xfe16, 0xfe55,
    0xfe56, 0xfe5f, 0xfe6b, 0xff03, 0xff0f, 0xff1a, 0xff1f, 0xff20 ]

/-- Whether the authority of an address can be one: its brackets come in pairs around an
address, and no character stands for one that would end it. -/
def isAuthority (text : List Char) : Bool :=
  let bracketed := ((text.dropWhile (· != '[')).drop 1).takeWhile (· != ']')
  text.contains '[' = text.contains ']' && (!text.contains '[' || isBracketed bracketed)
    && text.all fun character => !disguises.contains character.toNat

end Host

end DocStore
