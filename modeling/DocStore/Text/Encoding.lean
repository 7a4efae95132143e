/-!
# Texts as bytes

A text is written as bytes in UTF-8, and bytes are written as text in base 64.
-/

namespace DocStore

/-! ## UTF-8

Strict decoding: overlong forms, surrogates and code points beyond the last
plane are refused.  Lossy decoding replaces every longest start of a character
that does not go on as one.
-/

namespace Utf8

def continuation? (byte : UInt8) : Option Nat :=
  if 0x80 ≤ byte.toNat && byte.toNat < 0xc0 then some (byte.toNat - 0x80) else none

/-- A character from its code point, which must be at least `least`. -/
def character? (least code : Nat) : Option Char :=
  if least ≤ code && (code < 0xd800 || 0xe000 ≤ code) && code < 0x110000 then
    some (Char.ofNat code)
  else none

/-- Decodes a byte sequence, or gives nothing if it is malformed. -/
def decode? : List UInt8 → Option (List Char)
  | [] => some []
  | first :: rest =>
      let lead := first.toNat
      if lead < 0x80 then (decode? rest).map (Char.ofNat lead :: ·)
      else if lead < 0xc0 then none
      else if lead < 0xe0 then
        match rest with
        | second :: rest => do
            let low ← continuation? second
            let character ← character? 0x80 ((lead - 0xc0) * 0x40 + low)
            (decode? rest).map (character :: ·)
        | _ => none
      else if lead < 0xf0 then
        match rest with
        | second :: third :: rest => do
            let middle ← continuation? second
            let low ← continuation? third
            let character ← character? 0x800 (((lead - 0xe0) * 0x40 + middle) * 0x40 + low)
            (decode? rest).map (character :: ·)
        | _ => none
      else if lead < 0xf8 then
        match rest with
        | second :: third :: fourth :: rest => do
            let high ← continuation? second
            let middle ← continuation? third
            let low ← continuation? fourth
            let character ←
              character? 0x10000
                ((((lead - 0xf0) * 0x40 + high) * 0x40 + middle) * 0x40 + low)
            (decode? rest).map (character :: ·)
        | _ => none
      else none

/-- A character that is being read: the number of bytes to come, the bits so far, and
the range of the next byte. -/
structure Pending where
  needed : Nat
  bits : Nat
  least : Nat := 0x80
  greatest : Nat := 0xbf

/-- The character in the place of malformed bytes. -/
def replacement : Char := '\ufffd'

/-- What a byte at the start of a character gives at once, and what it begins. -/
def startWith (byte : Nat) : List Char × Option Pending :=
  if byte < 0x80 then ([Char.ofNat byte], none)
  else if byte < 0xc2 then ([replacement], none)
  else if byte < 0xe0 then ([], some { needed := 1, bits := byte - 0xc0 })
  else if byte < 0xf0 then
    ([], some { needed := 2, bits := byte - 0xe0
                least := if byte = 0xe0 then 0xa0 else 0x80
                greatest := if byte = 0xed then 0x9f else 0xbf })
  else if byte < 0xf5 then
    ([], some { needed := 3, bits := byte - 0xf0
                least := if byte = 0xf0 then 0x90 else 0x80
                greatest := if byte = 0xf4 then 0x8f else 0xbf })
  else ([replacement], none)

/-- What a byte gives after a character was begun, and what is then pending. -/
def resume (pending : Pending) (byte : Nat) : List Char × Option Pending :=
  if pending.least ≤ byte ∧ byte ≤ pending.greatest then
    let bits := pending.bits * 0x40 + (byte - 0x80)
    if pending.needed = 1 then ([Char.ofNat bits], none)
    else ([], some { needed := pending.needed - 1, bits })
  else
    let (given, next) := startWith byte
    (replacement :: given, next)

/-- Decodes bytes, of which those that form no character are replaced. -/
def decodeFrom : Option Pending → List UInt8 → List Char
  | none, [] => []
  | some _, [] => [replacement]
  | pending, byte :: rest =>
      let (given, next) := match pending with
        | none => startWith byte.toNat
        | some pending => resume pending byte.toNat
      given ++ decodeFrom next rest

/-- Decodes bytes without failing. -/
def decodeLossily (content : List UInt8) : List Char := decodeFrom none content

end Utf8

/-! ## Base 64

Four characters of an alphabet of 64 stand for three bytes.  Other characters do not count,
and padding ends the text.
-/

namespace Base64

/-- The six bits of a character. -/
def sextet? (byte : UInt8) : Option Nat :=
  let code := byte.toNat
  if 65 ≤ code ∧ code ≤ 90 then some (code - 65)
  else if 97 ≤ code ∧ code ≤ 122 then some (code - 71)
  else if 48 ≤ code ∧ code ≤ 57 then some (code + 4)
  else if code = 43 then some 62
  else if code = 47 then some 63
  else none

/-- The byte that the next six bits complete, `kept` being the bits left over from the
characters of the group so far, of which there are `count`. -/
def completed (count kept bits : Nat) : List UInt8 :=
  match count with
  | 0 => []
  | 1 => [UInt8.ofNat (kept % 64 * 4 + bits / 16)]
  | 2 => [UInt8.ofNat (kept % 16 * 16 + bits / 4)]
  | _ => [UInt8.ofNat (kept % 4 * 64 + bits)]

/-- Decodes the rest of a text.  `count` characters of a group were read, the last of them
with the bits `kept`, and `pads` signs of padding after it. -/
def decodeFrom (count kept pads : Nat) : List UInt8 → Option (List UInt8)
  | [] => if count = 0 then some [] else none
  | byte :: rest =>
      if byte = 61 then
        if 2 ≤ count then
          if 4 ≤ count + pads + 1 then some [] else decodeFrom count kept (pads + 1) rest
        else decodeFrom count kept pads rest
      else
        match sextet? byte with
        | none => decodeFrom count kept pads rest
        | some bits =>
            (decodeFrom ((count + 1) % 4) bits 0 rest).map (completed count kept bits ++ ·)

/-- Decodes a text, whose last group must be complete. -/
def decode? (text : List UInt8) : Option (List UInt8) := decodeFrom 0 0 0 text

end Base64

end DocStore
