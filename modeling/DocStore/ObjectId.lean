import DocStore.Value.Display

/-!
# Generated ids

A generated id is the time in seconds in base sixteen, at least eight digits
wide, followed by random bytes, and cut at 24 digits.
-/

namespace DocStore

namespace ObjectId

def length : Nat := 24

def randomLength : Nat := 8

/-- Seconds in base sixteen, padded to eight digits together with their sign. -/
def secondsText (seconds : Int) : List Char :=
  match seconds with
  | .ofNat count => hexDigits 8 count
  | .negSucc count => '-' :: hexDigits 7 (count + 1)

/-- Bytes in base sixteen. -/
def bytesText (bytes : List UInt8) : List Char :=
  bytes.flatMap fun byte => hexDigits 2 byte.toNat

theorem hexDigits_byte (byte : UInt8) :
    hexDigits 2 byte.toNat = [(byte.toNat / 16).digitChar, (byte.toNat % 16).digitChar] := by
  have small : byte.toNat < 256 := byte.toNat_lt
  rw [hexDigits_succ (Nat.le_refl 1), hexDigits_one (by omega)]
  rfl

theorem length_bytesText (bytes : List UInt8) :
    (bytesText bytes).length = 2 * bytes.length := by
  induction bytes with
  | nil => rfl
  | cons byte bytes ih =>
      rw [bytesText] at ih ⊢
      rw [List.flatMap_cons, List.length_append, ih, hexDigits_byte, List.length_cons]
      simp only [List.length_cons, List.length_nil]
      omega

def generate (seconds : Int) (random : List UInt8) : String :=
  String.ofList ((secondsText seconds ++ bytesText random).take length)

end ObjectId

end DocStore
