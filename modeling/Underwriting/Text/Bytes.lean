/-!
Texts and their bytes. A text may be cut at a position that is counted in bytes, if a character ends
there. Bytes that are no text are shown with a sign in place of what cannot be read.
-/

namespace Underwriting.Text

def sizeInBytes (text : List Char) : Nat := (String.ofList text).utf8ByteSize

def cutAt? (position : Nat) : List Char → Option (List Char × List Char)
  | [] => if position = 0 then some ([], []) else none
  | char :: rest =>
      if position = 0 then some ([], char :: rest)
      else if char.utf8Size ≤ position then
        (cutAt? (position - char.utf8Size) rest).map fun (front, back) => (char :: front, back)
      else none

structure Begun where
  bits : Nat
  expected : List (Nat × Nat)

namespace Begun

def following : Nat × Nat := (0x80, 0xbf)

def ofByte? (byte : Nat) : Option Begun :=
  if 0xc2 ≤ byte ∧ byte ≤ 0xdf then some ⟨byte % 32, [following]⟩
  else if byte = 0xe0 then some ⟨0, [(0xa0, 0xbf), following]⟩
  else if byte = 0xed then some ⟨13, [(0x80, 0x9f), following]⟩
  else if 0xe1 ≤ byte ∧ byte ≤ 0xef then some ⟨byte % 16, [following, following]⟩
  else if byte = 0xf0 then some ⟨0, [(0x90, 0xbf), following, following]⟩
  else if 0xf1 ≤ byte ∧ byte ≤ 0xf3 then some ⟨byte % 8, [following, following, following]⟩
  else if byte = 0xf4 then some ⟨4, [(0x80, 0x8f), following, following]⟩
  else none

end Begun

def replacement : Char := '\ufffd'

def startByte (byte : Nat) : List Char × Option Begun :=
  if byte < 0x80 then ([Char.ofNat byte], none)
  else
    match Begun.ofByte? byte with
    | some begun => ([], some begun)
    | none => ([replacement], none)

def nextByte (begun : Option Begun) (byte : Nat) : List Char × Option Begun :=
  match begun with
  | some ⟨bits, (low, high) :: expected⟩ =>
      if low ≤ byte ∧ byte ≤ high then
        let bits := bits * 64 + byte % 64
        if expected.isEmpty then ([Char.ofNat bits], none) else ([], some ⟨bits, expected⟩)
      else
        let (shown, next) := startByte byte
        (replacement :: shown, next)
  | _ => startByte byte

def shownBytesFrom (begun : Option Begun) : List UInt8 → List Char
  | [] => if begun.isSome then [replacement] else []
  | byte :: rest =>
      let (shown, next) := nextByte begun byte.toNat
      shown ++ shownBytesFrom next rest

def shownBytes (bytes : List UInt8) : String := String.ofList (shownBytesFrom none bytes)

end Underwriting.Text
