import CrateDocs.Text.Basic

namespace CrateDocs

/-!
# UTF-8

Files hold bytes, and a text is written to a file in UTF-8.

* `Bytes` is the content of a file;
* `Utf8.encode` and `Utf8.decode` go from a text to bytes and back;
* `Utf8.Fault` is the first place where bytes are not UTF-8, and `Utf8.Fault.message` tells it.

Only the shortest form of a character is UTF-8, and halves of surrogate pairs are no characters.
Which second bytes are right therefore depends on the first byte.
-/

/-- The content of a file. -/
abbrev Bytes := List UInt8

namespace Utf8

/-- A text as bytes. -/
def encode (t : Text) : Bytes := t.flatMap String.utf8EncodeChar

/-- Why bytes are not UTF-8. -/
inductive Reason
  | start
  | continuation
  | endOfData
  deriving DecidableEq, Repr

/-- A place where bytes are not UTF-8. -/
structure Fault where
  /-- the first byte at fault -/
  byte : UInt8
  /-- its position -/
  first : Nat
  /-- how many bytes are at fault -/
  count : Nat
  reason : Reason
  deriving DecidableEq, Repr

/-- The reason in words. -/
def Reason.message : Reason → String
  | start => "invalid start byte"
  | continuation => "invalid continuation byte"
  | endOfData => "unexpected end of data"

/-- A byte in hexadecimal. -/
def hexByte (b : UInt8) : String :=
  String.ofList [Nat.digitChar (b.toNat / 16), Nat.digitChar (b.toNat % 16)]

/-- The fault in words. -/
def Fault.message (f : Fault) : String :=
  if f.count = 1 then
    s!"'utf-8' codec can't decode byte 0x{hexByte f.byte} in position {f.first}: " ++
      f.reason.message
  else
    s!"'utf-8' codec can't decode bytes in position {f.first}-{f.first + f.count - 1}: " ++
      f.reason.message

/-- How many bytes follow a first byte, none if it cannot be one. -/
def following? (b : UInt8) : Option Nat :=
  if b < 0x80 then some 0
  else if b < 0xc2 then none
  else if b < 0xe0 then some 1
  else if b < 0xf0 then some 2
  else if b < 0xf5 then some 3
  else none

/-- The range of the second bytes that go with a first byte. -/
def secondRange (b : UInt8) : UInt8 × UInt8 :=
  if b = 0xe0 then (0xa0, 0xbf)
  else if b = 0xed then (0x80, 0x9f)
  else if b = 0xf0 then (0x90, 0xbf)
  else if b = 0xf4 then (0x80, 0x8f)
  else (0x80, 0xbf)

/-- Whether `b` may stand `place` bytes after the first byte. -/
def continues (first : UInt8) (place : Nat) (b : UInt8) : Bool :=
  if place = 1 then (secondRange first).1 ≤ b && b ≤ (secondRange first).2
  else 0x80 ≤ b && b ≤ 0xbf

/-- Takes the bytes that follow `first`, of which `wanted` are due, from `place` on. -/
def takeFollowing (first : UInt8) (position place : Nat) :
    Nat → Bytes → Except Fault (Bytes × Bytes)
  | 0, rest => .ok ([], rest)
  | _ + 1, [] => .error ⟨first, position, place, .endOfData⟩
  | wanted + 1, b :: rest =>
    if continues first place b then
      (takeFollowing first position (place + 1) wanted rest).map fun (bs, rest) => (b :: bs, rest)
    else .error ⟨first, position, place, .continuation⟩

/-- The bits that a first byte gives to its character, with `n` bytes to follow. -/
def leadBits (first : UInt8) : Nat → Nat
  | 0 => first.toNat
  | 1 => first.toNat % 0x20
  | 2 => first.toNat % 0x10
  | _ => first.toNat % 0x08

/-- The character of a first byte and those that follow it. -/
def charOf (first : UInt8) (bs : Bytes) : Char :=
  Char.ofNat (bs.foldl (fun n b => 64 * n + b.toNat % 64) (leadBits first bs.length))

/-- Reads on after `done`, which is the last character first. -/
def decodeFrom : Nat → Nat → Text → Bytes → Except Fault Text
  | _, _, done, [] => .ok done.reverse
  | 0, _, done, _ => .ok done.reverse
  | fuel + 1, position, done, first :: rest =>
    match following? first with
    | none => .error ⟨first, position, 1, .start⟩
    | some n =>
      match takeFollowing first position 1 n rest with
      | .error f => .error f
      | .ok (bs, rest) => decodeFrom fuel (position + n + 1) (charOf first bs :: done) rest

/-- The text that bytes are, or the first place where they are none. -/
def decode (bytes : Bytes) : Except Fault Text := decodeFrom bytes.length 0 [] bytes

end Utf8

end CrateDocs
