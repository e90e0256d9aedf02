/-
**UTF-16.**

A character below `10000` is one unit of 16 bits, any other a pair of surrogates.  A unit is two
bytes, in one of two orders.

Main definitions:

* `Utf16.unitsOf`, `Utf16.encode` — the units of a character, the bytes of a text;
* `Utf16.charsOf?`, `Utf16.decode?` — the way back, which fails for lone surrogates and for an odd
  number of bytes.
-/

import XmlScribe.Text.Basic

set_option autoImplicit false

namespace XmlScribe

/-- A sequence of bytes. -/
abbrev Bytes := List UInt8

namespace Utf16

/-- The order of the two bytes of a unit. -/
inductive ByteOrder where
  /-- The low byte comes first. -/
  | little
  /-- The high byte comes first. -/
  | big
deriving DecidableEq, Repr

/-- The units of a character. -/
def unitsOf (c : Char) : List Nat :=
  if c.toNat < 0x10000 then [c.toNat]
  else [0xD800 + (c.toNat - 0x10000) / 0x400, 0xDC00 + (c.toNat - 0x10000) % 0x400]

/-- The two bytes of a unit. -/
def bytesOfUnit (order : ByteOrder) (unit : Nat) : Bytes :=
  match order with
  | .little => [UInt8.ofNat (unit % 0x100), UInt8.ofNat (unit / 0x100)]
  | .big => [UInt8.ofNat (unit / 0x100), UInt8.ofNat (unit % 0x100)]

/-- The bytes of a character. -/
def encodeChar (order : ByteOrder) (c : Char) : Bytes :=
  (unitsOf c).flatMap (bytesOfUnit order)

/-- The bytes of a text. -/
def encode (order : ByteOrder) (s : Text) : Bytes :=
  s.flatMap (encodeChar order)

/-- The units that the bytes form, if their number is even. -/
def unitsOfBytes? (order : ByteOrder) : Bytes → Option (List Nat)
  | [] => some []
  | [_] => none
  | a :: b :: rest =>
      let unit :=
        match order with
        | .little => a.toNat + b.toNat * 0x100
        | .big => a.toNat * 0x100 + b.toNat
      (unitsOfBytes? order rest).map (unit :: ·)

/-- The first half of a surrogate pair. -/
def isHigh (unit : Nat) : Bool :=
  0xD800 ≤ unit && unit < 0xDC00

/-- The second half of a surrogate pair. -/
def isLow (unit : Nat) : Bool :=
  0xDC00 ≤ unit && unit < 0xE000

/-- The characters that the units form, if every surrogate is in a pair. -/
def charsOf? : List Nat → Option Text
  | [] => some []
  | [u] => if isHigh u || isLow u then none else some [Char.ofNat u]
  | u :: v :: rest =>
      if isHigh u then
        if isLow v then
          (charsOf? rest).map
            (Char.ofNat (0x10000 + (u - 0xD800) * 0x400 + (v - 0xDC00)) :: ·)
        else none
      else if isLow u then none
      else (charsOf? (v :: rest)).map (Char.ofNat u :: ·)

/-- The text that the bytes stand for. -/
def decode? (order : ByteOrder) (bytes : Bytes) : Option Text :=
  (unitsOfBytes? order bytes).bind charsOf?

end Utf16

end XmlScribe
