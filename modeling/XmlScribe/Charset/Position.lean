/-
**Positions and their bytes.**

Many character sets number their characters and write the number of a character as a few bytes, each
of which takes its values from ranges of its own.  The numbers count up the last byte first, as the
digits of a numeral do.

Main definitions:

* `Axis` — the values of one byte;
* `Axis.byte`, `Axis.number?` — from a number to a byte and back;
* `Layout` — the axes of several bytes;
* `Layout.bytes`, `Layout.take?` — from a position to bytes and back;
* `Areas` — several layouts, whose positions follow each other.
-/

import XmlScribe.Charset.Utf16

set_option autoImplicit false

namespace XmlScribe

/-- The values of a byte that stand for consecutive numbers, as ranges with both ends included. -/
abbrev Axis := List (Nat × Nat)

namespace Axis

/-- How many numbers there are. -/
def size : Axis → Nat
  | [] => 0
  | (first, last) :: axis => last + 1 - first + size axis

/-- The byte of a number. -/
def byte : Axis → Nat → Nat
  | [], _ => 0
  | (first, last) :: axis, n =>
      if n < last + 1 - first then first + n else byte axis (n - (last + 1 - first))

/-- The number that a byte stands for. -/
def number? : Axis → Nat → Option Nat
  | [], _ => none
  | (first, last) :: axis, b =>
      if first ≤ b ∧ b ≤ last then some (b - first)
      else (number? axis b).map (last + 1 - first + ·)

end Axis

/-- The axes of several bytes, the first byte first. -/
abbrev Layout := List Axis

namespace Layout

/-- How many positions there are. -/
def size : Layout → Nat
  | [] => 1
  | axis :: layout => axis.size * size layout

/-- The bytes of a position. -/
def bytes : Layout → Nat → Bytes
  | [], _ => []
  | axis :: layout, p =>
      UInt8.ofNat (Axis.byte axis (p / size layout)) :: bytes layout (p % size layout)

/-- The position at the start of some bytes, and the bytes after it. -/
def take? : Layout → Bytes → Option (Nat × Bytes)
  | [], rest => some (0, rest)
  | _ :: _, [] => none
  | axis :: layout, b :: rest => do
      let n ← Axis.number? axis b.toNat
      let (p, rest) ← take? layout rest
      return (n * size layout + p, rest)

end Layout

/-- Several layouts.  The positions of each follow those of the layouts before it. -/
abbrev Areas := List Layout

namespace Areas

/-- The bytes of a position. -/
def bytes : Areas → Nat → Bytes
  | [], _ => []
  | layout :: areas, p =>
      if p < layout.size then layout.bytes p else bytes areas (p - layout.size)

/-- The position at the start of some bytes, and the bytes after it. -/
def take? : Areas → Bytes → Option (Nat × Bytes)
  | [], _ => none
  | layout :: areas, s =>
      (layout.take? s).or ((take? areas s).map fun (p, rest) => (layout.size + p, rest))

end Areas

end XmlScribe
