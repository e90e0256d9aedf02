/-
**Multi-byte character sets.**

The character sets of East Asia write a character outside ASCII as one to four bytes.  Each of them
has several forms for different characters; some forms can be read but are not written.

Main definitions:

* `Repertoire` — which code points stand at which positions;
* `Repertoire.ofRows`, `Repertoire.lacking` — repertoires that are written out, and what they lack;
* `Form` — a repertoire and the bytes of its positions;
* `MultiByte` — the forms of a character set;
* `MultiByte.encode?` — the bytes of a character;
* `MultiByte.decode?` — the text that bytes stand for.
-/

import XmlScribe.Charset.Position

set_option autoImplicit false

namespace XmlScribe

/-- Code points at consecutive positions: the first and the last code point, and the position of
the first. -/
abbrev Repertoire := List (Nat × Nat × Nat)

namespace Repertoire

/-- The position of a code point.  The earliest entry counts. -/
def position? (repertoire : Repertoire) (code : Nat) : Option Nat :=
  repertoire.findSome? fun (first, last, start) =>
    if first ≤ code ∧ code ≤ last then some (start + (code - first)) else none

/-- The code point at a position. -/
def code? (repertoire : Repertoire) (position : Nat) : Option Nat :=
  repertoire.findSome? fun (first, last, start) =>
    if start ≤ position ∧ position ≤ start + (last - first) then some (first + (position - start))
    else none

/-- The repertoire with all positions moved up. -/
def shifted (distance : Nat) (repertoire : Repertoire) : Repertoire :=
  repertoire.map fun (first, last, start) => (first, last, start + distance)

/-- A repertoire without the entries that begin at the positions from `first` to `last`. -/
def without (repertoire : Repertoire) (first last : Nat) : Repertoire :=
  repertoire.filter fun (_, _, start) => start < first || last < start

/-- Characters that are written out in rows, each with the position of its first. -/
def ofRows (rows : List (Nat × String)) : Repertoire :=
  rows.flatMap fun (start, row) =>
    row.toList.mapIdx fun i c => (c.toNat, c.toNat, start + i)

/-- The code points from `first` to `last` that are not in an increasing list of them, at the
positions from `start` on. -/
def between (last : Nat) : (first start : Nat) → List Nat → Repertoire
  | first, start, [] => if first ≤ last then [(first, last, start)] else []
  | first, start, code :: codes =>
      if first < code then
        (first, code - 1, start) :: between last (code + 1) (start + (code - first)) codes
      else between last (code + 1) start codes

/-- The code points from `first` to `last` that a repertoire in rows lacks, in increasing order. -/
def lacking (repertoire : Repertoire) (first last : Nat) : Repertoire :=
  between last first 0 (repertoire.map Prod.fst).mergeSort

end Repertoire

/-- A way to write some characters. -/
structure Form where
  /-- How a position becomes bytes. -/
  areas : Areas
  /-- The characters at the positions. -/
  repertoire : Repertoire
deriving DecidableEq, Repr

namespace Form

/-- The bytes of a character. -/
def encode? (form : Form) (c : Char) : Option Bytes :=
  (form.repertoire.position? c.toNat).map form.areas.bytes

/-- The character at the start of some bytes, and the bytes after it. -/
def take? (form : Form) (s : Bytes) : Option (Char × Bytes) := do
  let (p, rest) ← form.areas.take? s
  let code ← form.repertoire.code? p
  return (Char.ofNat code, rest)

end Form

/-- A character set with ASCII as single bytes. -/
structure MultiByte where
  /-- The forms that are understood. -/
  reads : List Form
  /-- The forms that are written, the preferred one first. -/
  writes : List Form
  /-- Two bytes that stand for more than one character. -/
  pairs : List ((UInt8 × UInt8) × Text)
deriving DecidableEq, Repr

namespace MultiByte

/-- The bytes of a character outside ASCII. -/
def encode? (m : MultiByte) (c : Char) : Option Bytes :=
  m.writes.findSome? (·.encode? c)

/-- What two bytes at the start of some bytes stand for, if that is more than one character. -/
def takePair? (m : MultiByte) : Bytes → Option (Text × Bytes)
  | a :: b :: rest => (m.pairs.lookup (a, b)).map fun s => (s, rest)
  | _ => none

/-- The character at the start of some bytes, or what stands for several, and the bytes after it. -/
def take? (m : MultiByte) (s : Bytes) : Option (Text × Bytes) :=
  match s with
  | [] => none
  | a :: rest =>
      if a < 0x80 then some ([Char.ofNat a.toNat], rest)
      else
        (m.takePair? s).or ((m.reads.findSome? (·.take? s)).map fun (c, rest) => ([c], rest))

/-- The text of some bytes in at most `fuel` steps. -/
def decodeWithin (m : MultiByte) : (fuel : Nat) → Bytes → Option Text
  | _, [] => some []
  | 0, _ :: _ => none
  | fuel + 1, s => do
      let (text, rest) ← m.take? s
      return text ++ (← decodeWithin m fuel rest)

/-- The text that the bytes stand for, if every byte is part of a character.  There are no more
characters than bytes. -/
def decode? (m : MultiByte) (s : Bytes) : Option Text :=
  m.decodeWithin s.length s

end MultiByte

end XmlScribe
