/-
**From characters to bytes and back.**

A codec says how a character becomes bytes.  A character that a codec cannot write is written as a
decimal character reference, so that encoding never fails; decoding fails at the first byte that
stands for nothing.

Main definitions:

* `Codec` — the ways of writing characters as bytes;
* `Codec.encodeChar?`, `Codec.canEncode` — the bytes of one character;
* `Codec.encode` — the bytes of a text;
* `Codec.decode?` — the text that bytes stand for;
* `Codec.byteOrderMark` — the bytes that announce the codec.
-/

import XmlScribe.Charset.Chinese
import XmlScribe.Charset.Japanese
import XmlScribe.Charset.Korean
import XmlScribe.Charset.SingleByte

set_option autoImplicit false

namespace XmlScribe

/-- A way of writing characters as bytes. -/
inductive Codec where
  /-- One to four bytes for a character. -/
  | utf8
  /-- One or two units of two bytes for a character. -/
  | utf16 (order : Utf16.ByteOrder)
  /-- The first `count` characters, as the bytes of their code points. -/
  | direct (count : Nat)
  /-- ASCII, and a table for the other bytes. -/
  | singleByte (table : List Nat)
  /-- ASCII, and one to four bytes for any other character. -/
  | multiByte (charset : MultiByte)
  /-- Escape sequences switch between ASCII and two seven-bit bytes for a character. -/
  | shifting (charset : MultiByte)

namespace Codec

/-- Characters that would be taken for the start of an escape sequence or a shift. -/
def isShift (c : Char) : Bool :=
  c.toNat == 0x0E || c.toNat == 0x0F || c.toNat == 0x1B

/-- The byte of a character that is neither in ASCII nor in the grid of two bytes: the yen sign and
the overline have places in a variant of ASCII. -/
def romanByte? (c : Char) : Option Bytes :=
  (Repertoire.yenAndOverline.lookup c).map fun b => [UInt8.ofNat b]

/-- The bytes of a character; with escape sequences, those of the state that it needs. -/
def encodeChar? : Codec → Char → Option Bytes
  | .utf8, c => some (String.utf8EncodeChar c)
  | .utf16 order, c => some (Utf16.encodeChar order c)
  | .direct count, c => if c.toNat < count then some [UInt8.ofNat c.toNat] else none
  | .singleByte table, c =>
      if c.toNat < 0x80 then some [UInt8.ofNat c.toNat]
      else (SingleByte.encode? table c).map fun b => [b]
  | .multiByte charset, c =>
      if c.toNat < 0x80 then some [UInt8.ofNat c.toNat] else charset.encode? c
  | .shifting charset, c =>
      if c.toNat < 0x80 then if isShift c then none else some [UInt8.ofNat c.toNat]
      else (romanByte? c).or (charset.encode? c)

/-- The character can be written. -/
def canEncode (codec : Codec) (c : Char) : Bool :=
  (codec.encodeChar? c).isSome

/-- The bytes of an ASCII text. -/
def asciiBytes (s : Text) : Bytes :=
  s.map fun c => UInt8.ofNat c.toNat

/-- The decimal character reference to a character, in bytes. -/
def reference (code : Nat) : Bytes :=
  asciiBytes (['&', '#'] ++ Text.decimal code ++ [';'])

/-! ### Escape sequences -/

/-- The character set that an escape sequence has switched to. -/
inductive Shift where
  /-- ASCII. -/
  | ascii
  /-- ASCII with a yen sign and an overline. -/
  | roman
  /-- Half-width kana. -/
  | katakana
  /-- The grid. -/
  | double
deriving DecidableEq, Repr

/-- The sequence that switches to a character set. -/
def Shift.sequence : Shift → Bytes
  | .ascii => [0x1B, 0x28, 0x42]
  | .roman => [0x1B, 0x28, 0x4A]
  | .katakana => [0x1B, 0x28, 0x49]
  | .double => [0x1B, 0x24, 0x42]

/-- What has to be written to get from one character set to another. -/
def Shift.change (shift next : Shift) : Bytes :=
  if shift = next then [] else next.sequence

/-- The character set in which character references are written: the present one, if it has the
characters of a reference. -/
def Shift.plain : Shift → Shift
  | .roman => .roman
  | _ => .ascii

/-- The character set in which a character is written, and its bytes there.  What cannot be written
becomes a character reference. -/
def shiftedBytes (charset : MultiByte) (shift : Shift) (c : Char) : Shift × Bytes :=
  if isShift c then (shift.plain, reference 0xFFFD)
  else if c.toNat < 0x80 then
    (if c = '\\' ∨ c = '~' then .ascii else shift.plain, [UInt8.ofNat c.toNat])
  else
    match romanByte? c with
    | some bytes => (.roman, bytes)
    | none =>
        match charset.encode? c with
        | some bytes => (.double, bytes)
        | none => (shift.plain, reference c.toNat)

/-- The bytes of a text with escape sequences.  The text ends in ASCII. -/
def encodeShifting (charset : MultiByte) : (shift : Shift) → Text → Bytes
  | shift, [] => shift.change .ascii
  | shift, c :: s =>
      let (next, bytes) := shiftedBytes charset shift c
      shift.change next ++ bytes ++ encodeShifting charset next s

/-- The character set that the bytes after an escape byte switch to. -/
def shiftOf? (a b : UInt8) : Option Shift :=
  if a = 0x28 then
    if b = 0x42 then some .ascii
    else if b = 0x4A then some .roman
    else if b = 0x49 then some .katakana
    else none
  else if a = 0x24 ∧ (b = 0x40 ∨ b = 0x42) then some .double
  else none

/-- The character of a single byte. -/
def shiftedChar? (shift : Shift) (b : UInt8) : Option Char :=
  if 0x80 ≤ b.toNat ∨ isShift (Char.ofNat b.toNat) then none
  else
    match shift with
    | .ascii => some (Char.ofNat b.toNat)
    | .roman =>
        if b = 0x5C then some (Char.ofNat 0xA5)
        else if b = 0x7E then some (Char.ofNat 0x203E)
        else some (Char.ofNat b.toNat)
    | .katakana =>
        if 0x21 ≤ b.toNat ∧ b.toNat ≤ 0x5F then some (Char.ofNat (0xFF61 + (b.toNat - 0x21)))
        else none
    | .double => none

/-- The text of bytes with escape sequences.  An escape sequence right after another one, as
`fresh` tells, is refused. -/
def decodeShifting (charset : MultiByte) :
    (shift : Shift) → (fresh : Bool) → Bytes → Option Text
  | _, _, [] => some []
  | shift, _, [a] => (shiftedChar? shift a).map fun c => [c]
  | shift, fresh, a :: b :: rest =>
      if a = 0x1B then
        match rest with
        | [] => none
        | c :: rest =>
            match shiftOf? b c with
            | some shift => if fresh then none else decodeShifting charset shift true rest
            | none => none
      else if shift = .double then
        match charset.reads.findSome? (·.take? [a, b]) with
        | some (c, _) => (decodeShifting charset shift false rest).map (c :: ·)
        | none => none
      else
        match shiftedChar? shift a with
        | some c => (decodeShifting charset shift false (b :: rest)).map (c :: ·)
        | none => none

/-! ### Whole texts -/

/-- The bytes of a text.  What the codec cannot write becomes a decimal character reference. -/
def encode : Codec → Text → Bytes
  | .shifting charset, s => encodeShifting charset .ascii s
  | codec, s => s.flatMap fun c => (codec.encodeChar? c).getD (reference c.toNat)

/-- The text that the bytes stand for, if every byte is part of a character. -/
def decode? : Codec → Bytes → Option Text
  | .utf8, bytes => bytes.toByteArray.utf8Decode?.map Array.toList
  | .utf16 order, bytes => Utf16.decode? order bytes
  | .direct count, bytes =>
      if bytes.all fun b => b.toNat < count then some (bytes.map fun b => Char.ofNat b.toNat)
      else none
  | .singleByte table, bytes =>
      bytes.mapM fun b =>
        if b.toNat < 0x80 then some (Char.ofNat b.toNat) else SingleByte.decode? table b
  | .multiByte charset, bytes => charset.decode? bytes
  | .shifting charset, bytes => decodeShifting charset .ascii false bytes

/-- The bytes that announce the codec at the start of a file; only the Unicode encodings have
them. -/
def byteOrderMark : Codec → Bytes
  | .utf8 => [0xEF, 0xBB, 0xBF]
  | .utf16 .little => [0xFF, 0xFE]
  | .utf16 .big => [0xFE, 0xFF]
  | _ => []

end Codec

end XmlScribe
