/-
**Reading a document.**

A document is read from text, or from bytes whose character set is told by a mark of byte order or
by the XML declaration.

Main definitions:

* `Document.parse` — a document from text;
* `Document.declaredEncoding?` — the label of the character set in an XML declaration;
* `Document.decode` — the text that bytes stand for;
* `Document.read` — a document from bytes.
-/

import XmlScribe.Charset.Basic
import XmlScribe.Markup.Builder
import XmlScribe.Text.LineEnding

set_option autoImplicit false

namespace XmlScribe

namespace Document

/-- The document that a text describes.  The events before a fault take effect first, so a fault
of theirs is the one that counts. -/
def parse (subsets : Subsets) (s : Text) : Except ReadFault Document := do
  let (events, fault) := Event.scan (Text.unifyLineEndings s)
  let b ← events.foldlM (Builder.step subsets) Builder.start
  match fault with
  | some fault => throw (.markup fault)
  | none => b.finish

/-! ### Bytes -/

/-- The characters with the bytes as code points. -/
def ofBytes (bytes : Bytes) : Text :=
  bytes.map fun b => Char.ofNat b.toNat

/-- The label of the character set in the XML declaration at the start of the bytes.  The
declaration must be valid UTF-8. -/
def declaredEncoding? (bytes : Bytes) : Option Text := do
  let rest ← Text.after? "<?xml".toList (ofBytes bytes)
  let (declaration, _) ← Text.cutAt "?>".toList rest
  let declaration ← Codec.utf8.decode? (declaration.map fun c => UInt8.ofNat c.toNat)
  let (_, value) ← Text.cutAt "encoding".toList declaration
  let value ← Text.after? ['='] (value.dropWhile Charset.whiteSpace.contains)
  match value.dropWhile Charset.whiteSpace.contains with
  | [] => none
  | quote :: value =>
      if quote = '"' ∨ quote = '\'' then (Text.cutAt [quote] value).map Prod.fst else none

/-- The character set that a mark of byte order at the start of the bytes announces, and the bytes
after the mark. -/
def announcedCharset? : Bytes → Option (Charset × Bytes)
  | 0xEF :: 0xBB :: 0xBF :: rest => some (Charset.utf8, rest)
  | 0xFF :: 0xFE :: rest => some (Charset.utf16LittleEndian, rest)
  | 0xFE :: 0xFF :: rest => some (Charset.utf16BigEndian, rest)
  | _ => none

/-- The character set of the bytes, and the bytes that hold the text. -/
def charsetOf (bytes : Bytes) : Except ReadFault (Charset × Bytes) :=
  match announcedCharset? bytes with
  | some found => .ok found
  | none =>
      match declaredEncoding? bytes with
      | none => .ok (Charset.utf8, bytes)
      | some label =>
          match Charset.forReading? label with
          | some charset => .ok (charset, bytes)
          | none => .error (.unknownEncoding label)

/-- The text that the bytes stand for. -/
def decode (bytes : Bytes) : Except ReadFault Text := do
  let (charset, bytes) ← charsetOf bytes
  match charset.decode? bytes with
  | some s => return s
  | none => throw (.undecodable charset.name)

/-- The document that the bytes describe. -/
def read (subsets : Subsets) (bytes : Bytes) : Except ReadFault Document := do
  parse subsets (← decode bytes)

end Document

end XmlScribe
