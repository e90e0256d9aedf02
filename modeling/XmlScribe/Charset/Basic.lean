/-
**Character sets and their labels.**

A character set is known under many labels.  When a document is read, its label is looked up in a
registry of the labels that web documents use; the label `latin1` then means windows-1252.  When a
document is written, a few labels are taken at their word instead.

Main definitions:

* `Charset` — a name and a codec;
* `Charset.registry` — the character sets and their labels;
* `Charset.forReading?`, `Charset.forWriting?` — the character set of a label.
-/

import XmlScribe.Charset.Codec
import XmlScribe.Text.Basic

set_option autoImplicit false

namespace XmlScribe

/-- A character set: its canonical name and the way it is written as bytes. -/
structure Charset where
  /-- The canonical name. -/
  name : String
  /-- How characters become bytes. -/
  codec : Codec

namespace Charset

/-- UTF-8. -/
def utf8 : Charset := ⟨"UTF-8", .utf8⟩

/-- UTF-16 with the low byte first. -/
def utf16LittleEndian : Charset := ⟨"UTF-16LE", .utf16 .little⟩

/-- UTF-16 with the high byte first. -/
def utf16BigEndian : Charset := ⟨"UTF-16BE", .utf16 .big⟩

/-- The first 128 characters. -/
def ascii : Charset := ⟨"US-ASCII", .direct 0x80⟩

/-- The first 256 characters. -/
def latin1 : Charset := ⟨"ISO-8859-1", .direct 0x100⟩

/-- The character can be written. -/
def canEncode (charset : Charset) (c : Char) : Bool :=
  charset.codec.canEncode c

/-- The bytes of a text. -/
def encode (charset : Charset) (s : Text) : Bytes :=
  charset.codec.encode s

/-- The text that the bytes stand for. -/
def decode? (charset : Charset) (bytes : Bytes) : Option Text :=
  charset.codec.decode? bytes

/-- The bytes that announce the character set. -/
def byteOrderMark (charset : Charset) : Bytes :=
  charset.codec.byteOrderMark

/-- The character sets with their labels, which are in lower case. -/
def registry : List (Charset × List String) :=
  [(⟨"windows-1252", .singleByte SingleByte.windows1252⟩,
    ["l1", "cp819", "ascii", "latin1", "cp1252", "ibm819", "iso88591", "x-cp1252", "us-ascii",
     "iso8859-1", "iso-ir-100", "iso-8859-1", "iso_8859-1", "csisolatin1", "windows-1252",
     "ansi_x3.4-1968", "iso_8859-1:1987"]),
   (⟨"ISO-8859-2", .singleByte SingleByte.iso8859x2⟩,
    ["l2", "latin2", "iso88592", "iso8859-2", "iso-ir-101", "iso-8859-2", "iso_8859-2",
     "csisolatin2", "iso_8859-2:1987"]),
   (⟨"ISO-8859-3", .singleByte SingleByte.iso8859x3⟩,
    ["l3", "latin3", "iso88593", "iso8859-3", "iso-8859-3", "iso_8859-3", "iso-ir-109",
     "csisolatin3", "iso_8859-3:1988"]),
   (⟨"ISO-8859-4", .singleByte SingleByte.iso8859x4⟩,
    ["l4", "latin4", "iso88594", "iso8859-4", "iso-ir-110", "iso-8859-4", "iso_8859-4",
     "csisolatin4", "iso_8859-4:1988"]),
   (⟨"windows-1254", .singleByte SingleByte.windows1254⟩,
    ["l5", "cp1254", "latin5", "x-cp1254", "iso88599", "iso8859-9", "iso-ir-148", "iso-8859-9",
     "iso_8859-9", "csisolatin5", "windows-1254", "iso_8859-9:1989"]),
   (⟨"ISO-8859-10", .singleByte SingleByte.iso8859x10⟩,
    ["l6", "latin6", "iso885910", "iso8859-10", "iso-ir-157", "iso-8859-10", "csisolatin6"]),
   (⟨"ISO-8859-15", .singleByte SingleByte.iso8859x15⟩,
    ["l9", "iso885915", "iso8859-15", "iso-8859-15", "iso_8859-15", "csisolatin9"]),
   (⟨"IBM866", .singleByte SingleByte.ibm866⟩,
    ["866", "cp866", "ibm866", "csibm866"]),
   (⟨"macintosh", .singleByte SingleByte.macintosh⟩,
    ["mac", "macintosh", "csmacintosh", "x-mac-roman"]),
   (⟨"KOI8-R", .singleByte SingleByte.koi8R⟩,
    ["koi", "koi8", "koi8-r", "koi8_r", "cskoi8r"]),
   (⟨"GBK", .multiByte MultiByte.gbk⟩,
    ["gbk", "x-gbk", "gb2312", "gb_2312", "chinese", "csgb2312", "iso-ir-58", "gb_2312-80",
     "csiso58gb231280"]),
   (⟨"Big5", .multiByte MultiByte.big5⟩,
    ["big5", "csbig5", "cn-big5", "x-x-big5", "big5-hkscs"]),
   (⟨"UTF-8", .utf8⟩,
    ["utf8", "utf-8", "unicode20utf8", "unicode11utf8", "x-unicode20utf8", "unicode-1-1-utf-8"]),
   (⟨"Shift_JIS", .multiByte MultiByte.shiftJis⟩,
    ["sjis", "ms932", "x-sjis", "ms_kanji", "shift-jis", "shift_jis", "csshiftjis", "windows-31j"]),
   (⟨"UTF-16LE", .utf16 .little⟩,
    ["ucs-2", "utf-16", "unicode", "utf-16le", "csunicode", "unicodefeff", "iso-10646-ucs-2"]),
   (⟨"ISO-8859-7", .singleByte SingleByte.iso8859x7⟩,
    ["greek", "greek8", "iso88597", "ecma-118", "elot_928", "iso8859-7", "iso-ir-126",
     "iso-8859-7", "iso_8859-7", "sun_eu_greek", "iso_8859-7:1987", "csisolatingreek"]),
   (⟨"windows-1250", .singleByte SingleByte.windows1250⟩,
    ["cp1250", "x-cp1250", "windows-1250"]),
   (⟨"windows-1251", .singleByte SingleByte.windows1251⟩,
    ["cp1251", "x-cp1251", "windows-1251"]),
   (⟨"windows-1253", .singleByte SingleByte.windows1253⟩,
    ["cp1253", "x-cp1253", "windows-1253"]),
   (⟨"windows-1255", .singleByte SingleByte.windows1255⟩,
    ["cp1255", "x-cp1255", "windows-1255"]),
   (⟨"windows-1256", .singleByte SingleByte.windows1256⟩,
    ["cp1256", "x-cp1256", "windows-1256"]),
   (⟨"windows-1257", .singleByte SingleByte.windows1257⟩,
    ["cp1257", "x-cp1257", "windows-1257"]),
   (⟨"windows-1258", .singleByte SingleByte.windows1258⟩,
    ["cp1258", "x-cp1258", "windows-1258"]),
   (⟨"ISO-8859-6", .singleByte SingleByte.iso8859x6⟩,
    ["arabic", "ecma-114", "iso88596", "asmo-708", "iso8859-6", "iso-8859-6", "iso_8859-6",
     "iso-ir-127", "csiso88596e", "csiso88596i", "iso-8859-6-e", "iso-8859-6-i",
     "iso_8859-6:1987", "csisolatinarabic"]),
   (⟨"ISO-8859-8", .singleByte SingleByte.iso8859x8⟩,
    ["visual", "hebrew", "iso88598", "iso8859-8", "iso-8859-8", "iso_8859-8", "iso-ir-138",
     "csiso88598e", "iso-8859-8-e", "iso_8859-8:1988", "csisolatinhebrew"]),
   (⟨"EUC-KR", .multiByte MultiByte.eucKr⟩,
    ["korean", "euc-kr", "ksc5601", "cseuckr", "ksc_5601", "iso-ir-149", "windows-949",
     "csksc56011987", "ks_c_5601-1987", "ks_c_5601-1989"]),
   (⟨"EUC-JP", .multiByte MultiByte.eucJp⟩,
    ["euc-jp", "x-euc-jp", "cseucpkdfmtjapanese"]),
   (⟨"KOI8-U", .singleByte SingleByte.koi8U⟩,
    ["koi8-u", "koi8-ru"]),
   (⟨"windows-874", .singleByte SingleByte.windows874⟩,
    ["tis-620", "dos-874", "iso885911", "iso8859-11", "iso-8859-11", "windows-874"]),
   (⟨"gb18030", .multiByte MultiByte.gb18030⟩,
    ["gb18030"]),
   (⟨"ISO-8859-8-I", .singleByte SingleByte.iso8859x8⟩,
    ["logical", "csiso88598i", "iso-8859-8-i"]),
   (⟨"ISO-8859-5", .singleByte SingleByte.iso8859x5⟩,
    ["iso88595", "cyrillic", "iso8859-5", "iso-ir-144", "iso-8859-5", "iso_8859-5",
     "iso_8859-5:1988", "csisolatincyrillic"]),
   (⟨"UTF-16BE", .utf16 .big⟩,
    ["utf-16be", "unicodefffe"]),
   (⟨"ISO-8859-13", .singleByte SingleByte.iso8859x13⟩,
    ["iso885913", "iso8859-13", "iso-8859-13"]),
   (⟨"ISO-8859-14", .singleByte SingleByte.iso8859x14⟩,
    ["iso885914", "iso8859-14", "iso-8859-14"]),
   (⟨"ISO-8859-16", .singleByte SingleByte.iso8859x16⟩,
    ["iso-8859-16"]),
   (⟨"ISO-2022-JP", .shifting MultiByte.iso2022Jp⟩,
    ["iso-2022-jp", "csiso2022jp"]),
   (⟨"x-mac-cyrillic", .singleByte SingleByte.macCyrillic⟩,
    ["x-mac-cyrillic", "x-mac-ukrainian"]),
   (⟨"x-user-defined", .singleByte SingleByte.userDefined⟩,
    ["x-user-defined"])]

/-- The white space around a label in the registry. -/
def isLabelSpace (c : Char) : Bool :=
  c == ' ' || c == '\t' || c == '\n' || c == '\r' || c.toNat == 0x0C

/-- The text without the characters of a class at either end. -/
def trimmed (isSpace : Char → Bool) (s : Text) : Text :=
  ((s.dropWhile isSpace).reverse.dropWhile isSpace).reverse

/-- The character set that the registry has under a label, in any mixture of capitals. -/
def forReading? (label : Text) : Option Charset :=
  let wanted := String.ofList ((trimmed isLabelSpace label).map Char.toLower)
  registry.findSome? fun (charset, labels) => if wanted ∈ labels then some charset else none

/-- The white space of Unicode. -/
def whiteSpace : CharSet :=
  [(0x09, 0x0D), (0x20, 0x20), (0x85, 0x85), (0xA0, 0xA0), (0x1680, 0x1680), (0x2000, 0x200A),
   (0x2028, 0x2029), (0x202F, 0x202F), (0x205F, 0x205F), (0x3000, 0x3000)]

/-- Labels that a writer takes at their word, in capitals. -/
def literalLabels : List (String × Charset) :=
  [("US-ASCII", ascii), ("ASCII", ascii), ("ISO-8859-1", latin1), ("ISO-LATIN-1", latin1),
   ("ISO LATIN 1", latin1), ("LATIN1", latin1), ("UTF16", utf16LittleEndian), ("UTF8", utf8)]

/-- The character set to write under a label. -/
def forWriting? (label : Text) : Option Charset :=
  let label := trimmed whiteSpace.contains label
  (literalLabels.lookup (String.ofList (label.map Char.toUpper))).or (forReading? label)

end Charset

end XmlScribe
