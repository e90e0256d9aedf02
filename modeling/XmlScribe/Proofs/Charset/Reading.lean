/-
**Texts that are read in the character set that they were written in.**

Five character sets are taken at their word when a document is written.  All of them write one
character after the other, so a text may be cut anywhere and each part be written on its own.

A reader decodes UTF-8 and UTF-16 as they are encoded.  For the labels of ASCII and of ISO-8859-1 it
takes windows-1252: this agrees with ASCII and with most of ISO-8859-1, but has other characters in
the place of most control characters between `80` and `9F`.

Main definitions:

* `Charset.own` — the five character sets;
* `Charset.rereadChar` — the character that windows-1252 has in the place of a character of
  ISO-8859-1;
* `Charset.misread` — the characters that it has not in their place.

Main results:

* `Charset.encode_append` — the bytes of a text are those of its parts;
* `Charset.decode?_encode_utf8`, `Utf16.decode?_encode` — UTF-8 and UTF-16 are read back;
* `Charset.decode?_windows1252` — what is read of a text in ASCII or ISO-8859-1;
* `Charset.rereadChar_eq_iff` — which characters are read back.
-/

import XmlScribe.Charset.Basic

set_option autoImplicit false

namespace XmlScribe

namespace Charset

variable {charset : Charset}

/-- UTF-8, UTF-16 in both orders, ASCII and ISO-8859-1. -/
def own : List Charset := [utf8, utf16LittleEndian, utf16BigEndian, ascii, latin1]

theorem mem_own : charset ∈ own ↔ charset = utf8 ∨ charset = utf16LittleEndian ∨
    charset = utf16BigEndian ∨ charset = ascii ∨ charset = latin1 := by
  simp [own]

/-- The bytes of a character, or of the reference to it. -/
def bytesOf (charset : Charset) (c : Char) : Bytes :=
  (charset.codec.encodeChar? c).getD (Codec.reference c.toNat)

/-- There are no escape sequences, so no character depends on those before it. -/
theorem encode_eq_flatMap (h : charset ∈ own) (s : Text) :
    charset.encode s = s.flatMap charset.bytesOf := by
  rcases mem_own.1 h with rfl | rfl | rfl | rfl | rfl <;> rfl

theorem encode_append (h : charset ∈ own) (s t : Text) :
    charset.encode (s ++ t) = charset.encode s ++ charset.encode t := by
  simp only [encode_eq_flatMap h, List.flatMap_append]

theorem encode_nil (h : charset ∈ own) : charset.encode [] = [] := by
  rw [encode_eq_flatMap h, List.flatMap_nil]

end Charset

/-! ### UTF-16 -/

namespace Utf16

theorem unitsOfBytes?_bytesOfUnit (order : ByteOrder) {unit : Nat} (h : unit < 0x10000)
    (bytes : Bytes) :
    unitsOfBytes? order (bytesOfUnit order unit ++ bytes) =
      (unitsOfBytes? order bytes).map (unit :: ·) := by
  have hlow : (UInt8.ofNat (unit % 0x100)).toNat = unit % 0x100 := by
    rw [UInt8.toNat_ofNat']
    omega
  have hhigh : (UInt8.ofNat (unit / 0x100)).toNat = unit / 0x100 := by
    rw [UInt8.toNat_ofNat']
    omega
  cases order with
  | little =>
      have hunit : unit % 0x100 + unit / 0x100 * 0x100 = unit := by omega
      simp only [bytesOfUnit, List.cons_append, List.nil_append, unitsOfBytes?, hlow, hhigh, hunit]
  | big =>
      have hunit : unit / 0x100 * 0x100 + unit % 0x100 = unit := by omega
      simp only [bytesOfUnit, List.cons_append, List.nil_append, unitsOfBytes?, hlow, hhigh, hunit]

theorem unitsOfBytes?_flatMap (order : ByteOrder) {units : List Nat}
    (h : ∀ unit ∈ units, unit < 0x10000) :
    unitsOfBytes? order (units.flatMap (bytesOfUnit order)) = some units := by
  induction units with
  | nil => rfl
  | cons unit units ih =>
      rw [List.forall_mem_cons] at h
      rw [List.flatMap_cons, unitsOfBytes?_bytesOfUnit order h.1, ih h.2]
      rfl

theorem not_isSurrogate (c : Char) : (isHigh c.toNat || isLow c.toNat) = false := by
  have hvalid : c.toNat < 0xD800 ∨ 0xDFFF < c.toNat ∧ c.toNat < 0x110000 := c.valid
  simp only [isHigh, isLow, Bool.or_eq_false_iff, Bool.and_eq_false_iff, decide_eq_false_iff_not]
  omega

theorem lt_of_mem_unitsOf {c : Char} {unit : Nat} (h : unit ∈ unitsOf c) : unit < 0x10000 := by
  have hvalid : c.toNat < 0xD800 ∨ 0xDFFF < c.toNat ∧ c.toNat < 0x110000 := c.valid
  rw [unitsOf] at h
  split at h
  · rename_i hsmall
    rwa [List.mem_singleton.1 h]
  · simp only [List.mem_cons, List.not_mem_nil, or_false] at h
    omega

/-- The units of a character are read as the character. -/
theorem charsOf?_unitsOf (c : Char) (units : List Nat) :
    charsOf? (unitsOf c ++ units) = (charsOf? units).map (c :: ·) := by
  rw [unitsOf]
  split
  · have hsurrogate := not_isSurrogate c
    rw [Bool.or_eq_false_iff] at hsurrogate
    cases units with
    | nil => simp [charsOf?, hsurrogate, Char.ofNat_toNat]
    | cons v units => simp [charsOf?, hsurrogate, Char.ofNat_toNat]
  · have hvalid : c.toNat < 0xD800 ∨ 0xDFFF < c.toNat ∧ c.toNat < 0x110000 := c.valid
    have hhigh : isHigh (0xD800 + (c.toNat - 0x10000) / 0x400) = true := by
      simp only [isHigh, Bool.and_eq_true, decide_eq_true_eq]
      omega
    have hlow : isLow (0xDC00 + (c.toNat - 0x10000) % 0x400) = true := by
      simp only [isLow, Bool.and_eq_true, decide_eq_true_eq]
      omega
    have hcode : 0x10000 + (0xD800 + (c.toNat - 0x10000) / 0x400 - 0xD800) * 0x400 +
        (0xDC00 + (c.toNat - 0x10000) % 0x400 - 0xDC00) = c.toNat := by omega
    rw [List.cons_append, List.cons_append, List.nil_append, charsOf?, if_pos hhigh, if_pos hlow,
      hcode, Char.ofNat_toNat]

theorem charsOf?_flatMap (s : Text) : charsOf? (s.flatMap unitsOf) = some s := by
  induction s with
  | nil => rfl
  | cons c s ih =>
      rw [List.flatMap_cons, charsOf?_unitsOf, ih]
      rfl

/-- A text in UTF-16 is read back. -/
theorem decode?_encode (order : ByteOrder) (s : Text) : decode? order (encode order s) = some s := by
  have hunits : encode order s = (s.flatMap unitsOf).flatMap (bytesOfUnit order) := by
    rw [List.flatMap_assoc]
    rfl
  rw [decode?, hunits, unitsOfBytes?_flatMap order]
  · exact charsOf?_flatMap s
  · intro unit hunit
    obtain ⟨c, -, hc⟩ := List.mem_flatMap.1 hunit
    exact lt_of_mem_unitsOf hc

end Utf16

namespace Charset

/-! ### UTF-8 -/

/-- A text in UTF-8 is read back. -/
theorem decode?_encode_utf8 (s : Text) : utf8.decode? (utf8.encode s) = some s := by
  change ((s.flatMap String.utf8EncodeChar).toByteArray.utf8Decode?).map Array.toList = some s
  rw [show (s.flatMap String.utf8EncodeChar).toByteArray = s.utf8Encode from rfl,
    List.utf8Decode?_utf8Encode]
  rfl

/-- In UTF-8 the characters of ASCII are single bytes. -/
theorem encode_utf8_of_ascii {s : Text} (h : ∀ c ∈ s, c.toNat < 0x80) :
    utf8.encode s = Codec.asciiBytes s := by
  induction s with
  | nil => rfl
  | cons c s ih =>
      rw [List.forall_mem_cons] at h
      have hsize : c.utf8Size = 1 := Char.utf8Size_eq_one_iff.2 (UInt32.le_iff_toNat_le.2
        (show c.toNat ≤ 127 by omega))
      have hc : String.utf8EncodeChar c = [UInt8.ofNat c.toNat] := by
        rw [String.utf8EncodeChar_eq_singleton hsize]
        rfl
      change String.utf8EncodeChar c ++ utf8.encode s = _
      rw [hc, ih h.2]
      rfl

/-! ### ASCII and ISO-8859-1 -/

/-- What a reader takes the labels of ASCII and ISO-8859-1 for. -/
def windows1252 : Charset := ⟨"windows-1252", .singleByte SingleByte.windows1252⟩

/-- The character that windows-1252 has in the place of a character of ISO-8859-1. -/
def rereadChar (c : Char) : Char :=
  if c.toNat < 0x80 then c else Char.ofNat (SingleByte.windows1252.getD (c.toNat - 0x80) 0)

/-- The characters of ISO-8859-1 that are not in their place in windows-1252. -/
def misread : CharSet :=
  [(0x80, 0x80), (0x82, 0x8C), (0x8E, 0x8E), (0x91, 0x9C), (0x9E, 0x9F)]

theorem lt_of_canEncode_direct {name : String} {count : Nat} {c : Char}
    (h : canEncode ⟨name, .direct count⟩ c = true) : c.toNat < count := by
  rw [canEncode, Codec.canEncode, Codec.encodeChar?] at h
  split at h
  · assumption
  · cases h

/-- Characters that are written as their code points. -/
theorem encode_direct {name : String} {count : Nat} {s : Text} (h : ∀ c ∈ s, c.toNat < count) :
    encode ⟨name, .direct count⟩ s = Codec.asciiBytes s := by
  induction s with
  | nil => rfl
  | cons c s ih =>
      rw [List.forall_mem_cons] at h
      have hc : Codec.encodeChar? (.direct count) c = some [UInt8.ofNat c.toNat] := if_pos h.1
      change ((Codec.encodeChar? (.direct count) c).getD _) ++ encode ⟨name, .direct count⟩ s = _
      rw [hc, ih h.2]
      rfl

theorem toNat_ofNat_toNat {c : Char} (h : c.toNat < 0x100) : (UInt8.ofNat c.toNat).toNat = c.toNat :=
  (UInt8.toNat_ofNat' ..).trans (Nat.mod_eq_of_lt h)

theorem decodeByte_windows1252 {c : Char} (h : c.toNat < 0x100) :
    (if (UInt8.ofNat c.toNat).toNat < 0x80 then some (Char.ofNat (UInt8.ofNat c.toNat).toNat)
      else SingleByte.decode? SingleByte.windows1252 (UInt8.ofNat c.toNat)) =
        some (rereadChar c) := by
  rw [toNat_ofNat_toNat h, rereadChar]
  split
  · rw [Char.ofNat_toNat]
  · rename_i hc
    have hlength : c.toNat - 0x80 < SingleByte.windows1252.length :=
      show c.toNat - 0x80 < 128 by omega
    have hassigned : SingleByte.windows1252.all (· ≠ 0) = true := by decide +kernel
    have hcode := of_decide_eq_true (List.all_eq_true.1 hassigned _ (List.getElem_mem hlength))
    rw [SingleByte.decode?, toNat_ofNat_toNat h, List.getD, List.getElem?_eq_getElem hlength,
      Option.getD_some]
    split
    · rename_i hzero
      exact absurd (Option.some.inj hzero) hcode
    · rename_i hsome
      rw [Option.some.inj hsome]
    · rename_i hnone
      cases hnone

/-- Reading succeeds if it does for every part. -/
theorem mapM_map_eq_some {α β γ : Type} {read : β → Option γ} {write : α → β} {found : α → γ}
    {parts : List α} (h : ∀ a ∈ parts, read (write a) = some (found a)) :
    (parts.map write).mapM read = some (parts.map found) := by
  induction parts with
  | nil => rfl
  | cons a parts ih =>
      rw [List.forall_mem_cons] at h
      rw [List.map_cons, List.mapM_cons, h.1, ih h.2]
      rfl

/-- What a reader makes of the code points as bytes. -/
theorem decode?_windows1252 {s : Text} (h : ∀ c ∈ s, c.toNat < 0x100) :
    windows1252.decode? (Codec.asciiBytes s) = some (s.map rereadChar) :=
  mapM_map_eq_some fun c hc => decodeByte_windows1252 (h c hc)

theorem toNat_ofNat {n : Nat} (h : n.isValidChar) : (Char.ofNat n).toNat = n := by
  rw [Char.ofNat, dif_pos h]
  rfl

theorem misread_of_ascii {c : Char} (h : c.toNat < 0x80) : misread.contains c = false := by
  simp [misread, CharSet.contains]
  omega

/-- The upper half of windows-1252 has another character in a place exactly if that of ISO-8859-1 is
misread. -/
theorem windows1252_places : (SingleByte.windows1252.zipIdx 0x80).all (fun (code, n) =>
    decide code.isValidChar && (code == n) ==
      !misread.any fun (first, last) => first ≤ n && n ≤ last) = true := by
  decide +kernel

/-- A character is read back exactly if it is in its place in windows-1252. -/
theorem rereadChar_eq_iff {c : Char} (h : c.toNat < 0x100) :
    rereadChar c = c ↔ misread.contains c = false := by
  rw [rereadChar]
  split
  · exact iff_of_true rfl (misread_of_ascii ‹_›)
  · rename_i hc
    have hlength : c.toNat - 0x80 < SingleByte.windows1252.length :=
      show c.toNat - 0x80 < 128 by omega
    have hplace := List.all_eq_true.1 windows1252_places (SingleByte.windows1252[c.toNat - 0x80], c.toNat)
      (List.mk_mem_zipIdx_iff_le_and_getElem?_sub.2
        ⟨Nat.le_of_not_lt hc, List.getElem?_eq_getElem hlength⟩)
    obtain ⟨hvalid, hplace⟩ := (Bool.and_eq_true _ _).mp hplace
    rw [List.getD, List.getElem?_eq_getElem hlength, Option.getD_some, ← Char.toNat_inj,
      toNat_ofNat (of_decide_eq_true hvalid), ← beq_iff_eq, eq_of_beq hplace, Bool.not_eq_true',
      CharSet.contains]
theorem map_rereadChar_eq_iff {s : Text} (h : ∀ c ∈ s, c.toNat < 0x100) :
    s.map rereadChar = s ↔ ∀ c ∈ s, misread.contains c = false := by
  have hmap := List.map_inj_left (l := s) (f := rereadChar) (g := id)
  rw [List.map_id] at hmap
  rw [hmap]
  exact forall₂_congr fun c hc => rereadChar_eq_iff (h c hc)

end Charset

end XmlScribe
