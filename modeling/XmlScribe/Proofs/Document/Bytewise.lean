/-
**UTF-8, byte by byte.**

Before the character set of some bytes is known, they are looked at as if every byte were a character.
In UTF-8 a character outside ASCII consists of bytes outside ASCII, so a mark in ASCII is found in the
bytes of a text exactly where it stands in the text; and the bytes do not begin like a mark of byte
order unless the text begins with one.

Main definitions:

* `Document.bytewise` — the bytes of a text in UTF-8 as characters.

Main results:

* `Document.after?_bytewise`, `Document.cutAt_bytewise` — marks are found where they stand;
* `Document.decode?_bytewise` — the characters can be made a text again;
* `Document.announcedCharset?_encode_utf8` — no mark of byte order is seen where there is none.
-/

import XmlScribe.Document.Read
import XmlScribe.Proofs.Charset.Reading
import XmlScribe.Proofs.Text.Occurrence

set_option autoImplicit false

namespace XmlScribe

namespace Text

/-- A mark is not found in a text that its first character is not in. -/
theorem cutAt_append_of_not_mem {a : Char} {s : Text} (mark t : Text) (h : a ∉ s) :
    cutAt (a :: mark) (s ++ t) =
      (cutAt (a :: mark) t).map fun (before, rest) => (s ++ before, rest) := by
  induction s with
  | nil => cases h : cutAt (a :: mark) t <;> simp [h]
  | cons c s ih =>
      simp only [List.mem_cons, not_or] at h
      rw [List.cons_append, cutAt, after?, if_neg h.1, ih h.2]
      cases cutAt (a :: mark) t <;> rfl

end Text

namespace Charset

theorem encode_utf8_cons (c : Char) (s : Text) :
    utf8.encode (c :: s) = String.utf8EncodeChar c ++ utf8.encode s := rfl

theorem utf8EncodeChar_of_ascii {c : Char} (h : c.toNat < 0x80) :
    String.utf8EncodeChar c = [UInt8.ofNat c.toNat] := by
  have hs := encode_utf8_of_ascii (s := [c]) (by simpa using h)
  rwa [encode_utf8_cons, show utf8.encode [] = [] from rfl, List.append_nil] at hs

/-- The bytes of a character: those outside ASCII have the upper bit set, and none is greater than the
first byte of four. -/
theorem toNat_of_mem_utf8EncodeChar {c : Char} {b : UInt8} (hb : b ∈ String.utf8EncodeChar c) :
    (0x80 ≤ c.toNat → 0x80 ≤ b.toNat) ∧ b.toNat < 0xF8 := by
  have hv : c.val.toNat = c.toNat := rfl
  have hvalid : c.toNat < 0xD800 ∨ 0xDFFF < c.toNat ∧ c.toNat < 0x110000 := c.valid
  have hbyte : ∀ {n : Nat}, (0x80 ≤ c.toNat → 0x80 ≤ n) → n < 0xF8 → b = UInt8.ofNat n →
      (0x80 ≤ c.toNat → 0x80 ≤ b.toNat) ∧ b.toNat < 0xF8 := by
    rintro n hlow hhigh rfl
    rw [UInt8.toNat_ofNat_of_lt' (Nat.lt_trans hhigh (by decide))]
    exact ⟨hlow, hhigh⟩
  rw [String.utf8EncodeChar, hv] at hb
  split at hb
  · exact hbyte (by omega) (by omega) (List.mem_singleton.1 hb)
  · split at hb
    · simp only [List.mem_cons, List.not_mem_nil, or_false] at hb
      rcases hb with hb | hb <;> exact hbyte (by omega) (by omega) hb
    · split at hb
      · simp only [List.mem_cons, List.not_mem_nil, or_false] at hb
        rcases hb with hb | hb | hb <;> exact hbyte (by omega) (by omega) hb
      · simp only [List.mem_cons, List.not_mem_nil, or_false] at hb
        rcases hb with hb | hb | hb | hb <;> exact hbyte (by omega) (by omega) hb

/-- Only one character begins with the bytes of the mark of byte order. -/
theorem eq_of_utf8EncodeChar_append {c : Char} {s t : Bytes}
    (h : String.utf8EncodeChar c ++ s = 0xEF :: 0xBB :: 0xBF :: t) : c = '\uFEFF' := by
  have hv : c.val.toNat = c.toNat := rfl
  have hvalid : c.toNat < 0xD800 ∨ 0xDFFF < c.toNat ∧ c.toNat < 0x110000 := c.valid
  have hbyte : ∀ {n : Nat} {b : UInt8}, UInt8.ofNat n = b → n < 0x100 → n = b.toNat := by
    rintro n _ rfl hn
    exact (UInt8.toNat_ofNat_of_lt' hn).symm
  rw [String.utf8EncodeChar, hv] at h
  split at h
  · have h₁ := hbyte (List.cons.inj h).1 (by omega)
    exact absurd h₁ (by simp; omega)
  · split at h
    · have h₁ := hbyte (List.cons.inj h).1 (by omega)
      exact absurd h₁ (by simp; omega)
    · split at h
      · obtain ⟨h₁, h⟩ := List.cons.inj h
        obtain ⟨h₂, h⟩ := List.cons.inj h
        have h₁ := hbyte h₁ (by omega)
        have h₂ := hbyte h₂ (by omega)
        have h₃ := hbyte (List.cons.inj h).1 (by omega)
        refine Char.toNat_inj.1 (show c.toNat = 0xFEFF from ?_)
        simp at h₁ h₂ h₃
        omega
      · have h₁ := hbyte (List.cons.inj h).1 (by omega)
        exact absurd h₁ (by simp)

end Charset

namespace Document

/-- The characters with the bytes of a text in UTF-8 as code points. -/
def bytewise (t : Text) : Text :=
  ofBytes (Charset.utf8.encode t)

theorem bytewise_cons (c : Char) (t : Text) :
    bytewise (c :: t) = ofBytes (String.utf8EncodeChar c) ++ bytewise t := by
  rw [bytewise, Charset.encode_utf8_cons, ofBytes, List.map_append]
  rfl

/-- ASCII stays as it is. -/
theorem bytewise_cons_of_lt {c : Char} (h : c.toNat < 0x80) (t : Text) :
    bytewise (c :: t) = c :: bytewise t := by
  rw [bytewise_cons, Charset.utf8EncodeChar_of_ascii h, ofBytes, List.map_singleton,
    UInt8.toNat_ofNat_of_lt' (Nat.lt_trans h (by decide)), Char.ofNat_toNat]
  rfl

theorem bytewise_append_of_ascii {s : Text} (h : ∀ c ∈ s, c.toNat < 0x80) (t : Text) :
    bytewise (s ++ t) = s ++ bytewise t := by
  induction s with
  | nil => rfl
  | cons c s ih =>
      rw [List.forall_mem_cons] at h
      rw [List.cons_append, bytewise_cons_of_lt h.1, ih h.2, List.cons_append]

/-- Nothing else becomes ASCII. -/
theorem bytewise_cons_of_le {c : Char} (h : 0x80 ≤ c.toNat) :
    ∃ d s, (∀ e ∈ d :: s, 0x80 ≤ e.toNat) ∧ ∀ t, bytewise (c :: t) = d :: s ++ bytewise t := by
  have hhigh : ∀ e ∈ ofBytes (String.utf8EncodeChar c), 0x80 ≤ e.toNat := by
    intro e he
    obtain ⟨b, hb, rfl⟩ := List.mem_map.1 he
    have hvalid : b.toNat.isValidChar := .inl (Nat.lt_trans b.toNat_lt (by decide))
    rw [Charset.toNat_ofNat hvalid]
    exact (Charset.toNat_of_mem_utf8EncodeChar hb).1 h
  obtain ⟨d, s, hs⟩ := List.exists_cons_of_ne_nil
    (show ofBytes (String.utf8EncodeChar c) ≠ [] by simp [ofBytes])
  exact ⟨d, s, hs ▸ hhigh, fun t => by rw [bytewise_cons, hs]⟩

theorem ne_of_lt_of_le {a c : Char} (ha : a.toNat < 0x80) (hc : 0x80 ≤ c.toNat) : a ≠ c := by
  rintro rfl
  omega

/-- What a text begins with in ASCII is found in its bytes. -/
theorem after?_bytewise {lead : Text} (h : ∀ a ∈ lead, a.toNat < 0x80) (t : Text) :
    Text.after? lead (bytewise t) = (Text.after? lead t).map bytewise := by
  induction lead generalizing t with
  | nil => rfl
  | cons a lead ih =>
      rw [List.forall_mem_cons] at h
      cases t with
      | nil => rfl
      | cons c t =>
          rcases Nat.lt_or_ge c.toNat 0x80 with hc | hc
          · rw [bytewise_cons_of_lt hc, Text.after?, Text.after?]
            split
            · exact ih h.2 t
            · rfl
          · obtain ⟨d, s, hs, ht⟩ := bytewise_cons_of_le hc
            rw [ht, List.cons_append, Text.after?, if_neg (ne_of_lt_of_le h.1 (hs d (by simp))),
              Text.after?, if_neg (ne_of_lt_of_le h.1 hc)]
            rfl

/-- A mark in ASCII is found in the bytes of a text where it stands in the text. -/
theorem cutAt_bytewise {a : Char} {mark : Text} (h : ∀ b ∈ a :: mark, b.toNat < 0x80) (t : Text) :
    Text.cutAt (a :: mark) (bytewise t) =
      (Text.cutAt (a :: mark) t).map (Prod.map bytewise bytewise) := by
  induction t with
  | nil => rfl
  | cons c t ih =>
      rcases Nat.lt_or_ge c.toNat 0x80 with hc | hc
      · have hafter := after?_bytewise h (c :: t)
        rw [bytewise_cons_of_lt hc] at hafter ⊢
        rw [Text.cutAt, Text.cutAt, hafter]
        cases Text.after? (a :: mark) (c :: t) with
        | some rest => rfl
        | none =>
            simp only [Option.map_none, ih]
            cases Text.cutAt (a :: mark) t with
            | none => rfl
            | some p => simp [bytewise_cons_of_lt hc]
      · -- The mark begins in none of the bytes of this character, and so not in the character either.
        obtain ⟨d, s, hs, ht⟩ := bytewise_cons_of_le hc
        have ha := (List.forall_mem_cons.1 h).1
        have hcut := Text.cutAt_append_of_not_mem (s := [c]) mark t
          (by simpa using ne_of_lt_of_le ha hc)
        rw [List.singleton_append] at hcut
        rw [ht, Text.cutAt_append_of_not_mem mark _
          (fun hm => ne_of_lt_of_le ha (hs a hm) rfl), ih, hcut]
        cases Text.cutAt (a :: mark) t with
        | none => rfl
        | some p => simp [ht]

/-- The characters are the bytes again, and the bytes the text. -/
theorem decode?_bytewise (t : Text) :
    Codec.utf8.decode? ((bytewise t).map fun c => UInt8.ofNat c.toNat) = some t := by
  have hbytes : (bytewise t).map (fun c => UInt8.ofNat c.toNat) = Charset.utf8.encode t := by
    rw [bytewise, ofBytes, List.map_map]
    refine (List.map_congr_left fun b _ => ?_).trans (List.map_id _)
    have hvalid : b.toNat.isValidChar := .inl (Nat.lt_trans b.toNat_lt (by decide))
    rw [Function.comp_apply, Charset.toNat_ofNat hvalid, UInt8.ofNat_toNat]
    rfl
  rw [hbytes]
  exact Charset.decode?_encode_utf8 t

/-- The bytes of a text that does not begin with a mark of byte order do not either, and they do not
begin with one of UTF-16. -/
theorem announcedCharset?_encode_utf8 {t : Text} (h : t.head? ≠ some '\uFEFF') :
    announcedCharset? (Charset.utf8.encode t) = none := by
  have hbytes : ∀ b ∈ Charset.utf8.encode t, b.toNat < 0xF8 := by
    intro b hb
    obtain ⟨c, -, hc⟩ := List.mem_flatMap.1 hb
    exact (Charset.toNat_of_mem_utf8EncodeChar hc).2
  rw [announcedCharset?.eq_def]
  -- The mark of UTF-8 is the encoding of a character; those of UTF-16 have bytes that never occur.
  split
  · rename_i rest he
    cases t with
    | nil => cases he
    | cons c t => exact absurd (congrArg some (Charset.eq_of_utf8EncodeChar_append he)) h
  · rename_i rest he
    exact absurd (hbytes 0xFF (by rw [he]; simp)) (by decide)
  · rename_i rest he
    exact absurd (hbytes 0xFE (by rw [he]; simp)) (by decide)
  · rfl

end Document

end XmlScribe
