/-
**Labels of character sets.**

A writer puts the label that it was given into the XML declaration.  The label may have white space
around it and any mixture of capitals, but apart from that it is a label of the registry, so nothing
in it can end the attribute or the declaration that it stands in.

Main results:

* `Charset.not_mem_of_forWriting?` — which characters a label that a writer knows does not have;
* `Charset.hasAscii_of_forWriting?` — which characters every character set with a label has.
-/

import Mathlib.Data.Bool.AllAny
import XmlScribe.Charset.Basic

set_option autoImplicit false

namespace XmlScribe

namespace Charset

theorem mem_dropWhile {p : Char → Bool} {s : Text} {c : Char} (hc : p c = false) (h : c ∈ s) :
    c ∈ s.dropWhile p := by
  induction s with
  | nil => exact h
  | cons d s ih =>
      rw [List.dropWhile_cons]
      split
      · rename_i hd
        rcases List.mem_cons.1 h with rfl | h
        · rw [hc] at hd
          cases hd
        · exact ih h
      · exact h

/-- Only white space is cut off. -/
theorem mem_trimmed {isSpace : Char → Bool} {s : Text} {c : Char} (hc : isSpace c = false)
    (h : c ∈ s) : c ∈ trimmed isSpace s :=
  List.mem_reverse.2 (mem_dropWhile hc (List.mem_reverse.2 (mem_dropWhile hc h)))

/-- The characters that would end an attribute or an XML declaration. -/
def endings : Text := ['"', '?']

theorem mem_literalLabels {label : String} {charset : Charset}
    (h : literalLabels.lookup label = some charset) : (label, charset) ∈ literalLabels := by
  obtain ⟨before, after, hsplit, -⟩ := List.lookup_eq_some_iff.1 h
  rw [hsplit]
  simp

theorem endings_not_mem_literalLabels :
    ∀ entry ∈ literalLabels, ∀ c ∈ endings, c ∉ entry.1.toList := by
  have hall : ∀ entry ∈ literalLabels, endings.all (· ∉ entry.1.toList) = true := by decide
  exact fun entry hentry => List.all_iff_forall_prop.1 (hall entry hentry)

/-- A character that is a single byte in UTF-8 is found among the bytes of a string. -/
theorem mem_toByteArray {s : String} {c : Char} {b : UInt8} (hb : String.utf8EncodeChar c = [b])
    (hc : c ∈ s.toList) : b ∈ s.toByteArray.data.toList := by
  rw [← String.utf8Encode_toList, List.utf8Encode, List.data_toByteArray, List.toList_toArray]
  exact List.mem_flatMap.2 ⟨c, hc, by rw [hb, List.mem_singleton]⟩

/-- The registry is long, and its labels are decided faster as bytes than as characters. -/
theorem endings_not_mem_registry :
    ∀ entry ∈ registry, ∀ label ∈ entry.2, ∀ c ∈ endings, c ∉ label.toList := by
  have hall : ∀ entry ∈ registry, ∀ label ∈ entry.2,
      [34, 63].all (· ∉ label.toByteArray.data.toList) = true := by decide +kernel
  intro entry hentry label hlabel c hc hmem
  have hbytes := List.all_iff_forall_prop.1 (hall entry hentry label hlabel)
  simp only [endings, List.mem_cons, List.not_mem_nil, or_false] at hc
  rcases hc with rfl | rfl
  · exact hbytes 34 (by simp) (mem_toByteArray (by decide) hmem)
  · exact hbytes 63 (by simp) (mem_toByteArray (by decide) hmem)

/-- These characters are neither white space nor letters. -/
theorem of_mem_endings {c : Char} (h : c ∈ endings) : whiteSpace.contains c = false ∧
    isLabelSpace c = false ∧ c.toUpper = c ∧ c.toLower = c := by
  have hall : endings.all (fun c => whiteSpace.contains c = false ∧ isLabelSpace c = false ∧
      c.toUpper = c ∧ c.toLower = c) = true := by decide
  exact List.all_iff_forall_prop.1 hall c h

theorem not_mem_of_forReading? {label : Text} {charset : Charset}
    (h : forReading? label = some charset) {c : Char} (hc : c ∈ endings) : c ∉ label := by
  intro hm
  obtain ⟨-, hspace, -, hlower⟩ := of_mem_endings hc
  obtain ⟨⟨found, labels⟩, hentry, hfound⟩ := List.exists_of_findSome?_eq_some h
  simp only at hfound
  split at hfound
  · rename_i hlabel
    have hnot := endings_not_mem_registry _ hentry _ hlabel c hc
    rw [String.toList_ofList] at hnot
    exact hnot (List.mem_map.2 ⟨c, mem_trimmed hspace hm, hlower⟩)
  · cases hfound

/-- A label that a writer knows has neither a quotation mark nor a question mark. -/
theorem not_mem_of_forWriting? {label : Text} {charset : Charset}
    (h : forWriting? label = some charset) {c : Char} (hc : c ∈ endings) : c ∉ label := by
  intro hm
  obtain ⟨hspace, -, hupper, -⟩ := of_mem_endings hc
  have hmem := mem_trimmed hspace hm
  rw [forWriting?] at h
  simp only [Option.or_eq_some_iff] at h
  rcases h with h | ⟨-, h⟩
  · have hnot := endings_not_mem_literalLabels _ (mem_literalLabels h) c hc
    rw [String.toList_ofList] at hnot
    exact hnot (List.mem_map.2 ⟨c, hmem, hupper⟩)
  · exact not_mem_of_forReading? h hc hmem

/-! ### ASCII -/

/-- The codec has the characters of ASCII that no escape sequence begins with. -/
def HasAscii (charset : Charset) : Prop :=
  ∀ c : Char, c.toNat < 0x80 → Codec.isShift c = false → charset.canEncode c = true

theorem hasAscii_of_codec {charset : Charset}
    (h : ∀ count, charset.codec = .direct count → 0x80 ≤ count) : charset.HasAscii := by
  obtain ⟨name, codec⟩ := charset
  intro c hc hshift
  cases codec with
  | direct count =>
      have hcount : c.toNat < count := Nat.lt_of_lt_of_le hc (h count rfl)
      simp [canEncode, Codec.canEncode, Codec.encodeChar?, hcount]
  | _ => simp [canEncode, Codec.canEncode, Codec.encodeChar?, hc, hshift]

theorem hasAscii_registry : ∀ entry ∈ registry, entry.1.HasAscii := by
  have hcodec : ∀ entry ∈ registry, (match entry.1.codec with
      | .direct _ => false
      | _ => true) = true := by decide
  intro entry hentry
  refine hasAscii_of_codec fun count hcount => ?_
  have hdirect := hcodec entry hentry
  rw [hcount] at hdirect
  cases hdirect

theorem hasAscii_literalLabels : ∀ entry ∈ literalLabels, entry.2.HasAscii := by
  have hcodec : ∀ entry ∈ literalLabels, (match entry.2.codec with
      | .direct count => decide (0x80 ≤ count)
      | _ => true) = true := by decide
  intro entry hentry
  refine hasAscii_of_codec fun count hcount => ?_
  have hdirect := hcodec entry hentry
  rw [hcount] at hdirect
  exact of_decide_eq_true hdirect

/-- Every character set that a writer knows has the characters of ASCII, but perhaps not those that
switch to another set. -/
theorem hasAscii_of_forWriting? {label : Text} {charset : Charset}
    (h : forWriting? label = some charset) : charset.HasAscii := by
  rw [forWriting?] at h
  simp only [Option.or_eq_some_iff] at h
  rcases h with h | ⟨-, h⟩
  · exact hasAscii_literalLabels _ (mem_literalLabels h)
  · obtain ⟨⟨found, labels⟩, hentry, hfound⟩ := List.exists_of_findSome?_eq_some h
    simp only at hfound
    split at hfound
    · cases hfound
      exact hasAscii_registry _ hentry
    · cases hfound

end Charset

end XmlScribe
