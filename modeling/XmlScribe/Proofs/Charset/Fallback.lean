/-
**The last resort of an encoder.**

What a codec cannot write becomes a decimal character reference, wherever it stands.  That is right
in text and wrong in a name or a comment.  An encoder with any other last resort writes a text with
the same bytes if the codec has all its characters.

Main definitions:

* `IsBasic` — the characters of ASCII that every codec has;
* `Codec.encodeWith` — the bytes of a text with another last resort.

Main results:

* `Codec.encodeWith_reference` — the last resort is a decimal reference;
* `Codec.encodeWith_congr` — which does not matter where all characters can be written.
-/

import Mathlib.Data.List.Basic
import XmlScribe.Proofs.Charset.Label

set_option autoImplicit false

namespace XmlScribe

/-- The character is in ASCII and switches to no other character set. -/
def IsBasic (c : Char) : Prop :=
  c.toNat < 0x80 ∧ Codec.isShift c = false

instance (c : Char) : Decidable (IsBasic c) :=
  inferInstanceAs (Decidable (_ ∧ _))

-- without it an instance that goes through all characters would be found
instance (s : Text) : Decidable (∀ c ∈ s, IsBasic c) :=
  List.decidableBAll _ s

theorem Charset.HasAscii.canEncode {charset : Charset} (h : charset.HasAscii) {c : Char}
    (hc : IsBasic c) : charset.canEncode c = true :=
  h c hc.1 hc.2

namespace Codec

/-- The character set in which a character is written, and its bytes there, with a last resort. -/
def shiftedBytesWith (resort : Nat → Bytes) (charset : MultiByte) (shift : Shift) (c : Char) :
    Shift × Bytes :=
  if isShift c then (shift.plain, resort 0xFFFD)
  else if c.toNat < 0x80 then
    (if c = '\\' ∨ c = '~' then .ascii else shift.plain, [UInt8.ofNat c.toNat])
  else
    match romanByte? c with
    | some bytes => (.roman, bytes)
    | none =>
        match charset.encode? c with
        | some bytes => (.double, bytes)
        | none => (shift.plain, resort c.toNat)

/-- The bytes of a text with escape sequences and a last resort. -/
def encodeShiftingWith (resort : Nat → Bytes) (charset : MultiByte) : (shift : Shift) → Text → Bytes
  | shift, [] => shift.change .ascii
  | shift, c :: s =>
      let (next, bytes) := shiftedBytesWith resort charset shift c
      shift.change next ++ bytes ++ encodeShiftingWith resort charset next s

/-- The bytes of a text.  For what the codec cannot write there is a last resort. -/
def encodeWith (resort : Nat → Bytes) : Codec → Text → Bytes
  | .shifting charset, s => encodeShiftingWith resort charset .ascii s
  | codec, s => s.flatMap fun c => (codec.encodeChar? c).getD (resort c.toNat)

theorem encodeShiftingWith_reference (charset : MultiByte) (shift : Shift) (s : Text) :
    encodeShiftingWith reference charset shift s = encodeShifting charset shift s := by
  induction s generalizing shift with
  | nil => rfl
  | cons c s ih =>
      have hc : shiftedBytesWith reference charset shift c = shiftedBytes charset shift c := rfl
      rw [encodeShiftingWith, encodeShifting, hc]
      simp only [ih]

/-- The last resort is a decimal reference. -/
theorem encodeWith_reference (codec : Codec) (s : Text) :
    codec.encodeWith reference s = codec.encode s := by
  cases codec with
  | shifting charset => exact encodeShiftingWith_reference charset .ascii s
  | _ => rfl

variable {resort other : Nat → Bytes}

theorem shiftedBytesWith_congr {charset : MultiByte} {c : Char}
    (h : (shifting charset).canEncode c = true) (shift : Shift) :
    shiftedBytesWith resort charset shift c = shiftedBytesWith other charset shift c := by
  rw [canEncode, encodeChar?] at h
  rw [shiftedBytesWith, shiftedBytesWith]
  cases hshift : isShift c with
  | true =>
      -- such a character cannot be encoded at all
      have hc : c.toNat < 0x80 := by
        simp only [isShift, Bool.or_eq_true, beq_iff_eq] at hshift
        omega
      simp [hc, hshift] at h
  | false =>
      by_cases hc : c.toNat < 0x80
      · simp [hc]
      · simp only [if_neg hc] at h ⊢
        cases hroman : romanByte? c with
        | some bytes => rfl
        | none =>
            rw [hroman, Option.none_or] at h
            obtain ⟨bytes, hbytes⟩ := Option.isSome_iff_exists.1 h
            rw [hbytes]
            rfl

theorem encodeShiftingWith_congr {charset : MultiByte} {s : Text}
    (h : ∀ c ∈ s, (shifting charset).canEncode c = true) (shift : Shift) :
    encodeShiftingWith resort charset shift s = encodeShiftingWith other charset shift s := by
  induction s generalizing shift with
  | nil => rfl
  | cons c s ih =>
      have htail := fun shift => ih (fun d hd => h d (List.mem_cons_of_mem c hd)) shift
      have hhead : ∀ shift, shiftedBytesWith resort charset shift c =
          shiftedBytesWith other charset shift c := shiftedBytesWith_congr (h c List.mem_cons_self)
      simp only [encodeShiftingWith, hhead, htail]

/-- Where all characters can be written the last resort does not matter. -/
theorem encodeWith_congr {codec : Codec} {s : Text} (h : ∀ c ∈ s, codec.canEncode c = true) :
    codec.encodeWith resort s = codec.encodeWith other s := by
  have hplain : (s.flatMap fun c => (codec.encodeChar? c).getD (resort c.toNat)) =
      s.flatMap fun c => (codec.encodeChar? c).getD (other c.toNat) := by
    refine List.flatMap_congr fun c hc => ?_
    obtain ⟨bytes, hbytes⟩ := Option.isSome_iff_exists.1 (h c hc)
    rw [hbytes, Option.getD_some, Option.getD_some]
  cases codec with
  | shifting charset => exact encodeShiftingWith_congr h .ascii
  | _ => exact hplain

end Codec

end XmlScribe
