/-
**Text as a list of characters.**

All text of the library, from a name to a whole document, is a list of characters.  Functions on
text are then recursions on lists, and a statement about a concrete text can be evaluated.

A set of characters is given by ranges of code points, both ends included.

Main definitions:

* `Text` — a list of characters;
* `Text.isBlank`, `Text.trimStart`, `Text.trimEnd` — the white space of XML and its removal;
* `Text.after?` — what follows a given beginning;
* `Text.cutAt` — the two sides of the first occurrence of a mark;
* `Text.utf8Size` — the length in UTF-8 bytes;
* `Text.decimal`, `Text.hexadecimal` — the digits of a number;
* `CharSet`, `CharSet.contains` — a list of ranges, and membership;
* `CharSet.privateUse` — the characters whose meaning is left to agreement.

Main results:

* `Text.after?_eq_some_iff` — a beginning is taken off exactly where it stands;
* `Text.eq_of_cutAt` — cutting loses nothing but the mark.
-/

set_option autoImplicit false

namespace XmlScribe

/-- A text: its characters in reading order. -/
abbrev Text := List Char

namespace Text

/-! ### Blanks -/

/-- The white space of XML: space, tab, line feed and carriage return. -/
def isBlank (c : Char) : Bool :=
  c == ' ' || c == '\t' || c == '\n' || c == '\r'

/-- The text without the blanks at its start. -/
def trimStart (s : Text) : Text :=
  s.dropWhile isBlank

/-- The text without the blanks at its end. -/
def trimEnd (s : Text) : Text :=
  (s.reverse.dropWhile isBlank).reverse

/-- Nothing but blanks. -/
def isAllBlank (s : Text) : Bool :=
  s.all isBlank

/-! ### Taking a text apart -/

/-- What follows `lead` in `s`, if `s` begins with `lead`. -/
def after? : Text → Text → Option Text
  | [], s => some s
  | _ :: _, [] => none
  | a :: lead, c :: s => if a = c then after? lead s else none

theorem after?_eq_some_iff {lead s rest : Text} :
    after? lead s = some rest ↔ s = lead ++ rest := by
  induction lead generalizing s with
  | nil => simp [after?]
  | cons a lead ih =>
      cases s with
      | nil => simp [after?]
      | cons c s =>
          by_cases h : a = c
          · subst h; simp [after?, ih]
          · simp [after?, h, Ne.symm h]

/-- The text before and the text after the first occurrence of `mark`. -/
def cutAt (mark : Text) : Text → Option (Text × Text)
  | [] => (after? mark []).map ([], ·)
  | c :: s =>
      match after? mark (c :: s) with
      | some rest => some ([], rest)
      | none => (cutAt mark s).map fun (before, rest) => (c :: before, rest)

theorem eq_of_cutAt {mark s before rest : Text} (h : cutAt mark s = some (before, rest)) :
    s = before ++ mark ++ rest := by
  induction s generalizing before with
  | nil =>
      simp only [cutAt, Option.map_eq_some_iff, Prod.mk.injEq] at h
      obtain ⟨r, hr, rfl, rfl⟩ := h
      simpa using after?_eq_some_iff.1 hr
  | cons c s ih =>
      cases hm : after? mark (c :: s) with
      | some r =>
          simp only [cutAt, hm, Option.some.injEq, Prod.mk.injEq] at h
          obtain ⟨rfl, rfl⟩ := h
          simpa using after?_eq_some_iff.1 hm
      | none =>
          simp only [cutAt, hm, Option.map_eq_some_iff, Prod.mk.injEq, Prod.exists] at h
          obtain ⟨b, r, hb, rfl, rfl⟩ := h
          simp [ih hb]

/-- The text contains `mark`. -/
def contains (mark s : Text) : Bool :=
  (cutAt mark s).isSome

/-- The pieces of the text between the occurrences of a character. -/
def splitOn (sep : Char) : Text → List Text
  | [] => [[]]
  | c :: s =>
      if c = sep then [] :: splitOn sep s
      else
        match splitOn sep s with
        | [] => [[c]]
        | piece :: pieces => (c :: piece) :: pieces

/-! ### Size and digits -/

/-- The number of bytes the text takes in UTF-8. -/
def utf8Size : Text → Nat
  | [] => 0
  | c :: s => c.utf8Size + utf8Size s

theorem utf8Size_append (s t : Text) : utf8Size (s ++ t) = utf8Size s + utf8Size t := by
  induction s with
  | nil => simp [utf8Size]
  | cons c s ih =>
      rw [List.cons_append, utf8Size, utf8Size, ih, Nat.add_assoc]

/-- The decimal digits of a number. -/
def decimal (n : Nat) : Text :=
  Nat.toDigits 10 n

/-- The hexadecimal digits of a number, in capitals. -/
def hexadecimal (n : Nat) : Text :=
  (Nat.toDigits 16 n).map Char.toUpper

/-- `text` with zeros in front until it has `width` characters. -/
def zeroPadded (width : Nat) (text : Text) : Text :=
  List.replicate (width - text.length) '0' ++ text

end Text

/-! ### Sets of characters -/

/-- A set of characters, as ranges of code points with both ends included. -/
abbrev CharSet := List (Nat × Nat)

namespace CharSet

/-- The code point of `c` lies in one of the ranges. -/
def contains (set : CharSet) (c : Char) : Bool :=
  set.any fun (first, last) => first ≤ c.toNat && c.toNat ≤ last

/-- The private use areas. -/
def privateUse : CharSet :=
  [(0xE000, 0xF8FF), (0xF0000, 0xFFFFD), (0x100000, 0x10FFFD)]

end CharSet

end XmlScribe
