/-
**Numerals of bounded size.**

Character references hold a number in decimal or hexadecimal digits that must fit in 32 bits.
Digits are looked at from left to right, so of two faults the one further left is reported; at one
digit, being no digit comes before being too much.

Main definitions:

* `Numeral.Fault` — why a text is no numeral;
* `Numeral.read` — the number a text of digits denotes;
* `Numeral.readSigned` — the same, with one plus sign allowed in front;
* `Text.charOfCode?` — the character with a given code point.
-/

import XmlScribe.Text.Basic

set_option autoImplicit false

namespace XmlScribe

namespace Numeral

/-- Why a text is no numeral. -/
inductive Fault where
  /-- There is no digit at all. -/
  | empty
  /-- A character is no digit of the radix. -/
  | invalidDigit
  /-- The number needs more than 32 bits. -/
  | tooLarge
deriving DecidableEq, Repr

/-- The wording of a fault. -/
def Fault.message : Fault → String
  | .empty => "cannot parse integer from empty string"
  | .invalidDigit => "invalid digit found in string"
  | .tooLarge => "number too large to fit in target type"

/-- The value of a character as a digit of the radix, which is at most 16. -/
def digit? (radix : Nat) (c : Char) : Option Nat :=
  let value? :=
    if '0' ≤ c ∧ c ≤ '9' then some (c.toNat - '0'.toNat)
    else if 'a' ≤ c ∧ c ≤ 'f' then some (c.toNat - 'a'.toNat + 10)
    else if 'A' ≤ c ∧ c ≤ 'F' then some (c.toNat - 'A'.toNat + 10)
    else none
  value?.filter (· < radix)

/-- The first number that is too large. -/
def limit : Nat := 0x100000000

/-- Goes on with the digits after those that denote `value`. -/
def readFrom (radix : Nat) : (value : Nat) → Text → Except Fault Nat
  | value, [] => .ok value
  | value, c :: s =>
      match digit? radix c with
      | none => .error .invalidDigit
      | some d =>
          if value * radix + d < limit then readFrom radix (value * radix + d) s
          else .error .tooLarge

/-- The number that the digits of `s` denote. -/
def read (radix : Nat) (s : Text) : Except Fault Nat :=
  if s.isEmpty then .error .empty else readFrom radix 0 s

/-- The number that `s` denotes, with one plus sign allowed in front of the digits. -/
def readSigned (radix : Nat) : Text → Except Fault Nat
  | ['+'] => .error .invalidDigit
  | '+' :: s => readFrom radix 0 s
  | s => read radix s

end Numeral

/-- The character with the code point `n`.  Surrogates and numbers above `10FFFF` have none. -/
def Text.charOfCode? (n : Nat) : Option Char :=
  if n.isValidChar then some (Char.ofNat n) else none

end XmlScribe
