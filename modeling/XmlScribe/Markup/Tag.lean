/-
**The attributes in a tag.**

The content of a start tag, or of an XML declaration, is a name followed by attributes.  Blanks
may surround the equals sign, and none is needed between two attributes.  The place of a fault is
counted in UTF-8 bytes from the start of the content.

Main definitions:

* `RawAttribute` — a name and a value as they stand in a tag;
* `Tag.name` — the name at the start of the content;
* `Tag.endName` — the name that an end tag gives;
* `Tag.takeAttribute` — the next attribute;
* `Tag.attributes` — all attributes up to the first fault.
-/

import XmlScribe.Markup.Fault

set_option autoImplicit false

namespace XmlScribe

/-- An attribute as it stands in a tag. -/
structure RawAttribute where
  /-- The name. -/
  name : Text
  /-- The text between the quotation marks. -/
  value : Text
  /-- The place of the name. -/
  place : Nat
deriving DecidableEq, Repr

namespace Tag

/-- The name at the start of a tag. -/
def name (content : Text) : Text :=
  content.takeWhile (!Text.isBlank ·)

/-- The content of a tag after its name. -/
def afterName (content : Text) : Text :=
  content.dropWhile (!Text.isBlank ·)

/-- The name that an end tag gives: its content without the blanks at the end.  Content that is
nothing but blanks is a name too. -/
def endName (content : Text) : Text :=
  match Text.trimEnd content with
  | [] => content
  | name => name

/-- A text at a place, without the blanks at its start. -/
def skipBlanks (place : Nat) (s : Text) : Nat × Text :=
  (place + (s.takeWhile Text.isBlank).length, Text.trimStart s)

/-- The name of an attribute goes on with this character. -/
def continuesKey (c : Char) : Bool :=
  !(c == '=' || Text.isBlank c)

/-- The value at the start of the text, without its quotation marks, with the place and the text
after it. -/
def takeValue (place : Nat) : Text → Except AttributeFault (Text × Nat × Text)
  | [] => .error (.valueExpected place)
  | quote :: s =>
      if quote = '"' ∨ quote = '\'' then
        match Text.cutAt [quote] s with
        | some (value, rest) => .ok (value, place + 2 + Text.utf8Size value, rest)
        | none => .error (.unclosedQuote (place + 1 + Text.utf8Size s) quote)
      else .error (.unquoted place)

/-- The attribute whose name begins with `c` at `place` and goes on in `s`, with the place and the
text after it.  `earlier` gives the place where a name has stood before. -/
def takeAttribute (earlier : Text → Option Nat) (place : Nat) (c : Char) (s : Text) :
    Except AttributeFault (RawAttribute × Nat × Text) :=
  let key := c :: s.takeWhile continuesKey
  match skipBlanks (place + Text.utf8Size key) (s.dropWhile continuesKey) with
  | (equals, '=' :: s) =>
      match earlier key with
      | some first => .error (.duplicated place first)
      | none =>
          let (start, s) := skipBlanks (equals + 1) s
          (takeValue start s).map fun (value, after, rest) => (⟨key, value, place⟩, after, rest)
  | (equals, _) => .error (.equalsExpected equals)

theorem length_takeValue_lt {place : Nat} {s : Text} {r : Text × Nat × Text}
    (h : takeValue place s = .ok r) : r.2.2.length < s.length := by
  cases s with
  | nil => simp [takeValue] at h
  | cons c s =>
      simp only [takeValue] at h
      split at h
      · split at h
        · rename_i hc
          cases h
          rw [Text.eq_of_cutAt hc]
          simp only [List.length_cons, List.length_append, List.length_nil]
          omega
        · simp at h
      · simp at h

/-- An attribute takes something away. -/
theorem length_takeAttribute_lt {earlier : Text → Option Nat} {place : Nat} {c : Char} {s : Text}
    {r : RawAttribute × Nat × Text} (h : takeAttribute earlier place c s = .ok r) :
    r.2.2.length < s.length := by
  unfold takeAttribute at h
  simp only at h
  split at h
  · rename_i equals t ht
    split at h
    · simp at h
    · cases hv : takeValue (skipBlanks (equals + 1) t).1 (skipBlanks (equals + 1) t).2 with
      | error e => simp [hv, Except.map] at h
      | ok v =>
          simp only [hv, Except.map, Except.ok.injEq] at h
          subst h
          have h₁ := length_takeValue_lt hv
          have h₂ : (skipBlanks (equals + 1) t).2.length ≤ t.length :=
            (List.dropWhile_sublist _).length_le
          have h₃ : ('=' :: t).length ≤ (s.dropWhile continuesKey).length := by
            have := congrArg Prod.snd ht
            simp only [skipBlanks] at this
            rw [← this]
            exact (List.dropWhile_sublist _).length_le
          have h₄ : (s.dropWhile continuesKey).length ≤ s.length :=
            (List.dropWhile_sublist _).length_le
          simp only [List.length_cons] at h₃
          show v.2.2.length < s.length
          omega
  · simp at h

/-- The attributes in a text at a place, up to the first fault.  `seen` are the attributes before
it; if `distinct` is set, no name may stand twice. -/
def attributesFrom (distinct : Bool) (seen : List RawAttribute) (place : Nat) (s : Text) :
    List RawAttribute × Option AttributeFault :=
  match _hs : skipBlanks place s with
  | (_, []) => ([], none)
  | (start, c :: t) =>
      let earlier key :=
        if distinct then (seen.find? fun a => a.name = key).map RawAttribute.place else none
      match _ht : takeAttribute earlier start c t with
      | .error fault => ([], some fault)
      | .ok (a, after, rest) =>
          let (more, fault) := attributesFrom distinct (seen ++ [a]) after rest
          (a :: more, fault)
termination_by s.length
decreasing_by
  have h₁ := length_takeAttribute_lt _ht
  have h₂ : (c :: t).length ≤ s.length := by
    have := congrArg Prod.snd _hs
    simp only [skipBlanks] at this
    rw [← this]
    exact (List.dropWhile_sublist _).length_le
  simp only [List.length_cons] at h₂
  exact Nat.lt_trans h₁ h₂

/-- The attributes in the content of a start tag, no two of which may have the same name. -/
def attributes (content : Text) : List RawAttribute × Option AttributeFault :=
  attributesFrom true [] (Text.utf8Size (name content)) (afterName content)

/-- The attributes in the content of an XML declaration. -/
def declarationAttributes (content : Text) : List RawAttribute × Option AttributeFault :=
  attributesFrom false [] 3 (content.drop 3)

end Tag

end XmlScribe
