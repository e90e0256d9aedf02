/-
**Reading a document type declaration.**

The text between `<!DOCTYPE` and `>` is a name, perhaps the identifiers of an external definition,
and perhaps an internal subset in brackets.  Each reader takes the text that is left and returns
what it has read together with the text after it.

Main definitions:

* `Doctype.takeName`, `Doctype.takeLiteral`, `Doctype.takeExternalId` — the parts;
* `Doctype.skipMarkup` — the rest of a declaration, a comment or a processing instruction;
* `Doctype.Header` — what a declaration says;
* `Doctype.parse` — a whole declaration;
* `Doctype.IsLeft` — what is left of a text after some of it.

Main results:

* `Doctype.takeExternalId_cases`, `Doctype.parse_cases` and the like — what a reader takes;
* `Doctype.isSuffix_takeExternalId` and the like — what a reader leaves is the end of the text;
* `Doctype.isLeft_skipMarkup` — skipping takes something away.
-/

import XmlScribe.Doctype.Basic

set_option autoImplicit false

namespace XmlScribe

namespace Doctype

/-! ### Names and literals -/

/-- A name ends before this character. -/
def endsName (c : Char) : Bool :=
  Text.isBlank c || c == '[' || c == '>' || c == '"' || c == '\'' || c == '%'

/-- The name at the start of the text. -/
def takeName (s : Text) : Except DoctypeFault (Text × Text) :=
  if s.head?.all endsName then .error .nameExpected
  else .ok (s.takeWhile (!endsName ·), s.dropWhile (!endsName ·))

/-- The literal at the start of the text, without its quotation marks. -/
def takeLiteral : Text → Except DoctypeFault (Text × Text)
  | [] => .error .literalExpected
  | c :: s =>
      if c = '"' ∨ c = '\'' then
        match Text.cutAt [c] s with
        | some (literal, rest) => .ok (literal, rest)
        | none => .error .unterminatedLiteral
      else .error .literalExpected

/-- The identifiers of an external definition. -/
structure ExternalId where
  /-- The public identifier. -/
  publicId : Option Text
  /-- The system identifier. -/
  systemId : Text
deriving DecidableEq, Repr

/-- The external identifier at the start of the text, if a keyword announces one. -/
def takeExternalId (s : Text) : Except DoctypeFault (Option ExternalId × Text) :=
  match Text.after? "SYSTEM".toList s with
  | some s => do
      let (systemId, rest) ← takeLiteral (Text.trimStart s)
      return (some ⟨none, systemId⟩, rest)
  | none =>
      match Text.after? "PUBLIC".toList s with
      | some s => do
          let (publicId, s) ← takeLiteral (Text.trimStart s)
          let (systemId, rest) ← takeLiteral (Text.trimStart s)
          return (some ⟨some publicId, systemId⟩, rest)
      | none => return (none, s)

/-! ### Skipping -/

/-- The text after the next `>` outside literals; `quote` is the mark of the literal that is
open. -/
def skipToClose : (quote : Option Char) → Text → Except DoctypeFault Text
  | none, [] => .error .unterminatedMarkup
  | some _, [] => .error .unterminatedLiteral
  | none, c :: s =>
      if c = '>' then .ok s
      else if c = '"' ∨ c = '\'' then skipToClose (some c) s
      else skipToClose none s
  | some quote, c :: s =>
      if c = quote then skipToClose none s else skipToClose (some quote) s

/-- The text after the comment or processing instruction that it begins with, or after the next
`>` outside literals. -/
def skipMarkup (s : Text) : Except DoctypeFault Text :=
  match Text.after? "<!--".toList s with
  | some s =>
      match Text.cutAt "-->".toList s with
      | some (_, rest) => .ok rest
      | none => .error .unterminatedComment
  | none =>
      match Text.after? "<?".toList s with
      | some s =>
          match Text.cutAt "?>".toList s with
          | some (_, rest) => .ok rest
          | none => .error .unterminatedInstruction
      | none => skipToClose none s

/-! ### What is left -/

theorem exists_ok_of_bind {α β : Type} {x : Except DoctypeFault α}
    {f : α → Except DoctypeFault β} {b : β} (h : x >>= f = .ok b) :
    ∃ a, x = .ok a ∧ f a = .ok b := by
  cases x with
  | error e => simp [bind, Except.bind] at h
  | ok a => exact ⟨a, rfl, h⟩

theorem exists_ok_of_map {α β : Type} {x : Except DoctypeFault α} {f : α → β} {b : β}
    (h : x.map f = .ok b) : ∃ a, x = .ok a ∧ f a = b := by
  cases x with
  | error e => simp [Except.map] at h
  | ok a => exact ⟨a, rfl, Except.ok.inj h⟩

theorem isSuffix_trimStart (s : Text) : Text.trimStart s <:+ s :=
  List.dropWhile_suffix _

theorem isSuffix_after? {lead s rest : Text} (h : Text.after? lead s = some rest) : rest <:+ s :=
  ⟨lead, (Text.after?_eq_some_iff.1 h).symm⟩

theorem isSuffix_cutAt {mark s before rest : Text} (h : Text.cutAt mark s = some (before, rest)) :
    rest <:+ s :=
  ⟨before ++ mark, (Text.eq_of_cutAt h).symm⟩

theorem eq_of_takeName {s : Text} {r : Text × Text} (h : takeName s = .ok r) :
    s = r.1 ++ r.2 := by
  rw [takeName] at h
  split at h
  · cases h
  · obtain rfl := Except.ok.inj h
    exact List.takeWhile_append_dropWhile.symm

/-- A literal stands between two marks of the same kind. -/
theorem takeLiteral_cases {s : Text} {r : Text × Text} (h : takeLiteral s = .ok r) :
    ∃ c t, s = c :: t ∧ (c = '"' ∨ c = '\'') ∧ Text.cutAt [c] t = some r := by
  cases s with
  | nil => cases h
  | cons c s =>
      rw [takeLiteral] at h
      split at h
      · rename_i hq
        split at h
        · rename_i hc
          exact ⟨c, s, rfl, hq, Except.ok.inj h ▸ hc⟩
        · cases h
      · cases h

/-- One literal follows the one keyword, two follow the other; otherwise nothing is taken. -/
theorem takeExternalId_cases {s : Text} {r : Option ExternalId × Text}
    (h : takeExternalId s = .ok r) :
    (∃ t sys, Text.after? "SYSTEM".toList s = some t ∧
      takeLiteral (Text.trimStart t) = .ok (sys, r.2) ∧ r.1 = some ⟨none, sys⟩) ∨
    (∃ t pub u sys, Text.after? "PUBLIC".toList s = some t ∧
      takeLiteral (Text.trimStart t) = .ok (pub, u) ∧
      takeLiteral (Text.trimStart u) = .ok (sys, r.2) ∧ r.1 = some ⟨some pub, sys⟩) ∨
    r = (none, s) := by
  rw [takeExternalId] at h
  split at h
  · rename_i t ht
    obtain ⟨⟨sys, rest⟩, ha, h⟩ := exists_ok_of_bind h
    obtain rfl := Except.ok.inj h
    exact .inl ⟨t, sys, ht, ha, rfl⟩
  · split at h
    · rename_i t ht
      obtain ⟨⟨pub, u⟩, ha, h⟩ := exists_ok_of_bind h
      obtain ⟨⟨sys, rest⟩, hb, h⟩ := exists_ok_of_bind h
      obtain rfl := Except.ok.inj h
      exact .inr (.inl ⟨t, pub, u, sys, ht, ha, hb, rfl⟩)
    · exact .inr (.inr (Except.ok.inj h).symm)

theorem isSuffix_takeLiteral {s : Text} {r : Text × Text} (h : takeLiteral s = .ok r) :
    r.2 <:+ s := by
  obtain ⟨c, t, rfl, -, hc⟩ := takeLiteral_cases h
  exact (isSuffix_cutAt hc).trans (List.suffix_cons c t)

theorem isSuffix_takeExternalId {s : Text} {r : Option ExternalId × Text}
    (h : takeExternalId s = .ok r) : r.2 <:+ s := by
  rcases takeExternalId_cases h with ⟨t, sys, ht, ha, -⟩ | ⟨t, pub, u, sys, ht, ha, hb, -⟩ | rfl
  · exact (isSuffix_takeLiteral ha).trans ((isSuffix_trimStart t).trans (isSuffix_after? ht))
  · exact ((isSuffix_takeLiteral hb).trans (isSuffix_trimStart u)).trans
      ((isSuffix_takeLiteral ha).trans ((isSuffix_trimStart t).trans (isSuffix_after? ht)))
  · exact List.suffix_rfl

/-- The text is what is left of `s` after one character or more. -/
def IsLeft (rest s : Text) : Prop :=
  ∃ c t, s = c :: t ∧ rest <:+ t

theorem IsLeft.isSuffix {rest s : Text} (h : IsLeft rest s) : rest <:+ s := by
  obtain ⟨c, t, rfl, h⟩ := h
  exact h.trans (List.suffix_cons c t)

theorem IsLeft.length_lt {rest s : Text} (h : IsLeft rest s) : rest.length < s.length := by
  obtain ⟨c, t, rfl, h⟩ := h
  exact Nat.lt_succ_of_le h.length_le

theorem isLeft_append {rest s lead : Text} (hl : lead ≠ []) (h : rest <:+ s) :
    IsLeft rest (lead ++ s) := by
  cases lead with
  | nil => exact absurd rfl hl
  | cons c lead => exact ⟨c, lead ++ s, rfl, h.trans (List.suffix_append lead s)⟩

theorem isLeft_skipToClose {quote : Option Char} {s rest : Text}
    (h : skipToClose quote s = .ok rest) : IsLeft rest s := by
  induction s generalizing quote with
  | nil => cases quote <;> cases h
  | cons c s ih =>
      cases quote with
      | none =>
          rw [skipToClose] at h
          split at h
          · exact ⟨c, s, rfl, Except.ok.inj h ▸ List.suffix_rfl⟩
          · split at h <;> exact ⟨c, s, rfl, (ih h).isSuffix⟩
      | some q =>
          rw [skipToClose] at h
          split at h <;> exact ⟨c, s, rfl, (ih h).isSuffix⟩

/-- A comment and a processing instruction end at their last marks, other markup ends outside
literals. -/
theorem skipMarkup_eq_ok_iff {s rest : Text} :
    skipMarkup s = .ok rest ↔
      (∃ t data, Text.after? "<!--".toList s = some t ∧
        Text.cutAt "-->".toList t = some (data, rest)) ∨
      (∃ t data, Text.after? "<?".toList s = some t ∧
        Text.cutAt "?>".toList t = some (data, rest)) ∨
      (Text.after? "<!--".toList s = none ∧ Text.after? "<?".toList s = none ∧
        skipToClose none s = .ok rest) := by
  constructor
  · intro h
    rw [skipMarkup] at h
    split at h
    · rename_i t ht
      split at h
      · rename_i data rest' hc
        obtain rfl := Except.ok.inj h
        exact .inl ⟨t, data, ht, hc⟩
      · cases h
    · rename_i hcomment
      split at h
      · rename_i t ht
        split at h
        · rename_i data rest' hc
          obtain rfl := Except.ok.inj h
          exact .inr (.inl ⟨t, data, ht, hc⟩)
        · cases h
      · rename_i hinstruction
        exact .inr (.inr ⟨hcomment, hinstruction, h⟩)
  · rintro (⟨t, data, ht, hc⟩ | ⟨t, data, ht, hc⟩ | ⟨hcomment, hinstruction, h⟩)
    · rw [skipMarkup, ht]
      simp only [hc]
    · -- what begins like a processing instruction does not begin like a comment
      have hcomment : Text.after? "<!--".toList s = none := by
        rw [Text.after?_eq_some_iff.1 ht]
        rfl
      rw [skipMarkup, hcomment]
      simp only [ht, hc]
    · rw [skipMarkup, hcomment]
      simp only [hinstruction, h]

/-- Skipping takes something away. -/
theorem isLeft_skipMarkup {s rest : Text} (h : skipMarkup s = .ok rest) : IsLeft rest s := by
  rcases skipMarkup_eq_ok_iff.1 h with ⟨t, data, ht, hc⟩ | ⟨t, data, ht, hc⟩ | ⟨-, -, h⟩
  · rw [Text.after?_eq_some_iff.1 ht]
    exact isLeft_append (by decide) (isSuffix_cutAt hc)
  · rw [Text.after?_eq_some_iff.1 ht]
    exact isLeft_append (by decide) (isSuffix_cutAt hc)
  · exact isLeft_skipToClose h

/-! ### The declaration -/

/-- What a document type declaration says. -/
structure Header where
  /-- The name of the document element. -/
  name : Text
  /-- Where the definition is kept. -/
  externalId : Option ExternalId
  /-- The text between the brackets. -/
  subset : Option Text
deriving DecidableEq, Repr

/-- The public identifier of the definition. -/
def Header.publicId (header : Header) : Option Text :=
  header.externalId.bind ExternalId.publicId

/-- The system identifier of the definition. -/
def Header.systemId (header : Header) : Option Text :=
  header.externalId.map ExternalId.systemId

/-- The text before and the text after the last occurrence of a character. -/
def cutAtLast (mark : Char) : Text → Option (Text × Text)
  | [] => none
  | c :: s =>
      match cutAtLast mark s with
      | some (before, rest) => some (c :: before, rest)
      | none => if c = mark then some ([], s) else none

/-- The internal subset at the start of the text, if a bracket opens one.  It ends at the last
bracket that closes. -/
def takeSubset : Text → Except DoctypeFault (Option Text × Text)
  | '[' :: s =>
      match cutAtLast ']' s with
      | some (subset, rest) => .ok (some subset, rest)
      | none => .error .unterminatedSubset
  | s => .ok (none, s)

/-- Reads the text between `<!DOCTYPE` and `>`. -/
def parse (content : Text) : Except DoctypeFault Header := do
  let (name, s) ← takeName (Text.trimStart content)
  let (externalId, s) ← takeExternalId (Text.trimStart s)
  let (subset, s) ← takeSubset (Text.trimStart s)
  match Text.trimStart s with
  | [] => return ⟨name, externalId, subset⟩
  | rest => throw (.unexpectedText rest)

theorem eq_of_cutAtLast {mark : Char} {s before rest : Text}
    (h : cutAtLast mark s = some (before, rest)) : s = before ++ mark :: rest := by
  induction s generalizing before with
  | nil => cases h
  | cons c s ih =>
      rw [cutAtLast] at h
      split at h
      · rename_i hc
        cases h
        rw [ih hc]
        rfl
      · split at h
        · rename_i hc
          cases h
          rw [hc]
          rfl
        · cases h

/-- A subset stands between brackets; otherwise nothing is taken. -/
theorem takeSubset_cases {s : Text} {r : Option Text × Text} (h : takeSubset s = .ok r) :
    (∃ subset, s = '[' :: (subset ++ ']' :: r.2) ∧ r.1 = some subset) ∨ r = (none, s) := by
  rw [takeSubset.eq_def] at h
  split at h
  · split at h
    · rename_i subset rest hc
      obtain rfl := Except.ok.inj h
      exact .inl ⟨subset, by rw [eq_of_cutAtLast hc], rfl⟩
    · cases h
  · exact .inr (Except.ok.inj h).symm

/-- The parts are taken one after the other, and only blanks are left. -/
theorem parse_cases {content : Text} {header : Header} (h : parse content = .ok header) :
    ∃ s t u, takeName (Text.trimStart content) = .ok (header.name, s) ∧
      takeExternalId (Text.trimStart s) = .ok (header.externalId, t) ∧
      takeSubset (Text.trimStart t) = .ok (header.subset, u) ∧ Text.trimStart u = [] := by
  obtain ⟨⟨name, s⟩, hname, h⟩ := exists_ok_of_bind h
  obtain ⟨⟨id, t⟩, hid, h⟩ := exists_ok_of_bind h
  obtain ⟨⟨subset, u⟩, hsubset, h⟩ := exists_ok_of_bind h
  simp only at h
  split at h
  · rename_i hu
    obtain rfl := Except.ok.inj h
    exact ⟨s, t, u, hname, hid, hsubset, hu⟩
  · cases h

end Doctype

end XmlScribe
