/-
**The entities of a definition.**

From a definition, internal or external, only the declarations of general entities are kept.
Comments, processing instructions, parameter entities and all other declarations are passed over.
Character references in the value of an entity are replaced at once; references to entities stay.

Main definitions:

* `Doctype.expandCharRefs` — a value with its character references replaced;
* `Doctype.takeEntityDecl` — the declaration of an entity, after its keyword;
* `Doctype.takeItem` — the next item of a definition;
* `Doctype.parseEntities` — the declarations of a whole definition.
-/

import XmlScribe.Doctype.Scan
import XmlScribe.Text.Numeral

set_option autoImplicit false

namespace XmlScribe

namespace Doctype

/-! ### Values -/

/-- The character that the text between `&#` and the semicolon denotes. -/
def charOfDigits (digits : Text) : Except DoctypeFault Char :=
  let code :=
    match digits with
    | 'x' :: hex => Numeral.readSigned 16 hex
    | decimal => Numeral.readSigned 10 decimal
  match code.toOption.bind Text.charOfCode? with
  | some c => .ok c
  | none => .error (.invalidReference digits)

/-- The loop of `expandCharRefs`; `opened` holds the digits read since the last `&#`,
backwards. -/
def expandCharRefsFrom : (opened : Option Text) → Text → Except DoctypeFault Text
  | none, [] => .ok []
  | some _, [] => .error .unterminatedReference
  | none, '&' :: '#' :: s => expandCharRefsFrom (some []) s
  | none, c :: s => (expandCharRefsFrom none s).map (c :: ·)
  | some digits, c :: s =>
      if c = ';' then
        match charOfDigits digits.reverse with
        | .error fault => .error fault
        | .ok c => (expandCharRefsFrom none s).map (c :: ·)
      else expandCharRefsFrom (some (c :: digits)) s

/-- The value with its character references replaced. -/
def expandCharRefs (value : Text) : Except DoctypeFault Text :=
  expandCharRefsFrom none value

/-! ### Declarations -/

/-- What a declaration says about the entity: an external identifier or a value. -/
def takeEntityBody (s : Text) : Except DoctypeFault (EntityBody × Text) := do
  match ← takeExternalId s with
  | (some id, rest) => return (.external id.publicId id.systemId, rest)
  | (none, s) =>
      let (literal, rest) ← takeLiteral s
      return (.internal (← expandCharRefs literal), rest)

/-- The declaration of an entity after the keyword, unless it declares a parameter entity. -/
def takeEntityDecl (s : Text) : Except DoctypeFault (Option EntityDecl × Text) :=
  if !s.head?.any Text.isBlank then .error .blankRequired
  else
    match Text.trimStart s with
    | '%' :: s => (skipMarkup s).map (none, ·)
    | s => do
        let (name, s) ← takeName s
        let (body, s) ← takeEntityBody (Text.trimStart s)
        let rest ← skipMarkup s
        return (some ⟨name, body⟩, rest)

/-- The next item of a definition, and the declaration if it is that of a general entity.  Text
outside declarations ends before the next one. -/
def takeItem (s : Text) : Except DoctypeFault (Option EntityDecl × Text) :=
  match Text.after? "<!ENTITY".toList s with
  | some s => takeEntityDecl s
  | none =>
      if s.head? = some '<' then (skipMarkup s).map (none, ·)
      else .ok (none, s.dropWhile (· ≠ '<'))

/-! ### Every item takes something away -/

theorem isSuffix_takeEntityBody {s : Text} {r : EntityBody × Text}
    (h : takeEntityBody s = .ok r) : r.2 <:+ s := by
  obtain ⟨⟨id, t⟩, ha, h⟩ := exists_ok_of_bind h
  have hid := isSuffix_takeExternalId ha
  cases id with
  | some id => exact Except.ok.inj h ▸ hid
  | none =>
      obtain ⟨b, hb, h⟩ := exists_ok_of_bind h
      obtain ⟨v, hv, h⟩ := exists_ok_of_bind h
      exact Except.ok.inj h ▸ (isSuffix_takeLiteral hb).trans hid

theorem isSuffix_takeEntityDecl {s : Text} {r : Option EntityDecl × Text}
    (h : takeEntityDecl s = .ok r) : r.2 <:+ s := by
  refine List.IsSuffix.trans ?_ (isSuffix_trimStart s)
  rw [takeEntityDecl] at h
  split at h
  · cases h
  · split at h
    · rename_i t ht
      obtain ⟨rest, hrest, rfl⟩ := exists_ok_of_map h
      exact ht ▸ (isLeft_skipMarkup hrest).isSuffix.trans (List.suffix_cons '%' t)
    · obtain ⟨⟨name, t⟩, hname, h⟩ := exists_ok_of_bind h
      obtain ⟨⟨body, u⟩, hbody, h⟩ := exists_ok_of_bind h
      obtain ⟨rest, hrest, h⟩ := exists_ok_of_bind h
      obtain rfl := Except.ok.inj h
      have hbody := (isSuffix_takeEntityBody hbody).trans (isSuffix_trimStart t)
      rw [eq_of_takeName hname]
      exact ((isLeft_skipMarkup hrest).isSuffix.trans hbody).trans (List.suffix_append name t)

/-- Every item takes something away. -/
theorem isLeft_takeItem {s : Text} {r : Option EntityDecl × Text} (hs : s ≠ [])
    (h : takeItem s = .ok r) : IsLeft r.2 s := by
  rw [takeItem] at h
  split at h
  · rename_i t ht
    rw [Text.after?_eq_some_iff.1 ht]
    exact isLeft_append (by decide) (isSuffix_takeEntityDecl h)
  · split at h
    · obtain ⟨rest, hrest, rfl⟩ := exists_ok_of_map h
      exact isLeft_skipMarkup hrest
    · rename_i hh
      obtain rfl := Except.ok.inj h
      cases s with
      | nil => exact absurd rfl hs
      | cons c s =>
          have hc : c ≠ '<' := by simpa using hh
          exact ⟨c, s, rfl, by simpa [hc] using List.dropWhile_suffix _⟩

theorem length_takeItem_lt {s : Text} {r : Option EntityDecl × Text} (hs : s ≠ [])
    (h : takeItem s = .ok r) : r.2.length < s.length :=
  (isLeft_takeItem hs h).length_lt

theorem length_trimStart_le (s : Text) : (Text.trimStart s).length ≤ s.length :=
  (isSuffix_trimStart s).length_le

/-! ### The definition -/

/-- The general entities that a definition declares, in order. -/
def parseEntities (definition : Text) : Except DoctypeFault (List EntityDecl) :=
  if _hs : Text.trimStart definition = [] then .ok []
  else
    match _ht : takeItem (Text.trimStart definition) with
    | .error fault => .error fault
    | .ok (decl, rest) => (parseEntities rest).map (decl.toList ++ ·)
termination_by definition.length
decreasing_by
  exact Nat.lt_of_lt_of_le (length_takeItem_lt _hs _ht) (length_trimStart_le definition)

end Doctype

end XmlScribe
