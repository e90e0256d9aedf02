/-
**Other ways to find external definitions.**

The definition that a document type refers to need not come from tables: anything may be asked for
it.  A document has one document type at most, so at most one question is asked for a document that
is read, and a table with the answer to it does as well.

Main definitions:

* `Resolver` — a way to find definitions;
* `Resolver.answers` — what it finds for a document type, as a table;
* `Document.parseWith` — reading with a resolver.

Main results:

* `Document.parseWith_resolve?` — tables are such a way;
* `Document.exists_parse_of_parseWith` — a document that is read is read with tables too.
-/

import XmlScribe.Proofs.Document.Parsed

set_option autoImplicit false

namespace XmlScribe

open Builder

/-- A way to find external definitions by their public and their system identifiers. -/
abbrev Resolver := (publicId : Option Text) → (systemId : Text) → Option Text

/-- What is found for a document type with this content, as a table. -/
def Resolver.answers (find : Resolver) (content : Text) : Subsets :=
  match Doctype.parse content with
  | .ok header =>
      ⟨[], (header.systemId.bind fun id => (find header.publicId id).map (id, ·)).toList⟩
  | .error _ => .none

namespace Builder

/-- The effect of an event, where definitions are found by asking. -/
def stepWith (find : Resolver) (b : Builder) : Event → Except ReadFault Builder
  | .doctype content => step (find.answers content) b (.doctype content)
  | event => step .none b event

end Builder

/-- The document that a text describes, where definitions are found by asking. -/
def Document.parseWith (find : Resolver) (s : Text) : Except ReadFault Document := do
  let (events, fault) := Event.scan (Text.unifyLineEndings s)
  let b ← events.foldlM (stepWith find) Builder.start
  match fault with
  | some fault => throw (.markup fault)
  | none => b.finish

/-! ### Tables -/

/-- Only document types are looked up. -/
theorem Builder.step_congr {subsets subsets' : Subsets} {b : Builder} {event : Event}
    (h : ∀ content, event ≠ .doctype content) : step subsets b event = step subsets' b event := by
  cases event with
  | doctype content => exact absurd rfl (h content)
  | _ => rfl

/-- The table has what is found. -/
theorem Resolver.resolve?_answers (find : Resolver) {content : Text} {header : Doctype.Header}
    (h : Doctype.parse content = .ok header) :
    header.systemId.bind ((find.answers content).resolve? header.publicId) =
      header.systemId.bind (find header.publicId) := by
  simp only [answers, h]
  cases header.systemId with
  | none => rfl
  | some id =>
      simp only [Option.bind_some]
      rw [Subsets.resolve?]
      cases find header.publicId id <;> simp

theorem Builder.readDoctype_answers (subsets : Subsets) (content : Text) :
    readDoctype (Resolver.answers subsets.resolve? content) content = readDoctype subsets content := by
  rw [readDoctype, readDoctype]
  cases hp : Doctype.parse content with
  | error fault => rfl
  | ok header =>
      have hfound := Resolver.resolve?_answers subsets.resolve? hp
      simp only [Except.mapError, bind, Except.bind, hfound]

/-- Tables are a way to find definitions. -/
theorem Document.parseWith_resolve? (subsets : Subsets) (s : Text) :
    parseWith subsets.resolve? s = parse subsets s := by
  have hstep : stepWith subsets.resolve? = step subsets := by
    funext b event
    cases event with
    | doctype content => rw [stepWith, step, readDoctype_answers, step]
    | _ => rfl
  rw [parseWith, hstep]
  rfl

/-! ### One question at most -/

namespace Builder

theorem suffix_push (b : Builder) (item : Item) : b.content <:+ (b.push item).content := by
  rw [push]
  split
  · exact List.suffix_cons item b.content
  · exact List.suffix_rfl

theorem suffix_append {b b' : Builder} {item : Item} (h : b.append item = .ok b') :
    b.content <:+ b'.content := by
  obtain ⟨-, rfl⟩ := append_eq_ok_iff.1 h
  exact b.suffix_push item

/-- What has been read outside all elements stays. -/
theorem suffix_step {subsets : Subsets} {b b' : Builder} {event : Event}
    (h : step subsets b event = .ok b') : b.content <:+ b'.content := by
  cases stepsTo_of_step h with
  | stays => exact List.suffix_rfl
  | declares _ => exact List.suffix_rfl
  | @types content d entities _ _ ha =>
      exact suffix_append (b := { b with entities := b.entities ++ entities }) ha
  | opens _ => exact List.suffix_rfl
  | empties _ => exact b.suffix_push _
  | @closes _ e outer _ => exact suffix_push { b with opened := outer } (close e)
  | text _ _ ha => exact suffix_append ha
  | cdata ha => exact suffix_append ha
  | comment ha => exact suffix_append ha
  | instruction _ ha => exact suffix_append ha

/-- Where a document type is read, none has been read before, and one has been read then. -/
theorem doctype_of_step {subsets : Subsets} {b b' : Builder} {content : Text}
    (h : step subsets b (.doctype content) = .ok b') :
    (∀ item ∈ b.content, item.isDoctype = false) ∧ ∃ item ∈ b'.content, item.isDoctype = true := by
  obtain ⟨⟨d, entities⟩, -, h⟩ := Outcome.bind_eq_ok_iff.1 h
  obtain ⟨hplace, rfl⟩ := append_eq_ok_iff.1 h
  cases ho : b.opened with
  | cons e outer => exact absurd (checkPlace_opened ho hplace) (by simp [typeOf, NodeType.mayHold])
  | nil =>
      refine ⟨fun item hi => ?_, .doctype d, ?_, rfl⟩
      · have hother := (checkPlace_nothing ho hplace).2 rfl item hi
        rw [← Bool.not_eq_true, ← typeOf_eq_doctype_iff]
        exact hother
      · rw [push]
        exact List.mem_cons_self

/-- After a document type no question is asked. -/
theorem foldlM_of_doctype {find : Resolver} (subsets : Subsets) {events : List Event}
    {b b' : Builder} (hb : ∃ item ∈ b.content, item.isDoctype = true)
    (h : events.foldlM (stepWith find) b = .ok b') : events.foldlM (step subsets) b = .ok b' := by
  induction events generalizing b with
  | nil => exact h
  | cons event events ih =>
      rw [List.foldlM_cons] at h ⊢
      obtain ⟨mid, hmid, h⟩ := Outcome.bind_eq_ok_iff.1 h
      obtain ⟨item, hm, hi⟩ := hb
      have hstep : step subsets b event = .ok mid := by
        cases event with
        | doctype content =>
            -- a second document type would have been refused
            have hnone := (doctype_of_step hmid).1 item hm
            rw [hi] at hnone
            cases hnone
        | _ => exact hmid
      rw [hstep]
      exact ih ⟨item, (suffix_step hstep).subset hm, hi⟩ h

/-- The answer to the first question is all that is needed. -/
theorem exists_foldlM_of_stepWith {find : Resolver} {events : List Event} {b b' : Builder}
    (h : events.foldlM (stepWith find) b = .ok b') :
    ∃ subsets, events.foldlM (step subsets) b = .ok b' := by
  induction events generalizing b with
  | nil => exact ⟨.none, h⟩
  | cons event events ih =>
      rw [List.foldlM_cons] at h
      obtain ⟨mid, hmid, hevents⟩ := Outcome.bind_eq_ok_iff.1 h
      have hother : (∀ content, event ≠ .doctype content) →
          ∃ subsets, (event :: events).foldlM (step subsets) b = .ok b' := by
        intro hne
        obtain ⟨subsets, hrest⟩ := ih hevents
        refine ⟨subsets, ?_⟩
        have hstep : step .none b event = .ok mid := by
          cases event with
          | doctype content => exact absurd rfl (hne content)
          | _ => exact hmid
        rw [List.foldlM_cons, step_congr hne, hstep]
        exact hrest
      cases event with
      | doctype content =>
          -- no other event is looked up, so this answer serves all of them
          refine ⟨find.answers content, ?_⟩
          rw [List.foldlM_cons, show step (find.answers content) b (.doctype content) = .ok mid from
            hmid]
          exact foldlM_of_doctype _ (doctype_of_step hmid).2 hevents
      | _ => exact hother nofun

end Builder

/-- A document that is read is read with tables too. -/
theorem Document.exists_parse_of_parseWith {find : Resolver} {s : Text} {doc : Document}
    (h : parseWith find s = .ok doc) : ∃ subsets, parse subsets s = .ok doc := by
  rw [parseWith] at h
  dsimp only at h
  obtain ⟨b, hb, h⟩ := Outcome.bind_eq_ok_iff.1 h
  obtain ⟨subsets, hb⟩ := exists_foldlM_of_stepWith hb
  refine ⟨subsets, ?_⟩
  rw [parse]
  dsimp only
  rw [hb]
  exact h

end XmlScribe
