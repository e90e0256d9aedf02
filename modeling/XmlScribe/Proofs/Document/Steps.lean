/-
**What events come to.**

A document is read event by event.  What an event makes of what has been read before is said here
once and for all, so that a property of all that is read need only be proved for these few cases.

Main definitions:

* `Builder.StepsTo` — what an event can make of what has been read.

Main results:

* `Builder.stepsTo_of_step` — an event that is accepted makes nothing else of it;
* `Document.parse_invariant` — what all events keep holds in the end.
-/

import XmlScribe.Document.Read
import XmlScribe.Proofs.Outcome

set_option autoImplicit false

namespace XmlScribe

namespace Builder

/-- What an event can make of what has been read. -/
inductive StepsTo (subsets : Subsets) (b : Builder) : Event → Builder → Prop where
  /-- Everything stays as it is. -/
  | stays (event : Event) : StepsTo subsets b event b
  /-- There is an XML declaration. -/
  | declares {content : Text} {declaration : Declaration}
      (h : readDeclaration b.declaration content = .ok declaration) :
      StepsTo subsets b (.declaration content) { b with declaration := declaration }
  /-- There is a document type, with its entities. -/
  | types {content : Text} {d : Doctype} {entities : List (Text × Text)} {b' : Builder}
      (h : readDoctype subsets content = .ok (d, entities))
      (ha : ({ b with entities := b.entities ++ entities } : Builder).append (.doctype d) = .ok b') :
      StepsTo subsets b (.doctype content) b'
  /-- An element is opened. -/
  | opens {content : Text} {e : OpenElement} (h : b.openElement content = .ok e) :
      StepsTo subsets b (.startTag content false) { b with opened := e :: b.opened }
  /-- An element is opened and closed. -/
  | empties {content : Text} {e : OpenElement} (h : b.openElement content = .ok e) :
      StepsTo subsets b (.startTag content true) (b.push (close e))
  /-- The innermost element is closed. -/
  | closes {name : Text} {e : OpenElement} {outer : List OpenElement}
      (ho : b.opened = e :: outer) :
      StepsTo subsets b (.endTag name) (({ b with opened := outer } : Builder).push (close e))
  /-- There is character data. -/
  | text {raw data : Text} {b' : Builder} (he : b.expand raw = .ok data)
      (hne : data.isEmpty = false) (ha : b.append (.text data) = .ok b') :
      StepsTo subsets b (.text raw) b'
  /-- There is a CDATA section. -/
  | cdata {data : Text} {b' : Builder} (ha : b.append (.cdata data) = .ok b') :
      StepsTo subsets b (.cdata data) b'
  /-- There is a comment. -/
  | comment {data : Text} {b' : Builder} (ha : b.append (.comment data) = .ok b') :
      StepsTo subsets b (.comment data) b'
  /-- There is a processing instruction. -/
  | instruction {target data : Text} {b' : Builder}
      (ht : Instruction.checkTarget target = .ok ())
      (ha : b.append (.instruction target (if (Text.trimStart data).isEmpty then none
        else some (Text.trimStart data))) = .ok b') :
      StepsTo subsets b (.instruction target data) b'

variable {subsets : Subsets} {b b' : Builder}

/-- An event that is accepted makes nothing else of what has been read. -/
theorem stepsTo_of_step {event : Event} (h : step subsets b event = .ok b') :
    b.StepsTo subsets event b' := by
  cases event with
  | declaration content =>
      obtain ⟨declaration, hd, h⟩ := Outcome.bind_eq_ok_iff.1 h
      exact Except.ok.inj h ▸ .declares hd
  | doctype content =>
      obtain ⟨⟨d, entities⟩, hd, ha⟩ := Outcome.bind_eq_ok_iff.1 h
      exact .types hd ha
  | startTag content closed =>
      obtain ⟨e, he, h⟩ := Outcome.bind_eq_ok_iff.1 h
      cases closed with
      | true => exact Except.ok.inj h ▸ .empties he
      | false => exact Except.ok.inj h ▸ .opens he
  | endTag name =>
      rw [step.eq_def] at h
      dsimp only at h
      split at h
      · exact Except.ok.inj h ▸ .stays _
      · rename_i e outer ho
        exact Except.ok.inj h ▸ .closes ho
  | text raw =>
      rw [step.eq_def] at h
      dsimp only at h
      split at h
      · exact Except.ok.inj h ▸ .stays _
      · obtain ⟨data, he, h⟩ := Outcome.bind_eq_ok_iff.1 h
        split at h
        · exact Except.ok.inj h ▸ .stays _
        · rename_i hne
          exact .text he (Bool.not_eq_true _ ▸ hne) h
  | cdata data => exact .cdata h
  | comment data => exact .comment h
  | instruction target data =>
      obtain ⟨⟨⟩, ht, ha⟩ := Outcome.bind_eq_ok_iff.1 h
      exact .instruction (Outcome.mapError_eq_ok_iff.1 ht) ha

end Builder

/-- What the events of a text keep holds of all that has been read of it. -/
theorem Document.parse_invariant {subsets : Subsets} {s : Text} {doc : Document}
    {I : Builder → Prop} (hstart : I .start)
    (hstep : ∀ {event b b'}, event ∈ (Event.scan (Text.unifyLineEndings s)).1 → I b →
      b.StepsTo subsets event b' → I b') (h : parse subsets s = .ok doc) :
    ∃ b, I b ∧ b.opened = [] ∧ doc = ⟨b.declaration, b.content.reverse⟩ := by
  rw [parse] at h
  dsimp only at h
  obtain ⟨b, hb, h⟩ := Outcome.bind_eq_ok_iff.1 h
  have hI : I b := Outcome.foldlM_invariant (I := fun _ b => I b)
    (fun _ _ _ _ hp hi hrun => hstep (hp.subset (by simp)) hi (Builder.stepsTo_of_step hrun))
    hstart hb
  split at h
  · exact absurd h Outcome.throw_ne_ok
  · rw [Builder.finish] at h
    split at h
    · rename_i ho
      exact ⟨b, hI, ho, (Except.ok.inj h).symm⟩
    · cases h

end XmlScribe
