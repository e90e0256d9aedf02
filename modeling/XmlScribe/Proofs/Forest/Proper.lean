/-
**The names that calls leave in a forest.**

A name is made by the rules of namespaces, or it lies outside all namespaces whatever colons it has.
No call changes a name that is there.

Main definitions:

* `Payload.IsProper` — the names that a node carries are of one kind or the other.

Main results:

* `Payload.isKept_isProper` — all calls leave such names;
* `Forest.isProper_run` — after any calls all elements have such names.
-/

import XmlScribe.Proofs.Forest.Carried
import XmlScribe.Proofs.Namespace.Completeness

set_option autoImplicit false

namespace XmlScribe

/-- The names that a node carries are made by the rules of namespaces, or lie outside all
namespaces. -/
def Payload.IsProper : Payload → Prop
  | element name cells => name.IsProper ∧ ∀ cell ∈ cells, cell.attr.name.IsProper
  | _ => True

theorem QName.isProper_plain (name : Text) : (plain name).IsProper :=
  Or.inr ⟨name, rfl⟩

theorem QName.isProper_of_ofText {uri : Option Text} {name : Text} {q : QName}
    (h : ofText uri name = .ok q) : q.IsProper :=
  Or.inl (isMade_of_ofText h)

/-- A name that is put among others is proper if all are. -/
theorem Payload.IsProper.put {name q : QName} {cells : List AttrCell}
    (h : (element name cells).IsProper) (hq : q.IsProper) (same : AttrCell → Bool) (serial : Nat)
    (value : Text) :
    (element name (Attribute.put same (Forest.withValue value) ⟨serial, ⟨q, value⟩⟩
      cells)).IsProper :=
  ⟨h.1, Attribute.forall_mem_put h.2 (fun _ hc => hc) hq⟩

/-- All calls leave proper names. -/
theorem Payload.isKept_isProper : IsKept (fun _ _ => True) IsProper where
  other payload h := by
    cases payload with
    | element name cells => exact absurd rfl h
    | _ => trivial
  plain name := ⟨QName.isProper_plain name, by simp⟩
  made hq := ⟨QName.isProper_of_ofText hq, by simp⟩
  putExpanded serial value hq _ h := h.put (QName.isProper_of_ofText hq) _ serial value
  putPlain {text _ _} serial value _ h := h.put (QName.isProper_plain text) _ serial value
  erase _ h := ⟨h.1, fun cell hc => h.2 cell (List.mem_of_mem_eraseP hc)⟩
  revalue {_ cells} serial value h := by
    refine ⟨h.1, fun cell hc => ?_⟩
    obtain ⟨old, ho, rfl⟩ := List.mem_map.1 hc
    rw [Forest.withValueOf]
    split
    · exact h.2 old ho
    · exact h.2 old ho

namespace Forest

/-- An element has a proper name and attributes with such names. -/
theorem isProper_of_frame? {F : Forest} (hF : F.Carries Payload.IsProper) {d : NodeId} {f : Frame}
    (h : F.frame? d = some f) : f.IsProper := by
  obtain ⟨name, cells, hp, rfl⟩ := exists_payload_of_frame? h
  obtain ⟨hname, hcells⟩ := hF d _ hp
  refine ⟨hname, fun a ha => ?_⟩
  obtain ⟨cell, hcell, rfl⟩ := List.mem_map.1 ha
  exact hcells cell hcell

/-- After any calls all elements have proper names. -/
theorem isProper_run (changes : List Change) {d : NodeId} {f : Frame}
    (h : (empty.run changes).frame? d = some f) : f.IsProper :=
  isProper_of_frame? (carries_empty.run Payload.isKept_isProper changes) h

end Forest

end XmlScribe
