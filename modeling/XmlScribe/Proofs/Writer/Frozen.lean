/-
**Locked documents are frozen.**

Once a document is locked, nothing that a program calls changes what stands below it: not the links,
not the attributes with their order and their values, not the character data, not the internal
subset and the entities of its document type.  That holds for calls on its own nodes, for calls that
would take them elsewhere or bring foreign ones in, for attributes that somebody has kept, and for
writing it with namespace declarations to add and with a profile that makes calls on the way.

Main definitions:

* `Forest.Frozen` — a document is as it was in another forest, and so is its border.

Main results:

* `Call.frozen` — a call that does not unlock a locked document keeps it;
* `Forest.Reached.unchanged_after` — and so do any calls.
-/

import XmlScribe.Proofs.Forest.Spared
import XmlScribe.Proofs.Writer.Calls

set_option autoImplicit false

namespace XmlScribe

open Document (parseWith)

namespace Forest

/-- What belongs to the locked document is what it was, and no link crosses its border. -/
structure Frozen (F G : Forest) (doc : NodeId) : Prop where
  /-- What belongs to the document is the same. -/
  spares : F.Spares G doc
  /-- The border is there still. -/
  hasBorder : G.HasBorder doc

variable {F G H : Forest} {doc : NodeId}

theorem Frozen.refl (hF : F.HasBorder doc) (hlock : F.isLocked doc = true) : F.Frozen F doc :=
  ⟨.refl hlock, hF⟩

theorem Frozen.effect (h : F.Frozen G doc) (heffect : G.Effect H) : F.Frozen H doc :=
  ⟨h.spares.trans (h.hasBorder.spares_effect h.spares.isLocked heffect), h.hasBorder.effect heffect⟩

theorem Frozen.step (h : F.Frozen G doc) {change : Change} (hc : change ≠ .setReadOnly doc false) :
    F.Frozen (G.step change) doc :=
  ⟨h.spares.trans (h.hasBorder.spares_step h.spares.isLocked hc), h.hasBorder.step change⟩

/-- New documents leave the others as they are. -/
theorem Frozen.plant (h : F.Frozen G doc) (d : Document) : F.Frozen (G.plant d).1 doc :=
  ⟨h.spares.trans (spares_of_get? h.spares.isLocked (extends_plant G d).get?_eq), h.hasBorder.plant d⟩

end Forest

/-- A call that does not unlock the document keeps it, whatever the call is about. -/
theorem Call.frozen {F G : Forest} {doc : NodeId} (h : F.Frozen G doc) {call : Call}
    (hcall : .setReadOnly doc false ∉ call.changes) : F.Frozen (call.apply G) doc :=
  call.apply_keeps (I := (F.Frozen · doc)) (fun hG hH => hG.effect (Forest.effect_of_declare hH))
    (fun hG _ => hG.plant _) (fun _ hc hG => hG.step (ne_of_mem_of_not_mem hc hcall)) h

namespace Forest

variable {F : Forest} {doc : NodeId}

theorem frozen_after {G : Forest} (h : F.Frozen G doc) {calls : List Call}
    (hcalls : ∀ call ∈ calls, .setReadOnly doc false ∉ call.changes) :
    F.Frozen (G.after calls) doc := by
  induction calls generalizing G with
  | nil => exact h
  | cons call calls ih =>
      exact ih (Call.frozen h (hcalls call List.mem_cons_self))
        fun c hc => hcalls c (List.mem_cons_of_mem call hc)

/-- A locked document stays locked, and what stands below it or belongs to it stays exactly as it is,
whatever calls are made, as long as none of them unlocks it. -/
theorem Reached.unchanged_after (h : F.Reached doc) (hlock : F.isLocked doc = true) {calls : List Call}
    (hcalls : ∀ call ∈ calls, .setReadOnly doc false ∉ call.changes) :
    (F.after calls).isLocked doc = true ∧
      (∀ id, (F.after calls).Below doc id ↔ F.Below doc id) ∧
      (∀ id, F.Below doc id → (F.after calls).children id = F.children id) ∧
      (∀ id, F.Below doc id ∧ id ≠ doc ∨ F.owner? id = some doc →
        (F.after calls).get? id = F.get? id) ∧
      ∀ fuel, ((F.after calls).children doc).filterMap ((F.after calls).toItemFrom fuel) =
        (F.children doc).filterMap (F.toItemFrom fuel) := by
  have hborder := h.hasBorder
  -- the lock and the border together are what every call keeps
  have hspares := (frozen_after (.refl hborder hlock) hcalls).spares
  refine ⟨hspares.isLocked, fun id => hspares.below_iff hborder hlock,
    fun id hid => (hspares.get?_of_below hborder hlock hid).1, ?_, fun fuel => ?_⟩
  · rintro id (⟨hid, hne⟩ | hid)
    · exact (hspares.get?_of_below hborder hlock hid).2 hne
    · exact hspares.get?_eq hid
  · rw [hspares.children_eq]
    refine List.filterMap_congr fun c hc => hspares.toItemFrom_eq hborder fuel ?_
    rw [hborder.owner_iff_of_mem hc, home?, if_pos (type?_of_isLocked hlock)]

/-- A locked document with an element that lacks a declaration and has an attribute and a text;
besides, another document. -/
def lockedForest : Forest :=
  empty.after (([.addDocument, .createElementNs 0 (some ['u']) "p:a".toList, .appendChild 0 1,
    .setAttribute 1 ['k'] ['v'], .createText 0 ['t'], .appendChild 1 2, .addDocument,
    .setReadOnly 0 true] : List Change).map .change)

/-- The document is written by a profile that takes the text away. -/
def takingManner : Manner :=
  ⟨.standard, .everyBlock, some ⟨fun _ _ => true, [.removeChild 1 2]⟩⟩

/-- Attempts to change it: on its nodes, by a kept attribute, by the other document, by completion and
while it is written. -/
def attempts : List Call :=
  [.change (.setAttribute 1 ['k'] ['w']), .change (.setAttrValue 0 ['w']),
    .change (.removeAttribute 1 ['k']), .change (.setData 2 ['s']), .change (.appendChild 3 1),
    .change (.createComment 3 ['c']), .change (.appendChild 1 4), .change (.setReadOnly 3 true),
    .complete 1 none true, .saveDocument takingManner 0 .unlimited,
    .saveElement takingManner 1 .unlimited]

theorem unchanged_after_attempts :
    lockedForest.Reached 0 ∧ lockedForest.isLocked 0 = true ∧
      (∀ call ∈ attempts, .setReadOnly 0 false ∉ call.changes) ∧
      (lockedForest.after attempts).children 0 = [1] ∧
      (lockedForest.after attempts).children 1 = [2] ∧
      (lockedForest.after attempts).cells 1 = [⟨0, ⟨.plain ['k'], ['v']⟩⟩] ∧
      (lockedForest.after attempts).payload? 2 = some (.text ['t']) := by
  have hreached : lockedForest.Reached 0 := Reached.empty.after _
  have hlock : lockedForest.isLocked 0 = true := by decide +kernel
  have hcalls : ∀ call ∈ attempts, .setReadOnly 0 false ∉ call.changes := by
    simp [attempts, Call.changes, takingManner]
  obtain ⟨-, -, hchildren, hget, -⟩ := hreached.unchanged_after hlock hcalls
  have hone : lockedForest.Below 0 1 := .child .refl (by decide +kernel)
  have htwo : lockedForest.Below 0 2 := .child hone (by decide +kernel)
  refine ⟨hreached, hlock, hcalls, ?_, ?_, ?_, ?_⟩
  · rw [hchildren 0 .refl]
    decide +kernel
  · rw [hchildren 1 hone]
    decide +kernel
  · rw [cells, payload?, hget 1 (.inl ⟨hone, by decide⟩)]
    decide +kernel
  · rw [payload?, hget 2 (.inl ⟨htwo, by decide⟩)]
    decide +kernel

end Forest

end XmlScribe
