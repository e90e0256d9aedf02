/-
**Calls of all kinds.**

A program reads documents, changes and completes them, and writes them; while a document is written,
the profile may make calls of its own when it is asked something.  What the program does not hold any
more vanishes.  Here are all forests that a program can come to which holds a certain document from
the time it is there.

Main definitions:

* `Reaction` — the calls that a profile makes while a document is written;
* `Call`, `Call.apply` — the calls, and what they make of a forest;
* `Forest.after` — the forest after some calls;
* `Forest.Reached` — the forests that can be reached while a document is held.

Main results:

* `Call.apply_keeps` — what the effects of changes, planting and declarations keep, calls keep;
* `Forest.Reached.hasBorder` — no link crosses the border of the document;
* `Forest.Reached.carries_isProper` — all names are proper.
-/

import XmlScribe.Proofs.Document.Named
import XmlScribe.Proofs.Forest.Border
import XmlScribe.Proofs.Writer.Kept

set_option autoImplicit false

namespace XmlScribe

open Document (parseWith)

/-- What a profile does once, when it is asked a certain question. -/
structure Reaction where
  /-- The questions that set it off, by the number of questions asked before and by the element that
  they are about. -/
  trigger : (asked : Nat) → ElementKey → Bool
  /-- The calls that it makes. -/
  changes : List Change

/-- The change of the forest that the calls come to. -/
def Reaction.disturbance (reaction : Reaction) : Disturbance :=
  ⟨reaction.trigger, (·.run reaction.changes)⟩

/-- How documents are written: settings, and a profile that may make calls on the way. -/
structure Manner where
  /-- The settings. -/
  settings : Settings
  /-- The profile. -/
  profile : Profile
  /-- The calls that the profile makes. -/
  reaction : Option Reaction

/-- The writer for a manner. -/
def Manner.writer (manner : Manner) : Writer :=
  ⟨manner.settings, manner.profile, manner.reaction.map Reaction.disturbance⟩

/-- A call. -/
inductive Call where
  /-- A forest is changed. -/
  | change (change : Change)
  /-- A document is read; without a document there are no new nodes. -/
  | read (find : Resolver) (text : Text)
  /-- Missing namespace declarations are added. -/
  | complete (element : NodeId) (target : Option NodeId) (deep : Bool)
  /-- A document is written to a sink. -/
  | saveDocument (manner : Manner) (doc : NodeId) (sink : Sink)
  /-- An element is written to a sink. -/
  | saveElement (manner : Manner) (element : NodeId) (sink : Sink)
  /-- A document is written as a text. -/
  | saveText (manner : Manner) (doc : NodeId)

namespace Call

/-- The changes that a call makes itself, or lets the profile make. -/
def changes : Call → List Change
  | change c => [c]
  | saveDocument manner _ _ => (manner.reaction.map Reaction.changes).getD []
  | saveElement manner _ _ => (manner.reaction.map Reaction.changes).getD []
  | saveText manner _ => (manner.reaction.map Reaction.changes).getD []
  | _ => []

/-- What a call makes of a forest. -/
def apply (F : Forest) : Call → Forest
  | change c => F.step c
  | read find text =>
      match parseWith find text with
      | .ok doc => (F.plant doc).1
      | .error _ => F
  | complete element target deep => (F.ensureDeclared element target deep).1
  | saveDocument manner doc sink => (manner.writer.saveDocument F doc sink).forest
  | saveElement manner element sink => (manner.writer.saveElement F element sink).forest
  | saveText manner doc => (manner.writer.documentText F doc).1

end Call

/-- The forest after some calls. -/
def Forest.after (F : Forest) (calls : List Call) : Forest :=
  calls.foldl Call.apply F

namespace Call

variable {I : Forest → Prop}

theorem respects_writer (hdeclare : ∀ {F G : Forest} {target b}, I F → F.declare target b = .ok G → I G)
    {manner : Manner}
    (hchange : ∀ {F : Forest}, ∀ c ∈ (manner.reaction.map Reaction.changes).getD [],
      I F → I (F.step c)) : manner.writer.Respects I := by
  refine ⟨hdeclare, fun d hd F hF => ?_⟩
  obtain ⟨reaction, hr, rfl⟩ := Option.map_eq_some_iff.1 hd
  rw [hr] at hchange
  have hrun : ∀ changes : List Change, changes ⊆ reaction.changes → ∀ F, I F → I (F.run changes) := by
    intro changes
    induction changes with
    | nil => exact fun _ _ hF => hF
    | cons c changes ih =>
        intro hsub F hF
        exact ih (fun _ hm => hsub (List.mem_cons_of_mem c hm)) _
          (hchange c (hsub List.mem_cons_self) hF)
  exact hrun reaction.changes (fun _ hm => hm) F hF

/-- What declarations, planting and the changes of a call keep, the call keeps. -/
theorem apply_keeps (hdeclare : ∀ {F G : Forest} {target b}, I F → F.declare target b = .ok G → I G)
    (hplant : ∀ {F : Forest} {find text doc}, I F → parseWith find text = .ok doc → I (F.plant doc).1)
    {call : Call} (hchange : ∀ {F : Forest}, ∀ c ∈ call.changes, I F → I (F.step c)) {F : Forest}
    (hF : I F) : I (call.apply F) := by
  cases call with
  | change c => exact hchange c (by simp [changes]) hF
  | read find text =>
      rw [apply]
      split
      · rename_i doc hdoc
        exact hplant hF hdoc
      · exact hF
  | complete element target deep => exact Forest.ensureElements_invariant hdeclare target _ hF
  | saveDocument manner doc sink => exact (respects_writer hdeclare hchange).saveDocument hF doc sink
  | saveElement manner element sink =>
      exact (respects_writer hdeclare hchange).saveElement hF element sink
  | saveText manner doc => exact (respects_writer hdeclare hchange).documentText hF doc

end Call

namespace Forest

/-- A declaration that is made moves no node. -/
theorem alters_of_declare {F G : Forest} {target : NodeId} {b : Binding}
    (h : F.declare target b = .ok G) : F.Alters G := by
  rw [declare] at h
  split at h
  · exact .same fun _ => by rw [Except.ok.inj h]
  · exact alters_of_setAttributeNs h

/-- It is an effect as changes have it. -/
theorem effect_of_declare {F G : Forest} {target : NodeId} {b : Binding}
    (h : F.declare target b = .ok G) : F.Effect G :=
  (alters_of_declare h).effect

/-- The forests that can be reached while the document `doc`, once it is there, is held. -/
inductive Reached (doc : NodeId) : Forest → Prop where
  /-- There is nothing at the beginning. -/
  | empty : Reached doc empty
  /-- A call is made. -/
  | call {F : Forest} (hF : Reached doc F) (call : Call) : Reached doc (call.apply F)
  /-- What is not held any more vanishes. -/
  | vanish {F : Forest} (hF : Reached doc F) {held : List NodeId}
      (h : (F.type? doc).isSome = true → doc ∈ held) : Reached doc (F.retain held)

theorem Reached.after {doc : NodeId} {F : Forest} (h : F.Reached doc) (calls : List Call) :
    (F.after calls).Reached doc := by
  induction calls generalizing F with
  | nil => exact h
  | cons call calls ih => exact ih (h.call call)

/-- No link crosses the border of a document that is held. -/
theorem Reached.hasBorder {doc : NodeId} {F : Forest} (h : F.Reached doc) : F.HasBorder doc := by
  induction h with
  | empty => exact hasBorder_empty doc
  | call _ call ih =>
      exact call.apply_keeps (I := (·.HasBorder doc)) (fun hF hG => hF.effect (effect_of_declare hG))
        (fun hF _ => hF.plant _) (fun c _ hF => hF.step c) ih
  | vanish _ h ih => exact ih.retain h

/-- Calls leave proper names. -/
theorem Carries.isProper_apply {F : Forest} (hF : F.Carries Payload.IsProper) (call : Call) :
    (call.apply F).Carries Payload.IsProper := by
  refine call.apply_keeps (I := (·.Carries Payload.IsProper))
    (fun hF hG => Carries.declare Payload.isKept_isProper hF hG) (fun hF hdoc => ?_)
    (fun c _ hF => Carries.step Payload.isKept_isProper hF c) hF
  obtain ⟨subsets, hdoc⟩ := Document.exists_parse_of_parseWith hdoc
  exact carries_isProper_plant hF hdoc

/-- What vanishes keeps its name and loses its attributes. -/
theorem Carries.isProper_retain {F : Forest} (hF : F.Carries Payload.IsProper)
    (held : List NodeId) : (F.retain held).Carries Payload.IsProper := by
  intro id payload hp
  rw [payload?, get?_retain, Option.map_map] at hp
  obtain ⟨node, hn, rfl⟩ := Option.map_eq_some_iff.1 hp
  have hnode := hF.of_get? hn
  simp only [Function.comp_apply, cutLinks]
  split
  · exact hnode
  · rw [bare]
    split
    · rename_i name cells hpayload
      rw [hpayload] at hnode
      exact ⟨hnode.1, fun _ hcell => absurd hcell List.not_mem_nil⟩
    · exact hnode

/-- All names are proper. -/
theorem Reached.carries_isProper {doc : NodeId} {F : Forest} (h : F.Reached doc) :
    F.Carries Payload.IsProper := by
  induction h with
  | empty => exact carries_empty
  | call _ call ih => exact ih.isProper_apply call
  | @vanish _ _ held _ ih => exact ih.isProper_retain held

end Forest

end XmlScribe
