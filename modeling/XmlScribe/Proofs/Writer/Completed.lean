/-
**The text of a document that had to be completed.**

Before a document is written, the declarations that it lacks are added to it.  What is written are
the items of the completed document, after a prolog that completion does not touch.

Main definitions:

* `Writer.CompletesTo` — what completion makes of the forest of a document.

Main results:

* `Writer.redeclares_of_completesTo` — nothing but declarations is added;
* `Writer.exists_of_documentText` — what a document is written as, if it is.
-/

import XmlScribe.Proofs.Forest.Redeclared
import XmlScribe.Proofs.Namespace.Added
import XmlScribe.Proofs.Writer.Document
import XmlScribe.Proofs.Writer.Untouched

set_option autoImplicit false

namespace XmlScribe

namespace Writer

open Forest Walk

variable {W : Writer} {F G : Forest} {id : NodeId}

/-- Completion of a document, where it is wanted and there is an element, succeeds and makes the
forest `G`. -/
def CompletesTo (W : Writer) (F : Forest) (id : NodeId) (G : Forest) : Prop :=
  match F.root? id with
  | some root =>
      if W.settings.completeNamespaces then
        ∃ n, F.ensureDeclared root (if W.settings.declareAtTop then some root else none) true =
          (G, .ok n)
      else G = F
  | none => G = F

/-- Nothing but declarations is added. -/
theorem redeclares_of_completesTo (h : W.CompletesTo F id G) : F.Redeclares G := by
  rw [CompletesTo] at h
  split at h
  · rename_i root _
    split at h
    · obtain ⟨n, hn⟩ := h
      have hadded := F.redeclares_ensureDeclared root
        (if W.settings.declareAtTop then some root else none) true
      rwa [hn] at hadded
    · exact h ▸ .refl F
  · exact h ▸ .refl F

/-- Where there is an element and completion is wanted, it has to succeed. -/
theorem completesTo_iff {root : NodeId} (hr : F.root? id = some root)
    (hc : W.settings.completeNamespaces = true) :
    W.CompletesTo F id G ↔ ∃ n, F.ensureDeclared root
      (if W.settings.declareAtTop then some root else none) true = (G, .ok n) := by
  simp only [CompletesTo, hr, hc, if_true]

/-- Otherwise nothing is completed. -/
theorem completesTo_iff_eq (h : F.root? id = none ∨ W.settings.completeNamespaces = false) :
    W.CompletesTo F id G ↔ G = F := by
  rw [CompletesTo]
  cases hr : F.root? id with
  | none => rfl
  | some root => simp [h.resolve_left (by simp [hr])]

/-- Completion makes one forest. -/
theorem CompletesTo.unique {H : Forest} (h : W.CompletesTo F id G) (h' : W.CompletesTo F id H) :
    G = H := by
  by_cases hnone : F.root? id = none ∨ W.settings.completeNamespaces = false
  · rw [completesTo_iff_eq hnone] at h h'
    exact h.trans h'.symm
  · obtain ⟨hr, hc⟩ := not_or.1 hnone
    obtain ⟨root, hr⟩ := Option.ne_none_iff_exists'.1 hr
    rw [completesTo_iff hr (by simpa using hc)] at h h'
    obtain ⟨m, hm⟩ := h
    obtain ⟨n, hn⟩ := h'
    exact (Prod.mk.inj (hm.symm.trans hn)).1

/-- The items of a document stand in the completed forest too, with other attributes. -/
theorem exists_holds_of_completesTo (h : W.CompletesTo F id G) {owner parent : NodeId}
    {ids : List NodeId} {items : List Item} (hitems : F.Holds owner parent ids items)
    (hkinds : ∀ item ∈ items, NodeType.document.mayHold (Builder.typeOf item) = true)
    (hsize : Item.count items < F.size) :
    ∃ items', G.Holds owner parent ids items' ∧
      Item.Redeclared Attribute.KeepNames items items' ∧
      (∀ item ∈ items', NodeType.document.mayHold (Builder.typeOf item) = true) ∧
      Item.count items' ≤ G.size + 1 := by
  have hre := redeclares_of_completesTo h
  obtain ⟨items', hitems', hredeclared⟩ := exists_holds_of_same hre.same hre.names hitems
  refine ⟨items', hitems', hredeclared, fun item hm => ?_, ?_⟩
  · obtain ⟨old, hold, hr⟩ := hredeclared.exists_of_mem hm
    rw [Item.typeOf_redeclaredAt hr]
    exact hkinds old hold
  · rw [Item.count_redeclared hredeclared, hre.same.size_eq]
    exact Nat.le_succ_of_le (Nat.le_of_lt hsize)

/-- What a walk gives and has written, if it has succeeded. -/
theorem of_run_writes {α : Type} {walk : Walk α} {able : Prop} {a a' : α} {s : Text}
    (h : Writes G walk able a s) {st st' : WalkState} (hst : st.IsQuiet G)
    (hrun : walk.run.run st = (.ok a', st')) :
    able ∧ a' = a ∧ st'.IsQuiet G ∧ textOf st'.trace = textOf st.trace ++ s := by
  by_cases hable : able
  · obtain ⟨mid, hmid, hquiet, ht⟩ := h.succeeds hable st hst
    rw [hmid] at hrun
    obtain ⟨ha, rfl⟩ := Prod.mk.inj hrun
    exact ⟨hable, (Except.ok.inj ha).symm, hquiet, ht⟩
  · obtain ⟨fault, mid, hmid⟩ := h.fails hable st hst
    rw [hmid] at hrun
    cases hrun

/-- The document type is checked if it is going to be written. -/
theorem writes_checkDoctype_of (doctype : Option Doctype) :
    Writes F (W.checkDoctype doctype)
      (W.settings.heading = none → ∀ d, doctype = some d →
        Doctype.hasValidIds d.publicId d.systemId = true) () [] := by
  rw [checkDoctype.eq_def]
  split
  · rename_i d hh
    split
    · rename_i hids
      exact (writes_pure ()).congr (by simp [hids]) rfl
    · rename_i hids
      exact (writes_throw _).congr (by simp [hh, hids]) rfl
  · rename_i hother
    refine (writes_pure ()).congr ?_ rfl
    simp only [true_iff]
    rintro hh d rfl
    exact (hother d hh rfl).elim

/-- An escaper is made from the entities of the document type, if these agree. -/
theorem of_run_escaperFor {doctype : Option Doctype} {escaper : Escaper} {st st' : WalkState}
    (h : (W.escaperFor doctype).run.run st = (.ok escaper, st')) :
    st' = st ∧ ∃ table, W.entityTable doctype = .ok table ∧ escaper = W.settings.escaper table := by
  rw [escaperFor] at h
  split at h
  · rename_i table ht
    obtain ⟨he, rfl⟩ := Prod.mk.inj h
    exact ⟨rfl, table, ht, (Except.ok.inj he).symm⟩
  · cases h

/-- Where completion succeeds, it has written nothing, and the walk goes on in the forest that it has
made. -/
theorem of_run_completion {next : Unit → Walk Unit} {st st' : WalkState} (hst : st.IsQuiet F)
    (h : (match F.root? id with
      | some root => W.completeFrom root >>= next
      | none => next ()).run.run st = (.ok (), st')) :
    ∃ G mid, mid.IsQuiet G ∧ mid.trace = st.trace ∧ W.CompletesTo F id G ∧
      (next ()).run.run mid = (.ok (), st') := by
  cases hr : F.root? id with
  | none =>
      rw [hr] at h
      exact ⟨F, st, hst, rfl, by simp [CompletesTo, hr], h⟩
  | some root =>
      rw [hr] at h
      obtain ⟨_, mid, hmid, h⟩ := Outcome.exists_of_run_bind h
      obtain ⟨G, hquiet, ht, hG⟩ := of_run_completeFrom hst hmid
      exact ⟨G, mid, hquiet, ht, by simpa only [CompletesTo, hr] using hG, h⟩

/-- Where completion is known to succeed, the walk goes on in the forest that it makes. -/
theorem exists_run_completion {next : Unit → Walk Unit} {st : WalkState} (hst : st.IsQuiet F)
    (h : W.CompletesTo F id G) : ∃ mid, mid.IsQuiet G ∧ mid.trace = st.trace ∧
      (match F.root? id with
        | some root => W.completeFrom root >>= next
        | none => next ()).run.run st = (next ()).run.run mid := by
  rw [CompletesTo] at h
  cases hr : F.root? id with
  | none =>
      rw [hr] at h
      subst h
      exact ⟨st, hst, rfl, rfl⟩
  | some root =>
      rw [hr] at h
      dsimp only at h ⊢
      rw [Outcome.run_bind, completeFrom]
      split at h
      · rename_i hc
        obtain ⟨n, hn⟩ := h
        refine ⟨{ st with forest := G }, ⟨rfl, hst.disturbance⟩, rfl, ?_⟩
        rw [if_pos hc, complete, Outcome.run_bind, run_forest, hst.forest]
        simp only [hn]
        rfl
      · rename_i hc
        subst h
        rw [if_neg hc]
        exact ⟨st, hst, rfl, rfl⟩

/-- The walk that a document is written by, from what comes after its completion. -/
abbrev bodyWalk (W : Writer) (escaper : Escaper) (F : Forest) (id : NodeId) : Walk Unit := do
  putMark false
  W.putProlog (F.declaration id) (F.doctype? id)
  if (← W.putChildren escaper false (F.children id)) && W.settings.endsWithLine then
    W.putNewline

theorem isPlain_bodyWalk (escaper : Escaper) (F : Forest) (id : NodeId) :
    IsPlain (W.bodyWalk escaper F id) :=
  (IsPlain.pure ()).andThen (isPlain_body escaper _ _ _)

/-- A document that is written has been completed, and its body has been written then. -/
theorem of_run_documentWalk {st st' : WalkState} (hst : st.IsQuiet F)
    (h : (W.documentWalk id false).run.run st = (.ok (), st')) :
    ∃ table G mid, W.entityTable (F.doctype? id) = .ok table ∧ W.CompletesTo F id G ∧
      mid.IsQuiet G ∧ textOf mid.trace = textOf st.trace ∧
      (W.bodyWalk (W.settings.escaper table) F id).run.run mid = (.ok (), st') := by
  obtain ⟨_, _, h₁, h⟩ := Outcome.exists_of_run_bind h
  rw [run_forest, hst.forest] at h₁
  cases h₁
  obtain ⟨_, st₂, h₂, h⟩ := Outcome.exists_of_run_bind h
  obtain ⟨-, -, hst₂, ht₂⟩ := of_run_writes (writes_checkDoctype_of _) hst h₂
  obtain ⟨escaper, st₃, h₃, h⟩ := Outcome.exists_of_run_bind h
  obtain ⟨rfl, table, htable, rfl⟩ := of_run_escaperFor h₃
  obtain ⟨G, st₄, hst₄, ht₄, hG, h⟩ := of_run_completion hst₂ h
  exact ⟨table, G, st₄, htable, hG, hst₄, by rw [ht₄, ht₂, List.append_nil], h⟩

/-- A document is written if it can be completed and its body can be written then. -/
theorem exists_run_documentWalk {st : WalkState} (hst : st.IsQuiet F)
    (hcheck : W.settings.heading = none → ∀ d, F.doctype? id = some d →
      Doctype.hasValidIds d.publicId d.systemId = true)
    {table : EntityTable} (ht : W.entityTable (F.doctype? id) = .ok table)
    (hG : W.CompletesTo F id G) {able : Prop} {s : Text}
    (hbody : Writes G (W.bodyWalk (W.settings.escaper table) F id) able () s) (hable : able) :
    ∃ st', (W.documentWalk id false).run.run st = (.ok (), st') ∧ st'.IsQuiet G ∧
      textOf st'.trace = textOf st.trace ++ s := by
  obtain ⟨st₁, h₁, hst₁, ht₁⟩ := (writes_checkDoctype_of _).succeeds hcheck st hst
  obtain ⟨st₂, h₂, hst₂, ht₂⟩ := (writes_escaperFor ht).succeeds trivial st₁ hst₁
  obtain ⟨st₃, hst₃, ht₃, h₃⟩ := exists_run_completion hst₂ hG
  obtain ⟨st₄, h₄, hst₄, ht₄⟩ := hbody.succeeds hable st₃ hst₃
  refine ⟨st₄, ?_, hst₄, by rw [ht₄, ht₃, ht₂, ht₁, List.append_nil, List.append_nil]⟩
  rw [documentWalk, Outcome.run_bind, run_forest, hst.forest]
  dsimp only
  rw [Outcome.run_bind, h₁]
  dsimp only
  rw [Outcome.run_bind, h₂]
  exact h₃.trans h₄

section Quiet

variable {settings : Settings} {profile : Profile} {s : Text}

/-- A document that is written as a text has been completed. -/
theorem exists_completesTo (hd : ((quiet settings profile).documentText F id).2 = .ok s) :
    ∃ table G, (quiet settings profile).entityTable (F.doctype? id) = .ok table ∧
      (quiet settings profile).CompletesTo F id G ∧
      (quiet settings profile).documentText F id = (G, .ok s) := by
  rw [documentText, runWalk] at hd ⊢
  rcases hrun : ((quiet settings profile).documentWalk id false).run.run
    ⟨F, (quiet settings profile).disturbance, 0, []⟩ with ⟨fault | ⟨⟩, st⟩
  · rw [hrun] at hd
    cases hd
  · rw [hrun] at hd
    obtain ⟨table, G, mid, ht, hG, hmid, -, hbody⟩ := of_run_documentWalk ⟨rfl, rfl⟩ hrun
    have hst := (isPlain_bodyWalk _ F id).isQuiet_of_run hmid hbody
    exact ⟨table, G, ht, hG, Prod.ext hst.forest hd⟩

/-- When a document is written as a text, and as which: completion makes `G`, and the items of `G`
are written with the entities of the document type. -/
theorem documentText_eq_iff {owner parent : NodeId} {items : List Item} {table : EntityTable}
    (ht : (quiet settings profile).entityTable (F.doctype? id) = .ok table)
    (hG : (quiet settings profile).CompletesTo F id G)
    (hitems : G.Holds owner parent (F.children id) items)
    (hkinds : ∀ item ∈ items, NodeType.document.mayHold (Builder.typeOf item) = true)
    (hsize : Item.count items ≤ G.size + 1) :
    (quiet settings profile).documentText F id = (G, .ok s) ↔
      ((∀ d, (quiet settings profile).writtenDoctype (F.doctype? id) = some d →
          Doctype.hasValidIds d.publicId d.systemId = true ∧
            (quiet settings profile).CanWriteDoctype d) ∧
          Item.Everywhere (quiet settings profile).CanWrite (Item.joined items)) ∧
        s = ((quiet settings profile).eventsWith (settings.escaper table) settings.encodingLabel
          (F.declaration id) ((quiet settings profile).writtenDoctype (F.doctype? id))
          items).flatMap Event.source := by
  have hquiet : (⟨F, none, 0, []⟩ : WalkState).IsQuiet F := ⟨rfl, rfl⟩
  have hbody := @writes_putProlog_putChildren (quiet settings profile) (settings.escaper table) G
    owner parent (F.children id) items hitems hkinds hsize (F.declaration id) (F.doctype? id)
  rw [documentText, runWalk, show (quiet settings profile).disturbance = none from rfl]
  constructor
  · intro h
    rcases hrun : ((quiet settings profile).documentWalk id false).run.run ⟨F, none, 0, []⟩ with
      ⟨fault | ⟨⟩, st⟩
    · rw [hrun] at h
      cases h
    · rw [hrun] at h
      obtain ⟨table', G', mid, ht', hG', hmid, htrace, hrun'⟩ := of_run_documentWalk hquiet hrun
      obtain rfl := Except.ok.inj (ht.symm.trans ht')
      obtain rfl := hG.unique hG'
      obtain ⟨hable, -, -, htext⟩ := of_run_writes hbody hmid hrun'
      refine ⟨hable, ?_⟩
      rw [← Except.ok.inj (Prod.mk.inj h).2, htext, htrace]
      rfl
  · rintro ⟨hable, rfl⟩
    have hcheck : (quiet settings profile).settings.heading = none → ∀ d, F.doctype? id = some d →
        Doctype.hasValidIds d.publicId d.systemId = true := fun hh d hd =>
      (hable.1 d (by rw [writtenDoctype, hh, hd])).1
    obtain ⟨st, hrun, hst, htext⟩ := exists_run_documentWalk hquiet hcheck ht hG hbody hable
    rw [hrun]
    exact Prod.ext hst.forest (congrArg Except.ok htext)

/-- What a document is written as, if it is: first the forest is completed to `G`, then the items of
`G` are written with the entities of the document type. -/
theorem exists_of_documentText (hd : ((quiet settings profile).documentText F id).2 = .ok s) :
    ∃ table G, (quiet settings profile).entityTable (F.doctype? id) = .ok table ∧
      (quiet settings profile).CompletesTo F id G ∧
      ∀ {owner parent items}, G.Holds owner parent (F.children id) items →
        (∀ item ∈ items, NodeType.document.mayHold (Builder.typeOf item) = true) →
        Item.count items ≤ G.size + 1 →
        (∀ d, (quiet settings profile).writtenDoctype (F.doctype? id) = some d →
          Doctype.hasValidIds d.publicId d.systemId = true ∧
            (quiet settings profile).CanWriteDoctype d) ∧
        s = ((quiet settings profile).eventsWith (settings.escaper table) settings.encodingLabel
          (F.declaration id) ((quiet settings profile).writtenDoctype (F.doctype? id))
          items).flatMap Event.source := by
  obtain ⟨table, G, ht, hG, hd⟩ := exists_completesTo hd
  refine ⟨table, G, ht, hG, fun hitems hkinds hsize => ?_⟩
  obtain ⟨⟨hdoctype, -⟩, htext⟩ := (documentText_eq_iff ht hG hitems hkinds hsize).1 hd
  exact ⟨hdoctype, htext⟩

end Quiet

end Writer

end XmlScribe
