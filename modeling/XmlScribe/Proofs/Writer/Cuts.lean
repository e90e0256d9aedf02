/-
**The cuts of texts.**

A text of a document may be one node or several, and some of them may be empty.  Nothing of that can
be seen in what is written: two documents that are the same once adjacent texts are joined are written
as the same text, or are refused for the same reason.  That holds for content as it is and on lines,
and also where declarations have to be added first.

The two forests may differ in all other respects, the numbers of their nodes among them.  So the two
walks are taken side by side, through elements at the same places of the two documents.

Main definitions:

* `Document.joined` — the document with adjacent texts joined.

Main results:

* `Writer.exists_leads_completion` — the two documents are completed in the same way;
* `Writer.exists_leads_documentWalk` — and written in the same way;
* `Writer.documentText_eq_of_joined_eq` — cuts of texts cannot be seen.
-/

import XmlScribe.Proofs.Namespace.Added
import XmlScribe.Proofs.Writer.Parallel

set_option autoImplicit false

namespace XmlScribe

/-- The document with adjacent texts in it joined. -/
def Document.joined (doc : Document) : Document :=
  { doc with content := Item.joined doc.content }

namespace Walk

variable {F G : Forest}

/-- Completion that comes to the same on both sides. -/
theorem leads_complete {a b : NodeId} {target target' : Option NodeId}
    (h : (F.ensureDeclared a target true).2 = (G.ensureDeclared b target' true).2) :
    Leads F G (F.ensureDeclared a target true).1 (G.ensureDeclared b target' true).1 (· = ·)
      (complete a target) (complete b target') := by
  refine Leads.after_forest fun st st' hst => ?_
  generalize F.ensureDeclared a target true = r at h
  generalize G.ensureDeclared b target' true = r' at h
  obtain ⟨F', count⟩ := r
  obtain ⟨G', count'⟩ := r'
  obtain rfl : count = count' := h
  cases count with
  | error fault => exact .failed (.tree fault) _ _
  | ok n =>
      exact .done rfl ⟨⟨rfl, hst.left.disturbance⟩, ⟨rfl, hst.right.disturbance⟩, hst.text⟩

end Walk

namespace Writer

open Forest Walk

variable {W : Writer} {F G : Forest} {doc doc' : NodeId} {R : NodeId → NodeId → Prop}

/-! ### Completion -/

/-- Paired elements are completed in the same way if completion is wanted. -/
theorem exists_leads_completeFrom (h : F.Mirrors G R) {a b : NodeId} (hr : R a b) :
    ∃ F' G', F.Redeclares F' ∧ G.Redeclares G' ∧ F'.Mirrors G' R ∧
      Leads F G F' G' (· = ·) (W.completeFrom a) (W.completeFrom b) := by
  rw [completeFrom, completeFrom]
  split
  · have htarget : Option.Rel R (if W.settings.declareAtTop then some a else none)
        (if W.settings.declareAtTop then some b else none) := by
      split
      · exact .some hr
      · exact .none
    obtain ⟨h', hcount⟩ := h.ensureDeclared htarget hr
    exact ⟨_, _, F.redeclares_ensureDeclared a _ true, G.redeclares_ensureDeclared b _ true, h',
      leads_complete hcount⟩
  · exact ⟨F, G, .refl F, .refl G, h, inStep_pure rfl⟩

/-- Documents whose document elements are paired are completed in the same way, whatever comes
next. -/
theorem exists_leads_completion (h : F.Mirrors G R)
    (hroot : Option.Rel R (F.root? doc) (G.root? doc')) :
    ∃ F' G', F.Redeclares F' ∧ G.Redeclares G' ∧ F'.Mirrors G' R ∧
      ∀ {next next' : Unit → Walk Unit}, InStep F' G' (· = ·) (next ()) (next' ()) →
        Leads F G F' G' (· = ·)
          (match F.root? doc with
            | some root => W.completeFrom root >>= next
            | none => next ())
          (match G.root? doc' with
            | some root => W.completeFrom root >>= next'
            | none => next' ()) := by
  generalize F.root? doc = root at hroot
  generalize G.root? doc' = root' at hroot
  cases hroot with
  | none => exact ⟨F, G, .refl F, .refl G, h, id⟩
  | some hr =>
      obtain ⟨F', G', hF, hG, h', hleads⟩ := exists_leads_completeFrom (W := W) h hr
      exact ⟨F', G', hF, hG, h', fun hnext => hleads.bind fun _ => hnext⟩

/-! ### Documents -/

/-- Documents whose contents agree are written in the same way. -/
theorem exists_leads_documentWalk (h : F.Mirrors G R) (hdoc : F.type? doc = some .document)
    (hdoc' : G.type? doc' = some .document) (hdeclaration : F.declaration doc = G.declaration doc')
    (hcontent : List.Forall₂ (Content.Agrees F G R) (F.content doc) (G.content doc')) :
    ∃ F' G', Leads F G F' G' (· = ·) (W.documentWalk doc false) (W.documentWalk doc' false) := by
  have hchildren := Forest.agrees_children h.left h.right hdoc hdoc' hcontent
  obtain ⟨F', G', hF, hG, h', hcompletion⟩ :=
    exists_leads_completion (W := W) h (Forest.root?_rel hchildren)
  -- the children have been listed before completion, which leaves them as they were
  have hlisted : List.Forall₂ (fun a b => Content.Agrees F' G' R (.node a) (.node b))
      (F.children doc) (G.children doc') := hchildren.imp fun _ _ hab => hab.of_same hF.same hG.same
  refine ⟨F', G', Leads.after_forest ?_⟩
  rw [← Forest.doctype?_eq hchildren, ← hdeclaration]
  refine (isBlind_checkDoctype _).inStep.andThen ((isBlind_escaperFor _).inStep.bind ?_)
  rintro escaper _ rfl
  refine hcompletion ((inStep_pure (P := (· = ·)) rfl).andThen
    ((isBlind_putProlog _ _).inStep.andThen ((inStep_putChildren h' hlisted false).bind ?_)))
  rintro afterRoot _ rfl
  split
  · exact isBlind_putNewline.inStep
  · exact inStep_pure rfl

/-- Walks that are in step come to the same text, or to the same fault. -/
theorem documentText_eq_of_leads {settings : Settings} {profile : Profile} {F' G' : Forest}
    (h : Leads F G F' G' (· = ·) ((quiet settings profile).documentWalk doc false)
      ((quiet settings profile).documentWalk doc' false)) :
    ((quiet settings profile).documentText F doc).2 =
      ((quiet settings profile).documentText G doc').2 := by
  have hends := h ⟨F, none, 0, []⟩ ⟨G, none, 0, []⟩ ⟨⟨rfl, rfl⟩, ⟨rfl, rfl⟩, rfl⟩
  rw [documentText, documentText, runWalk, runWalk,
    show (quiet settings profile).disturbance = none from rfl]
  generalize ((quiet settings profile).documentWalk doc false).run.run ⟨F, none, 0, []⟩ = r at hends
  generalize ((quiet settings profile).documentWalk doc' false).run.run ⟨G, none, 0, []⟩ = r'
    at hends
  cases hends with
  | done _ hst => exact congrArg Except.ok hst.text
  | failed fault _ _ => rfl

/-- **Cuts of texts cannot be seen.**  Two documents that are the same once adjacent texts in them are
joined, and of which both take changes or none does, are written as the same text or refused for the
same reason, whatever the settings and the profile are. -/
theorem documentText_eq_of_joined_eq (hF : F.IsWellLinked) (hG : G.IsWellLinked)
    (hdoc : F.type? doc = some .document) (hdoc' : G.type? doc' = some .document)
    (hlocked : F.isReadOnly doc = G.isReadOnly doc')
    (he : (F.toDocument doc).joined = (G.toDocument doc').joined) (settings : Settings)
    (profile : Profile) :
    ((quiet settings profile).documentText F doc).2 =
      ((quiet settings profile).documentText G doc').2 := by
  obtain ⟨hdeclaration, hjoined⟩ := Document.mk.inj he
  have hcontent := Forest.agrees_contentOf (hF.holds_toDocument hdoc) (hG.holds_toDocument hdoc')
    hjoined
  have hmirrors := Forest.mirrors_counterparts hF hG hdoc hdoc' hlocked hcontent
  obtain ⟨F', G', hleads⟩ := exists_leads_documentWalk (W := quiet settings profile) hmirrors hdoc
    hdoc' hdeclaration (Forest.Counterparts.document.agrees_content
      (Forest.isElement_eq_false_of_document hdoc) hcontent)
  exact documentText_eq_of_leads hleads

/-! ### A text in four pieces -/

/-- An element with a text and another element. -/
def uncut : List Change :=
  [.addDocument, .createElementNs 0 (some ['u']) "p:a".toList, .createElementNs 0 none ['b'],
    .createText 0 "one\r\n  two ".toList, .appendChild 0 1, .appendChild 1 3, .appendChild 1 2]

/-- The same with cuts in the line ending, in the blanks and before the other element. -/
def cut : List Change :=
  [.addDocument, .createElementNs 0 (some ['u']) "p:a".toList, .createText 0 "one\r".toList,
    .createText 0 "\n ".toList, .createText 0 " two ".toList, .createText 0 [],
    .createElementNs 0 none ['b'], .appendChild 0 1, .appendChild 1 2, .appendChild 1 3,
    .appendChild 1 4, .appendChild 1 5, .appendChild 1 6]

theorem toDocument_uncut : (empty.run uncut).toDocument 0 =
    ⟨.none, [.element ⟨some ['u'], some ['p'], ['a']⟩ []
      [.text "one\r\n  two ".toList, .element ⟨none, none, ['b']⟩ [] []]]⟩ := by
  with_unfolding_all rfl

set_option maxRecDepth 4000 in
theorem toDocument_cut : (empty.run cut).toDocument 0 =
    ⟨.none, [.element ⟨some ['u'], some ['p'], ['a']⟩ []
      [.text "one\r".toList, .text "\n ".toList, .text " two ".toList, .text [],
        .element ⟨none, none, ['b']⟩ [] []]]⟩ := by
  with_unfolding_all rfl

/-- The cuts make other trees, but not another text. -/
theorem documentText_cut :
    ((empty.run uncut).children 1).length = 2 ∧ ((empty.run cut).children 1).length = 5 ∧
      ((quiet { Settings.standard with formatted := true } .everyBlock).documentText
          (empty.run uncut) 0).2 =
        ((quiet { Settings.standard with formatted := true } .everyBlock).documentText
          (empty.run cut) 0).2 :=
  ⟨by decide, by decide, documentText_eq_of_joined_eq (isWellLinked_empty.run uncut)
    (isWellLinked_empty.run cut) (by decide) (by decide) (by decide)
    (by rw [toDocument_uncut, toDocument_cut]; rfl) _ _⟩

end Writer

end XmlScribe
