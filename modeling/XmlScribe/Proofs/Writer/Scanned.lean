/-
**The text of a document consists of its events.**

Where every event of what a writer writes is read back, scanning the text finds these events again,
up to pieces of character data side by side.

Main definitions:

* `Writer.eventsAround` — the events of a prolog and of what follows it.

Main results:

* `Writer.scan_eventsAround`, `Writer.scan_eventsWith` — scanning finds the events of a text;
* `Writer.foldlM_declarationEvents` — the XML declaration is read as it was meant.
-/

import XmlScribe.Proofs.Writer.Document
import XmlScribe.Proofs.Writer.Outside

set_option autoImplicit false

namespace XmlScribe

open Builder Fragment

namespace Writer

variable {W : Writer} {escaper : Escaper} {label : Text} {declaration : Declaration}
  {doctype : Option Doctype} {items : List Item} {fragments : List Fragment}

/-- The events of a text with these fragments after its prolog. -/
def eventsAround (W : Writer) (label : Text) (declaration : Declaration)
    (doctype : Option Doctype) (fragments : List Fragment) : List Event :=
  W.declarationEvents label declaration ++ (W.doctypeEvents doctype ++ Fragment.events fragments)

theorem eventsAround_none (label : Text) (declaration : Declaration) (fragments : List Fragment) :
    W.eventsAround label declaration none fragments =
      W.declarationEvents label declaration ++ Fragment.events fragments :=
  rfl

/-- Every event of such a text is read back. -/
theorem isSound_eventsAround (hsep : '<' ∉ W.settings.separator)
    (hdeclaration : (Event.declaration (declarationContent label declaration)).ReadsBack)
    (hdoctype : ∀ d, doctype = some d →
      (Event.doctype (Doctype.written d.name d.publicId d.systemId d.subset)).ReadsBack)
    (hb : Everywhere IsLexical fragments) :
    ∀ event ∈ W.eventsAround label declaration doctype fragments, event.IsSound := by
  intro event he
  rcases List.mem_append.1 he with he | he
  · rw [declarationEvents] at he
    split at he
    · rcases List.mem_cons.1 he with rfl | he
      · exact hdeclaration
      · rw [List.mem_singleton.1 he]
        exact hsep
    · simp at he
  · rcases List.mem_append.1 he with he | he
    · cases doctype with
      | none => simp [doctypeEvents] at he
      | some d =>
          rw [doctypeEvents] at he
          rcases List.mem_cons.1 he with rfl | he
          · exact hdoctype d rfl
          · rw [List.mem_singleton.1 he]
            exact hsep
    · exact isSound_events _ hb event he

/-- The tags of such a text match. -/
theorem foldlM_track_eventsAround (hb : Everywhere IsLexical fragments) :
    (W.eventsAround label declaration doctype fragments).foldlM Event.track [] = .ok [] := by
  have hdeclaration : (W.declarationEvents label declaration).foldlM Event.track [] = .ok [] := by
    rw [declarationEvents]
    split <;> rfl
  have hdoctype : (W.doctypeEvents doctype).foldlM Event.track [] = .ok [] := by
    cases doctype <;> rfl
  rw [eventsAround, Outcome.foldlM_append hdeclaration, Outcome.foldlM_append hdoctype]
  exact foldlM_track _ hb []

/-- Such a text begins with markup. -/
theorem head?_eventsAround (hhead : ∀ raw data, fragments.head? ≠ some (chars raw data))
    (raw : Text) :
    (W.eventsAround label declaration doctype fragments).head? ≠ some (.text raw) := by
  rw [eventsAround, declarationEvents]
  split
  · simp
  · cases doctype with
    | some d => simp [doctypeEvents]
    | none => exact head?_events hhead raw

/-- Scanning such a text finds its events. -/
theorem scan_eventsAround (hsep : '<' ∉ W.settings.separator)
    (hdeclaration : (Event.declaration (declarationContent label declaration)).ReadsBack)
    (hdoctype : ∀ d, doctype = some d →
      (Event.doctype (Doctype.written d.name d.publicId d.systemId d.subset)).ReadsBack)
    (hb : Everywhere IsLexical fragments)
    (hhead : ∀ raw data, fragments.head? ≠ some (chars raw data)) :
    Event.scan ((W.eventsAround label declaration doctype fragments).flatMap Event.source) =
      (Event.mergeFrom [] (W.eventsAround label declaration doctype fragments), none) :=
  Event.scan_source (isSound_eventsAround hsep hdeclaration hdoctype hb)
    (foldlM_track_eventsAround hb) (head?_eventsAround hhead)

/-- Scanning the text of a document finds its events. -/
theorem scan_eventsWith (hsep : '<' ∉ W.settings.separator)
    (hdeclaration : (Event.declaration (declarationContent label declaration)).ReadsBack)
    (hdoctype : ∀ d, doctype = some d →
      (Event.doctype (Doctype.written d.name d.publicId d.systemId d.subset)).ReadsBack)
    (hb : Everywhere IsLexical (W.bodyFragments escaper (Item.joined items))) :
    Event.scan ((W.eventsWith escaper label declaration doctype items).flatMap Event.source) =
      (Event.mergeFrom [] (W.eventsWith escaper label declaration doctype items), none) :=
  scan_eventsAround hsep hdeclaration hdoctype hb head?_bodyFragments

/-! ### Reading -/

/-- The XML declaration is read, and the end of its line is left. -/
theorem foldlM_declarationEvents {subsets : Subsets} (hsep : W.settings.separator = ['\n'])
    (hw : Declaration.IsWritable (declaration.version.getD ['1', '.', '0']) label)
    (events : List Event) :
    ∃ raw, Text.isAllBlank raw = true ∧
      (Event.mergeFrom [] (W.declarationEvents label declaration ++ events)).foldlM (step subsets)
          start =
        (Event.mergeFrom raw events).foldlM (step subsets)
          ⟨if W.settings.xmlDeclaration then
              ⟨some (declaration.version.getD ['1', '.', '0']), some label, declaration.standalone⟩
            else .none, [], [], []⟩ := by
  rw [declarationEvents]
  split
  · refine ⟨['\n'], rfl, ?_⟩
    have hread := Declaration.readDeclaration_written hw declaration.standalone .none
    have hor : declaration.standalone.or Declaration.none.standalone = declaration.standalone :=
      Option.or_none
    rw [hor] at hread
    have hstep : step subsets start (.declaration (declarationContent label declaration)) =
        .ok ⟨⟨some (declaration.version.getD ['1', '.', '0']), some label, declaration.standalone⟩,
          [], [], []⟩ := by
      rw [step, declarationContent, start, hread]
      rfl
    rw [hsep, List.cons_append, Event.mergeFrom_cons (by simp), foldlM_flush_blank rfl rfl,
      List.foldlM_cons, Outcome.bind_of_eq_ok hstep]
    rfl
  · exact ⟨[], rfl, rfl⟩

end Writer

end XmlScribe
