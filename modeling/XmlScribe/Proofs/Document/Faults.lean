/-
**What reading a text can fail with.**

Some faults belong to the reading of bytes: a label that no character set has, bytes that are no text,
a file that cannot be read.  A text is past all of that: whatever is wrong with it, it is a fault of the
markup, of the tree, of a prefix or of a document type.

Main definitions:

* `ReadFault.IsOfText` — the faults of a text.

Main results:

* `Builder.failsIn_step` — no event has another fault;
* `Document.isOfText_of_parse` — neither has a text.
-/

import XmlScribe.Document.Read
import XmlScribe.Proofs.Outcome

set_option autoImplicit false

namespace XmlScribe

open Outcome

/-- The fault is one of a text, and not of the bytes that it is read from. -/
def ReadFault.IsOfText : ReadFault → Prop
  | .unknownEncoding _ | .undecodable _ | .file _ => False
  | _ => True

namespace Builder

/-! ### Parts of a document -/

theorem failsIn_expand (b : Builder) (raw : Text) : FailsIn ReadFault.IsOfText (b.expand raw) :=
  failsIn_mapError (fun _ => trivial) _

theorem failsIn_checkPlace (b : Builder) (type : NodeType) :
    FailsIn ReadFault.IsOfText (b.checkPlace type) := by
  rw [checkPlace]
  split
  · split
    · exact failsIn_ok ()
    · exact failsIn_error trivial
  · split
    · exact failsIn_error trivial
    · split
      · exact failsIn_error trivial
      · exact failsIn_ok ()

theorem failsIn_append (b : Builder) (item : Item) : FailsIn ReadFault.IsOfText (b.append item) :=
  (failsIn_checkPlace b _).map _

theorem failsIn_namespaceOf (scopes : List Bindings) (pfx : Option Text) :
    FailsIn ReadFault.IsOfText (namespaceOf scopes pfx) := by
  rw [namespaceOf.eq_def]
  split
  · exact failsIn_ok _
  · split
    · exact failsIn_ok _
    · split
      · exact failsIn_ok _
      · exact failsIn_ok _
      · exact failsIn_error trivial

theorem failsIn_readAttributes (b : Builder) (content : Text) :
    FailsIn ReadFault.IsOfText (b.readAttributes content) := by
  refine (failsIn_mapM (fun a => (failsIn_expand b _).bind fun value => failsIn_ok _) _).bind
    fun pairs => ?_
  split
  · exact failsIn_error trivial
  · exact failsIn_ok _

theorem failsIn_addAttribute (scopes : List Bindings) (attributes : List Attribute)
    (pair : Text × Text) : FailsIn ReadFault.IsOfText (addAttribute scopes attributes pair) := by
  rw [addAttribute]
  split
  · split
    · exact failsIn_ok _
    · exact failsIn_error trivial
  · split
    · refine (failsIn_namespaceOf scopes _).bind fun uri => ?_
      split
      · exact failsIn_ok _
      · exact failsIn_error trivial
    · split
      · exact failsIn_ok _
      · exact failsIn_error trivial

theorem failsIn_openElement (b : Builder) (content : Text) :
    FailsIn ReadFault.IsOfText (b.openElement content) :=
  (failsIn_readAttributes b content).bind fun _ =>
    (failsIn_namespaceOf _ _).bind fun _ =>
      (failsIn_mapError (fun _ => trivial) _).bind fun _ =>
        (failsIn_foldlM (failsIn_addAttribute _) _ _).bind fun _ =>
          (failsIn_checkPlace b _).bind fun _ => failsIn_ok _

theorem failsIn_attributeValue? (attributes : List RawAttribute × Option AttributeFault)
    (name : Text) : FailsIn ReadFault.IsOfText (attributeValue? attributes name) := by
  rw [attributeValue?]
  split
  · exact failsIn_ok _
  · exact failsIn_ok _
  · exact failsIn_error trivial

theorem failsIn_versionOf (attributes : List RawAttribute × Option AttributeFault) :
    FailsIn ReadFault.IsOfText (versionOf attributes) := by
  rw [versionOf.eq_def]
  split
  · split
    · exact failsIn_ok _
    · exact failsIn_error trivial
  · exact failsIn_error trivial
  · exact failsIn_error trivial

theorem failsIn_readDeclaration (old : Declaration) (content : Text) :
    FailsIn ReadFault.IsOfText (readDeclaration old content) :=
  (failsIn_versionOf _).bind fun _ =>
    (failsIn_attributeValue? _ _).bind fun _ =>
      (failsIn_attributeValue? _ _).bind fun _ => failsIn_ok _

theorem failsIn_readDoctype (subsets : Subsets) (content : Text) :
    FailsIn ReadFault.IsOfText (readDoctype subsets content) := by
  refine (failsIn_mapError (fun _ => trivial) _).bind fun header =>
    (failsIn_mapError (fun _ => trivial) _).bind fun _ =>
      (failsIn_mapError (fun _ => trivial) _).bind fun inner => ?_
  split
  · exact (failsIn_mapError (fun _ => trivial) _).bind fun _ => failsIn_ok _
  · exact (failsIn_ok _).bind fun _ => failsIn_ok _

/-! ### Events -/

/-- No event has another fault than one of a text. -/
theorem failsIn_step (subsets : Subsets) (b : Builder) (event : Event) :
    FailsIn ReadFault.IsOfText (step subsets b event) := by
  cases event with
  | declaration content => exact (failsIn_readDeclaration _ content).bind fun _ => failsIn_ok _
  | doctype content =>
      exact (failsIn_readDoctype subsets content).bind fun _ => failsIn_append _ _
  | startTag content closed =>
      refine (failsIn_openElement b content).bind fun e => ?_
      split
      · exact failsIn_ok _
      · exact failsIn_ok _
  | endTag name =>
      rw [step.eq_def]
      dsimp only
      split
      · exact failsIn_ok _
      · exact failsIn_ok _
  | text raw =>
      rw [step.eq_def]
      dsimp only
      split
      · exact failsIn_ok _
      · refine (failsIn_expand b raw).bind fun data => ?_
        split
        · exact failsIn_ok _
        · exact failsIn_append _ _
  | cdata data => exact failsIn_append _ _
  | comment data => exact failsIn_append _ _
  | instruction target data =>
      exact (failsIn_mapError (fun _ => trivial) _).bind fun _ => failsIn_append _ _

theorem failsIn_finish (b : Builder) : FailsIn ReadFault.IsOfText b.finish := by
  rw [finish]
  split
  · exact failsIn_ok _
  · exact failsIn_error trivial

end Builder

/-- A text has no fault of bytes. -/
theorem Document.isOfText_of_parse {subsets : Subsets} {s : Text} {fault : ReadFault}
    (h : parse subsets s = .error fault) : fault.IsOfText := by
  refine FailsIn.bind (f := fun b => _) (failsIn_foldlM (Builder.failsIn_step subsets) _ _)
    (fun b => ?_) fault h
  split
  · exact failsIn_error trivial
  · exact Builder.failsIn_finish b

end XmlScribe
