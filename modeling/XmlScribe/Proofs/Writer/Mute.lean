/-
**Walks that ask nothing.**

Single nodes, tags, and what stands before the document element are written without a question to
the profile and without a look at the number of children.  Such walks look at the forest and write
texts, and if they give up, then for a reason of the text.  What is written of a single node or a tag
is known beforehand: there is not even a look at the forest.

Main definitions:

* `SaveFault.IsOther` — the fault is not that children have been added or removed;
* `Walk.IsMute` — walks that ask nothing;
* `Walk.IsBlind` — walks that do not even look at the forest.

Main results:

* `Writer.isBlind_putLeaf`, `Writer.isBlind_putStartTag`, `Writer.isBlind_putProlog`,
  `Writer.isBlind_putBeside` — what is written without a look.
-/

import XmlScribe.Proofs.Writer.Quiet

set_option autoImplicit false

namespace XmlScribe

/-- The fault is not that children have been added or removed. -/
def SaveFault.IsOther (fault : SaveFault) : Prop :=
  ∀ expected found, fault ≠ .childrenChanged expected found

namespace Walk

/-- Walks that look at the forest, write texts or give up, but ask nothing. -/
inductive IsMute : {α : Type} → Walk α → Prop
  /-- Nothing is done. -/
  | pure {α : Type} (a : α) : IsMute (pure a)
  /-- The walk gives up. -/
  | throw {α : Type} {fault : SaveFault} : fault.IsOther → IsMute (throw fault : Walk α)
  /-- It looks at the forest. -/
  | forest : IsMute forest
  /-- It writes a text. -/
  | put (s : Text) : IsMute (put s)
  /-- One such walk comes after another. -/
  | bind {α β : Type} {walk : Walk α} {next : α → Walk β} :
      IsMute walk → (∀ a, IsMute (next a)) → IsMute (walk >>= next)

/-- Walks that write texts or give up, and look at nothing. -/
inductive IsBlind : {α : Type} → Walk α → Prop
  /-- Nothing is done. -/
  | pure {α : Type} (a : α) : IsBlind (pure a)
  /-- The walk gives up. -/
  | throw {α : Type} {fault : SaveFault} : fault.IsOther → IsBlind (throw fault : Walk α)
  /-- It writes a text. -/
  | put (s : Text) : IsBlind (put s)
  /-- One such walk comes after another. -/
  | bind {α β : Type} {walk : Walk α} {next : α → Walk β} :
      IsBlind walk → (∀ a, IsBlind (next a)) → IsBlind (walk >>= next)

/-- A walk that looks at nothing asks nothing. -/
theorem IsBlind.isMute {α : Type} {walk : Walk α} (h : IsBlind walk) : IsMute walk := by
  induction h with
  | pure a => exact .pure a
  | throw hfault => exact .throw hfault
  | put s => exact .put s
  | bind _ _ ih ih' => exact ih.bind ih'

/-- One walk after another whose outcome does not matter. -/
theorem IsBlind.andThen {β : Type} {first : Walk Unit} {second : Walk β} (h : IsBlind first)
    (h' : IsBlind second) : IsBlind (do first; second) :=
  h.bind fun _ => h'

/-- One walk after another whose outcome does not matter. -/
theorem IsMute.andThen {β : Type} {first : Walk Unit} {second : Walk β} (h : IsMute first)
    (h' : IsMute second) : IsMute (do first; second) :=
  h.bind fun _ => h'

theorem isBlind_putString (s : String) : IsBlind (putString s) :=
  .put s.toList

theorem isBlind_putAll (texts : List Text) : IsBlind (putAll texts) := by
  induction texts with
  | nil => exact .pure ()
  | cons s texts ih => exact (IsBlind.put s).andThen ih

end Walk

namespace Writer

open Walk

variable {W : Writer} {escaper : Escaper}

/-! ### Single nodes -/

theorem isBlind_putMarkup (construct : Construct) (s : Text) : IsBlind (W.putMarkup construct s) := by
  rw [putMarkup]
  split
  · exact .throw nofun
  · exact .put s

theorem isBlind_putNewline : IsBlind W.putNewline :=
  .put _

theorem isBlind_putIndent (depth : Nat) : IsBlind (W.putIndent depth) :=
  isBlind_putAll _

theorem isBlind_putText (data : Text) : IsBlind (W.putText escaper data) :=
  .put _

theorem isBlind_putLeaf (payload : Payload) : IsBlind (W.putLeaf escaper payload) := by
  cases payload with
  | text data => exact isBlind_putText data
  | cdata data => exact isBlind_putAll _
  | comment data =>
      exact (isBlind_putString _).andThen
        ((isBlind_putMarkup _ _).andThen (isBlind_putString _))
  | instruction target data =>
      refine (isBlind_putString _).andThen ((isBlind_putMarkup _ _).andThen ?_)
      by_cases h : (data.getD []).isEmpty = true
      · simp only [if_pos h]
        exact isBlind_putString _
      · simp only [if_neg h]
        exact (isBlind_putString _).andThen
          ((isBlind_putMarkup _ _).andThen (isBlind_putString _))
  | document declaration readOnly => exact .pure ()
  | element name cells => exact .pure ()
  | doctype d => exact .pure ()

theorem isBlind_putAttribute (a : Attribute) : IsBlind (W.putAttribute escaper a) :=
  (isBlind_putString _).andThen ((isBlind_putMarkup _ _).andThen
    ((isBlind_putString _).andThen ((IsBlind.put _).andThen
      ((IsBlind.put _).andThen (.put _)))))

theorem isBlind_putAttributes (attributes : List Attribute) :
    IsBlind (W.putAttributes escaper attributes) := by
  induction attributes with
  | nil => exact .pure ()
  | cons a attributes ih => exact (isBlind_putAttribute a).andThen ih

theorem isBlind_putStartTag (f : Frame) : IsBlind (W.putStartTag escaper f) :=
  (isBlind_putString _).andThen
    ((isBlind_putMarkup _ _).andThen (isBlind_putAttributes _))

theorem isBlind_putIndentAtStart (st : LineState) (depth : Nat) :
    IsBlind (W.putIndentAtStart st depth) := by
  rw [putIndentAtStart]
  split
  · exact isBlind_putIndent depth
  · exact .pure ()

theorem isBlind_putEmptyEnd (name : Text) : IsBlind (W.putEmptyEnd name) := by
  rw [putEmptyEnd]
  split
  · exact isBlind_putString _
  · exact (isBlind_putString _).andThen ((IsBlind.put _).andThen (isBlind_putString _))

/-! ### Before the document element -/

theorem isBlind_escaperFor (doctype : Option Doctype) : IsBlind (W.escaperFor doctype) := by
  rw [escaperFor]
  split
  · exact .pure _
  · rename_i fault ht
    rw [entityTable] at ht
    generalize EntityTable.build _ _ = built at ht
    cases built with
    | error conflict =>
        cases ht
        exact .throw nofun
    | ok table => cases ht

theorem isBlind_checkDoctype (doctype : Option Doctype) : IsBlind (W.checkDoctype doctype) := by
  unfold checkDoctype
  split
  · split
    · exact .pure ()
    · exact .throw nofun
  · exact .pure ()

theorem isBlind_putDeclaration (declaration : Declaration) :
    IsBlind (W.putDeclaration declaration) := by
  refine (isBlind_putString _).andThen ((IsBlind.put _).andThen ((isBlind_putString _).andThen
    ((IsBlind.put _).andThen ((isBlind_putString _).andThen ?_))))
  split
  · exact (isBlind_putString _).andThen ((IsBlind.put _).andThen
      ((isBlind_putString _).andThen (isBlind_putString _)))
  · exact isBlind_putString _

theorem isBlind_putQuoted (literal : Text) : IsBlind (W.putQuoted literal) :=
  (IsBlind.put _).andThen ((isBlind_putMarkup _ _).andThen (.put _))

theorem isBlind_putIds (publicId systemId : Option Text) :
    IsBlind (W.putIds publicId systemId) := by
  rcases publicId with _ | publicId <;> rcases systemId with _ | systemId
  · exact .pure ()
  · exact (isBlind_putString _).andThen (isBlind_putQuoted systemId)
  · exact .throw nofun
  · exact (isBlind_putString _).andThen ((isBlind_putQuoted publicId).andThen
      ((isBlind_putString _).andThen (isBlind_putQuoted systemId)))

theorem isBlind_putSubset (subset : Text) : IsBlind (W.putSubset subset) := by
  rw [putSubset]
  split
  · exact .pure ()
  · exact (isBlind_putString _).andThen
      ((isBlind_putMarkup _ _).andThen (isBlind_putString _))

theorem isBlind_putDoctype (heading : Heading) (subset : Option Text) :
    IsBlind (W.putDoctype heading subset) :=
  (isBlind_putString _).andThen ((isBlind_putMarkup _ _).andThen
    ((isBlind_putIds _ _).andThen ((isBlind_putSubset _).andThen (isBlind_putString _))))

theorem isBlind_putProlog (declaration : Declaration) (doctype : Option Doctype) :
    IsBlind (W.putProlog declaration doctype) := by
  have hdoctype : IsBlind (W.putHeading doctype) := by
    rw [putHeading]
    split
    · exact (isBlind_putDoctype _ _).andThen isBlind_putNewline
    · exact .pure ()
  rw [putProlog_eq]
  split
  · exact (isBlind_putDeclaration declaration).andThen (isBlind_putNewline.andThen hdoctype)
  · exact hdoctype

theorem isBlind_putBeside (afterRoot : Bool) (payload : Payload) :
    IsBlind (W.putBeside escaper afterRoot payload) := by
  have hleaf : IsBlind (do
      W.putLeaf escaper payload
      if !afterRoot then W.putNewline) := by
    refine (isBlind_putLeaf payload).andThen ?_
    split
    · exact isBlind_putNewline
    · exact .pure ()
  rw [putBeside]
  split
  · exact isBlind_putNewline.andThen hleaf
  · exact hleaf

end Writer

end XmlScribe
