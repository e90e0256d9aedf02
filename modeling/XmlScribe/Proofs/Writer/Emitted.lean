/-
**What a walk lets out.**

All characters that a writer writes come from few sources: the wordings of markup, the settings,
names and the like, which are looked at before they are written, and escaped text.  A property that
the characters from all these sources have is a property of everything written.  A name that is
written a second time has been looked at the first time, so what comes after a walk may rely on its
success.

On the way a walk gives up only for what it finds there.  The faults that a document or the entities
that it declares can have, or that completion meets, are met before.

Main definitions:

* `SaveFault.IsEarly` — the faults that are met before anything is written;
* `Walk.Returns` — what a walk can give;
* `Walk.Emits` — a walk that writes certain characters only and meets no early fault;
* `Writer.Permits` — all that a writer may write without a look has the property.

Main results:

* `Walk.Emits.bind` — one walk after another, which may rely on the success of the first;
* `Writer.emits_body` — what is written of a document;
* `Writer.emits_putElement` — what is written of an element.
-/

import XmlScribe.Proofs.Entity.Characters
import XmlScribe.Proofs.Writer.Untouched

set_option autoImplicit false

namespace XmlScribe

/-- The fault is met before anything is written. -/
def SaveFault.IsEarly : SaveFault → Prop
  | publicIdAlone => True
  | conflictingEntity _ => True
  | tree _ => True
  | _ => False

/-- The step writes such characters only. -/
def Step.Has (P : Char → Prop) (step : Step) : Prop :=
  ∀ c ∈ step.piece.toText, P c

namespace Walk

variable {P : Char → Prop} {α β : Type} {walk : Walk α} {next : α → Walk β}

/-- The walk can succeed with `a`. -/
def Returns (walk : Walk α) (a : α) : Prop :=
  ∃ st st', walk.run.run st = (.ok a, st')

theorem Returns.of_bind {b : β} (h : Returns (walk >>= next) b) :
    ∃ a, Returns walk a ∧ Returns (next a) b := by
  obtain ⟨st, st', hrun⟩ := h
  obtain ⟨a, mid, h₁, h₂⟩ := Outcome.exists_of_run_bind hrun
  exact ⟨a, ⟨st, mid, h₁⟩, ⟨mid, st', h₂⟩⟩

/-- The walk writes characters only of which `P` holds, and it does not meet an early fault. -/
structure Emits (P : Char → Prop) (walk : Walk α) : Prop where
  /-- What is in the trace afterwards, if it has been so before. -/
  has : ∀ st : WalkState, (∀ step ∈ st.trace, step.Has P) →
    ∀ step ∈ (walk.run.run st).2.trace, step.Has P
  /-- Why the walk gives up. -/
  fails : ∀ st fault st', walk.run.run st = (.error fault, st') → ¬ fault.IsEarly

/-- One walk after another.  The second one may rely on the success of the first. -/
theorem Emits.bind (h : Emits P walk) (h' : ∀ a, Returns walk a → Emits P (next a)) :
    Emits P (walk >>= next) := by
  refine ⟨fun st hst => ?_, fun st fault st' hrun => ?_⟩
  · exact Outcome.of_run_bind (I := fun st : WalkState => ∀ step ∈ st.trace, step.Has P) (h.has st hst)
      fun a mid hrun hmid => (h' a ⟨st, mid, hrun⟩).has mid hmid
  · rcases Outcome.of_run_bind_error hrun with hfirst | ⟨a, mid, hfirst, hrun⟩
    · exact h.fails st fault st' hfirst
    · exact (h' a ⟨st, mid, hfirst⟩).fails mid fault st' hrun

theorem Emits.andThen {first : Walk Unit} {second : Walk β} (h : Emits P first)
    (h' : Emits P second) : Emits P (do first; second) :=
  h.bind fun _ _ => h'

/-! ### Basic walks -/

theorem emits_pure (a : α) : Emits P (pure a : Walk α) :=
  ⟨fun _ hst => hst, nofun⟩

theorem emits_throw {fault : SaveFault} (h : ¬ fault.IsEarly) : Emits P (throw fault : Walk α) := by
  refine ⟨fun _ hst => hst, fun st other st' hrun => ?_⟩
  obtain rfl := Except.error.inj (Prod.mk.inj hrun).1
  exact h

theorem emits_forest : Emits P forest :=
  ⟨fun _ hst => hst, nofun⟩

theorem emits_ask (profile : Profile) (key : ElementKey) : Emits P (ask profile key) := by
  refine ⟨fun st hst => ?_, nofun⟩
  change ∀ step ∈ (afterQuestion key st).trace, step.Has P
  rwa [trace_afterQuestion]

theorem emits_put {s : Text} (h : ∀ c ∈ s, P c) : Emits P (put s) := by
  refine ⟨fun st hst step hstep => ?_, nofun⟩
  rcases List.mem_cons.1 hstep with rfl | hstep
  · exact h
  · exact hst step hstep

theorem emits_putAll {texts : List Text} (h : ∀ s ∈ texts, ∀ c ∈ s, P c) :
    Emits P (putAll texts) := by
  induction texts with
  | nil => exact emits_pure ()
  | cons s texts ih =>
      exact (emits_put (h s List.mem_cons_self)).andThen
        (ih fun t ht => h t (List.mem_cons_of_mem s ht))

theorem emits_checkChildren (element : NodeId) (expected : Nat) :
    Emits P (checkChildren element expected) := by
  refine emits_forest.bind fun F _ => ?_
  by_cases h : (F.children element).length ≠ expected
  · simp only [if_pos h]
    exact emits_throw id
  · simp only [if_neg h]
    exact emits_pure ()

end Walk

namespace Writer

open Walk

/-- What the writer may write without looking at it has the property, and so has everything that the
character set can encode. -/
structure Permits (W : Writer) (P : Char → Prop) : Prop where
  /-- What can be encoded. -/
  encodable : ∀ {c}, W.settings.charset.canEncode c = true → P c
  /-- The wordings of markup. -/
  basic : ∀ {c}, IsBasic c → P c
  /-- The text that ends a line. -/
  separator : ∀ c ∈ W.settings.separator, P c
  /-- The text that indents a line. -/
  indent : ∀ c ∈ W.settings.indent, P c

variable {W : Writer} {P : Char → Prop} (hW : W.Permits P)
include hW

/-! ### Markup -/

theorem emits_putString {s : String} (h : ∀ c ∈ s.toList, IsBasic c) : Emits P (putString s) :=
  emits_put fun c hc => hW.basic (h c hc)

omit hW in
theorem canEncode_of_returns {construct : Construct} {s : Text}
    (h : Returns (W.putMarkup construct s) ()) : ∀ c ∈ s, W.settings.charset.canEncode c = true := by
  obtain ⟨st, st', hrun⟩ := h
  rw [putMarkup] at hrun
  split at hrun
  · cases hrun
  · rename_i hnone
    simpa using hnone

theorem emits_putMarkup (construct : Construct) (s : Text) : Emits P (W.putMarkup construct s) := by
  rw [putMarkup]
  split
  · exact emits_throw id
  · rename_i hnone
    exact emits_put fun c hc => hW.encodable (by simpa using List.find?_eq_none.1 hnone c hc)

theorem emits_putNewline : Emits P W.putNewline :=
  emits_put hW.separator

theorem emits_putIndent (depth : Nat) : Emits P (W.putIndent depth) :=
  emits_putAll fun _ hs => List.eq_of_mem_replicate hs ▸ hW.indent

/-! ### Before the document element -/

theorem emits_putDeclaration {declaration : Declaration}
    (hlabel : ∀ c ∈ W.settings.encodingLabel, P c)
    (hversion : ∀ c ∈ declaration.version.getD "1.0".toList, P c) :
    Emits P (W.putDeclaration declaration) := by
  refine (emits_putString hW (by decide)).andThen ((emits_put hversion).andThen
    ((emits_putString hW (by decide)).andThen ((emits_put hlabel).andThen
      ((emits_putString hW (by decide)).andThen ?_))))
  split
  · rename_i standalone _
    have hflag : ∀ c ∈ yesOrNo standalone, IsBasic c := by cases standalone <;> decide
    exact (emits_putString hW (by decide)).andThen
      ((emits_put fun c hc => hW.basic (hflag c hc)).andThen
        ((emits_putString hW (by decide)).andThen (emits_putString hW (by decide))))
  · exact emits_putString hW (by decide)

omit hW in
theorem isBasic_chooseQuote (s : Text) : ∀ c ∈ [Entity.chooseQuote s], IsBasic c := by
  rcases Entity.chooseQuote_cases s with h | h <;> (rw [h]; decide)

theorem emits_quote (s : Text) : Emits P (put [Entity.chooseQuote s]) :=
  emits_put fun c hc => hW.basic (isBasic_chooseQuote s c hc)

theorem emits_putQuoted (literal : Text) : Emits P (W.putQuoted literal) :=
  (emits_quote hW literal).andThen ((emits_putMarkup hW _ _).andThen (emits_quote hW literal))

theorem emits_putIds {publicId systemId : Option Text}
    (h : Doctype.hasValidIds publicId systemId = true) : Emits P (W.putIds publicId systemId) := by
  rcases publicId with _ | publicId <;> rcases systemId with _ | systemId
  · exact emits_pure ()
  · exact (emits_putString hW (by decide)).andThen (emits_putQuoted hW systemId)
  · cases h
  · exact (emits_putString hW (by decide)).andThen ((emits_putQuoted hW publicId).andThen
      ((emits_putString hW (by decide)).andThen (emits_putQuoted hW systemId)))

theorem emits_putSubset (subset : Text) : Emits P (W.putSubset subset) := by
  rw [putSubset]
  split
  · exact emits_pure ()
  · exact (emits_putString hW (by decide)).andThen
      ((emits_putMarkup hW _ _).andThen (emits_putString hW (by decide)))

theorem emits_putDoctype {heading : Heading} (subset : Option Text)
    (h : Doctype.hasValidIds heading.publicId heading.systemId = true) :
    Emits P (W.putDoctype heading subset) :=
  (emits_putString hW (by decide)).andThen ((emits_putMarkup hW _ _).andThen
    ((emits_putIds hW h).andThen ((emits_putSubset hW _).andThen (emits_putString hW (by decide)))))

theorem emits_putProlog {declaration : Declaration} {doctype : Option Doctype}
    (hlabel : ∀ c ∈ W.settings.encodingLabel, P c)
    (hversion : ∀ c ∈ declaration.version.getD "1.0".toList, P c)
    (hids : ∀ heading subset, W.headingFor doctype = some (heading, subset) →
      Doctype.hasValidIds heading.publicId heading.systemId = true) :
    Emits P (W.putProlog declaration doctype) := by
  have hdoctype : Emits P (W.putHeading doctype) := by
    -- the one fault of the heading is ruled out by the check of the identifiers
    rw [putHeading]
    split
    · rename_i heading subset hh
      exact (emits_putDoctype hW subset (hids heading subset hh)).andThen (emits_putNewline hW)
    · exact emits_pure ()
  rw [putProlog_eq]
  split
  · exact (emits_putDeclaration hW hlabel hversion).andThen ((emits_putNewline hW).andThen hdoctype)
  · exact hdoctype

/-! ### Single nodes -/

section Escaped

variable {escaper : Escaper} (he : ∀ quote s, ∀ c ∈ escaper.encode quote s, P c)
include he

omit hW in
theorem emits_putText (data : Text) : Emits P (W.putText escaper data) :=
  emits_put (he none _)

omit he in
theorem emits_putCData (data : Text) : Emits P (W.putCData data) :=
  emits_putAll fun _ hs c hc => (CData.of_mem_pieces hs c hc).elim hW.encodable hW.basic

theorem emits_putLeaf (payload : Payload) : Emits P (W.putLeaf escaper payload) := by
  cases payload with
  | text data => exact emits_putText he data
  | cdata data => exact emits_putCData hW data
  | comment data =>
      exact (emits_putString hW (by decide)).andThen
        ((emits_putMarkup hW _ _).andThen (emits_putString hW (by decide)))
  | instruction target data =>
      refine (emits_putString hW (by decide)).andThen ((emits_putMarkup hW _ _).andThen ?_)
      by_cases h : (data.getD []).isEmpty = true
      · simp only [if_pos h]
        exact emits_putString hW (by decide)
      · simp only [if_neg h]
        exact (emits_putString hW (by decide)).andThen
          ((emits_putMarkup hW _ _).andThen (emits_putString hW (by decide)))
  | document declaration readOnly => exact emits_pure ()
  | element name cells => exact emits_pure ()
  | doctype d => exact emits_pure ()

theorem emits_putBeside (afterRoot : Bool) (payload : Payload) :
    Emits P (W.putBeside escaper afterRoot payload) := by
  have hleaf : Emits P (do
      W.putLeaf escaper payload
      if !afterRoot then W.putNewline) := by
    refine (emits_putLeaf hW he payload).andThen ?_
    split
    · exact emits_putNewline hW
    · exact emits_pure ()
  rw [putBeside]
  split
  · exact (emits_putNewline hW).andThen hleaf
  · exact hleaf

theorem emits_putAttribute (a : Attribute) : Emits P (W.putAttribute escaper a) :=
  (emits_putString hW (by decide)).andThen ((emits_putMarkup hW _ _).andThen
    ((emits_putString hW (by decide)).andThen ((emits_quote hW _).andThen
      ((emits_put (he _ _)).andThen (emits_quote hW _)))))

theorem emits_putAttributes (attributes : List Attribute) :
    Emits P (W.putAttributes escaper attributes) := by
  induction attributes with
  | nil => exact emits_pure ()
  | cons a attributes ih => exact (emits_putAttribute hW he a).andThen ih

theorem emits_putStartTag (f : Frame) : Emits P (W.putStartTag escaper f) :=
  (emits_putString hW (by decide)).andThen
    ((emits_putMarkup hW _ _).andThen (emits_putAttributes hW he _))

omit hW he in
/-- The name in a start tag that has been written has been looked at. -/
theorem canEncode_of_returns_putStartTag {f : Frame} (h : Returns (W.putStartTag escaper f) ()) :
    ∀ c ∈ f.name.text, W.settings.charset.canEncode c = true := by
  obtain ⟨_, -, h⟩ := h.of_bind
  obtain ⟨_, hname, -⟩ := h.of_bind
  exact canEncode_of_returns hname

omit he in
theorem emits_putIndentAtStart (st : LineState) (depth : Nat) :
    Emits P (W.putIndentAtStart st depth) := by
  rw [putIndentAtStart]
  split
  · exact emits_putIndent hW depth
  · exact emits_pure ()

omit he in
theorem emits_putEmptyEnd {name : Text} (h : ∀ c ∈ name, P c) : Emits P (W.putEmptyEnd name) := by
  rw [putEmptyEnd]
  split
  · exact emits_putString hW (by decide)
  · exact (emits_putString hW (by decide)).andThen
      ((emits_put h).andThen (emits_putString hW (by decide)))

/-! ### Content -/

section Content

variable {putElement : ElementWriter}
  (h : ∀ id depth formatting, Emits P (putElement id depth formatting))
include h

theorem emits_putNode (id : NodeId) (depth : Nat) (formatting : Bool) :
    Emits P (W.putNode escaper putElement id depth formatting) := by
  refine emits_forest.bind fun F _ => ?_
  split
  · exact h id depth formatting
  · exact emits_putLeaf hW he _
  · exact emits_pure ()

theorem emits_putVerbatimParts (parent : NodeId) (expected : Nat) (parts : List Content) :
    Emits P (W.putVerbatimParts escaper putElement parent expected parts) := by
  induction parts with
  | nil => exact emits_checkChildren _ _
  | cons part parts ih =>
      refine (emits_checkChildren _ _).andThen ?_
      cases part with
      | text data => exact (emits_putText he data).andThen ih
      | node id => exact (emits_putNode hW he h id 0 false).andThen ih

theorem emits_putVerbatim (parent : NodeId) :
    Emits P (W.putVerbatim escaper putElement parent) :=
  emits_forest.bind fun _ _ => emits_putVerbatimParts hW he h _ _ _

omit hW he h in
theorem emits_traitsOf (id : NodeId) : Emits P (W.traitsOf id) := by
  refine emits_forest.bind fun F _ => ?_
  split
  · exact emits_ask _ _
  · exact emits_pure _

omit hW he h in
theorem emits_neighbour (part : Option Content) : Emits P (W.neighbour part) := by
  rcases part with _ | ⟨data | id⟩
  · exact emits_pure _
  · exact emits_pure _
  · refine emits_forest.bind fun F _ => ?_
    split
    · exact (emits_traitsOf id).bind fun _ _ => emits_pure _
    · exact emits_pure _

omit hW he h in
theorem emits_neighbourBefore (part : Option Content) : Emits P (W.neighbourBefore part) := by
  refine (emits_neighbour part).bind fun neighbour _ => ?_
  split
  · exact emits_neighbour part
  · exact emits_pure _

omit h in
theorem emits_putFormattedText (parentIsBlock : Bool) (depth : Nat)
    (before after : Option Content) (data : Text) (st : LineState) :
    Emits P (W.putFormattedText escaper parentIsBlock depth before after data st) := by
  refine (emits_neighbourBefore before).bind fun _ _ => (emits_neighbour after).bind fun _ _ => ?_
  dsimp only
  split
  · exact emits_pure st
  · exact (emits_putIndentAtStart hW st depth).andThen
      ((emits_putText he _).andThen (emits_pure _))

omit he in
theorem emits_putFormattedElement (depth : Nat) (id : NodeId) (st : LineState) :
    Emits P (W.putFormattedElement putElement depth id st) := by
  refine (emits_traitsOf id).bind fun traits _ => ?_
  have hline : Emits P (do
      W.putIndent depth
      putElement id depth true
      W.putNewline
      return st.afterLine traits) :=
    (emits_putIndent hW depth).andThen ((h id depth true).andThen
      ((emits_putNewline hW).andThen (emits_pure _)))
  split
  · split
    · exact (emits_putNewline hW).andThen hline
    · exact hline
  · refine (emits_putIndentAtStart hW st depth).andThen ((h id depth true).andThen ?_)
    split
    · exact (emits_putNewline hW).andThen (emits_pure _)
    · exact emits_pure _

theorem emits_putFormattedPart (parentIsBlock : Bool) (depth : Nat)
    (before after : Option Content) (part : Content) (st : LineState) :
    Emits P (W.putFormattedPart escaper putElement parentIsBlock depth before after part st) := by
  cases part with
  | text data => exact emits_putFormattedText hW he parentIsBlock depth before after data st
  | node id =>
      refine emits_forest.bind fun F _ => ?_
      split
      · exact emits_putFormattedElement hW h depth id st
      · exact (emits_putIndentAtStart hW st depth).andThen
          ((emits_putNode hW he h id depth true).andThen (emits_pure _))

theorem emits_putFormattedParts (parent : NodeId) (expected depth : Nat) (traits : Traits)
    (before : Option Content) (st : LineState) (parts : List Content) :
    Emits P (W.putFormattedParts escaper putElement parent expected depth traits before st
      parts) := by
  induction parts generalizing before st with
  | nil => exact (emits_checkChildren _ _).andThen (emits_pure st)
  | cons part parts ih =>
      exact (emits_checkChildren _ _).andThen
        ((emits_putFormattedPart hW he h _ _ _ _ part st).bind fun st _ => ih (some part) st)

theorem emits_putFormatted (parent : NodeId) (depth : Nat) (traits : Traits) :
    Emits P (W.putFormatted escaper putElement parent depth traits) := by
  refine emits_forest.bind fun F _ =>
    (emits_putFormattedParts hW he h _ _ _ _ _ _ _).bind fun st _ => ?_
  split
  · exact emits_putIndent hW depth
  · split
    · exact (emits_putNewline hW).andThen (emits_putIndent hW depth)
    · exact emits_pure ()

theorem emits_putContent (id : NodeId) {name : Text} (hname : ∀ c ∈ name, P c) (depth : Nat)
    (formatting : Bool) : Emits P (W.putContent escaper putElement id name depth formatting) := by
  have hend : Emits P (do
      putString "</"
      put name
      putString ">") :=
    (emits_putString hW (by decide)).andThen
      ((emits_put hname).andThen (emits_putString hW (by decide)))
  refine (emits_putString hW (by decide)).andThen ((emits_traitsOf id).bind fun traits _ => ?_)
  split
  · exact (emits_putFormatted hW he h id depth traits).andThen hend
  · exact (emits_putVerbatim hW he h id).andThen hend

end Content

/-! ### Elements and documents -/

theorem emits_putElementFrom (fuel : Nat) (id : NodeId) (depth : Nat) (formatting : Bool) :
    Emits P (W.putElementFrom escaper fuel id depth formatting) := by
  induction fuel generalizing id depth formatting with
  | zero => exact emits_pure ()
  | succ fuel ih =>
      refine emits_forest.bind fun F _ => ?_
      split
      · exact emits_pure ()
      · rename_i f _
        refine (emits_putStartTag hW he f).bind fun _ htag => ?_
        -- the end tag repeats the name without another look at it
        have hname : ∀ c ∈ f.name.text, P c := fun c hc =>
          hW.encodable (canEncode_of_returns_putStartTag htag c hc)
        split
        · exact emits_putEmptyEnd hW hname
        · exact emits_putContent hW he ih id hname depth formatting

/-- What is written of an element. -/
theorem emits_putElement (id : NodeId) (depth : Nat) (formatting : Bool) :
    Emits P (W.putElement escaper id depth formatting) :=
  emits_forest.bind fun _ _ => emits_putElementFrom hW he _ id depth formatting

theorem emits_putChildren (afterRoot : Bool) (ids : List NodeId) :
    Emits P (W.putChildren escaper afterRoot ids) := by
  induction ids generalizing afterRoot with
  | nil => exact emits_pure afterRoot
  | cons id ids ih =>
      refine emits_forest.bind fun F _ => ?_
      split
      · exact (emits_putElement hW he id 0 _).andThen (ih true)
      · exact (emits_putBeside hW he _ _).andThen (ih afterRoot)
      · exact (emits_putBeside hW he _ _).andThen (ih afterRoot)
      · exact ih afterRoot

end Escaped

omit hW in
theorem emits_putMark (wanted : Bool) : Emits P (putMark wanted) := by
  cases wanted with
  | false => exact emits_pure ()
  | true =>
      refine ⟨fun st hst step hstep => ?_, nofun⟩
      rcases List.mem_cons.1 hstep with rfl | hstep
      · exact fun _ hc => nomatch hc
      · exact hst step hstep

/-- What is written of a document after the mark.  Escaped text may rely on the prolog. -/
theorem emits_body {escaper : Escaper} {declaration : Declaration} {doctype : Option Doctype}
    (hprolog : Emits P (W.putProlog declaration doctype))
    (he : Returns (W.putProlog declaration doctype) () →
      ∀ quote s, ∀ c ∈ escaper.encode quote s, P c) (ids : List NodeId) :
    Emits P (do
      W.putProlog declaration doctype
      if (← W.putChildren escaper false ids) && W.settings.endsWithLine then W.putNewline) := by
  refine hprolog.bind fun _ hp => (emits_putChildren hW (he hp) false ids).bind fun afterRoot _ => ?_
  split
  · exact emits_putNewline hW
  · exact emits_pure ()

end Writer

end XmlScribe
