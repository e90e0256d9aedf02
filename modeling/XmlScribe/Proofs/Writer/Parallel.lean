/-
**Two walks side by side.**

Two undisturbed walks through two forests may write the same although the forests are not the same.
They go in step: when both have written the same text so far, they go on to write the same, or both
fail with the same fault.  Content that agrees is written in step, since a writer sees of an element
only its name, its attributes and its content.

Main definitions:

* `WalkState.AreLevel` — two states in which the same text has been written;
* `Walk.Leads` — two walks that write the same, or fail in the same way;
* `Walk.InStep` — two such walks that leave their forests as they are.

Main results:

* `Walk.Leads.bind` — walks one after the other;
* `Walk.IsBlind.inStep` — a walk that looks at nothing is in step with itself;
* `Writer.inStep_putVerbatim`, `Writer.inStep_putFormatted` — content that agrees, as it is and on
  lines;
* `Writer.inStep_putElement`, `Writer.inStep_putChildren` — elements that mirror each other.
-/

import XmlScribe.Proofs.Forest.Counterparts
import XmlScribe.Proofs.Namespace.Mirrored
import XmlScribe.Proofs.Writer.Mute

set_option autoImplicit false

namespace XmlScribe

/-- In the two states the same text has been written, and nothing will disturb the walks through the
two forests. -/
structure WalkState.AreLevel (st st' : WalkState) (F G : Forest) : Prop where
  /-- The one forest. -/
  left : st.IsQuiet F
  /-- The other one. -/
  right : st'.IsQuiet G
  /-- What has been written. -/
  text : Writer.textOf st.trace = Writer.textOf st'.trace

namespace Walk

open Writer

variable {F G F' G' F'' G'' : Forest} {α β γ δ : Type} {P : α → β → Prop} {Q : γ → δ → Prop}

/-- Both walks have come to an end with the same text, or both have failed with the same fault. -/
inductive Ends (F G : Forest) (P : α → β → Prop) :
    Except SaveFault α × WalkState → Except SaveFault β × WalkState → Prop where
  /-- Both have come to an end. -/
  | done {a : α} {b : β} {st st' : WalkState} (h : P a b) (hst : st.AreLevel st' F G) :
      Ends F G P (.ok a, st) (.ok b, st')
  /-- Both have failed. -/
  | failed (fault : SaveFault) (st st' : WalkState) : Ends F G P (.error fault, st) (.error fault, st')

/-- Walks through `F` and `G` that write the same and lead to `F'` and `G'`, or fail in the same
way. -/
def Leads (F G F' G' : Forest) (P : α → β → Prop) (walk : Walk α) (walk' : Walk β) : Prop :=
  ∀ st st', WalkState.AreLevel st st' F G → Ends F' G' P (walk.run.run st) (walk'.run.run st')

/-- Walks that write the same, or fail in the same way, and leave their forests as they are. -/
abbrev InStep (F G : Forest) (P : α → β → Prop) (walk : Walk α) (walk' : Walk β) : Prop :=
  Leads F G F G P walk walk'

/-! ### Walks one after the other -/

theorem Leads.bind {walk : Walk α} {walk' : Walk β} {next : α → Walk γ} {next' : β → Walk δ}
    (h : Leads F G F' G' P walk walk')
    (h' : ∀ {a b}, P a b → Leads F' G' F'' G'' Q (next a) (next' b)) :
    Leads F G F'' G'' Q (walk >>= next) (walk' >>= next') := by
  intro st st' hst
  have hends := h st st' hst
  rw [Outcome.run_bind, Outcome.run_bind]
  generalize walk.run.run st = r at hends
  generalize walk'.run.run st' = r' at hends
  cases hends with
  | done hab hst => exact h' hab _ _ hst
  | failed fault st st' => exact .failed fault st st'

/-- Walks whose outcomes do not matter, one after the other. -/
theorem Leads.andThen {R : Unit → Unit → Prop} {first first' : Walk Unit} {second : Walk γ}
    {second' : Walk δ} (h : Leads F G F' G' R first first')
    (h' : Leads F' G' F'' G'' Q second second') :
    Leads F G F'' G'' Q (do first; second) (do first'; second') :=
  h.bind fun _ => h'

theorem inStep_pure {a : α} {b : β} (h : P a b) : InStep F G P (pure a) (pure b) :=
  fun _ _ hst => .done h hst

/-- Both walks look at their forests. -/
theorem Leads.after_forest {next : Forest → Walk α} {next' : Forest → Walk β}
    (h : Leads F G F' G' P (next F) (next' G)) :
    Leads F G F' G' P (forest >>= next) (forest >>= next') := by
  intro st st' hst
  rw [← hst.left.forest, ← hst.right.forest] at h
  exact h st st' ⟨⟨rfl, hst.left.disturbance⟩, ⟨rfl, hst.right.disturbance⟩, hst.text⟩

/-- Walks that are known to write the same text. -/
theorem inStep_of_writes {walk : Walk α} {walk' : Walk β} {a : α} {b : β} {s : Text}
    (h : Writes F walk True a s) (h' : Writes G walk' True b s) (hab : P a b) :
    InStep F G P walk walk' := by
  intro st st' hst
  obtain ⟨st₁, hrun, hq, ht⟩ := h.succeeds trivial st hst.left
  obtain ⟨st₁', hrun', hq', ht'⟩ := h'.succeeds trivial st' hst.right
  rw [hrun, hrun']
  exact .done hab ⟨hq, hq', by rw [ht, ht', hst.text]⟩

theorem inStep_ask (profile : Profile) (key : ElementKey) :
    InStep F G (· = ·) (ask profile key) (ask profile key) :=
  inStep_of_writes (writes_ask profile key) (writes_ask profile key) rfl

theorem inStep_checkChildren (a b : NodeId) :
    InStep F G (· = ·) (checkChildren a (F.children a).length)
      (checkChildren b (G.children b).length) :=
  inStep_of_writes (writes_checkChildren a) (writes_checkChildren b) rfl

/-- A walk that looks at nothing is in step with itself. -/
theorem IsBlind.inStep {walk : Walk α} (h : IsBlind walk) : InStep F G (· = ·) walk walk := by
  induction h with
  | pure a => exact inStep_pure rfl
  | throw _ => exact fun st st' _ => .failed _ st st'
  | put s => exact inStep_of_writes (writes_put s) (writes_put s) rfl
  | bind _ _ ih ih' =>
      refine ih.bind fun {a b} hab => ?_
      obtain rfl := hab
      exact ih' a

end Walk

namespace Writer

open Walk

variable {W : Writer} {escaper : Escaper} {F G : Forest}

/-! ### Content -/

theorem inStep_traitsOf {a b : NodeId} (h : F.elementName? a = G.elementName? b) :
    InStep F G (· = ·) (W.traitsOf a) (W.traitsOf b) := by
  refine Leads.after_forest ?_
  rw [h]
  cases G.elementName? b with
  | some name => exact inStep_ask W.profile (keyOf name)
  | none => exact inStep_pure rfl

section Content

variable {S : NodeId → NodeId → Prop}
  (hname : ∀ {a b}, S a b → F.elementName? a = G.elementName? b)

section Neighbours

include hname

theorem inStep_neighbour {part part' : Option Content}
    (h : Option.Rel (Content.Agrees F G S) part part') :
    InStep F G (· = ·) (W.neighbour part) (W.neighbour part') := by
  cases h with
  | none => exact inStep_pure rfl
  | some h =>
      cases h with
      | text data => exact inStep_pure rfl
      | element ha hb hs =>
          refine Leads.after_forest ?_
          rw [if_pos ha, if_pos hb]
          refine (inStep_traitsOf (hname hs)).bind ?_
          rintro traits _ rfl
          exact inStep_pure rfl
      | leaf ha hb hne =>
          refine Leads.after_forest ?_
          rw [if_neg (Forest.not_isElement_of_payload? ha hne),
            if_neg (Forest.not_isElement_of_payload? hb hne)]
          exact inStep_pure rfl

theorem inStep_neighbourBefore {part part' : Option Content}
    (h : Option.Rel (Content.Agrees F G S) part part') :
    InStep F G (· = ·) (W.neighbourBefore part) (W.neighbourBefore part') := by
  refine (inStep_neighbour hname h).bind ?_
  rintro neighbour _ rfl
  split
  · exact inStep_neighbour hname h
  · exact inStep_pure rfl

theorem inStep_putFormattedText (parentIsBlock : Bool) (depth : Nat)
    {before before' after after' : Option Content}
    (hbefore : Option.Rel (Content.Agrees F G S) before before')
    (hafter : Option.Rel (Content.Agrees F G S) after after') (data : Text) (st : LineState) :
    InStep F G (· = ·) (W.putFormattedText escaper parentIsBlock depth before after data st)
      (W.putFormattedText escaper parentIsBlock depth before' after' data st) := by
  refine (inStep_neighbourBefore hname hbefore).bind ?_
  rintro first _ rfl
  refine (inStep_neighbour hname hafter).bind ?_
  rintro last _ rfl
  dsimp only
  split
  · exact inStep_pure rfl
  · exact (isBlind_putIndentAtStart st depth).inStep.andThen
      ((isBlind_putText _).inStep.andThen (inStep_pure rfl))

end Neighbours

variable {putElement putElement' : ElementWriter}
  (hput : ∀ a b, S a b → ∀ depth formatting,
    InStep F G (· = ·) (putElement a depth formatting) (putElement' b depth formatting))
include hput

theorem inStep_putNode {a b : NodeId} (h : Content.Agrees F G S (.node a) (.node b)) (depth : Nat)
    (formatting : Bool) :
    InStep F G (· = ·) (W.putNode escaper putElement a depth formatting)
      (W.putNode escaper putElement' b depth formatting) := by
  refine Leads.after_forest ?_
  cases h with
  | element ha hb hs =>
      obtain ⟨name, cells, hp⟩ := Forest.exists_payload_of_isElement ha
      obtain ⟨name', cells', hp'⟩ := Forest.exists_payload_of_isElement hb
      rw [hp, hp']
      exact hput _ _ hs depth formatting
  | @leaf _ _ payload ha hb hne =>
      rw [ha, hb]
      cases payload with
      | element name cells => exact absurd rfl hne
      | _ => exact (isBlind_putLeaf _).inStep

/-! ### Content as it is -/

theorem inStep_putVerbatimParts (parent parent' : NodeId) {parts parts' : List Content}
    (h : List.Forall₂ (Content.Agrees F G S) parts parts') :
    InStep F G (· = ·)
      (W.putVerbatimParts escaper putElement parent (F.children parent).length parts)
      (W.putVerbatimParts escaper putElement' parent' (G.children parent').length parts') := by
  induction h with
  | nil => exact inStep_checkChildren parent parent'
  | @cons part part' parts parts' hpart _ ih =>
      refine (inStep_checkChildren parent parent').andThen ?_
      cases part with
      | text data =>
          cases hpart
          exact (isBlind_putText data).inStep.andThen ih
      | node id =>
          cases part' with
          | text data => cases hpart
          | node id' => exact (inStep_putNode hput hpart 0 false).andThen ih

/-- Content as it is. -/
theorem inStep_putVerbatim {parent parent' : NodeId}
    (h : List.Forall₂ (Content.Agrees F G S) (F.content parent) (G.content parent')) :
    InStep F G (· = ·) (W.putVerbatim escaper putElement parent)
      (W.putVerbatim escaper putElement' parent') :=
  Leads.after_forest (inStep_putVerbatimParts hput parent parent' h)

/-! ### Content on lines -/

include hname

theorem inStep_putFormattedElement (depth : Nat) {a b : NodeId} (hs : S a b) (st : LineState) :
    InStep F G (· = ·) (W.putFormattedElement putElement depth a st)
      (W.putFormattedElement putElement' depth b st) := by
  refine (inStep_traitsOf (hname hs)).bind ?_
  rintro traits _ rfl
  have hline : InStep F G (· = ·)
      (do
        W.putIndent depth
        putElement a depth true
        W.putNewline
        return st.afterLine traits)
      (do
        W.putIndent depth
        putElement' b depth true
        W.putNewline
        return st.afterLine traits) :=
    (isBlind_putIndent depth).inStep.andThen ((hput _ _ hs depth true).andThen
      (isBlind_putNewline.inStep.andThen (inStep_pure rfl)))
  split
  · split
    · exact isBlind_putNewline.inStep.andThen hline
    · exact hline
  · refine (isBlind_putIndentAtStart st depth).inStep.andThen ((hput _ _ hs depth true).andThen ?_)
    split
    · exact isBlind_putNewline.inStep.andThen (inStep_pure rfl)
    · exact inStep_pure rfl

theorem inStep_putFormattedPart (parentIsBlock : Bool) (depth : Nat)
    {before before' after after' : Option Content}
    (hbefore : Option.Rel (Content.Agrees F G S) before before')
    (hafter : Option.Rel (Content.Agrees F G S) after after') {part part' : Content}
    (hpart : Content.Agrees F G S part part') (st : LineState) :
    InStep F G (· = ·)
      (W.putFormattedPart escaper putElement parentIsBlock depth before after part st)
      (W.putFormattedPart escaper putElement' parentIsBlock depth before' after' part' st) := by
  cases hpart with
  | text data => exact inStep_putFormattedText hname parentIsBlock depth hbefore hafter data st
  | element ha hb hs =>
      refine Leads.after_forest ?_
      rw [if_pos ha, if_pos hb]
      exact inStep_putFormattedElement hname hput depth hs st
  | leaf ha hb hne =>
      refine Leads.after_forest ?_
      rw [if_neg (Forest.not_isElement_of_payload? ha hne),
        if_neg (Forest.not_isElement_of_payload? hb hne)]
      exact (isBlind_putIndentAtStart st depth).inStep.andThen
        ((inStep_putNode hput (.leaf ha hb hne) depth true).andThen (inStep_pure rfl))

theorem inStep_putFormattedParts (parent parent' : NodeId) (depth : Nat) (traits : Traits)
    {before before' : Option Content} (hbefore : Option.Rel (Content.Agrees F G S) before before')
    {parts parts' : List Content} (h : List.Forall₂ (Content.Agrees F G S) parts parts')
    (st : LineState) :
    InStep F G (· = ·)
      (W.putFormattedParts escaper putElement parent (F.children parent).length depth traits before
        st parts)
      (W.putFormattedParts escaper putElement' parent' (G.children parent').length depth traits
        before' st parts') := by
  induction h generalizing before before' st with
  | nil => exact (inStep_checkChildren parent parent').andThen (inStep_pure rfl)
  | @cons part part' parts parts' hpart hparts ih =>
      refine (inStep_checkChildren parent parent').andThen ?_
      have hafter : Option.Rel (Content.Agrees F G S) parts.head? parts'.head? := by
        cases hparts with
        | nil => exact .none
        | cons hnext _ => exact .some hnext
      refine (inStep_putFormattedPart hname hput _ _ hbefore hafter hpart st).bind ?_
      rintro st' _ rfl
      exact ih (.some hpart) st'

/-- Content on lines. -/
theorem inStep_putFormatted {parent parent' : NodeId}
    (h : List.Forall₂ (Content.Agrees F G S) (F.content parent) (G.content parent')) (depth : Nat)
    (traits : Traits) :
    InStep F G (· = ·) (W.putFormatted escaper putElement parent depth traits)
      (W.putFormatted escaper putElement' parent' depth traits) := by
  refine Leads.after_forest
    ((inStep_putFormattedParts hname hput parent parent' depth traits .none h .start).bind ?_)
  rintro st _ rfl
  split
  · exact (isBlind_putIndent depth).inStep
  · split
    · exact isBlind_putNewline.inStep.andThen (isBlind_putIndent depth).inStep
    · exact inStep_pure rfl

theorem inStep_putContent {a b : NodeId} (hab : F.elementName? a = G.elementName? b)
    (h : List.Forall₂ (Content.Agrees F G S) (F.content a) (G.content b)) (name : Text)
    (depth : Nat) (formatting : Bool) :
    InStep F G (· = ·) (W.putContent escaper putElement a name depth formatting)
      (W.putContent escaper putElement' b name depth formatting) := by
  have hend : IsBlind (do
      putString "</"
      put name
      putString ">") :=
    (isBlind_putString _).andThen ((IsBlind.put _).andThen (isBlind_putString _))
  refine (isBlind_putString _).inStep.andThen ((inStep_traitsOf hab).bind ?_)
  rintro traits _ rfl
  split
  · exact (inStep_putFormatted hname hput h depth traits).andThen hend.inStep
  · exact (inStep_putVerbatim hput h).andThen hend.inStep

end Content

/-! ### Elements -/

theorem isEmpty_children_eq {a b : NodeId} {R : NodeId → NodeId → Prop}
    (h : List.Forall₂ (Content.Agrees F G R) (F.content a) (G.content b)) :
    (F.children a).isEmpty = (G.children b).isEmpty := by
  have hempty : ∀ (H : Forest) (ids : List NodeId), (H.contentOf ids).isEmpty = ids.isEmpty := by
    intro H ids
    cases ids with
    | nil => rfl
    | cons id ids =>
        rw [Forest.contentOf]
        split
        · rw [Content.consText.eq_def]
          split <;> rfl
        · rfl
  rw [← hempty F, ← hempty G]
  change (F.content a).isEmpty = (G.content b).isEmpty
  generalize F.content a = content at h
  generalize G.content b = content' at h
  cases h <;> rfl

variable {R : NodeId → NodeId → Prop} (h : F.Mirrors G R)
include h

/-- Elements that mirror each other, with fuel for the ways down on both sides. -/
theorem inStep_putElementFrom {a b : NodeId} (hr : R a b) {m n : Nat}
    (hm : F.size < m + (F.elementLineage a).length)
    (hn : G.size < n + (G.elementLineage b).length) (depth : Nat) (formatting : Bool) :
    InStep F G (· = ·) (W.putElementFrom escaper m a depth formatting)
      (W.putElementFrom escaper n b depth formatting) := by
  -- induction on the fuel of the one side; with every step down there is one element more around
  induction m generalizing n a b depth formatting with
  | zero =>
      have hle := h.left.length_elementLineage_le (h.isElement hr)
      omega
  | succ m ih =>
      obtain _ | n := n
      · have hle := h.right.length_elementLineage_le (h.isElement_right hr)
        omega
      · obtain ⟨f, hf⟩ := Forest.exists_frame_of_isElement (h.isElement hr)
        refine Leads.after_forest ?_
        rw [← h.frame?_eq hr, hf]
        refine (isBlind_putStartTag f).inStep.andThen ?_
        rw [isEmpty_children_eq (h.content hr)]
        split
        · exact (isBlind_putEmptyEnd _).inStep
        · have hinside : List.Forall₂ (Content.Agrees F G fun c d => R c d ∧
              F.size < m + (F.elementLineage c).length ∧ G.size < n + (G.elementLineage d).length)
              (F.content a) (G.content b) := by
            refine (h.content_inside hr).imp fun x y hxy => hxy.imp fun c d hcd => ?_
            obtain ⟨hcd, hc, hd⟩ := hcd
            rw [hc, hd, List.length_cons, List.length_cons]
            exact ⟨hcd, by omega, by omega⟩
          exact inStep_putContent (fun hcd => h.elementName?_eq hcd.1)
            (fun c d hcd => ih hcd.1 hcd.2.1 hcd.2.2) (h.elementName?_eq hr) hinside f.name.text
            depth formatting

/-- Elements that mirror each other. -/
theorem inStep_putElement {a b : NodeId} (hr : R a b) (depth : Nat) (formatting : Bool) :
    InStep F G (· = ·) (W.putElement escaper a depth formatting)
      (W.putElement escaper b depth formatting) :=
  Leads.after_forest (inStep_putElementFrom h hr (by omega) (by omega) depth formatting)

/-- The children of documents, where the elements mirror each other. -/
theorem inStep_putChildren {ids ids' : List NodeId}
    (hids : List.Forall₂ (fun a b => Content.Agrees F G R (.node a) (.node b)) ids ids')
    (afterRoot : Bool) :
    InStep F G (· = ·) (W.putChildren escaper afterRoot ids)
      (W.putChildren escaper afterRoot ids') := by
  induction hids generalizing afterRoot with
  | nil => exact inStep_pure rfl
  | cons hab _ ih =>
      refine Leads.after_forest ?_
      cases hab with
      | element ha hb hr =>
          obtain ⟨name, cells, hp⟩ := Forest.exists_payload_of_isElement ha
          obtain ⟨name', cells', hp'⟩ := Forest.exists_payload_of_isElement hb
          rw [hp, hp']
          exact (inStep_putElement h hr 0 W.settings.formatted).andThen (ih true)
      | @leaf _ _ payload ha hb hne =>
          rw [ha, hb]
          cases payload with
          | element name cells => exact absurd rfl hne
          | comment data => exact (isBlind_putBeside _ _).inStep.andThen (ih afterRoot)
          | instruction target data => exact (isBlind_putBeside _ _).inStep.andThen (ih afterRoot)
          | _ => exact ih afterRoot

end Writer

end XmlScribe
