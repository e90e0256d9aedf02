/-
**Walks that write nothing but texts.**

Most of what a writer does is put together from few steps: it looks at the forest, asks the profile,
writes texts, and gives up when something is wrong.  Such a walk does not look at what has been
written before, so it takes the same way whatever that is; it writes no mark; and apart from a
disturbance nothing happens to the forest.

Main definitions:

* `Walk.IsPlain` — walks of these steps;
* `WalkState.onto` — a state, with older steps before its own.

Main results:

* `Walk.IsPlain.run_onto` — a walk takes the same way whatever has been written before;
* `Walk.IsPlain.invariant` — what questions and texts keep, the walk keeps;
* `Walk.IsPlain.isText_of_mem` — all that it writes are texts;
* `Writer.isPlain_putElement`, `Writer.isPlain_putChildren`, `Writer.isPlain_body` — what
  documents are put together from.
-/

import XmlScribe.Proofs.Writer.Mute

set_option autoImplicit false

namespace XmlScribe

/-- The step writes a text. -/
def Step.IsText (step : Step) : Prop :=
  step.piece ≠ .mark

/-- The state with older steps before those of its own trace. -/
def WalkState.onto (st : WalkState) (older : List Step) : WalkState :=
  { st with trace := st.trace ++ older }

namespace Walk

variable {α β : Type} {walk : Walk α} {next : α → Walk β}

/-- Walks that look at the forest, ask the profile, write texts or give up. -/
inductive IsPlain : {α : Type} → Walk α → Prop
  /-- Nothing is done. -/
  | pure {α : Type} (a : α) : IsPlain (pure a)
  /-- The walk gives up. -/
  | throw {α : Type} (fault : SaveFault) : IsPlain (throw fault : Walk α)
  /-- It looks at the forest. -/
  | forest : IsPlain forest
  /-- It asks the profile. -/
  | ask (profile : Profile) (key : ElementKey) : IsPlain (ask profile key)
  /-- It writes a text. -/
  | put (s : Text) : IsPlain (put s)
  /-- One such walk comes after another. -/
  | bind {α β : Type} {walk : Walk α} {next : α → Walk β} :
      IsPlain walk → (∀ a, IsPlain (next a)) → IsPlain (walk >>= next)

/-- A walk that asks nothing is such a walk. -/
theorem IsMute.isPlain (h : IsMute walk) : IsPlain walk := by
  induction h with
  | pure a => exact .pure a
  | throw _ => exact .throw _
  | forest => exact .forest
  | put s => exact .put s
  | bind _ _ ih ih' => exact ih.bind ih'

theorem IsBlind.isPlain (h : IsBlind walk) : IsPlain walk :=
  h.isMute.isPlain

/-! ### What such walks have in common -/

theorem run_forest (st : WalkState) : forest.run.run st = (.ok st.forest, st) :=
  rfl

theorem afterQuestion_onto (key : ElementKey) (st : WalkState) (older : List Step) :
    afterQuestion key (st.onto older) = (afterQuestion key st).onto older := by
  rw [afterQuestion, afterQuestion, show (st.onto older).disturbance = st.disturbance from rfl,
    show (st.onto older).asked = st.asked from rfl]
  split <;> rfl

/-- The walk takes the same way whatever has been written before. -/
theorem IsPlain.run_onto (h : IsPlain walk) (st : WalkState) (older : List Step) :
    walk.run.run (st.onto older) =
      ((walk.run.run st).1, (walk.run.run st).2.onto older) := by
  induction h generalizing st with
  | pure a => rfl
  | throw fault => rfl
  | forest => rfl
  | ask profile key =>
      change (_, afterQuestion key (st.onto older)) = (_, (afterQuestion key st).onto older)
      rw [afterQuestion_onto]
      rfl
  | put s => rfl
  | @bind α β walk next _ _ ih ih' =>
      rw [Outcome.run_bind, Outcome.run_bind, ih]
      rcases walk.run.run st with ⟨fault | a, st'⟩
      · rfl
      · exact ih' a st'

theorem trace_afterQuestion (key : ElementKey) (st : WalkState) :
    (afterQuestion key st).trace = st.trace := by
  rw [afterQuestion]
  split <;> rfl

theorem isQuiet_afterQuestion (key : ElementKey) {F : Forest} {st : WalkState}
    (hst : st.IsQuiet F) : (afterQuestion key st).IsQuiet F := by
  rw [afterQuestion, hst.disturbance]
  exact ⟨hst.forest, rfl⟩

/-- What questions and texts keep, the walk keeps. -/
theorem IsPlain.invariant (h : IsPlain walk) {I : WalkState → Prop}
    (hask : ∀ key st, I st → I (afterQuestion key st))
    (hput : ∀ s st, I st → I ((Walk.put s).run.run st).2) {st : WalkState} (hst : I st) :
    I (walk.run.run st).2 := by
  induction h generalizing st with
  | pure a => exact hst
  | throw fault => exact hst
  | forest => exact hst
  | ask profile key => exact hask key st hst
  | put s => exact hput s st hst
  | bind _ _ ih ih' => exact Outcome.of_run_bind (ih hst) fun a _ _ hmid => ih' a hmid

/-- All that the walk writes are texts. -/
theorem IsPlain.isText_of_mem (h : IsPlain walk) {st : WalkState}
    (hst : ∀ step ∈ st.trace, step.IsText) : ∀ step ∈ (walk.run.run st).2.trace, step.IsText := by
  refine h.invariant (I := fun st : WalkState => ∀ step ∈ st.trace, step.IsText)
    (fun key st hst => ?_) (fun s st hst step hstep => ?_) hst
  · rwa [trace_afterQuestion]
  · rcases List.mem_cons.1 hstep with rfl | hstep
    · exact Piece.noConfusion
    · exact hst step hstep

/-- Where nothing disturbs it, the walk leaves the forest as it is. -/
theorem IsPlain.isQuiet (h : IsPlain walk) {F : Forest} {st : WalkState} (hst : st.IsQuiet F) :
    (walk.run.run st).2.IsQuiet F :=
  h.invariant (I := (·.IsQuiet F)) (fun key _ => isQuiet_afterQuestion key)
    (fun _ _ hst => ⟨hst.forest, hst.disturbance⟩) hst

theorem IsPlain.isQuiet_of_run (h : IsPlain walk) {F : Forest} {st st' : WalkState}
    (hst : st.IsQuiet F) {outcome : Except SaveFault α}
    (hrun : walk.run.run st = (outcome, st')) : st'.IsQuiet F := by
  have hquiet := h.isQuiet hst
  rwa [hrun] at hquiet

/-! ### Basic walks -/

/-- One walk after another whose outcome does not matter. -/
theorem IsPlain.andThen {first : Walk Unit} {second : Walk β} (h : IsPlain first)
    (h' : IsPlain second) : IsPlain (do first; second) :=
  h.bind fun _ => h'

theorem isPlain_checkChildren (element : NodeId) (expected : Nat) :
    IsPlain (checkChildren element expected) := by
  refine IsPlain.forest.bind fun F => ?_
  by_cases h : (F.children element).length ≠ expected
  · simp only [if_pos h]
    exact .throw _
  · simp only [if_neg h]
    exact .pure ()

end Walk

namespace Writer

open Walk

variable {W : Writer} {escaper : Escaper}

/-! ### Content -/

section Content

variable {putElement : ElementWriter}
  (h : ∀ id depth formatting, IsPlain (putElement id depth formatting))
include h

theorem isPlain_putNode (id : NodeId) (depth : Nat) (formatting : Bool) :
    IsPlain (W.putNode escaper putElement id depth formatting) := by
  refine IsPlain.forest.bind fun F => ?_
  split
  · exact h id depth formatting
  · exact (isBlind_putLeaf _).isPlain
  · exact .pure ()

theorem isPlain_putVerbatimParts (parent : NodeId) (expected : Nat) (parts : List Content) :
    IsPlain (W.putVerbatimParts escaper putElement parent expected parts) := by
  induction parts with
  | nil => exact isPlain_checkChildren _ _
  | cons part parts ih =>
      refine (isPlain_checkChildren _ _).andThen ?_
      cases part with
      | text data => exact (isBlind_putText data).isPlain.andThen ih
      | node id => exact (isPlain_putNode h id 0 false).andThen ih

theorem isPlain_putVerbatim (parent : NodeId) :
    IsPlain (W.putVerbatim escaper putElement parent) :=
  IsPlain.forest.bind fun _ => isPlain_putVerbatimParts h _ _ _

omit h in
theorem isPlain_traitsOf (id : NodeId) : IsPlain (W.traitsOf id) := by
  refine IsPlain.forest.bind fun F => ?_
  split
  · exact .ask _ _
  · exact .pure _

omit h in
theorem isPlain_neighbour (part : Option Content) : IsPlain (W.neighbour part) := by
  rcases part with _ | ⟨data | id⟩
  · exact .pure _
  · exact .pure _
  · refine IsPlain.forest.bind fun F => ?_
    split
    · exact (isPlain_traitsOf id).bind fun _ => .pure _
    · exact .pure _

omit h in
theorem isPlain_neighbourBefore (part : Option Content) : IsPlain (W.neighbourBefore part) := by
  refine (isPlain_neighbour part).bind fun neighbour => ?_
  split
  · exact isPlain_neighbour part
  · exact .pure _

omit h in
theorem isPlain_putFormattedText (parentIsBlock : Bool) (depth : Nat)
    (before after : Option Content) (data : Text) (st : LineState) :
    IsPlain (W.putFormattedText escaper parentIsBlock depth before after data st) := by
  refine (isPlain_neighbourBefore before).bind fun _ => (isPlain_neighbour after).bind fun _ => ?_
  dsimp only
  split
  · exact .pure st
  · exact (isBlind_putIndentAtStart st depth).isPlain.andThen
      ((isBlind_putText _).isPlain.andThen (.pure _))

theorem isPlain_putFormattedElement (depth : Nat) (id : NodeId) (st : LineState) :
    IsPlain (W.putFormattedElement putElement depth id st) := by
  refine (isPlain_traitsOf id).bind fun traits => ?_
  have hline : IsPlain (do
      W.putIndent depth
      putElement id depth true
      W.putNewline
      return st.afterLine traits) :=
    (isBlind_putIndent depth).isPlain.andThen ((h id depth true).andThen
      (isBlind_putNewline.isPlain.andThen (.pure _)))
  split
  · split
    · exact isBlind_putNewline.isPlain.andThen hline
    · exact hline
  · refine (isBlind_putIndentAtStart st depth).isPlain.andThen ((h id depth true).andThen ?_)
    split
    · exact isBlind_putNewline.isPlain.andThen (.pure _)
    · exact .pure _

theorem isPlain_putFormattedPart (parentIsBlock : Bool) (depth : Nat)
    (before after : Option Content) (part : Content) (st : LineState) :
    IsPlain (W.putFormattedPart escaper putElement parentIsBlock depth before after part st) := by
  cases part with
  | text data => exact isPlain_putFormattedText parentIsBlock depth before after data st
  | node id =>
      refine IsPlain.forest.bind fun F => ?_
      split
      · exact isPlain_putFormattedElement h depth id st
      · exact (isBlind_putIndentAtStart st depth).isPlain.andThen
          ((isPlain_putNode h id depth true).andThen (.pure _))

theorem isPlain_putFormattedParts (parent : NodeId) (expected depth : Nat) (traits : Traits)
    (before : Option Content) (st : LineState) (parts : List Content) :
    IsPlain (W.putFormattedParts escaper putElement parent expected depth traits before st
      parts) := by
  induction parts generalizing before st with
  | nil => exact (isPlain_checkChildren _ _).andThen (.pure st)
  | cons part parts ih =>
      exact (isPlain_checkChildren _ _).andThen
        ((isPlain_putFormattedPart h _ _ _ _ part st).bind fun st => ih (some part) st)

theorem isPlain_putFormatted (parent : NodeId) (depth : Nat) (traits : Traits) :
    IsPlain (W.putFormatted escaper putElement parent depth traits) := by
  refine IsPlain.forest.bind fun F =>
    (isPlain_putFormattedParts h _ _ _ _ _ _ _).bind fun st => ?_
  split
  · exact (isBlind_putIndent depth).isPlain
  · split
    · exact isBlind_putNewline.isPlain.andThen (isBlind_putIndent depth).isPlain
    · exact .pure ()

theorem isPlain_putContent (id : NodeId) (name : Text) (depth : Nat) (formatting : Bool) :
    IsPlain (W.putContent escaper putElement id name depth formatting) := by
  have hend : IsPlain (do
      putString "</"
      put name
      putString ">") :=
    (isBlind_putString _).isPlain.andThen ((IsPlain.put _).andThen (isBlind_putString _).isPlain)
  refine (isBlind_putString _).isPlain.andThen ((isPlain_traitsOf id).bind fun traits => ?_)
  split
  · exact (isPlain_putFormatted h id depth traits).andThen hend
  · exact (isPlain_putVerbatim h id).andThen hend

end Content

/-! ### Elements -/

theorem isPlain_putElementFrom (fuel : Nat) (id : NodeId) (depth : Nat) (formatting : Bool) :
    IsPlain (W.putElementFrom escaper fuel id depth formatting) := by
  induction fuel generalizing id depth formatting with
  | zero => exact .pure ()
  | succ fuel ih =>
      refine IsPlain.forest.bind fun F => ?_
      split
      · exact .pure ()
      · refine (isBlind_putStartTag _).isPlain.andThen ?_
        split
        · exact (isBlind_putEmptyEnd _).isPlain
        · exact isPlain_putContent ih id _ depth formatting

/-- Writing an element changes nothing. -/
theorem isPlain_putElement (id : NodeId) (depth : Nat) (formatting : Bool) :
    IsPlain (W.putElement escaper id depth formatting) :=
  IsPlain.forest.bind fun _ => isPlain_putElementFrom _ id depth formatting

/-! ### Documents -/

theorem isPlain_putChildren (afterRoot : Bool) (ids : List NodeId) :
    IsPlain (W.putChildren escaper afterRoot ids) := by
  induction ids generalizing afterRoot with
  | nil => exact .pure afterRoot
  | cons id ids ih =>
      refine IsPlain.forest.bind fun F => ?_
      split
      · exact (isPlain_putElement id 0 _).andThen (ih true)
      · exact (isBlind_putBeside _ _).isPlain.andThen (ih afterRoot)
      · exact (isBlind_putBeside _ _).isPlain.andThen (ih afterRoot)
      · exact ih afterRoot

/-- What comes after the mark. -/
theorem isPlain_body (escaper : Escaper) (declaration : Declaration) (doctype : Option Doctype)
    (ids : List NodeId) :
    IsPlain (do
      W.putProlog declaration doctype
      if (← W.putChildren escaper false ids) && W.settings.endsWithLine then W.putNewline) := by
  refine (isBlind_putProlog _ _).isPlain.andThen ((isPlain_putChildren _ _).bind fun afterRoot => ?_)
  split
  · exact isBlind_putNewline.isPlain
  · exact .pure ()

end Writer

end XmlScribe
