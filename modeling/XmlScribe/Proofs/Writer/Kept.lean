/-
**What writing keeps.**

While a document is written the forest changes in two ways only: declarations are added before, and a
disturbance may strike on the way.  A property of forests that both keep is kept by everything that
a writer does, and the forest has it at every step, so it has it wherever a sink fails.

Main definitions:

* `WalkState.StaysIn` — the forest has a property, and has had it at every step;
* `Walk.Keeps` — a walk keeps a property;
* `Writer.Respects` — so does all that happens while a writer is at work.

Main results:

* `Writer.Respects.keeps_documentWalk`, `Writer.Respects.keeps_elementWalk` — the walks that write
  documents and elements;
* `Writer.Respects.save`, `Writer.Respects.documentText` — and what has become of the forest in the
  end.
-/

import XmlScribe.Proofs.Namespace.Added
import XmlScribe.Proofs.Writer.Unchanged

set_option autoImplicit false

namespace XmlScribe

/-- The forest has the property, it has had it at every step, and what is waiting to disturb the walk
keeps it. -/
structure WalkState.StaysIn (st : WalkState) (I : Forest → Prop) : Prop where
  /-- The forest as it is now. -/
  forest : I st.forest
  /-- The forest at the steps so far. -/
  steps : ∀ step ∈ st.trace, I step.forest
  /-- The disturbance keeps the property. -/
  disturbance : ∀ d, st.disturbance = some d → ∀ F, I F → I (d.change F)

namespace Walk

variable {I : Forest → Prop} {α β : Type}

/-- The walk keeps the property. -/
def Keeps (I : Forest → Prop) (walk : Walk α) : Prop :=
  ∀ st : WalkState, st.StaysIn I → (walk.run.run st).2.StaysIn I

theorem keeps_pure (a : α) : Keeps I (pure a : Walk α) :=
  fun _ hst => hst

theorem Keeps.bind {walk : Walk α} {next : α → Walk β} (h : Keeps I walk)
    (h' : ∀ a, Keeps I (next a)) : Keeps I (walk >>= next) :=
  fun st hst => Outcome.of_run_bind (h st hst) fun a mid _ hmid => h' a mid hmid

theorem keeps_putPiece (piece : Piece) : Keeps I (putPiece piece) := by
  refine fun st hst => ⟨hst.forest, fun step hstep => ?_, hst.disturbance⟩
  rcases List.mem_cons.1 hstep with rfl | hstep
  · exact hst.forest
  · exact hst.steps step hstep

theorem staysIn_afterQuestion (key : ElementKey) {st : WalkState} (hst : st.StaysIn I) :
    (afterQuestion key st).StaysIn I := by
  rw [afterQuestion]
  split
  · rename_i d hd
    obtain ⟨hd, -⟩ := Option.filter_eq_some_iff.1 hd
    exact ⟨hst.disturbance d hd _ hst.forest, hst.steps,
      fun d hd => absurd hd.symm (Option.some_ne_none d)⟩
  · exact ⟨hst.forest, hst.steps, hst.disturbance⟩

/-- Plain walks keep what the disturbance keeps. -/
theorem IsPlain.keeps {walk : Walk α} (h : IsPlain walk) : Keeps I walk :=
  fun _ hst => h.invariant (I := (·.StaysIn I)) (fun key _ => staysIn_afterQuestion key)
    (fun s => keeps_putPiece (.text s)) hst

theorem keeps_putMark (wanted : Bool) : Keeps I (Writer.putMark wanted) := by
  cases wanted with
  | true => exact keeps_putPiece .mark
  | false => exact keeps_pure ()

/-- Completion keeps what declarations keep. -/
theorem keeps_complete
    (hI : ∀ {F G : Forest} {target b}, I F → F.declare target b = .ok G → I G) (element : NodeId)
    (target : Option NodeId) : Keeps I (complete element target) := by
  intro st hst
  have hG : I (st.forest.ensureDeclared element target true).1 :=
    Forest.ensureElements_invariant hI target _ hst.forest
  rw [complete, Outcome.run_bind, run_forest]
  dsimp only
  rcases hE : st.forest.ensureDeclared element target true with ⟨G, fault | n⟩ <;>
    (rw [hE] at hG; exact ⟨hG, hst.steps, hst.disturbance⟩)

end Walk

namespace Writer

open Walk

variable {W : Writer} {I : Forest → Prop}

/-- All that can happen to a forest while the writer is at work keeps the property. -/
structure Respects (W : Writer) (I : Forest → Prop) : Prop where
  /-- Declarations keep it. -/
  declare : ∀ {F G : Forest} {target : NodeId} {b : Binding}, I F → F.declare target b = .ok G → I G
  /-- So does the disturbance. -/
  disturbance : ∀ d, W.disturbance = some d → ∀ F, I F → I (d.change F)

namespace Respects

variable (hW : W.Respects I)
include hW

theorem keeps_completeFrom (element : NodeId) : Keeps I (W.completeFrom element) := by
  rw [completeFrom]
  split
  · exact keeps_complete hW.declare element _
  · exact keeps_pure ()

theorem keeps_documentWalk (doc : NodeId) (mark : Bool) : Keeps I (W.documentWalk doc mark) := by
  refine IsPlain.forest.keeps.bind fun F => ?_
  refine (isBlind_checkDoctype _).isPlain.keeps.bind fun _ => ?_
  refine (isBlind_escaperFor _).isPlain.keeps.bind fun escaper => ?_
  have hrest : Keeps I (putMark mark >>= fun _ => _) := (keeps_putMark mark).bind fun _ =>
    (isPlain_body (W := W) escaper (F.declaration doc) (F.doctype? doc) (F.children doc)).keeps
  split
  · exact (hW.keeps_completeFrom _).bind fun _ => hrest
  · exact hrest

theorem keeps_elementWalk (element : NodeId) : Keeps I (W.elementWalk element) :=
  IsPlain.forest.keeps.bind fun _ => (isBlind_escaperFor _).isPlain.keeps.bind fun _ =>
    (keeps_putMark _).bind fun _ => (hW.keeps_completeFrom element).bind fun _ =>
      (isPlain_putElement _ _ _).keeps

/-- Where a walk begins. -/
theorem staysIn_start {F : Forest} (hF : I F) : (⟨F, W.disturbance, 0, []⟩ : WalkState).StaysIn I :=
  ⟨hF, nofun, hW.disturbance⟩

/-- Whatever the sink makes of a walk, the forest has the property. -/
theorem save {F : Forest} (hF : I F) {walk : Walk Unit} (h : Keeps I walk) (sink : Sink) :
    I (W.save F walk sink).forest := by
  have hst := h _ (hW.staysIn_start hF)
  rw [Writer.save, runWalk]
  rcases hrun : walk.run.run ⟨F, W.disturbance, 0, []⟩ with ⟨outcome, st⟩
  rw [hrun] at hst
  dsimp only
  split
  · rename_i b fault G hdeliver
    obtain ⟨step, hstep, rfl⟩ := OutputBuffer.exists_step_of_deliver hdeliver
    exact hst.steps step (List.mem_reverse.1 hstep)
  · exact hst.forest
  · split <;> exact hst.forest

/-- Writing a document to a sink keeps the property. -/
theorem saveDocument {F : Forest} (hF : I F) (doc : NodeId) (sink : Sink) :
    I (W.saveDocument F doc sink).forest :=
  hW.save hF (hW.keeps_documentWalk doc _) sink

/-- So does writing an element. -/
theorem saveElement {F : Forest} (hF : I F) (element : NodeId) (sink : Sink) :
    I (W.saveElement F element sink).forest :=
  hW.save hF (hW.keeps_elementWalk element) sink

/-- So does writing a document as a text. -/
theorem documentText {F : Forest} (hF : I F) (doc : NodeId) : I (W.documentText F doc).1 :=
  (hW.keeps_documentWalk doc false _ (hW.staysIn_start hF)).forest

end Respects

end Writer

end XmlScribe
