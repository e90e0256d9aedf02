/-
**A document in bytes and the same document as text.**

A document can be written to a sink or returned as a text.  Both ways take the same walk, but for the
mark of byte order, which only a sink receives.  The mark comes before all text, and nothing in the walk
looks at what has been written; so the walk with a mark takes the way of the walk without, step by step.
What is left is the buffer before the sink, which sends all text that it is given.

Main definitions:

* `Walk.IsSilent` — a walk that writes nothing;
* `Walk.StartsWithMark` — walks that differ in nothing but a mark before everything else.

Main results:

* `Writer.startsWithMark_documentWalk` — the walks that write a document are such walks;
* `Writer.saveDocument_of_documentText` — what the sink receives is the text in bytes.
-/

import XmlScribe.Proofs.Forest.Change
import XmlScribe.Proofs.Output.Buffer
import XmlScribe.Proofs.Writer.Plain

set_option autoImplicit false

namespace XmlScribe

open Writer

namespace Walk

variable {α β : Type} {walk : Walk α}

/-- The walk writes nothing. -/
def IsSilent (walk : Walk α) : Prop :=
  ∀ st, (walk.run.run st).2.trace = st.trace

theorem isSilent_forest : IsSilent forest :=
  fun _ => rfl

/-- What the trace has of a mark. -/
def markSteps (wanted : Bool) (F : Forest) : List Step :=
  if wanted then [⟨.mark, F⟩] else []

theorem run_putMark (wanted : Bool) (st : WalkState) :
    (putMark wanted).run.run st =
      (.ok (), { st with trace := markSteps wanted st.forest ++ st.trace }) := by
  cases wanted <;> rfl

theorem onto_markSteps_false (st : WalkState) (F : Forest) : st.onto (markSteps false F) = st := by
  simp [WalkState.onto, markSteps]

/-- The walks come to the same end and write the same texts, and if a mark has been written it came
before everything else.  A walk that succeeds has written the mark exactly if it was wanted. -/
def StartsWithMark (walk : (mark : Bool) → Walk α) : Prop :=
  ∀ wanted st, st.trace = [] → ∃ outcome last written G,
    (walk false).run.run st = (outcome, last) ∧ (∀ step ∈ last.trace, step.IsText) ∧
    (walk wanted).run.run st = (outcome, last.onto (markSteps written G)) ∧
    ∀ a, outcome = .ok a → written = wanted

/-- The mark, and texts after it. -/
theorem startsWithMark_putMark (h : IsPlain walk) :
    StartsWithMark fun wanted => (do putMark wanted; walk) := by
  intro wanted st hst
  have hmark : ∀ wanted, (putMark wanted >>= fun _ => walk).run.run st =
      walk.run.run (st.onto (markSteps wanted st.forest)) := by
    intro wanted
    rw [Outcome.run_bind, run_putMark, WalkState.onto, hst, List.append_nil]
    rfl
  refine ⟨(walk.run.run st).1, (walk.run.run st).2, wanted, st.forest, ?_, ?_, ?_, fun _ _ => rfl⟩
  · rw [hmark, h.run_onto, onto_markSteps_false]
  · exact h.isText_of_mem (by simp [hst])
  · rw [hmark, h.run_onto]

/-- Before the mark nothing is written. -/
theorem IsSilent.bind_startsWithMark {next : α → (mark : Bool) → Walk β} (h : IsSilent walk)
    (h' : ∀ a, StartsWithMark (next a)) :
    StartsWithMark fun wanted => walk >>= fun a => next a wanted := by
  intro wanted st hst
  have hmid := (h st).trans hst
  simp only [Outcome.run_bind]
  rcases hrun : walk.run.run st with ⟨fault | a, mid⟩ <;> rw [hrun] at hmid
  · exact ⟨.error fault, mid, false, st.forest, rfl, by simp [show mid.trace = [] from hmid],
      by rw [onto_markSteps_false], fun _ h => nomatch h⟩
  · exact h' a wanted mid hmid

end Walk

namespace OutputBuffer

open Walk

/-- A mark is sent before the texts of a trace. -/
theorem Sends.deliver_onto {b : OutputBuffer} {charset : Charset} {sent : Bytes}
    (hc : charset ∈ Charset.own) (h : b.Sends charset sent) (hb : b.pending = [])
    {trace : List Step} (htrace : ∀ step ∈ trace, step.IsText) (wanted : Bool) (G : Forest) :
    ∃ c, b.deliver (trace ++ markSteps wanted G).reverse = (c, none) ∧
      c.Sends charset
        (sent ++ (if wanted then charset.byteOrderMark else []) ++ charset.encode (textOf trace)) := by
  have htexts : ∀ step ∈ trace.reverse, step.piece ≠ .mark :=
    fun step hstep => htrace step (List.mem_reverse.1 hstep)
  rw [List.reverse_append]
  cases wanted with
  | false =>
      obtain ⟨c, hdeliver, hsends⟩ := h.deliver hc htexts
      refine ⟨c, hdeliver, ?_⟩
      rwa [if_neg Bool.false_ne_true, List.append_nil]
  | true =>
      obtain ⟨d, haccept, hd⟩ := h.acceptMark hc hb
      obtain ⟨c, hdeliver, hsends⟩ := hd.deliver hc htexts
      refine ⟨c, ?_, hsends⟩
      change b.deliver (⟨.mark, G⟩ :: trace.reverse) = (c, none)
      rw [OutputBuffer.deliver, haccept]
      exact hdeliver

end OutputBuffer

namespace Writer

open Walk

variable {W : Writer}

/-! ### The walks that write a document -/

theorem isSilent_checkDoctype (doctype : Option Doctype) : IsSilent (W.checkDoctype doctype) := by
  intro st
  unfold checkDoctype
  split
  · split <;> rfl
  · rfl

theorem isSilent_escaperFor (doctype : Option Doctype) : IsSilent (W.escaperFor doctype) := by
  intro st
  unfold escaperFor
  split <;> rfl

/-- Completion changes the forest, but writes nothing. -/
theorem isSilent_completeFrom (element : NodeId) : IsSilent (W.completeFrom element) := by
  intro st
  unfold completeFrom
  split
  · generalize (if W.settings.declareAtTop = true then some element else none) = target
    rw [complete, Outcome.run_bind, run_forest]
    dsimp only
    rcases st.forest.ensureDeclared element target true with ⟨G, fault | n⟩ <;> rfl
  · rfl

theorem startsWithMark_documentWalk (W : Writer) (doc : NodeId) :
    StartsWithMark (W.documentWalk doc) := by
  refine isSilent_forest.bind_startsWithMark fun F => ?_
  refine (isSilent_checkDoctype _).bind_startsWithMark fun _ => ?_
  refine (isSilent_escaperFor _).bind_startsWithMark fun escaper => ?_
  have hbody := isPlain_body (W := W) escaper (F.declaration doc) (F.doctype? doc) (F.children doc)
  split
  · exact (isSilent_completeFrom _).bind_startsWithMark fun _ => startsWithMark_putMark hbody
  · exact startsWithMark_putMark hbody

/-! ### Bytes and text -/

/-- The mark of byte order, if the settings ask for it. -/
def markBytes (W : Writer) : Bytes :=
  if W.settings.byteOrderMark then W.settings.charset.byteOrderMark else []

/-- A sink that never fails receives, after the mark that is asked for, the bytes of the text that
the document comes to.  Where there is no such text, writing to the sink fails for the same
reason. -/
theorem saveDocument_of_documentText (W : Writer) (hc : W.settings.charset ∈ Charset.own)
    {sink : Sink} (hsink : sink.IsUnfailing) (F : Forest) (doc : NodeId) :
    match (W.documentText F doc).2 with
    | .ok s => (W.saveDocument F doc sink).fault = none ∧
        (W.saveDocument F doc sink).sink.received =
          sink.received ++ W.markBytes ++ W.settings.charset.encode s
    | .error fault => (W.saveDocument F doc sink).fault = some fault := by
  obtain ⟨outcome, last, written, G, hbare, htexts, hrun, hwritten⟩ :=
    W.startsWithMark_documentWalk doc W.settings.byteOrderMark ⟨F, W.disturbance, 0, []⟩ rfl
  obtain ⟨b, hdeliver, hb⟩ :=
    (OutputBuffer.sends_ofSink hc hsink).deliver_onto hc rfl htexts written G
  simp only [documentText, runWalk, hbare, saveDocument, save, hrun, WalkState.onto, hdeliver]
  cases outcome with
  | error fault => rfl
  | ok u =>
      obtain ⟨c, total, hflush, hreceived⟩ := hb.flush hc
      rw [hwritten u rfl] at hreceived
      simp only [Except.map, hflush]
      exact ⟨trivial, hreceived⟩

/-- An element with a single character in it. -/
def acuteForest : Forest :=
  .run .empty [.addDocument, .createElement 0 ['a'], .createText 0 ['é'], .appendChild 0 1,
    .appendChild 1 2]

/-- UTF-16 with a mark, and nothing before the document element. -/
def markedSettings : Settings :=
  { Settings.standard with
    charset := .utf16LittleEndian, encodingLabel := "UTF-16LE".toList, byteOrderMark := true
    xmlDeclaration := false }

theorem saveDocument_acuteForest :
    markedSettings.charset ∈ Charset.own ∧ Sink.unlimited.IsUnfailing ∧
      ((quiet markedSettings .everyBlock).documentText acuteForest 0).2 =
        .ok "<a>é</a>\n".toList ∧
      ((quiet markedSettings .everyBlock).saveDocument acuteForest 0 .unlimited).fault = none ∧
      ((quiet markedSettings .everyBlock).saveDocument acuteForest 0 .unlimited).sink.received =
        [0xFF, 0xFE, 0x3C, 0, 0x61, 0, 0x3E, 0, 0xE9, 0, 0x3C, 0, 0x2F, 0, 0x61, 0, 0x3E, 0,
          0x0A, 0] := by
  have hown : markedSettings.charset ∈ Charset.own := Charset.mem_own.2 (.inr (.inl rfl))
  have hsink : Sink.unlimited.IsUnfailing := ⟨rfl, rfl⟩
  have htext : ((quiet markedSettings .everyBlock).documentText acuteForest 0).2 =
      .ok "<a>é</a>\n".toList := by with_unfolding_all rfl
  have hsave := saveDocument_of_documentText (quiet markedSettings .everyBlock) hown hsink
    acuteForest 0
  rw [htext] at hsave
  exact ⟨hown, hsink, htext, hsave.1, hsave.2.trans (by with_unfolding_all rfl)⟩

end Writer

end XmlScribe
