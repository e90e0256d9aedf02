/-
**Faults before anything is written.**

A document type that cannot be written, entities that contradict each other and a tree that refuses
declarations are found out before anything of a document is written: the sink has received nothing
then, and as completion that is refused has changed nothing, the forest is as it was.

An element is written after its mark of byte order, but completed after the mark too.  So where
completion is refused the sink has received the mark already.

Main definitions:

* `Settings.HasValidHeading` — a document type in the settings can be written.

Main results:

* `Settings.hasValidHeading_withHeading` — so it can when it has been set with success;
* `Writer.eq_of_documentWalk`, `Writer.of_elementWalk` — how the walks end at an early fault;
* `Writer.unchanged_of_isEarly_iff` — what becomes of sink and forest.
-/

import XmlScribe.Proofs.Namespace.Refused
import XmlScribe.Proofs.Writer.Bytes
import XmlScribe.Proofs.Writer.Calls
import XmlScribe.Proofs.Writer.Completed
import XmlScribe.Proofs.Writer.Emitted

set_option autoImplicit false

namespace XmlScribe

namespace Settings

/-- A document type in the settings has identifiers that can be written. -/
def HasValidHeading (settings : Settings) : Prop :=
  ∀ heading, settings.heading = some heading →
    Doctype.hasValidIds heading.publicId heading.systemId = true

theorem hasValidHeading_withHeading {settings settings' : Settings} {heading : Heading}
    (h : settings.withHeading heading = .ok settings') : settings'.HasValidHeading := by
  rw [withHeading] at h
  split at h
  · rename_i hids
    obtain rfl := Except.ok.inj h
    rintro other hother
    exact Option.some.inj hother ▸ hids
  · cases h

end Settings

/-- A sink that takes bytes has received them. -/
theorem Sink.eq_of_write {sink sink' : Sink} {bytes : Bytes} (h : sink.write bytes = .ok sink') :
    sink' = { sink with received := sink.received ++ bytes } := by
  rw [write] at h
  split at h
  · rename_i hempty
    rw [List.isEmpty_iff.1 hempty, List.append_nil]
    exact (Except.ok.inj h).symm
  · split at h
    · exact (Except.ok.inj h).symm
    · cases h

namespace Writer

open Walk

variable {W : Writer} {F : Forest} {doc element : NodeId} {st st' : WalkState} {fault : SaveFault}

theorem permits_all (W : Writer) : W.Permits fun _ => True :=
  ⟨fun _ => trivial, fun _ => trivial, fun _ _ => trivial, fun _ _ => trivial⟩

/-! ### Steps of the walks -/

theorem eq_of_checkDoctype {doctype : Option Doctype} {outcome : Except SaveFault Unit}
    (h : (W.checkDoctype doctype).run.run st = (outcome, st')) : st' = st := by
  unfold checkDoctype at h
  split at h
  · split at h <;> exact (Prod.mk.inj h).2.symm
  · exact (Prod.mk.inj h).2.symm

/-- A checked document type has identifiers that can be written. -/
theorem hasValidIds_of_checkDoctype {doctype : Option Doctype} (hs : W.settings.HasValidHeading)
    (h : (W.checkDoctype doctype).run.run st = (.ok (), st')) (heading : Heading)
    (subset : Option Text) (hh : W.headingFor doctype = some (heading, subset)) :
    Doctype.hasValidIds heading.publicId heading.systemId = true := by
  rw [headingFor] at hh
  split at hh
  · rename_i other hother
    obtain ⟨rfl, -⟩ := Prod.mk.inj (Option.some.inj hh)
    exact hs _ hother
  · rename_i hnone
    obtain ⟨d, rfl, hd⟩ := Option.map_eq_some_iff.1 hh
    obtain ⟨rfl, -⟩ := Prod.mk.inj hd
    rw [checkDoctype.eq_def, hnone] at h
    dsimp only at h
    split at h
    · rename_i hids
      exact hids
    · cases h

theorem of_run_escaperFor_error {doctype : Option Doctype}
    (h : (W.escaperFor doctype).run.run st = (.error fault, st')) :
    st' = st ∧ ∀ tree, fault ≠ .tree tree := by
  rw [escaperFor] at h
  split at h
  · cases h
  · rename_i other ht
    obtain ⟨he, rfl⟩ := Prod.mk.inj h
    obtain rfl := Except.error.inj he
    refine ⟨rfl, ?_⟩
    rintro tree rfl
    rw [entityTable] at ht
    generalize EntityTable.build _ _ = built at ht
    cases built <;> cases ht

section Reached

variable (hF : F.Reached doc)
include hF

/-- Completion that fails leaves the walk where it was. -/
theorem of_run_completeFrom_error (ho : F.owner? element = some doc)
    (he : F.isElement element = true) (hst : st.IsQuiet F)
    (h : (W.completeFrom element).run.run st = (.error fault, st')) :
    st' = st ∧ ∃ tree, fault = .tree tree := by
  rw [completeFrom] at h
  split at h
  · generalize htarget : (if W.settings.declareAtTop = true then some element else none) = target at h
    have ht : target = none ∨ target = some element := by
      rw [← htarget]
      split
      · exact Or.inr rfl
      · exact Or.inl rfl
    rw [complete, Outcome.run_bind, run_forest, hst.forest] at h
    dsimp only at h
    rcases hE : F.ensureDeclared element target true with ⟨G, tree | n⟩
    · rw [hE] at h
      obtain ⟨hfault, rfl⟩ := Prod.mk.inj h
      obtain rfl := hF.hasBorder.eq_of_ensureDeclared ho hF.carries_isProper he ht hE
      refine ⟨?_, tree, (Except.error.inj hfault).symm⟩
      rw [← hst.forest]
    · rw [hE] at h
      cases h
  · cases h

/-- A walk through a document that meets an early fault has changed and written nothing. -/
theorem eq_of_documentWalk (hdoc : F.type? doc = some .document) (hs : W.settings.HasValidHeading)
    (hst : st.IsQuiet F) {mark : Bool}
    (h : (W.documentWalk doc mark).run.run st = (.error fault, st')) (hearly : fault.IsEarly) :
    st' = st := by
  obtain ⟨_, _, hforest, h₁⟩ := (Outcome.of_run_bind_error h).resolve_left nofun
  rw [run_forest, hst.forest] at hforest
  cases hforest
  -- the check, the escaper and completion can meet the fault, and none of them writes anything
  rcases Outcome.of_run_bind_error h₁ with h₁ | ⟨⟨⟩, mid, hcheck, h₂⟩
  · exact eq_of_checkDoctype h₁
  obtain rfl := eq_of_checkDoctype hcheck
  rcases Outcome.of_run_bind_error h₂ with h₂ | ⟨escaper, mid', hescaper, h₃⟩
  · exact (of_run_escaperFor_error h₂).1
  obtain ⟨rfl, table, -, rfl⟩ := of_run_escaperFor hescaper
  have hprolog : Emits (fun _ => True) (W.putProlog (F.declaration doc) (F.doctype? doc)) :=
    emits_putProlog (permits_all W) (fun _ _ => trivial) (fun _ _ => trivial)
      (hasValidIds_of_checkDoctype hs hcheck)
  have hescaped : Returns (W.putProlog (F.declaration doc) (F.doctype? doc)) () →
      ∀ quote s, ∀ c ∈ (W.settings.escaper table).encode quote s, True :=
    fun _ _ _ _ _ => trivial
  have hbody := (emits_putMark mark).andThen
    (emits_body (permits_all W) hprolog hescaped (F.children doc))
  cases hr : F.root? doc with
  | none =>
      rw [hr] at h₃
      exact absurd hearly (hbody.fails _ _ _ h₃)
  | some root =>
      rw [hr] at h₃
      rcases Outcome.of_run_bind_error h₃ with h₃ | ⟨⟨⟩, mid, -, h₄⟩
      · have ho : F.owner? root = some doc :=
          (hF.hasBorder.owner_iff_of_mem (List.mem_of_find?_eq_some hr)).2
            (by rw [Forest.home?, if_pos hdoc])
        exact (of_run_completeFrom_error hF ho (List.find?_some hr) hst h₃).1
      · exact absurd hearly (hbody.fails _ _ _ h₄)

/-- A walk through an element that meets an early fault has changed nothing.  If it is completion
that has met it, the mark has been written before, and otherwise nothing has. -/
theorem of_elementWalk (ho : F.owner? element = some doc) (he : F.isElement element = true)
    (hst : st.IsQuiet F) (h : (W.elementWalk element).run.run st = (.error fault, st'))
    (hearly : fault.IsEarly) :
    (st' = st ∧ ∀ tree, fault ≠ .tree tree) ∨
      st' = { st with trace := markSteps W.settings.byteOrderMark F ++ st.trace } ∧
        ∃ tree, fault = .tree tree := by
  obtain ⟨_, _, hforest, h₁⟩ := (Outcome.of_run_bind_error h).resolve_left nofun
  rw [run_forest, hst.forest] at hforest
  cases hforest
  rcases Outcome.of_run_bind_error h₁ with h₁ | ⟨escaper, mid, hescaper, h₂⟩
  · exact Or.inl (of_run_escaperFor_error h₁)
  obtain ⟨rfl, table, -, rfl⟩ := of_run_escaperFor hescaper
  -- the mark is written whatever comes of completion
  obtain ⟨⟨⟩, mid', hmark, h₃⟩ := (Outcome.of_run_bind_error h₂).resolve_left fun hmark => by
    rw [run_putMark] at hmark
    cases hmark
  rw [run_putMark] at hmark
  obtain ⟨-, rfl⟩ := Prod.mk.inj hmark
  rcases Outcome.of_run_bind_error h₃ with h₃ | ⟨⟨⟩, mid', -, h₄⟩
  · have hmarked : ({ mid with
        trace := markSteps W.settings.byteOrderMark mid.forest ++ mid.trace } :
          WalkState).IsQuiet F := ⟨hst.forest, hst.disturbance⟩
    obtain ⟨hst', htree⟩ := of_run_completeFrom_error hF ho he hmarked h₃
    exact Or.inr ⟨by rw [hst', hst.forest], htree⟩
  · have hescaped : ∀ quote s, ∀ c ∈ (W.settings.escaper table).encode quote s, True :=
      fun _ _ _ _ => trivial
    have hbody := emits_putElement (permits_all W) hescaped element 0 W.settings.formatted
    exact absurd hearly (hbody.fails _ _ _ h₄)

end Reached

/-! ### What the sink has received -/

/-- An early fault is one of the walk, and what is in the trace has been delivered. -/
theorem of_save_isEarly {walk : Walk Unit} {sink : Sink}
    (h : (W.save F walk sink).fault = some fault) (hearly : fault.IsEarly) :
    ∃ st b, W.runWalk F walk = (.error fault, st) ∧
      (OutputBuffer.ofSink W.settings.charset sink).deliver st.trace.reverse = (b, none) ∧
      (W.save F walk sink).forest = st.forest ∧ (W.save F walk sink).sink = b.sink := by
  rcases hrun : W.runWalk F walk with ⟨outcome, st⟩
  rcases hdeliver : (OutputBuffer.ofSink W.settings.charset sink).deliver st.trace.reverse with
    ⟨b, _ | ⟨sinkFault, G⟩⟩
  · cases outcome with
    | error other =>
        simp only [save, hrun, hdeliver] at h ⊢
        obtain rfl := Option.some.inj h
        exact ⟨st, b, rfl, hdeliver, rfl, rfl⟩
    | ok _ =>
        simp only [save, hrun, hdeliver] at h
        split at h
        · cases h
        · obtain rfl := Option.some.inj h
          exact hearly.elim
  · simp only [save, hrun, hdeliver] at h
    obtain rfl := Option.some.inj h
    exact hearly.elim

theorem reverse_markSteps (wanted : Bool) (F : Forest) :
    (markSteps wanted F).reverse = markSteps wanted F := by
  cases wanted <;> rfl

/-- A mark that is delivered is received. -/
theorem received_of_deliver_mark {charset : Charset} {sink : Sink} {b : OutputBuffer}
    (wanted : Bool) (h : (OutputBuffer.ofSink charset sink).deliver (markSteps wanted F) = (b, none)) :
    b.sink = { sink with
      received := sink.received ++ if wanted then charset.byteOrderMark else [] } := by
  cases wanted with
  | false =>
      obtain ⟨rfl, -⟩ := Prod.mk.inj h
      simp [OutputBuffer.ofSink]
  | true =>
      rcases hmark : (OutputBuffer.ofSink charset sink).writeMark with sinkFault | c
      · simp [markSteps, OutputBuffer.deliver, OutputBuffer.accept, hmark] at h
      · simp only [markSteps, if_true, OutputBuffer.deliver, OutputBuffer.accept, hmark] at h
        obtain ⟨rfl, -⟩ := Prod.mk.inj h
        obtain ⟨written, hwrite, rfl⟩ := Outcome.map_eq_ok_iff.1 hmark
        exact Sink.eq_of_write hwrite

/-- At an early fault the forest is as it was.  The sink has received nothing, unless an element is
written, which is completed after its mark. -/
theorem unchanged_of_isEarly_iff {settings : Settings} {profile : Profile} (hF : F.Reached doc)
    (hdoc : F.type? doc = some .document) (hs : settings.HasValidHeading) (sink : Sink) :
    (∀ fault, ((quiet settings profile).saveDocument F doc sink).fault = some fault →
      fault.IsEarly →
        ((quiet settings profile).saveDocument F doc sink).forest = F ∧
          ((quiet settings profile).saveDocument F doc sink).sink = sink) ∧
    ∀ element, F.owner? element = some doc → F.isElement element = true →
      ∀ fault, ((quiet settings profile).saveElement F element sink).fault = some fault →
        fault.IsEarly →
          ((quiet settings profile).saveElement F element sink).forest = F ∧
            (((quiet settings profile).saveElement F element sink).sink = sink ↔
              ((∃ tree, fault = .tree tree) → (quiet settings profile).markBytes = [])) := by
  have hquiet : (⟨F, none, 0, []⟩ : WalkState).IsQuiet F := ⟨rfl, rfl⟩
  refine ⟨fun fault hfault hearly => ?_, fun element ho he fault hfault hearly => ?_⟩
  · obtain ⟨st, b, hrun, hdeliver, hforest, hsink⟩ := of_save_isEarly hfault hearly
    -- the trace is empty, so there is nothing to deliver
    obtain rfl := eq_of_documentWalk hF hdoc hs hquiet hrun hearly
    obtain ⟨rfl, -⟩ := Prod.mk.inj hdeliver
    exact ⟨hforest, hsink⟩
  · obtain ⟨st, b, hrun, hdeliver, hforest, hsink⟩ := of_save_isEarly hfault hearly
    rw [saveElement, hforest, hsink]
    rcases of_elementWalk hF ho he hquiet hrun hearly with ⟨rfl, hother⟩ | ⟨rfl, htree⟩
    · obtain ⟨rfl, -⟩ := Prod.mk.inj hdeliver
      exact ⟨rfl, iff_of_true rfl fun h => h.elim fun tree ht => absurd ht (hother tree)⟩
    · -- what has been delivered is the mark, if the character set has one
      rw [List.append_nil, reverse_markSteps] at hdeliver
      refine ⟨rfl, ?_⟩
      rw [received_of_deliver_mark _ hdeliver]
      constructor
      · intro hreceived _
        simpa [markBytes] using congrArg Sink.received hreceived
      · intro hmark
        have hnone := hmark htree
        rw [markBytes] at hnone
        rw [hnone, List.append_nil]

/-- A locked document with an element whose prefix nothing declares. -/
def lockedElement : Forest :=
  Forest.empty.after (([.addDocument, .createElementNs 0 (some ['u']) "p:e".toList,
    .appendChild 0 1, .setReadOnly 0 true] : List Change).map .change)

/-- A writer that writes a mark. -/
def markingWriter : Writer :=
  quiet { Settings.standard with byteOrderMark := true } .everyBlock

theorem unchanged_of_isEarly_lockedElement :
    lockedElement.Reached 0 ∧ lockedElement.type? 0 = some .document ∧
      markingWriter.settings.HasValidHeading ∧
      (markingWriter.saveDocument lockedElement 0 .unlimited).fault = some (.tree .readOnly) ∧
      (markingWriter.saveDocument lockedElement 0 .unlimited).forest = lockedElement ∧
      (markingWriter.saveDocument lockedElement 0 .unlimited).sink = .unlimited ∧
      (markingWriter.saveElement lockedElement 1 .unlimited).fault = some (.tree .readOnly) ∧
      (markingWriter.saveElement lockedElement 1 .unlimited).forest = lockedElement ∧
      ((markingWriter.saveElement lockedElement 1 .unlimited).sink = .unlimited ↔
        ((∃ tree, SaveFault.tree .readOnly = .tree tree) → markingWriter.markBytes = [])) := by
  have hreached : lockedElement.Reached 0 := Forest.Reached.empty.after _
  have hdoc : lockedElement.type? 0 = some .document := by decide +kernel
  have hs : markingWriter.settings.HasValidHeading := nofun
  have hdocument : (markingWriter.saveDocument lockedElement 0 .unlimited).fault =
      some (.tree .readOnly) := by decide +kernel
  have helement : (markingWriter.saveElement lockedElement 1 .unlimited).fault =
      some (.tree .readOnly) := by decide +kernel
  obtain ⟨hd, he⟩ := @unchanged_of_isEarly_iff lockedElement 0 markingWriter.settings .everyBlock
    hreached hdoc hs .unlimited
  obtain ⟨hforest, hsink⟩ := hd _ hdocument trivial
  obtain ⟨hforest', hsink'⟩ :=
    he 1 (by decide +kernel) (by decide +kernel) _ helement trivial
  exact ⟨hreached, hdoc, hs, hdocument, hforest, hsink, helement, hforest', hsink'⟩

/-- Before the element is refused its mark has been written. -/
theorem received_saveElement_lockedElement :
    (markingWriter.saveElement lockedElement 1 .unlimited).fault = some (.tree .readOnly) ∧
      (SaveFault.tree .readOnly).IsEarly ∧
      (markingWriter.saveElement lockedElement 1 .unlimited).sink.received = [0xEF, 0xBB, 0xBF] :=
  ⟨by decide +kernel, trivial, by decide +kernel⟩

end Writer

end XmlScribe
