/-
**Elements that grow while they are written.**

A profile may change the tree when it is asked about an element.  If it gives one more child to an
element whose content is being written, the call fails; and if a number of children is reported, then
because of this, and it is the number of children of this element.

Main definitions:

* `SaveFault.of?` — why a call fails, if it does;
* `Walk.ComesTo` — the walk completes the forest before it asks questions;
* `Writer.FindsGrowth` — a call finds out that an element has grown.

Main results:

* `Forest.grows_of_appendChild` — a node that stands alone makes the element grow that it is appended
  to;
* `Walk.ComesTo.findsGrowth` — what comes of a walk whose questions are known;
* `Writer.findsGrowth_document`, `Writer.findsGrowth_element` — documents and elements.
-/

import XmlScribe.Proofs.Writer.Asking
import XmlScribe.Proofs.Writer.Completed

set_option autoImplicit false

namespace XmlScribe

/-! ### Appending -/

namespace Forest

variable {F H : Forest} {doc target child : NodeId} {payload : Payload}

/-- A node without a parent makes the element grow that it is appended to. -/
theorem grows_of_appendChild (hnone : F.parent? child = none)
    (h : F.appendChild target child = .ok H) : F.Grows H target := by
  have hne : (none : Option NodeId) ≠ some child := nofun
  obtain ⟨hcontainer, -, -, D, hD, -, rfl⟩ := (insertBefore_eq_ok_iff hne).1 h
  rw [detach, hnone] at hD
  obtain rfl : F = D := Except.ok.inj hD
  have hsize : target < F.size := by
    rcases type?_of_isContainer hcontainer with ht | ht <;> exact lt_size_of_type? ht
  refine ⟨⟨child, ?_⟩, fun id hne => ?_⟩
  · rw [children_setParent, children_setChildren hsize, if_pos rfl]
    rfl
  · rw [children_setParent, children_setChildren hsize, if_neg hne]

/-- A new node has no children and is no child. -/
theorem children_create (id : NodeId) : (F.create doc payload).1.children id = F.children id := by
  rw [children, create, get?_add, children]
  split
  · rename_i hid
    rw [hid, get?_size]
    rfl
  · rfl

/-- So does a new node. -/
theorem grows_of_create
    (h : (F.create doc payload).1.appendChild target (F.create doc payload).2 = .ok H) :
    F.Grows H target := by
  have hnone : (F.create doc payload).1.parent? (F.create doc payload).2 = none := by
    rw [parent?, create, get?_add]
    simp [add, size]
  have hgrows := grows_of_appendChild hnone h
  refine ⟨?_, fun id hne => ?_⟩
  · obtain ⟨c, hc⟩ := hgrows.exists_child
    exact ⟨c, by rw [hc, children_create]⟩
  · rw [hgrows.children_eq id hne, children_create]

end Forest

/-! ### Outcomes -/

/-- Why something fails, if it does. -/
def SaveFault.of? {α : Type} : Except SaveFault α → Option SaveFault
  | .ok _ => none
  | .error fault => some fault

/-- A call finds out that an element has grown.  It writes a forest that completion makes, and asks
questions meanwhile, one of which may set off the growth. -/
structure Writer.FindsGrowth (d : Disturbance) (target : NodeId) (completes : Forest → Prop)
    (questions : Forest → List Question) (fault : Option SaveFault) : Prop where
  /-- If the content of the element is being written at this question, the call fails. -/
  fails : ∀ G q, completes G → d.strike? 0 (questions G) = some q → target ∈ q.opened →
    fault ≠ none
  /-- A number of children is reported only then.  It is one more than there were. -/
  reports : ∀ expected found, fault = some (.childrenChanged expected found) →
    ∃ G q, completes G ∧ d.strike? 0 (questions G) = some q ∧ target ∈ q.opened ∧
      expected = (G.children target).length ∧ found = expected + 1

namespace Walk

variable {F : Forest} {target : NodeId} {α : Type} {walk : Walk α} {completes : Forest → Prop}
  {questions : Forest → List Question}

/-- The walk completes the forest, and asks these questions after that, unless it fails before for
another reason than children. -/
def ComesTo (F : Forest) (target : NodeId) {α : Type} (walk : Walk α) (completes : Forest → Prop)
    (questions : Forest → List Question) : Prop :=
  ∀ st : WalkState, st.forest = F →
    (∃ fault st', fault.IsOther ∧ walk.run.run st = (.error fault, st')) ∨
      ∃ (G : Forest) (rest : Walk α) (st' : WalkState), completes G ∧
        Asks G target rest (fun _ => True) (questions G) ∧ st'.forest = G ∧
        st'.disturbance = st.disturbance ∧ st'.asked = st.asked ∧
        walk.run.run st = rest.run.run st'

theorem Asks.comesTo (h : Asks F target walk (fun _ => True) (questions F)) (hF : completes F) :
    ComesTo F target walk completes questions := fun st hst =>
  Or.inr ⟨F, walk, st, hF, h, hst, rfl, rfl, rfl⟩

theorem ComesTo.after_forest {next : Forest → Walk α}
    (h : ComesTo F target (next F) completes questions) :
    ComesTo F target (forest >>= next) completes questions := by
  intro st hst
  rw [Outcome.run_bind, run_forest, hst]
  exact h st hst

/-- A walk that asks nothing, before one that completes the forest. -/
theorem ComesTo.after {β : Type} {first : Walk β} {next : β → Walk α}
    (hfirst : Asks F target first (fun _ => True) [])
    (h : ∀ b, ComesTo F target (next b) completes questions) :
    ComesTo F target (first >>= next) completes questions := by
  intro st hst
  have hgoes := hfirst.undisturbed st hst fun _ _ => rfl
  rw [Outcome.run_bind]
  rcases hrun : first.run.run st with ⟨fault | b, st₁⟩
  · rw [hrun] at hgoes
    exact Or.inl ⟨fault, st₁, hgoes, rfl⟩
  · rw [hrun] at hgoes
    obtain ⟨-, hf, hd, hasked⟩ := hgoes
    rcases h b st₁ hf with hfails | ⟨G, rest, st₂, hG, hrest, hforest, hd₂, hasked₂, hrun₂⟩
    · exact Or.inl hfails
    · exact Or.inr ⟨G, rest, st₂, hG, hrest, hforest, hd₂.trans hd, hasked₂.trans hasked, hrun₂⟩

/-- The outcome of a walk, while a disturbance waits for a question. -/
theorem ComesTo.findsGrowth {W : Writer} {d : Disturbance} {walk : Walk Unit}
    (h : ComesTo F target walk completes questions)
    (hunique : ∀ G H, completes G → completes H → G = H)
    (hgrows : ∀ G, completes G → G.Grows (d.change G) target) (hd : W.disturbance = some d) :
    Writer.FindsGrowth d target completes questions (SaveFault.of? (W.runWalk F walk).1) := by
  rw [Writer.runWalk, hd]
  rcases h ⟨F, some d, 0, []⟩ rfl with
    ⟨fault, st, hother, hrun⟩ | ⟨G, rest, st, hG, hasks, hst, hd', hasked, hrun⟩
  · rw [hrun]
    exact ⟨fun _ _ _ _ _ => Option.some_ne_none _, fun expected found hfault =>
      absurd (Option.some.inj hfault) (hother expected found)⟩
  · rw [hrun]
    have hstrike : ∀ H, completes H → d.strike? 0 (questions H) = d.strike? 0 (questions G) :=
      fun H hH => by rw [hunique H G hH hG]
    cases hq : d.strike? 0 (questions G) with
    | none =>
        -- the questions do not set off the disturbance, so nothing grows
        have hgoes := hasks.undisturbed st hst fun d' hst' => by
          obtain rfl := Option.some.inj (hd'.symm.trans hst')
          rwa [hasked]
        refine ⟨fun H q hH hqH => ?_, fun expected found hfault => ?_⟩
        · rw [hstrike H hH, hq] at hqH
          cases hqH
        · rcases hend : rest.run.run st with ⟨fault | a, st'⟩
          · rw [hend] at hgoes hfault
            exact absurd (Option.some.inj hfault) (hgoes expected found)
          · rw [hend] at hfault
            cases hfault
    | some q =>
        -- the target grows at `q`; the walk succeeds only if its content was not being written
        have hsuffers := hasks.disturbed st d q hst hd' (by rwa [hasked]) (hgrows G hG)
        rcases hend : rest.run.run st with ⟨fault | a, st'⟩
        · rw [hend] at hsuffers
          refine ⟨fun _ _ _ _ _ => Option.some_ne_none _, fun expected found hfault => ?_⟩
          obtain rfl := Option.some.inj hfault
          rcases hsuffers with hother | ⟨hopened, heq⟩
          · exact absurd rfl (hother expected found)
          · cases heq
            exact ⟨G, q, hG, hq, hopened, rfl, rfl⟩
        · rw [hend] at hsuffers
          refine ⟨fun H p hH hp hopened => ?_, fun _ _ => (Option.some_ne_none _).symm.elim⟩
          rw [hstrike H hH, hq] at hp
          obtain rfl := Option.some.inj hp
          exact absurd hopened hsuffers.1

end Walk

namespace Writer

open Forest Walk

variable {W : Writer} {escaper : Escaper} {F : Forest} {id element target : NodeId}

/-! ### Sinks -/

/-- If a number of children is reported, then it is by the walk. -/
theorem of_save_childrenChanged {walk : Walk Unit} {sink : Sink} {expected found : Nat}
    (h : (W.save F walk sink).fault = some (.childrenChanged expected found)) :
    (W.runWalk F walk).1 = .error (.childrenChanged expected found) := by
  rcases hrun : W.runWalk F walk with ⟨fault | ⟨⟩, st⟩
  · rw [save, hrun] at h
    dsimp only at h
    split at h <;> simp_all
  · rw [save, hrun] at h
    dsimp only at h
    split at h
    · simp_all
    · simp_all
    · split at h <;> simp_all

/-- With a sink, growth is found out as it is without. -/
theorem FindsGrowth.save {d : Disturbance} {completes : Forest → Prop}
    {questions : Forest → List Question} {walk : Walk Unit}
    (h : FindsGrowth d target completes questions (SaveFault.of? (W.runWalk F walk).1))
    (sink : Sink) : FindsGrowth d target completes questions (W.save F walk sink).fault := by
  refine ⟨fun G q hG hq hopened hfault => ?_, fun expected found hfault => ?_⟩
  · obtain ⟨st, hrun, -⟩ := forest_save hfault
    exact h.fails G q hG hq hopened (by rw [hrun]; rfl)
  · exact h.reports expected found (by rw [of_save_childrenChanged hfault]; rfl)

/-! ### Completion -/

/-- Completion of an element, where it is wanted, succeeds and makes the forest `G`. -/
def CompletesFrom (W : Writer) (F : Forest) (element : NodeId) (G : Forest) : Prop :=
  if W.settings.completeNamespaces then
    ∃ n, F.ensureDeclared element (if W.settings.declareAtTop then some element else none) true =
      (G, .ok n)
  else G = F

/-- Completion makes one forest. -/
theorem CompletesFrom.unique {G H : Forest} (h : W.CompletesFrom F element G)
    (h' : W.CompletesFrom F element H) : G = H := by
  rw [CompletesFrom] at h h'
  split at h
  · rename_i hc
    rw [if_pos hc] at h'
    obtain ⟨m, hm⟩ := h
    obtain ⟨n, hn⟩ := h'
    exact (Prod.mk.inj (hm.symm.trans hn)).1
  · rename_i hc
    rw [if_neg hc] at h'
    exact h.trans h'.symm

/-- What comes after completion is done in the forest that completion has made. -/
theorem comesTo_completeFrom {questions : Forest → List Question} {next : Unit → Walk Unit}
    (h : ∀ G, Asks G target (next ()) (fun _ => True) (questions G)) :
    ComesTo F target (W.completeFrom element >>= next) (W.CompletesFrom F element) questions := by
  intro st hst
  rw [Outcome.run_bind, completeFrom]
  by_cases hc : W.settings.completeNamespaces = true
  · rw [if_pos hc, complete, Outcome.run_bind, run_forest, hst]
    rcases hE : F.ensureDeclared element (if W.settings.declareAtTop then some element else none)
      true with ⟨G, fault | n⟩
    · exact Or.inl ⟨.tree fault, { st with forest := G }, fun _ _ => SaveFault.noConfusion,
        by simp only [hE]; rfl⟩
    · refine Or.inr ⟨G, next (), { st with forest := G }, ?_, h G, rfl, rfl, rfl, ?_⟩
      · rw [CompletesFrom, if_pos hc]
        exact ⟨n, hE⟩
      · simp only [hE]
        rfl
  · rw [if_neg hc]
    exact Or.inr ⟨F, next (), st, by rw [CompletesFrom, if_neg hc], h F, hst, rfl, rfl, rfl⟩

/-! ### Documents and elements -/

theorem asks_putMark (wanted : Bool) :
    Asks F target (putMark wanted) (fun _ => True) [] := by
  rw [putMark]
  split
  · exact asks_putPiece .mark
  · exact (IsMute.pure ()).asks

theorem asks_body (mark : Bool) (declaration : Declaration) (doctype : Option Doctype)
    (ids : List NodeId) :
    Asks F target (do
      putMark mark
      W.putProlog declaration doctype
      if (← W.putChildren escaper false ids) && W.settings.endsWithLine then W.putNewline)
      (fun _ => True) (W.questions F ids) := by
  have hend : ∀ afterRoot : Bool,
      IsMute (if afterRoot && W.settings.endsWithLine then W.putNewline else pure ()) := by
    intro afterRoot
    split
    · exact isBlind_putNewline.isMute
    · exact .pure ()
  refine (asks_putMark mark).bind_mute fun _ _ =>
    (isBlind_putProlog declaration doctype).isMute.asks.bind_mute fun _ _ => ?_
  exact (asks_putChildren false ids).andThen_mute hend

/-- A document is completed before its children are written. -/
theorem comesTo_documentWalk (mark : Bool) :
    ComesTo F target (W.documentWalk id mark) (W.CompletesTo F id)
      fun G => W.questions G (F.children id) := by
  refine ComesTo.after_forest (ComesTo.after (isBlind_checkDoctype _).isMute.asks fun _ =>
    ComesTo.after (isBlind_escaperFor _).isMute.asks fun escaper => ?_)
  cases hr : F.root? id with
  | none => exact (asks_body mark _ _ _).comesTo (by rw [CompletesTo, hr])
  | some root =>
      have hcompletes : W.CompletesTo F id = W.CompletesFrom F root :=
        funext fun G => by rw [CompletesTo, hr, CompletesFrom]
      rw [hcompletes]
      exact comesTo_completeFrom fun G => asks_body mark _ _ _

/-- An element is completed before it is written. -/
theorem comesTo_elementWalk :
    ComesTo F target (W.elementWalk element) (W.CompletesFrom F element)
      fun G => W.elementQuestions G (G.size + 1) element W.settings.formatted := by
  refine ComesTo.after_forest (ComesTo.after (isBlind_escaperFor _).isMute.asks fun escaper =>
    ComesTo.after (asks_putMark _) fun _ => comesTo_completeFrom fun G => ?_)
  exact asks_putElement G element 0 _

section Disturbed

variable {d : Disturbance} (hd : W.disturbance = some d)
include hd

/-- That an element gets one more child while its content is written is found out, whatever question
sets it off and whatever the element is.  The disturbance makes `target` grow in the forest that is
written. -/
theorem findsGrowth_document
    (hgrows : ∀ G, W.CompletesTo F id G → G.Grows (d.change G) target) :
    FindsGrowth d target (W.CompletesTo F id) (fun G => W.questions G (F.children id))
        (SaveFault.of? (W.documentText F id).2) ∧
      ∀ sink, FindsGrowth d target (W.CompletesTo F id)
        (fun G => W.questions G (F.children id)) (W.saveDocument F id sink).fault := by
  have hfinds : ∀ mark, FindsGrowth d target (W.CompletesTo F id)
      (fun G => W.questions G (F.children id))
      (SaveFault.of? (W.runWalk F (W.documentWalk id mark)).1) := fun mark =>
    (comesTo_documentWalk mark).findsGrowth (fun _ _ h h' => h.unique h') hgrows hd
  refine ⟨?_, fun sink => (hfinds _).save sink⟩
  have htext : SaveFault.of? (W.documentText F id).2 =
      SaveFault.of? (W.runWalk F (W.documentWalk id false)).1 := by
    rw [documentText]
    rcases W.runWalk F (W.documentWalk id false) with ⟨fault | ⟨⟩, st⟩ <;> rfl
  rw [htext]
  exact hfinds false

/-- The same for an element that is written on its own. -/
theorem findsGrowth_element
    (hgrows : ∀ G, W.CompletesFrom F element G → G.Grows (d.change G) target) (sink : Sink) :
    FindsGrowth d target (W.CompletesFrom F element)
      (fun G => W.elementQuestions G (G.size + 1) element W.settings.formatted)
      (W.saveElement F element sink).fault :=
  (comesTo_elementWalk.findsGrowth (fun _ _ h h' => h.unique h') hgrows hd).save sink

end Disturbed

/-! ### A comment that comes late -/

/-- A document with an element in another one. -/
def nestedForest : Forest :=
  (Forest.empty.plant ⟨.none, [.element (QName.plain ['a']) []
    [.element (QName.plain ['b']) [] []]]⟩).1

/-- When the profile is asked about the inner element, a comment is appended to the outer one. -/
def lateComment : Disturbance where
  trigger _ key := key.localName == ['b']
  change F :=
    match (F.createComment 0 ['c']).1.appendChild 1 (F.createComment 0 ['c']).2 with
    | .ok H => H
    | .error _ => F

/-- A writer that lays out content on lines and is disturbed by this comment. -/
def lateWriter : Writer :=
  ⟨{ Settings.standard with formatted := true }, .everyBlock, some lateComment⟩

theorem findsGrowth_lateComment :
    lateWriter.disturbance = some lateComment ∧
      (∀ G, lateWriter.CompletesTo nestedForest 0 G → G.Grows (lateComment.change G) 1) ∧
      lateComment.strike? 0 (lateWriter.questions nestedForest (nestedForest.children 0)) =
        some ⟨⟨none, ['b']⟩, [1]⟩ ∧
      (∀ s, (lateWriter.documentText nestedForest 0).2 ≠ .ok s) ∧
      ∀ sink, (lateWriter.saveDocument nestedForest 0 sink).fault ≠ none := by
  have hcompletes : lateWriter.CompletesTo nestedForest 0 nestedForest := ⟨0, by decide +kernel⟩
  have hgrows : ∀ G, lateWriter.CompletesTo nestedForest 0 G →
      G.Grows (lateComment.change G) 1 := by
    intro G hG
    obtain rfl := hcompletes.unique hG
    have happends : (nestedForest.create 0 (.comment ['c'])).1.appendChild 1
        (nestedForest.create 0 (.comment ['c'])).2 = .ok (lateComment.change nestedForest) := by
      decide +kernel
    exact grows_of_create happends
  have hstrike : lateComment.strike? 0
      (lateWriter.questions nestedForest (nestedForest.children 0)) =
        some ⟨⟨none, ['b']⟩, [1]⟩ := by
    decide +kernel
  obtain ⟨htext, hsave⟩ := findsGrowth_document rfl hgrows
  refine ⟨rfl, hgrows, hstrike, fun s hs => ?_, fun sink =>
    (hsave sink).fails nestedForest _ hcompletes hstrike List.mem_cons_self⟩
  exact htext.fails nestedForest _ hcompletes hstrike List.mem_cons_self (by rw [hs]; rfl)

end Writer

end XmlScribe
