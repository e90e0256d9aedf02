/-
**What is asked while a document is written.**

The questions that the profile is asked follow from the forest alone, as long as nothing disturbs the
writer.  They are listed here part by part, as the parts are written.  Those that are asked between
the time when the children of an element are listed and the time when they are counted for the last
time are asked inside that element.

Main definitions:

* `Writer.questionsAbout`, `Writer.questionsBeside` — the questions about an element, and about what
  stands beside a text;
* `Writer.verbatimQuestions`, `Writer.formattedQuestions` — those while the parts of a content are
  written;
* `Writer.elementQuestions`, `Writer.questions` — those while an element, while the children of a
  document are written.

Main results:

* `Writer.asks_putVerbatimParts`, `Writer.asks_putFormattedParts` — growth of the element whose parts
  are written is found out after the part;
* `Writer.asks_putElementFrom`, `Writer.asks_putChildren` — elements and documents.
-/

import XmlScribe.Proofs.Writer.Questions

set_option autoImplicit false

namespace XmlScribe

namespace Walk

variable {F : Forest} {target : NodeId} {α : Type} {walk : Walk α}

/-! ### Basic walks -/

theorem asks_pure (a : α) : Asks F target (pure a) (· = a) [] :=
  ⟨fun _ hf _ => ⟨rfl, hf, rfl, rfl⟩, fun _ _ _ _ _ hq _ => by cases hq⟩

theorem asks_forest : Asks F target forest (· = F) [] :=
  ⟨fun _ hf _ => ⟨hf, hf, rfl, rfl⟩, fun _ _ _ _ _ hq _ => by cases hq⟩

theorem asks_putPiece (piece : Piece) : Asks F target (putPiece piece) (fun _ => True) [] :=
  ⟨fun _ hf _ => ⟨trivial, hf, rfl, rfl⟩, fun _ _ _ _ _ hq _ => by cases hq⟩

/-- A walk that asks nothing. -/
theorem IsMute.asks (h : IsMute walk) : Asks F target walk (fun _ => True) [] := by
  induction h with
  | pure a => exact (asks_pure a).mono fun _ _ => trivial
  | throw hfault => exact ⟨fun _ _ _ => hfault, fun _ _ _ _ _ hq _ => by cases hq⟩
  | forest => exact asks_forest.mono fun _ _ => trivial
  | put s => exact asks_putPiece (.text s)
  | bind _ _ ih ih' => exact ih.bind_mute fun a _ => ih' a

theorem IsMute.settles (h : IsMute walk) : Settles F walk :=
  have hasks : Asks F 0 walk (fun _ => True) [] := h.asks
  hasks.settles

section Bind

variable {β : Type} {next : α → Walk β} {Gives : α → Prop} {Gives' : β → Prop}
  {questions : List Question}

/-- A walk before one that asks nothing. -/
theorem Asks.andThen_mute (h : Asks F target walk Gives questions)
    (hnext : ∀ a, IsMute (next a)) : Asks F target (walk >>= next) (fun _ => True) questions := by
  rw [← List.append_nil questions]
  exact h.bind (fun a _ => (hnext a).asks) fun _ _ a => (hnext a).settles

/-- A walk before one whose questions are known on every forest. -/
theorem Asks.andThen {more : Forest → List Question} (h : Asks F target walk Gives questions)
    (hnext : ∀ G a, Asks G target (next a) Gives' (more G)) :
    Asks F target (walk >>= next) Gives' (questions ++ more F) :=
  h.bind (fun a _ => hnext F a) fun G _ a => (hnext G a).settles

end Bind

/-- A question, during which nothing is being written. -/
theorem asks_ask (profile : Profile) (key : ElementKey) :
    Asks F target (ask profile key)
      (· = ⟨profile.isBlock key, profile.isBreak key, profile.isFlush key,
        profile.isPreserved key⟩) [⟨key, []⟩] := by
  have hrun : ∀ st : WalkState, (ask profile key).run.run st =
      (.ok ⟨profile.isBlock key, profile.isBreak key, profile.isFlush key,
        profile.isPreserved key⟩, afterQuestion key st) := fun _ => rfl
  refine ⟨fun st hf hd => ?_, fun st d q hf hd hq _ => ?_⟩
  · -- whatever is waiting waits for another question
    have hnone : st.disturbance.filter (·.trigger st.asked key) = none := by
      rw [Option.filter_eq_none_iff]
      intro d hd'
      have hstrike := hd d hd'
      rw [Disturbance.strike?] at hstrike
      split at hstrike
      · cases hstrike
      · assumption
    rw [hrun, afterQuestion, hnone]
    exact ⟨rfl, hf, rfl, rfl⟩
  · rw [Disturbance.strike?] at hq
    split at hq
    · rename_i htrigger
      obtain rfl := Option.some.inj hq
      have hsome : st.disturbance.filter (·.trigger st.asked key) = some d := by
        rw [hd]
        exact if_pos htrigger
      rw [hrun, afterQuestion, hsome, hf]
      exact ⟨List.not_mem_nil, rfl, rfl⟩
    · cases hq

/-! ### Counting children -/

theorem asks_checkChildren {parent : NodeId} {expected : Nat}
    (h : (F.children parent).length = expected) :
    Asks F target (checkChildren parent expected) (fun _ => True) [] := by
  refine asks_forest.bind_mute fun G hG => ?_
  subst hG
  rw [if_neg (by simp [h])]
  exact (IsMute.pure ()).asks

theorem run_checkChildren_of_ne {parent : NodeId} {expected : Nat} {st : WalkState}
    (hst : st.forest = F) (h : (F.children parent).length ≠ expected) :
    (checkChildren parent expected).run.run st =
      (.error (.childrenChanged expected (F.children parent).length), st) := by
  rw [checkChildren, Outcome.run_bind, run_forest, hst]
  simp only [if_pos h]
  rfl

/-- The rest of a content, after an element has grown while a part of it was written: if it is the
element whose content it is, its children are counted, and otherwise the rest is written. -/
theorem suffers_inside {H : Forest} {parent : NodeId} {expected : Nat} {rest : Walk α}
    (hlength : (F.children parent).length = expected)
    (hsettles : (H.children parent).length = expected → Settles H rest)
    (hfails : ∀ st : WalkState, st.forest = H → (H.children parent).length ≠ expected →
      rest.run.run st = (.error (.childrenChanged expected (H.children parent).length), st))
    (hgrows : F.Grows H target) {q : Question} (hq : target ∉ q.opened) {st : WalkState}
    (hst : st.IsQuiet H) : Suffers F H target (q.inside parent) (rest.run.run st) := by
  by_cases hparent : parent = target
  · -- its children are counted, and there is one more than when they were listed
    subst hparent
    have hmore := hgrows.length_target
    rw [hfails st hst.forest (by omega)]
    exact Or.inr ⟨List.mem_cons_self, by rw [hmore, hlength]⟩
  · -- the children counted here are those of another element
    refine (hsettles ?_).suffers ?_ hst
    · rw [hgrows.children_eq parent hparent, hlength]
    · intro hmem
      rcases List.mem_cons.1 hmem with heq | hmem
      · exact hparent heq.symm
      · exact hq hmem

end Walk

namespace Writer

open Walk

/-! ### The questions -/

/-- The traits of an element of a forest. -/
def traitsAt (W : Writer) (F : Forest) (id : NodeId) : Traits :=
  match F.elementName? id with
  | some name => W.traits name
  | none => Traits.none

/-- The question about the traits of an element. -/
def questionsAbout (F : Forest) (id : NodeId) : List Question :=
  match F.elementName? id with
  | some name => [⟨keyOf name, []⟩]
  | none => []

/-- The question about what stands beside a text. -/
def questionsBeside (F : Forest) : Option Content → List Question
  | some (.node id) => if F.isElement id then questionsAbout F id else []
  | _ => []

/-- What a part of the content is to the text beside it. -/
def neighbourAt (W : Writer) (F : Forest) : Option Content → Neighbour
  | none => .edge
  | some (.text _) => .other
  | some (.node id) =>
      if F.isElement id then .element (W.traitsAt F id).block (W.traitsAt F id).lineBreak
      else .other

/-- The questions about the part before a text: one more if it is an element and no block. -/
def questionsBefore (W : Writer) (F : Forest) (part : Option Content) : List Question :=
  questionsBeside F part ++
    match W.neighbourAt F part with
    | .element false _ => questionsBeside F part
    | _ => []

/-- The questions while an element is written, laid out on lines or not. -/
abbrev ElementQuestions := NodeId → (formatting : Bool) → List Question

/-- The questions while a node is written. -/
def nodeQuestions (F : Forest) (inner : ElementQuestions) (id : NodeId) (formatting : Bool) :
    List Question :=
  match F.payload? id with
  | some (.element _ _) => inner id formatting
  | _ => []

/-- The questions while parts of a content are written as they are. -/
def verbatimQuestions (F : Forest) (inner : ElementQuestions) : List Content → List Question
  | [] => []
  | .text _ :: parts => verbatimQuestions F inner parts
  | .node id :: parts => nodeQuestions F inner id false ++ verbatimQuestions F inner parts

/-- The questions while a part of a content is laid out. -/
def partQuestions (W : Writer) (F : Forest) (inner : ElementQuestions)
    (before after : Option Content) : Content → List Question
  | .text _ => W.questionsBefore F before ++ questionsBeside F after
  | .node id =>
      if F.isElement id then questionsAbout F id ++ inner id true
      else nodeQuestions F inner id true

/-- The questions while parts of a content are laid out, after the part `before`. -/
def formattedQuestions (W : Writer) (F : Forest) (inner : ElementQuestions) :
    (before : Option Content) → List Content → List Question
  | _, [] => []
  | before, part :: parts =>
      W.partQuestions F inner before parts.head? part ++
        W.formattedQuestions F inner (some part) parts

/-- The questions while the content of an element is written: one about the element, and then those
that are asked inside it. -/
def contentQuestions (W : Writer) (F : Forest) (inner : ElementQuestions) (id : NodeId)
    (formatting : Bool) : List Question :=
  questionsAbout F id ++
    (if formatting && !(W.traitsAt F id).preserved then
      W.formattedQuestions F inner none (F.content id)
    else verbatimQuestions F inner (F.content id)).map (·.inside id)

/-- The questions while an element is written with `fuel` levels of elements at most. -/
def elementQuestions (W : Writer) (F : Forest) : (fuel : Nat) → ElementQuestions
  | 0, _, _ => []
  | fuel + 1, id, formatting =>
      match F.frame? id with
      | none => []
      | some _ =>
          if (F.children id).isEmpty then []
          else W.contentQuestions F (W.elementQuestions F fuel) id formatting

/-- The questions while some children of a document are written. -/
def questions (W : Writer) (F : Forest) (ids : List NodeId) : List Question :=
  ids.flatMap fun id =>
    nodeQuestions F (W.elementQuestions F (F.size + 1)) id W.settings.formatted

variable {W : Writer} {escaper : Escaper} {F : Forest} {target : NodeId}

/-! ### Traits and neighbours -/

theorem asks_traitsOf (id : NodeId) :
    Asks F target (W.traitsOf id) (· = W.traitsAt F id) (questionsAbout F id) := by
  refine asks_forest.bind_mute fun G hG => ?_
  subst hG
  rw [traitsAt, questionsAbout]
  cases G.elementName? id with
  | some name => exact asks_ask _ _
  | none => exact asks_pure _

theorem asks_neighbour (part : Option Content) :
    Asks F target (W.neighbour part) (· = W.neighbourAt F part) (questionsBeside F part) := by
  rcases part with _ | ⟨data | id⟩
  · exact asks_pure _
  · exact asks_pure _
  · refine asks_forest.bind_mute fun G hG => ?_
    subst hG
    rw [questionsBeside, neighbourAt]
    split
    · rw [← List.append_nil (questionsAbout G id)]
      refine (asks_traitsOf id).bind (fun traits htraits => ?_) fun _ _ _ =>
        (IsMute.pure _).settles
      subst htraits
      exact asks_pure _
    · exact asks_pure _

theorem asks_neighbourBefore (part : Option Content) :
    Asks F target (W.neighbourBefore part) (fun _ => True) (W.questionsBefore F part) := by
  refine (asks_neighbour part).bind (fun neighbour hneighbour => ?_) fun H _ neighbour => ?_
  · rw [← hneighbour]
    rcases neighbour with _ | ⟨isBlock, isBreak⟩ | _
    · exact (IsMute.pure _).asks
    · cases isBlock with
      | false => exact (asks_neighbour part).mono fun _ _ => trivial
      | true => exact (IsMute.pure _).asks
    · exact (IsMute.pure _).asks
  · have hasks : Asks H target (W.neighbour part) _ _ := asks_neighbour part
    split
    · exact hasks.settles
    · exact (IsMute.pure _).settles

/-! ### Content -/

section Content

variable {putElement : ElementWriter} {inner : Forest → ElementQuestions}
  (h : ∀ F id depth formatting,
    Asks F target (putElement id depth formatting) (fun _ => True) (inner F id formatting))
include h

theorem asks_putNode (id : NodeId) (depth : Nat) (formatting : Bool) :
    Asks F target (W.putNode escaper putElement id depth formatting) (fun _ => True)
      (nodeQuestions F (inner F) id formatting) := by
  refine asks_forest.bind_mute fun G hG => ?_
  subst hG
  rw [nodeQuestions]
  cases G.payload? id with
  | none => exact (IsMute.pure ()).asks
  | some payload =>
      cases payload with
      | element name cells => exact h G id depth formatting
      | _ => exact (isBlind_putLeaf _).isMute.asks

/-- Parts of a content are written as they are.  Growth of the element whose content it is is found
out after the part. -/
theorem asks_putVerbatimParts {parent : NodeId} {expected : Nat}
    (hlength : (F.children parent).length = expected) (parts : List Content) :
    Asks F target (W.putVerbatimParts escaper putElement parent expected parts) (fun _ => True)
      ((verbatimQuestions F (inner F) parts).map (·.inside parent)) := by
  have hfails : ∀ (parts : List Content) {H : Forest} (st : WalkState), st.forest = H →
      (H.children parent).length ≠ expected →
      (W.putVerbatimParts escaper putElement parent expected parts).run.run st =
        (.error (.childrenChanged expected (H.children parent).length), st) := by
    intro parts H st hst hne
    cases parts with
    | nil => exact run_checkChildren_of_ne hst hne
    | cons part parts => rw [putVerbatimParts, Outcome.run_bind, run_checkChildren_of_ne hst hne]
  -- induction on the parts; after a disturbance the rest is written on the forest that has grown
  induction parts generalizing F with
  | nil => exact asks_checkChildren hlength
  | cons part parts ih =>
      refine (asks_checkChildren hlength).bind_mute fun _ _ => ?_
      cases part with
      | text data => exact (isBlind_putText data).isMute.asks.bind_mute fun _ _ => ih hlength
      | node id =>
          rw [verbatimQuestions, List.map_append]
          exact (asks_putNode h id 0 false).bind_map (fun _ => rfl)
            (fun q => List.subset_cons_self parent q.opened) (fun _ _ => ih hlength)
            fun H hgrows q hq _ st hst => suffers_inside hlength
              (fun hH => (ih hH).settles) (hfails parts) hgrows hq hst

theorem asks_putVerbatim (parent : NodeId) :
    Asks F target (W.putVerbatim escaper putElement parent) (fun _ => True)
      ((verbatimQuestions F (inner F) (F.content parent)).map (·.inside parent)) := by
  refine asks_forest.bind_mute fun G hG => ?_
  subst hG
  exact asks_putVerbatimParts h rfl _

omit h in
theorem asks_putFormattedText (parentIsBlock : Bool) (depth : Nat)
    (before after : Option Content) (data : Text) (st : LineState) :
    Asks F target (W.putFormattedText escaper parentIsBlock depth before after data st)
      (fun _ => True) (W.questionsBefore F before ++ questionsBeside F after) := by
  have hrest : ∀ a b, IsMute (do
      let trim := Trim.between parentIsBlock a b
      let collapsed := Text.collapseRuns W.profile.isSpace ' ' trim data
      if collapsed.isEmpty then return st
      W.putIndentAtStart st depth
      W.putText escaper collapsed
      return st.inLine) := by
    intro a b
    dsimp only
    split
    · exact .pure st
    · exact (isBlind_putIndentAtStart st depth).isMute.andThen ((isBlind_putText _).isMute.andThen (.pure _))
  have hafter : ∀ (F : Forest) a, Asks F target (do
      let b ← W.neighbour after
      let trim := Trim.between parentIsBlock a b
      let collapsed := Text.collapseRuns W.profile.isSpace ' ' trim data
      if collapsed.isEmpty then return st
      W.putIndentAtStart st depth
      W.putText escaper collapsed
      return st.inLine) (fun _ => True) (questionsBeside F after) := by
    intro F a
    exact (asks_neighbour after).andThen_mute (hrest a)
  exact (asks_neighbourBefore before).andThen hafter

theorem asks_putFormattedElement (depth : Nat) (id : NodeId) (st : LineState) :
    Asks F target (W.putFormattedElement putElement depth id st) (fun _ => True)
      (questionsAbout F id ++ inner F id true) := by
  have hafter : ∀ (F : Forest) {after : Walk LineState}, IsMute after →
      Asks F target (putElement id depth true >>= fun _ => after) (fun _ => True)
        (inner F id true) :=
    fun F _ hmute => (h F id depth true).andThen_mute fun _ => hmute
  have hrest : ∀ (F : Forest) (traits : Traits), Asks F target (do
      if traits.block then
        if !st.atLineStart then W.putNewline
        W.putIndent depth
        putElement id depth true
        W.putNewline
        return st.afterLine traits
      else
        W.putIndentAtStart st depth
        putElement id depth true
        if traits.lineBreak then
          W.putNewline
          return st.afterLine traits
        else return st.inLine) (fun _ => True) (inner F id true) := by
    intro F traits
    have hline : Asks F target (do
        W.putIndent depth
        putElement id depth true
        W.putNewline
        return st.afterLine traits) (fun _ => True) (inner F id true) :=
      (isBlind_putIndent depth).isMute.asks.bind_mute fun _ _ =>
        hafter F (isBlind_putNewline.isMute.andThen (.pure _))
    split
    · split
      · exact isBlind_putNewline.isMute.asks.bind_mute fun _ _ => hline
      · exact hline
    · refine (isBlind_putIndentAtStart st depth).isMute.asks.bind_mute fun _ _ => hafter F ?_
      split
      · exact isBlind_putNewline.isMute.andThen (.pure _)
      · exact .pure _
  exact (asks_traitsOf id).andThen hrest

theorem asks_putFormattedPart (parentIsBlock : Bool) (depth : Nat)
    (before after : Option Content) (part : Content) (st : LineState) :
    Asks F target (W.putFormattedPart escaper putElement parentIsBlock depth before after part st)
      (fun _ => True) (W.partQuestions F (inner F) before after part) := by
  cases part with
  | text data => exact asks_putFormattedText parentIsBlock depth before after data st
  | node id =>
      refine asks_forest.bind_mute fun G hG => ?_
      subst hG
      rw [partQuestions]
      split
      · exact asks_putFormattedElement h depth id st
      · refine (isBlind_putIndentAtStart st depth).isMute.asks.bind_mute fun _ _ => ?_
        exact (asks_putNode h id depth true).andThen_mute fun _ => .pure _

/-- Parts of a content are laid out on lines.  Growth of the element whose content it is is found out
after the part. -/
theorem asks_putFormattedParts {parent : NodeId} {expected : Nat}
    (hlength : (F.children parent).length = expected) (depth : Nat) (traits : Traits)
    (before : Option Content) (st : LineState) (parts : List Content) :
    Asks F target (W.putFormattedParts escaper putElement parent expected depth traits before st
      parts) (fun _ => True)
      ((W.formattedQuestions F (inner F) before parts).map (·.inside parent)) := by
  have hfails : ∀ before st (parts : List Content) {H : Forest} (state : WalkState),
      state.forest = H → (H.children parent).length ≠ expected →
      (W.putFormattedParts escaper putElement parent expected depth traits before st
        parts).run.run state =
          (.error (.childrenChanged expected (H.children parent).length), state) := by
    intro before st parts H state hstate hne
    cases parts with
    | nil =>
        rw [putFormattedParts, Outcome.run_bind, run_checkChildren_of_ne hstate hne]
    | cons part parts =>
        rw [putFormattedParts, Outcome.run_bind, run_checkChildren_of_ne hstate hne]
  induction parts generalizing F before st with
  | nil => exact (asks_checkChildren hlength).bind_mute fun _ _ => (IsMute.pure st).asks
  | cons part parts ih =>
      refine (asks_checkChildren hlength).bind_mute fun _ _ => ?_
      rw [formattedQuestions, List.map_append]
      exact (asks_putFormattedPart h _ _ before parts.head? part st).bind_map (fun _ => rfl)
        (fun q => List.subset_cons_self parent q.opened) (fun st _ => ih hlength (some part) st)
        fun H hgrows q hq st state hstate => suffers_inside hlength
          (fun hH => (ih hH (some part) st).settles) (hfails (some part) st parts) hgrows hq hstate

theorem asks_putFormatted (parent : NodeId) (depth : Nat) (traits : Traits) :
    Asks F target (W.putFormatted escaper putElement parent depth traits) (fun _ => True)
      ((W.formattedQuestions F (inner F) none (F.content parent)).map (·.inside parent)) := by
  have hend : ∀ st : LineState, IsMute (
      if st.atLineStart then W.putIndent depth
      else if st.hadBlock && W.settings.endTagOnLine then do
        W.putNewline
        W.putIndent depth
      else pure ()) := by
    intro st
    split
    · exact (isBlind_putIndent depth).isMute
    · split
      · exact isBlind_putNewline.isMute.andThen (isBlind_putIndent depth).isMute
      · exact .pure ()
  refine asks_forest.bind_mute fun G hG => ?_
  subst hG
  exact (asks_putFormattedParts h rfl depth traits none .start _).andThen_mute hend

theorem asks_putContent (id : NodeId) (name : Text) (depth : Nat) (formatting : Bool) :
    Asks F target (W.putContent escaper putElement id name depth formatting) (fun _ => True)
      (W.contentQuestions F (inner F) id formatting) := by
  have hend : IsMute (do
      putString "</"
      put name
      putString ">") :=
    (isBlind_putString _).isMute.andThen ((IsMute.put _).andThen (isBlind_putString _).isMute)
  have hrest : ∀ (F : Forest) (traits : Traits), Asks F target (do
      if formatting && !traits.preserved then W.putFormatted escaper putElement id depth traits
      else W.putVerbatim escaper putElement id
      putString "</"
      put name
      putString ">") (fun _ => True)
      ((if formatting && !traits.preserved then W.formattedQuestions F (inner F) none (F.content id)
        else verbatimQuestions F (inner F) (F.content id)).map (·.inside id)) := by
    intro F traits
    split
    · exact (asks_putFormatted h id depth traits).andThen_mute fun _ => hend
    · exact (asks_putVerbatim h id).andThen_mute fun _ => hend
  refine (isBlind_putString _).isMute.asks.bind_mute fun _ _ => ?_
  refine (asks_traitsOf id).bind (fun traits htraits => ?_) fun H _ traits =>
    (hrest H traits).settles
  subst htraits
  exact hrest F _

end Content

/-! ### Elements -/

theorem asks_putElementFrom (fuel : Nat) (F : Forest) (id : NodeId) (depth : Nat)
    (formatting : Bool) :
    Asks F target (W.putElementFrom escaper fuel id depth formatting) (fun _ => True)
      (W.elementQuestions F fuel id formatting) := by
  -- induction on the fuel, of which every element on the way down takes one
  induction fuel generalizing F id depth formatting with
  | zero => exact (IsMute.pure ()).asks
  | succ fuel ih =>
      refine asks_forest.bind_mute fun G hG => ?_
      subst hG
      rw [elementQuestions]
      cases G.frame? id with
      | none => exact (IsMute.pure ()).asks
      | some f =>
          refine (isBlind_putStartTag f).isMute.asks.bind_mute fun _ _ => ?_
          dsimp only
          split
          · exact (isBlind_putEmptyEnd _).isMute.asks
          · exact asks_putContent ih id _ depth formatting

theorem asks_putElement (F : Forest) (id : NodeId) (depth : Nat) (formatting : Bool) :
    Asks F target (W.putElement escaper id depth formatting) (fun _ => True)
      (W.elementQuestions F (F.size + 1) id formatting) := by
  refine asks_forest.bind_mute fun G hG => ?_
  subst hG
  exact asks_putElementFrom _ G id depth formatting

/-! ### Children of a document -/

theorem asks_putChildren (afterRoot : Bool) (ids : List NodeId) :
    Asks F target (W.putChildren escaper afterRoot ids) (fun _ => True) (W.questions F ids) := by
  induction ids generalizing F afterRoot with
  | nil => exact (IsMute.pure afterRoot).asks
  | cons id ids ih =>
      refine asks_forest.bind_mute fun G hG => ?_
      subst hG
      rw [questions, List.flatMap_cons, nodeQuestions]
      cases G.payload? id with
      | none => exact ih afterRoot
      | some payload =>
          cases payload with
          | element name cells =>
              exact (asks_putElement G id 0 _).andThen fun _ _ => ih true
          | comment data =>
              exact (isBlind_putBeside _ _).isMute.asks.bind_mute fun _ _ => ih afterRoot
          | instruction target data =>
              exact (isBlind_putBeside _ _).isMute.asks.bind_mute fun _ _ => ih afterRoot
          | _ => exact ih afterRoot

end Writer

end XmlScribe
