/-
**The questions that a profile is asked.**

While a document is written, the profile is asked about one element after the other: about an element
before its content is laid out, about the elements beside a text, about an element that is to stand
on a line of its own.  Each question falls into the time in which the content of some elements is
being written: their children have been listed, and are going to be counted once more.  A disturbance
strikes at the first question that sets it off; if it makes one of these elements grow, that is found
out, and otherwise it is not.

Main definitions:

* `Question` — a question, and the elements whose content is being written meanwhile;
* `Disturbance.strike?` — the question that sets a disturbance off;
* `Forest.Grows` — one more child of an element, and nothing else about children;
* `Walk.Asks` — the questions of a walk, and what comes of it when one of them sets off growth.

Main results:

* `Walk.Asks.bind_map` — one walk after another asks the questions of both, also where the first one
  belongs to something larger;
* `Walk.Asks.bind` — the same where the second walk settles on a forest that has grown.
-/

import XmlScribe.Proofs.Writer.Layout
import XmlScribe.Proofs.Writer.Plain

set_option autoImplicit false

namespace XmlScribe

/-- A question to the profile. -/
structure Question where
  /-- What it is about. -/
  key : ElementKey
  /-- The elements whose content is being written when it is asked, the outermost first. -/
  opened : List NodeId
deriving DecidableEq, Repr

namespace Question

/-- The question, asked while the content of an element is being written. -/
def inside (id : NodeId) (q : Question) : Question :=
  { q with opened := id :: q.opened }

end Question

namespace Disturbance

/-- The first of some questions that sets the disturbance off, where so many have been asked
before. -/
def strike? (d : Disturbance) : (asked : Nat) → List Question → Option Question
  | _, [] => none
  | asked, q :: questions =>
      if d.trigger asked q.key then some q else d.strike? (asked + 1) questions

theorem strike?_append (d : Disturbance) (asked : Nat) (questions more : List Question) :
    d.strike? asked (questions ++ more) =
      (d.strike? asked questions).or (d.strike? (asked + questions.length) more) := by
  induction questions generalizing asked with
  | nil => rfl
  | cons q questions ih =>
      rw [List.cons_append, strike?, strike?]
      split
      · rfl
      · rw [ih, List.length_cons, Nat.add_assoc, Nat.add_comm 1]

/-- What is set off depends only on what the questions are about. -/
theorem strike?_map (d : Disturbance) {f : Question → Question} (hf : ∀ q, (f q).key = q.key)
    (asked : Nat) (questions : List Question) :
    d.strike? asked (questions.map f) = (d.strike? asked questions).map f := by
  induction questions generalizing asked with
  | nil => rfl
  | cons q questions ih =>
      rw [List.map_cons, strike?, strike?, ih, hf]
      split <;> rfl

end Disturbance

/-- One more child stands at the end of an element, and the children of all other nodes are the
same. -/
structure Forest.Grows (F H : Forest) (target : NodeId) : Prop where
  /-- One more child. -/
  exists_child : ∃ c, H.children target = F.children target ++ [c]
  /-- The children of the others. -/
  children_eq : ∀ id, id ≠ target → H.children id = F.children id

theorem Forest.Grows.length_target {F H : Forest} {target : NodeId} (h : F.Grows H target) :
    (H.children target).length = (F.children target).length + 1 := by
  obtain ⟨c, hc⟩ := h.exists_child
  rw [hc, List.length_append, List.length_singleton]

namespace Walk

variable {F H : Forest} {target : NodeId} {α β : Type} {walk : Walk α} {next : α → Walk β}

/-! ### What comes of a walk -/

/-- Nothing has happened, or the walk has failed for another reason than children. -/
def GoesOn (F : Forest) (od : Option Disturbance) (asked : Nat) (Gives : α → Prop) :
    Except SaveFault α × WalkState → Prop
  | (.ok a, st) => Gives a ∧ st.forest = F ∧ st.disturbance = od ∧ st.asked = asked
  | (.error fault, _) => fault.IsOther

/-- A disturbance has struck at a question and has made an element grow.  If the content of the
element was being written, the walk has failed; the number of children is reported, unless it has
failed for another reason. -/
def Suffers (F H : Forest) (target : NodeId) (q : Question) :
    Except SaveFault α × WalkState → Prop
  | (.ok _, st) => target ∉ q.opened ∧ st.IsQuiet H
  | (.error fault, _) => fault.IsOther ∨ target ∈ q.opened ∧
      fault = .childrenChanged (F.children target).length ((F.children target).length + 1)

/-- The walk asks these questions on a forest. -/
structure Asks (F : Forest) (target : NodeId) (walk : Walk α) (Gives : α → Prop)
    (questions : List Question) : Prop where
  /-- No question sets off a disturbance. -/
  undisturbed : ∀ st : WalkState, st.forest = F →
    (∀ d, st.disturbance = some d → d.strike? st.asked questions = none) →
    GoesOn F st.disturbance (st.asked + questions.length) Gives (walk.run.run st)
  /-- A question sets off growth of the target. -/
  disturbed : ∀ (st : WalkState) (d : Disturbance) (q : Question), st.forest = F →
    st.disturbance = some d → d.strike? st.asked questions = some q →
    F.Grows (d.change F) target → Suffers F (d.change F) target q (walk.run.run st)

/-- On a forest that nothing disturbs, the walk does not fail because of children. -/
def Settles (F : Forest) (walk : Walk α) : Prop :=
  ∀ st : WalkState, st.IsQuiet F → GoesOn F none (walk.run.run st).2.asked (fun _ => True)
    (walk.run.run st)

theorem Asks.settles {Gives : α → Prop} {questions : List Question}
    (h : Asks F target walk Gives questions) : Settles F walk := by
  intro st hst
  have hgoes := h.undisturbed st hst.forest fun d hd => by rw [hst.disturbance] at hd; cases hd
  rcases hrun : walk.run.run st with ⟨fault | a, st'⟩
  · rwa [hrun] at hgoes
  · rw [hrun] at hgoes
    exact ⟨trivial, hgoes.2.1, hgoes.2.2.1.trans hst.disturbance, rfl⟩

theorem Asks.mono {Gives Gives' : α → Prop} {questions : List Question}
    (h : Asks F target walk Gives questions) (hg : ∀ a, Gives a → Gives' a) :
    Asks F target walk Gives' questions := by
  refine ⟨fun st hf hd => ?_, h.disturbed⟩
  have hgoes := h.undisturbed st hf hd
  rcases hrun : walk.run.run st with ⟨fault | a, st'⟩
  · rwa [hrun] at hgoes
  · rw [hrun] at hgoes
    exact ⟨hg a hgoes.1, hgoes.2⟩

/-! ### One walk after another -/

section Bind

variable {Gives : α → Prop} {Gives' : β → Prop} {questions more : List Question}

/-- Where nothing has happened, the next walk decides. -/
theorem GoesOn.bind {od : Option Disturbance} {asked later : Nat} {st : WalkState}
    (h : GoesOn F od asked Gives (walk.run.run st))
    (h' : ∀ a mid, Gives a → mid.forest = F → mid.disturbance = od → mid.asked = asked →
      GoesOn F od later Gives' ((next a).run.run mid)) :
    GoesOn F od later Gives' ((walk >>= next).run.run st) := by
  rw [Outcome.run_bind]
  rcases hrun : walk.run.run st with ⟨fault | a, mid⟩
  · rwa [hrun] at h
  · rw [hrun] at h
    exact h' a mid h.1 h.2.1 h.2.2.1 h.2.2.2

/-- A disturbance may strike during the next walk. -/
theorem GoesOn.bind_suffers {od : Option Disturbance} {asked : Nat} {q : Question} {st : WalkState}
    (h : GoesOn F od asked Gives (walk.run.run st))
    (h' : ∀ a mid, Gives a → mid.forest = F → mid.disturbance = od → mid.asked = asked →
      Suffers F H target q ((next a).run.run mid)) :
    Suffers F H target q ((walk >>= next).run.run st) := by
  rw [Outcome.run_bind]
  rcases hrun : walk.run.run st with ⟨fault | a, mid⟩
  · rw [hrun] at h
    exact Or.inl h
  · rw [hrun] at h
    exact h' a mid h.1 h.2.1 h.2.2.1 h.2.2.2

/-- One walk after another.  The first may belong to something larger, so that each of its questions
`q` is asked as `f q`.  If a disturbance strikes during the first walk, the second one goes on with
the forest that it has made. -/
theorem Asks.bind_map {f : Question → Question} (hkey : ∀ q, (f q).key = q.key)
    (hopened : ∀ q, q.opened ⊆ (f q).opened) (h : Asks F target walk Gives questions)
    (h' : ∀ a, Gives a → Asks F target (next a) Gives' more)
    (hafter : ∀ H, F.Grows H target → ∀ q : Question, target ∉ q.opened → ∀ a (st : WalkState),
      st.IsQuiet H → Suffers F H target (f q) ((next a).run.run st)) :
    Asks F target (walk >>= next) Gives' (questions.map f ++ more) := by
  refine ⟨fun st hf hd => ?_, fun st d q hf hd hq hgrows => ?_⟩
  · have hsplit : ∀ d, st.disturbance = some d → d.strike? st.asked questions = none ∧
        d.strike? (st.asked + questions.length) more = none := by
      intro d hd'
      have hnone := hd d hd'
      rwa [Disturbance.strike?_append, Option.or_eq_none_iff, d.strike?_map hkey,
        Option.map_eq_none_iff, List.length_map] at hnone
    refine (h.undisturbed st hf fun d hd' => (hsplit d hd').1).bind
      fun a mid ha hf' hd' hasked => ?_
    have hrest := (h' a ha).undisturbed mid hf' fun d hmid => by
      rw [hasked]
      exact (hsplit d (hd'.symm.trans hmid)).2
    rwa [hd', hasked, Nat.add_assoc, ← List.length_map f, ← List.length_append] at hrest
  · rw [Disturbance.strike?_append, d.strike?_map hkey, List.length_map] at hq
    cases hp : d.strike? st.asked questions with
    | some p =>
        -- the first walk is struck, so the second one meets the forest that has grown
        rw [hp] at hq
        obtain rfl : f p = q := Option.some.inj hq
        have hsuffers := h.disturbed st d p hf hd hp hgrows
        rw [Outcome.run_bind]
        rcases hrun : walk.run.run st with ⟨fault | a, st'⟩
        · rw [hrun] at hsuffers
          exact hsuffers.imp_right fun hs => ⟨hopened p hs.1, hs.2⟩
        · rw [hrun] at hsuffers
          exact hafter _ hgrows p hsuffers.1 a st' hsuffers.2
    | none =>
        -- the first walk leaves everything as it was, and the second one is struck
        rw [hp] at hq
        have hgoes := h.undisturbed st hf fun d' hd' => by
          obtain rfl := Option.some.inj (hd.symm.trans hd')
          exact hp
        exact hgoes.bind_suffers fun a mid ha hf' hd' hasked =>
          (h' a ha).disturbed mid d q hf' (hd'.trans hd) (by rw [hasked]; exact hq) hgrows

/-- A walk that settles after the other one has been disturbed suffers no more from it. -/
theorem Settles.suffers (h : Settles H walk) {q : Question} (hq : target ∉ q.opened)
    {st : WalkState} (hst : st.IsQuiet H) : Suffers F H target q (walk.run.run st) := by
  have hgoes := h st hst
  rcases hrun : walk.run.run st with ⟨fault | a, st'⟩
  · rw [hrun] at hgoes
    exact Or.inl hgoes
  · rw [hrun] at hgoes
    exact ⟨hq, hgoes.2.1, hgoes.2.2.1⟩

/-- One walk after another, where the second one settles on whatever forest the first one leaves. -/
theorem Asks.bind (h : Asks F target walk Gives questions)
    (h' : ∀ a, Gives a → Asks F target (next a) Gives' more)
    (hafter : ∀ H, F.Grows H target → ∀ a, Settles H (next a)) :
    Asks F target (walk >>= next) Gives' (questions ++ more) := by
  rw [← List.map_id questions]
  exact h.bind_map (fun _ => rfl) (fun _ => List.Subset.refl _) h' fun H hgrows q hq a st hst =>
    (hafter H hgrows a).suffers hq hst

/-- A walk that asks nothing, before another one. -/
theorem Asks.bind_mute (h : Asks F target walk Gives [])
    (h' : ∀ a, Gives a → Asks F target (next a) Gives' more) :
    Asks F target (walk >>= next) Gives' more := by
  refine ⟨fun st hf hd => ?_, fun st d q hf hd hq hgrows => ?_⟩
  · refine (h.undisturbed st hf fun _ _ => rfl).bind fun a mid ha hf' hd' hasked => ?_
    have hrest := (h' a ha).undisturbed mid hf' (by rwa [hd', hasked])
    rwa [hd', hasked] at hrest
  · exact (h.undisturbed st hf fun _ _ => rfl).bind_suffers fun a mid ha hf' hd' hasked =>
      (h' a ha).disturbed mid d q hf' (hd'.trans hd) (by rwa [hasked]) hgrows

end Bind

end Walk

end XmlScribe
