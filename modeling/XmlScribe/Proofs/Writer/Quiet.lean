/-
**What an undisturbed walk writes.**

If nothing disturbs a walk, all that can go wrong is that a name, a comment or the like has a
character that the character set lacks.  Otherwise the walk leaves the forest as it is and writes a
text that can be said beforehand.  A walk that is put together from others writes their texts one
after the other.

Main definitions:

* `WalkState.IsQuiet` — a state with a certain forest in which no disturbance is waiting;
* `Walk.Writes` — what a walk writes and what it gives, and when it fails.

Main results:

* `Walk.Writes.bind` — one walk after another;
* `Walk.Writes.runWalk` — what comes of a walk that is run from the start.
-/

import XmlScribe.Proofs.Outcome
import XmlScribe.Writer.Save

set_option autoImplicit false

namespace XmlScribe

/-- The forest is `F`, and nothing will disturb the walk. -/
structure WalkState.IsQuiet (st : WalkState) (F : Forest) : Prop where
  /-- The forest. -/
  forest : st.forest = F
  /-- No disturbance is waiting. -/
  disturbance : st.disturbance = none

namespace Writer

/-- Writes the document type that stands for this one. -/
def putHeading (W : Writer) (doctype : Option Doctype) : Walk Unit :=
  match W.headingFor doctype with
  | some (heading, subset) => do
      W.putDoctype heading subset
      W.putNewline
  | none => pure ()

/-- A prolog is an XML declaration and a document type. -/
theorem putProlog_eq (W : Writer) (declaration : Declaration) (doctype : Option Doctype) :
    W.putProlog declaration doctype =
      if W.settings.xmlDeclaration then
        W.putDeclaration declaration >>= fun _ => W.putNewline >>= fun _ => W.putHeading doctype
      else W.putHeading doctype := by
  rw [putProlog]
  split <;> rfl

end Writer

namespace Walk

open Writer

variable {F : Forest} {α β : Type} {walk : Walk α} {next : α → Walk β} {able able' : Prop}
  {a : α} {b : β} {s t : Text}

/-- Where nothing disturbs it the walk succeeds exactly if it is able to.  It then gives `a`, has
written `s`, and has left the forest as it was. -/
structure Writes (F : Forest) (walk : Walk α) (able : Prop) (a : α) (s : Text) : Prop where
  /-- The walk succeeds. -/
  succeeds : able → ∀ st, st.IsQuiet F → ∃ st', walk.run.run st = (.ok a, st') ∧ st'.IsQuiet F ∧
    textOf st'.trace = textOf st.trace ++ s
  /-- The walk fails. -/
  fails : ¬ able → ∀ st, st.IsQuiet F → ∃ fault st', walk.run.run st = (.error fault, st')

/-! ### Walks one after the other -/

theorem writes_pure (a : α) : Writes F (pure a) True a [] :=
  ⟨fun _ st hst => ⟨st, rfl, hst, (List.append_nil _).symm⟩, fun h => absurd trivial h⟩

theorem writes_throw (fault : SaveFault) : Writes F (throw fault : Walk α) False a s :=
  ⟨fun h => h.elim, fun _ st _ => ⟨fault, st, rfl⟩⟩

/-- One walk after another writes both texts. -/
theorem Writes.bind (h : Writes F walk able a s) (h' : Writes F (next a) able' b t) :
    Writes F (walk >>= next) (able ∧ able') b (s ++ t) := by
  refine ⟨fun hable st hst => ?_, fun hnot st hst => ?_⟩
  · obtain ⟨st₁, hrun₁, hst₁, ht₁⟩ := h.succeeds hable.1 st hst
    obtain ⟨st₂, hrun₂, hst₂, ht₂⟩ := h'.succeeds hable.2 st₁ hst₁
    refine ⟨st₂, ?_, hst₂, by rw [ht₂, ht₁, List.append_assoc]⟩
    rw [Outcome.run_bind, hrun₁]
    exact hrun₂
  · by_cases hable : able
    · obtain ⟨st₁, hrun₁, hst₁, -⟩ := h.succeeds hable st hst
      obtain ⟨fault, st₂, hrun₂⟩ := h'.fails (fun hn => hnot ⟨hable, hn⟩) st₁ hst₁
      refine ⟨fault, st₂, ?_⟩
      rw [Outcome.run_bind, hrun₁]
      exact hrun₂
    · obtain ⟨fault, st₁, hrun₁⟩ := h.fails hable st hst
      refine ⟨fault, st₁, ?_⟩
      rw [Outcome.run_bind, hrun₁]

/-- A walk that fails is not followed by another one. -/
theorem Writes.bind_of_fails (h : Writes F walk False a s) :
    Writes F (walk >>= next) False b t := by
  refine ⟨False.elim, fun hnot st hst => ?_⟩
  obtain ⟨fault, st₁, hrun₁⟩ := h.fails hnot st hst
  refine ⟨fault, st₁, ?_⟩
  rw [Outcome.run_bind, hrun₁]

theorem Writes.congr (h : Writes F walk able a s) (hable : able ↔ able') (ht : s = t) :
    Writes F walk able' a t := by
  subst ht
  exact ⟨fun h' => h.succeeds (hable.2 h'), fun h' => h.fails fun hn => h' (hable.1 hn)⟩

/-- A walk before which another one writes nothing. -/
theorem Writes.bind_silent (h : Writes F walk True a []) (h' : Writes F (next a) able b t) :
    Writes F (walk >>= next) able b t :=
  (h.bind h').congr (iff_of_eq (true_and able)) rfl

/-- A walk after which another one writes nothing. -/
theorem Writes.then_pure (h : Writes F walk able a s) (b : β) :
    Writes F (walk >>= fun _ => pure b) able b s :=
  (h.bind (writes_pure b)).congr (and_iff_left trivial) (List.append_nil s)

/-- What comes of a walk that is run from the start. -/
theorem Writes.runWalk {settings : Settings} {profile : Profile} {walk : Walk Unit}
    (h : Writes F walk able () s) {t : Text} :
    ((quiet settings profile).runWalk F walk).1.map
        (fun _ => textOf ((quiet settings profile).runWalk F walk).2.trace) = .ok t ↔
      able ∧ t = s := by
  by_cases hable : able
  · obtain ⟨st, hrun, -, ht⟩ := h.succeeds hable ⟨F, none, 0, []⟩ ⟨rfl, rfl⟩
    rw [Writer.runWalk, show walk.run.run ⟨F, (quiet settings profile).disturbance, 0, []⟩ = _
      from hrun]
    simp only [Except.map, Except.ok.injEq, ht]
    exact ⟨fun he => ⟨hable, he.symm⟩, fun he => he.2.symm⟩
  · obtain ⟨fault, st, hrun⟩ := h.fails hable ⟨F, none, 0, []⟩ ⟨rfl, rfl⟩
    rw [Writer.runWalk, show walk.run.run ⟨F, (quiet settings profile).disturbance, 0, []⟩ = _
      from hrun]
    simp [Except.map, hable]

/-! ### Basic walks -/

theorem writes_forest : Writes F forest True F [] := by
  refine ⟨fun _ st hst => ⟨st, ?_, hst, (List.append_nil _).symm⟩, fun h => absurd trivial h⟩
  rw [← hst.forest]
  rfl

theorem writes_putPiece (piece : Piece) : Writes F (putPiece piece) True () piece.toText := by
  refine ⟨fun _ st hst => ⟨_, rfl, ⟨hst.forest, hst.disturbance⟩, ?_⟩, fun h => absurd trivial h⟩
  simp [textOf]

theorem writes_put (s : Text) : Writes F (put s) True () s :=
  writes_putPiece (.text s)

theorem writes_putString (s : String) : Writes F (putString s) True () s.toList :=
  writes_put s.toList

theorem writes_putAll (texts : List Text) : Writes F (putAll texts) True () texts.flatten := by
  induction texts with
  | nil => exact writes_pure ()
  | cons s texts ih => exact ((writes_put s).bind ih).congr (iff_of_eq (true_and True)) rfl

/-- A question changes nothing if no disturbance is waiting. -/
theorem writes_ask (profile : Profile) (key : ElementKey) :
    Writes F (ask profile key) True
      ⟨profile.isBlock key, profile.isBreak key, profile.isFlush key, profile.isPreserved key⟩
      [] := by
  refine ⟨fun _ st hst => ⟨{ st with asked := st.asked + 1 }, ?_, ?_, ?_⟩,
    fun h => absurd trivial h⟩
  · have hst' : afterQuestion key st = { st with asked := st.asked + 1 } := by
      rw [afterQuestion, hst.disturbance]
      rfl
    rw [← hst']
    rfl
  · exact ⟨hst.forest, hst.disturbance⟩
  · exact (List.append_nil _).symm

theorem writes_checkChildren (element : NodeId) :
    Writes F (checkChildren element (F.children element).length) True () [] := by
  refine Writes.bind_silent writes_forest ?_
  rw [if_neg (by simp)]
  exact writes_pure ()

/-- A completion that finds nothing to do. -/
theorem writes_complete {element : NodeId} {target : Option NodeId} {n : Nat}
    (h : F.ensureDeclared element target true = (F, .ok n)) :
    Writes F (complete element target) True () [] := by
  refine Writes.bind_silent writes_forest ?_
  rw [h]
  refine ⟨fun _ st hst => ⟨st, ?_, hst, (List.append_nil _).symm⟩, fun h => absurd trivial h⟩
  rw [← hst.forest]
  rfl

end Walk

end XmlScribe
