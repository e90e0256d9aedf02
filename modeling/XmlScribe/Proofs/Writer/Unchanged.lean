/-
**A document that has been read stays as it is.**

When a document is read, every name gets the namespace that the open elements have declared for its
prefix.  In the tree that has been read, the same declarations stand among the attributes of the
element and of those around it, and the nearest one says the same.  So nothing is missing there:
completion adds nothing, and whatever becomes of writing the document, its tree is as it was.

Main definitions:

* `Scope.Explains` — the nearest declaration says what namespace a name has;
* `Frame.prefixedNames` — the names of an element that declarations are meant for;
* `WalkState.IsStill` — a state of a walk on which the forest has never changed.

Main results:

* `Forest.IsPlanted.isRead` — every element of a planted document is read;
* `Walk.IsPlain.isStill` — plain walks leave the forest alone in all their steps;
* `Writer.forest_save_of_isStill` — so does a sink, also where it fails;
* `Document.unchanged_of_parse` — a document that has been read lacks no declaration, and is not
  changed by being completed or written.
-/

import XmlScribe.Proofs.Document.Resolver
import XmlScribe.Proofs.Namespace.Planted
import XmlScribe.Proofs.Writer.Untouched

set_option autoImplicit false

namespace XmlScribe

open Builder

/-! ### What the declarations say -/

/-- The nearest declaration of its prefix says what namespace the name has. -/
def Scope.Explains (s : Scope) (name : QName) : Prop :=
  namespaceIn s.declaration? name.nsPrefix = .ok name.namespaceUri

/-- The name of an element and the names of its attributes that have a prefix and are no
declarations. -/
def Frame.prefixedNames (f : Frame) : List QName :=
  f.name :: (f.attributes.filter (·.binding?.isSome)).map Attribute.name

/-- The namespace of a prefix is a name or there is none. -/
theorem Builder.someNamespace_of_namespaceIn {m : Meaning} {p uri : Option Text}
    (h : namespaceIn m p = .ok uri) : QName.someNamespace uri = uri := by
  unfold namespaceIn at h
  split at h
  · rw [← Except.ok.inj h]
    decide
  · split at h
    · rw [← Except.ok.inj h]
      decide
    · split at h
      · rw [← Except.ok.inj h, QName.someNamespace_idem]
      · rw [← Except.ok.inj h]
        rfl
      · cases h

theorem QName.Resolves.explains {s : Scope} {q : QName} (h : q.Resolves s.declaration?) :
    s.Explains q := by
  obtain ⟨uri, hu, hq⟩ := h
  rw [Scope.Explains, hu, QName.namespaceUri_of_ofText hq, someNamespace_of_namespaceIn hu]

namespace Forest

/-- What an element that has been read is called is what the declarations around it say. -/
theorem IsRead.explains {F : Forest} {owner id : NodeId} (h : F.IsRead owner id) {f : Frame}
    (hf : F.frame? id = some f) {name : QName} (hn : name ∈ f.prefixedNames) :
    (F.scope id).Explains name := by
  obtain ⟨parent, name', attributes, content, m, hd, hs, hm⟩ := h
  obtain rfl := Option.some.inj (hf.symm.trans (frame?_of_holdsAt hd))
  rcases List.mem_cons.1 hn with rfl | hn
  · exact QName.Resolves.explains (hm ▸ hs.1)
  · obtain ⟨a, ha, rfl⟩ := List.mem_map.1 hn
    obtain ⟨ha, hb⟩ := List.mem_filter.1 ha
    have hresolves : a.Resolves (F.scope id).declaration? := hm ▸ hs.2.1 a ha
    exact (hresolves.name_resolves hb).explains

/-! ### The elements of a planted document -/

/-- A node below another one is that node itself or lies below one of its children. -/
theorem Below.eq_or_exists_child {F : Forest} {id d : NodeId} (h : F.Below id d) :
    d = id ∨ ∃ c ∈ F.children id, F.Below c d := by
  induction h with
  | refl => exact Or.inl rfl
  | @child p e hp he ih =>
      rcases ih with rfl | ⟨c, hc, hbelow⟩
      · exact Or.inr ⟨e, he, .refl⟩
      · exact Or.inr ⟨c, hc, hbelow.child he⟩

/-- Every element of a planted document is read. -/
theorem IsPlanted.isRead {F : Forest} {subsets : Subsets} {id e : NodeId} {doc : Document}
    (h : F.IsPlanted id doc) (hs : doc.IsSound subsets) (hd : F.Below id e)
    (he : F.isElement e = true) : F.IsRead id e := by
  rcases hd.eq_or_exists_child with rfl | ⟨c, hc, hd⟩
  · exact absurd he (by rw [h.isElement]; exact Bool.false_ne_true)
  · obtain ⟨item, hmem, hitem⟩ := exists_mem_of_holds h.holds_children hc
    have hsound := hs.content item hmem
    cases item with
    | element name attributes content =>
        exact isRead_of_below hitem hsound (isTreeBelow_of_holdsAt hitem hsound)
          (isTop_of_holdsAt hitem h.isElement) hd he
    | _ =>
        -- A node of another kind has no children, so nothing but itself lies below it.
        rcases hd.eq_or_exists_child with rfl | ⟨d, hd, -⟩
        · rw [Forest.isElement, type?_of_holdsAt hitem] at he
          exact absurd he Bool.false_ne_true
        · obtain ⟨_, _, _, heq, -⟩ := holdsAt_of_mem_children hitem hd
          cases heq

end Forest

/-! ### Walks that leave the forest alone -/

/-- Nothing is waiting to disturb the walk, the forest is `F`, and it was at every step. -/
structure WalkState.IsStill (st : WalkState) (F : Forest) : Prop where
  /-- The state is quiet. -/
  quiet : st.IsQuiet F
  /-- The forest at the steps so far. -/
  steps : ∀ step ∈ st.trace, step.forest = F

namespace Walk

variable {F : Forest} {α β : Type}

theorem isStill_put {st : WalkState} (hst : st.IsStill F) (piece : Piece) :
    ((putPiece piece).run.run st).2.IsStill F := by
  refine ⟨⟨hst.quiet.forest, hst.quiet.disturbance⟩, fun step hstep => ?_⟩
  rcases List.mem_cons.1 hstep with rfl | hstep
  · exact hst.quiet.forest
  · exact hst.steps step hstep

/-- One walk after another. -/
theorem isStill_bind {walk : Walk α} {next : α → Walk β} {st : WalkState}
    (h : (walk.run.run st).2.IsStill F)
    (h' : ∀ a mid, walk.run.run st = (.ok a, mid) → mid.IsStill F →
      ((next a).run.run mid).2.IsStill F) :
    ((walk >>= next).run.run st).2.IsStill F :=
  Outcome.of_run_bind (I := fun st : WalkState => st.IsStill F) h h'

/-- A plain walk leaves the forest alone in all its steps. -/
theorem IsPlain.isStill {walk : Walk α} (h : IsPlain walk) {st : WalkState} (hst : st.IsStill F) :
    (walk.run.run st).2.IsStill F := by
  refine h.invariant (I := (·.IsStill F))
    (fun key st hst => ⟨isQuiet_afterQuestion key hst.quiet, ?_⟩)
    (fun s _ hst => isStill_put hst (.text s)) hst
  rw [trace_afterQuestion]
  exact hst.steps

theorem isStill_putMark {st : WalkState} (hst : st.IsStill F) (wanted : Bool) :
    ((Writer.putMark wanted).run.run st).2.IsStill F := by
  cases wanted with
  | true => exact isStill_put hst .mark
  | false => exact hst

/-- A completion that finds nothing to do leaves the forest alone. -/
theorem isStill_complete {element : NodeId} {target : Option NodeId} {n : Nat}
    (h : F.ensureDeclared element target true = (F, .ok n)) {st : WalkState} (hst : st.IsStill F) :
    ((complete element target).run.run st).2.IsStill F := by
  refine isStill_bind hst fun G mid hrun hmid => ?_
  rw [run_forest, hst.quiet.forest] at hrun
  obtain ⟨hG, rfl⟩ := Prod.mk.inj hrun
  obtain rfl := Except.ok.inj hG
  rw [h]
  exact ⟨⟨rfl, hst.quiet.disturbance⟩, hst.steps⟩

end Walk

/-! ### What becomes of the forest -/

namespace OutputBuffer

/-- The forest that is reported when a sink fails is that of one of the steps. -/
theorem exists_step_of_deliver {b c : OutputBuffer} {steps : List Step} {fault : SinkFault}
    {G : Forest} (h : b.deliver steps = (c, some (fault, G))) :
    ∃ step ∈ steps, step.forest = G := by
  induction steps generalizing b with
  | nil => cases h
  | cons step steps ih =>
      rw [deliver] at h
      split at h
      · obtain ⟨found, hmem, hfound⟩ := ih h
        exact ⟨found, List.mem_cons_of_mem step hmem, hfound⟩
      · obtain ⟨-, hsome⟩ := Prod.mk.inj h
        obtain ⟨-, hforest⟩ := Prod.mk.inj (Option.some.inj hsome)
        exact ⟨step, List.mem_cons_self, hforest⟩

end OutputBuffer

namespace Writer

open Walk

variable {W : Writer} {F : Forest}

/-- Whatever the sink makes of a walk that leaves the forest alone, the forest is as it was. -/
theorem forest_save_of_isStill {walk : Walk Unit} (h : (W.runWalk F walk).2.IsStill F)
    (sink : Sink) : (W.save F walk sink).forest = F := by
  rw [save]
  rcases hrun : W.runWalk F walk with ⟨outcome, st⟩
  rw [hrun] at h
  dsimp only
  split
  · rename_i b fault G hdeliver
    obtain ⟨step, hstep, rfl⟩ := OutputBuffer.exists_step_of_deliver hdeliver
    exact h.steps step (List.mem_reverse.1 hstep)
  · exact h.quiet.forest
  · split <;> exact h.quiet.forest

/-- The walk that writes a document whose element lacks no declaration leaves the forest alone. -/
theorem isStill_documentWalk {id : NodeId}
    (h : ∀ root, F.root? id = some root → ∀ target, ∃ n,
      F.ensureDeclared root target true = (F, .ok n)) (mark : Bool) {st : WalkState}
    (hst : st.IsStill F) : ((W.documentWalk id mark).run.run st).2.IsStill F := by
  refine isStill_bind hst fun G st₁ hrun hst₁ => ?_
  rw [run_forest, hst.quiet.forest] at hrun
  obtain rfl := Except.ok.inj (Prod.mk.inj hrun).1
  refine isStill_bind ((isBlind_checkDoctype _).isPlain.isStill hst₁) fun _ st₂ _ hst₂ => ?_
  refine isStill_bind ((isBlind_escaperFor _).isPlain.isStill hst₂) fun escaper st₃ _ hst₃ => ?_
  have hbody := isPlain_body (W := W) escaper (F.declaration id) (F.doctype? id) (F.children id)
  have hrest : ∀ {st : WalkState}, st.IsStill F →
      ((putMark mark >>= fun _ => _).run.run st).2.IsStill F := fun hst =>
    isStill_bind (isStill_putMark hst mark) fun _ _ _ hst' => hbody.isStill hst'
  split
  · rename_i root hr
    refine isStill_bind ?_ fun _ st₄ _ hst₄ => hrest hst₄
    rw [completeFrom]
    split
    · obtain ⟨n, hn⟩ := h root hr (if W.settings.declareAtTop then some root else none)
      exact isStill_complete hn hst₃
    · exact hst₃
  · exact hrest hst₃

end Writer

namespace Document

open Writer

/-! ### Documents that have been read -/

/-- In the tree of a document that has been read every name has the namespace that the nearest
declaration says, so nothing is undeclared; completion adds nothing, and whatever becomes of writing
the document, its tree is as it was. -/
theorem unchanged_of_parse {find : Resolver} {x : Text} {doc : Document}
    (h : parseWith find x = .ok doc)
    (hx : ∀ event ∈ (Event.scan (Text.unifyLineEndings x)).1, event.DeclaresNoXmlns)
    {F G : Forest} {id : NodeId} (hG : F.plant doc = (G, id)) :
    (∀ e f, G.Below id e → G.frame? e = some f →
      (G.scope e).undeclared = [] ∧ ∀ name ∈ f.prefixedNames, (G.scope e).Explains name) ∧
    (∀ root, G.root? id = some root → ∀ target deep,
      G.ensureDeclared root target deep = (G, .ok 0)) ∧
    ∀ settings profile, ((quiet settings profile).documentText G id).1 = G ∧
      ∀ sink, ((quiet settings profile).saveDocument G id sink).forest = G := by
  obtain ⟨subsets, h⟩ := exists_parse_of_parseWith h
  have hs := isSound_parse h hx
  have hplanted : G.IsPlanted id doc := by
    have hplanted := F.isPlanted_plant doc
    rwa [hG] at hplanted
  have hensure : ∀ root, G.root? id = some root → ∀ target deep,
      G.ensureDeclared root target deep = (G, .ok 0) := by
    intro root hr target deep
    obtain ⟨name, attributes, content, hmem, hroot⟩ := hplanted.holdsAt_root? hr
    exact Forest.ensureDeclared_of_holdsAt hroot (hs.content _ hmem) hplanted.isElement target deep
  have hwalk : ∀ settings profile mark,
      ((quiet settings profile).runWalk G ((quiet settings profile).documentWalk id mark)).2.IsStill
        G := by
    intro settings profile mark
    refine isStill_documentWalk (fun root hr target => ⟨0, hensure root hr target true⟩) mark ?_
    exact ⟨⟨rfl, rfl⟩, nofun⟩
  refine ⟨fun e f hd hf => ?_, hensure, fun settings profile => ⟨?_, fun sink => ?_⟩⟩
  · have he := Forest.isElement_of_frame? hf
    have hread := hplanted.isRead hs hd he
    exact ⟨(Forest.undeclared_scope_eq_nil_iff he).2 hread.isComplete, fun name =>
      hread.explains hf⟩
  · exact (hwalk settings profile false).quiet.forest
  · exact forest_save_of_isStill (hwalk settings profile _) sink

/-! ### A document in which prefixes are declared again -/

/-- A text in which prefixes are declared, declared again and taken back, and which uses an entity
from outside. -/
def redeclaringText : Text :=
  ("<!DOCTYPE a SYSTEM \"s\"><a xmlns=\"u\" xmlns:p=\"v\"><p:b p:k=\"&e;\" xmlns:p=\"w\"/>" ++
    "<c xmlns=\"\"><p:d/></c></a>").toList

/-- Definitions in which an entity stands for their system identifier. -/
def namingResolver : Resolver := fun _ systemId =>
  some ("<!ENTITY e \"".toList ++ systemId ++ "\">".toList)

/-- A declaration of a namespace. -/
def namespaceDeclaration (nsPrefix : Option Text) (localName : String) (uri : Text) : Attribute :=
  ⟨⟨some xmlnsUri, nsPrefix, localName.toList⟩, uri⟩

/-- The document that is read from it. -/
def redeclaringDocument : Document :=
  ⟨.none, [.doctype ⟨['a'], none, some ['s'], none, [⟨['e'], .internal ['s']⟩]⟩,
    .element ⟨some ['u'], none, ['a']⟩
      [namespaceDeclaration none "xmlns" ['u'], namespaceDeclaration (some xmlnsPrefix) "p" ['v']]
      [.element ⟨some ['w'], some ['p'], ['b']⟩
        [⟨⟨some ['w'], some ['p'], ['k']⟩, ['s']⟩, namespaceDeclaration (some xmlnsPrefix) "p" ['w']] [],
      .element ⟨none, none, ['c']⟩ [namespaceDeclaration none "xmlns" []]
        [.element ⟨some ['v'], some ['p'], ['d']⟩ [] []]]]⟩

/-- The forest in which it is planted. -/
abbrev redeclaringForest : Forest :=
  (Forest.empty.plant redeclaringDocument).1

theorem unchanged_redeclaringText :
    parseWith namingResolver redeclaringText = .ok redeclaringDocument ∧
      (∀ event ∈ (Event.scan (Text.unifyLineEndings redeclaringText)).1, event.DeclaresNoXmlns) ∧
      (∀ e f, redeclaringForest.Below 0 e → redeclaringForest.frame? e = some f →
        (redeclaringForest.scope e).undeclared = [] ∧
          ∀ name ∈ f.prefixedNames, (redeclaringForest.scope e).Explains name) ∧
      (∀ root, redeclaringForest.root? 0 = some root → ∀ target deep,
        redeclaringForest.ensureDeclared root target deep = (redeclaringForest, .ok 0)) ∧
      ∀ settings profile,
        ((quiet settings profile).documentText redeclaringForest 0).1 = redeclaringForest ∧
          ∀ sink, ((quiet settings profile).saveDocument redeclaringForest 0 sink).forest =
            redeclaringForest := by
  have hread : parseWith namingResolver redeclaringText = .ok redeclaringDocument := by
    with_unfolding_all rfl
  have hx : ∀ event ∈ (Event.scan (Text.unifyLineEndings redeclaringText)).1,
      event.DeclaresNoXmlns := by
    decide +kernel
  exact ⟨hread, hx, unchanged_of_parse hread hx rfl⟩

end Document

end XmlScribe
