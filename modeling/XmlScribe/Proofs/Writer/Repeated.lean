/-
**Writing a document a second time.**

Writing a document adds to it the declarations that it lacks, so the second time another tree is
written.  If every element uses each prefix for one namespace, nothing is missing the second time,
or what is added is what is there already; then the same text is written.  Otherwise some element
has another declaration afterwards.

Main results:

* `Writer.CompletesTo.again_iff` — when a second completion leaves the nodes as they are;
* `Writer.documentText_again_iff` — when a document is written as the same text a second time, and
  the tree stays as it is.
-/

import XmlScribe.Proofs.Forest.Items
import XmlScribe.Proofs.Forest.Proper
import XmlScribe.Proofs.Namespace.Clashing
import XmlScribe.Proofs.Writer.Completed

set_option autoImplicit false

namespace XmlScribe

namespace Forest

variable {F : Forest} {doc root : NodeId}

section Root

variable (hF : F.IsWellLinked) (hdoc : F.type? doc = some .document)
  (hr : F.root? doc = some root)
include hF hdoc hr

/-- The document element has no elements around it. -/
theorem isTop_of_root? : F.IsTop root := by
  have hmem : root ∈ F.children doc := List.mem_of_find?_eq_some hr
  refine ⟨List.find?_some hr, fun p hp => ?_⟩
  obtain rfl := Option.some.inj ((hF.mem_children_iff.1 hmem).symm.trans hp)
  exact isElement_eq_false_of_document hdoc

/-- The document element belongs to the document, and may be changed if that may. -/
theorem isReadOnly_of_root? (hw : F.isReadOnly doc = false) :
    (F.owner? root).isSome = true ∧ F.isReadOnly root = false := by
  have hmem : root ∈ F.children doc := List.mem_of_find?_eq_some hr
  have howner : F.owner? root = some doc := by rw [hF.owner_of_mem hmem, if_pos hdoc]
  refine ⟨by rw [howner]; rfl, ?_⟩
  obtain ⟨f, hf⟩ := exists_frame_of_isElement (List.find?_some hr)
  obtain ⟨name, cells, hpayload, -⟩ := exists_payload_of_frame? hf
  rw [isReadOnly, Bool.or_eq_false_iff] at hw
  rw [isReadOnly, howner, Bool.or_eq_false_iff]
  exact ⟨by simp only [hpayload], hw.1⟩

/-- The elements below the document element are those below the document. -/
theorem below_root?_iff {d : NodeId} {f : Frame} (hf : F.frame? d = some f) :
    F.Below root d ↔ F.Below doc d := by
  constructor
  · exact (Below.child .refl (List.mem_of_find?_eq_some hr)).trans
  · intro hd
    obtain ⟨e, he, -, -, hed⟩ := hF.exists_root hdoc hd (isElement_of_frame? hf)
    obtain rfl := Option.some.inj (hr.symm.trans he)
    exact hed

end Root

/-- Every element of the document uses each prefix for one namespace. -/
def IsConsistentBelow (F : Forest) (doc : NodeId) : Prop :=
  ∀ d f, F.Below doc d → F.frame? d = some f → f.IsConsistent

theorem isConsistentBelow_of_forall_lt (h : ∀ d < F.size, ∀ f ∈ F.frame? d, f.IsConsistent) :
    F.IsConsistentBelow doc := by
  intro d f _ hf
  exact h d (lt_size_of_isElement (isElement_of_frame? hf)) f hf

end Forest

namespace Writer

open Forest Walk

variable {W : Writer} {F G : Forest} {doc : NodeId}

/-- After a completion, a second one leaves all nodes as they are exactly if every element uses each
prefix for one namespace, or nothing is to be completed. -/
theorem CompletesTo.again_iff (h : W.CompletesTo F doc G) (hF : F.IsWellLinked)
    (hdoc : F.type? doc = some .document) (hw : F.isReadOnly doc = false)
    (hp : ∀ {d f}, F.frame? d = some f → f.IsProper) :
    (∃ H, W.CompletesTo G doc H ∧ G.SameNodes H) ↔
      (W.settings.completeNamespaces = true → F.IsConsistentBelow doc) := by
  have hroot := (redeclares_of_completesTo h).same.root?_eq doc
  by_cases hnone : F.root? doc = none ∨ W.settings.completeNamespaces = false
  · have hsame : ∃ H, W.CompletesTo G doc H ∧ G.SameNodes H :=
      ⟨G, (completesTo_iff_eq (hroot ▸ hnone)).2 rfl, .refl G _⟩
    refine iff_of_true hsame fun hon d f hd hf => ?_
    obtain ⟨e, he, -⟩ := hF.exists_root hdoc hd (isElement_of_frame? hf)
    simp [he, hon] at hnone
  · obtain ⟨hr, hon⟩ := not_or.1 hnone
    have hon : W.settings.completeNamespaces = true := by simpa using hon
    obtain ⟨root, hr⟩ := Option.ne_none_iff_exists'.1 hr
    obtain ⟨n, hG⟩ := (completesTo_iff hr hon).1 h
    obtain ⟨howner, hwritable⟩ := isReadOnly_of_root? hF hdoc hr hw
    have htarget : (if W.settings.declareAtTop then some root else none) = none ∨
        (if W.settings.declareAtTop then some root else none) = some root := by
      split
      · exact Or.inr rfl
      · exact Or.inl rfl
    have hiff := ensureDeclared_again_iff hF (isTop_of_root? hF hdoc hr) (fun _ _ _ hf => hp hf)
      howner hwritable htarget hG
    have hbelow : F.IsConsistentBelow doc ↔
        ∀ d f, F.Below root d → F.frame? d = some f → f.IsConsistent :=
      forall₂_congr fun d f => ⟨fun hall hd hf => hall ((below_root?_iff hF hdoc hr hf).1 hd) hf,
        fun hall hd hf => hall ((below_root?_iff hF hdoc hr hf).2 hd) hf⟩
    simp only [hon, forall_const, hbelow, ← hiff, completesTo_iff (hroot.trans hr) hon]
    exact ⟨fun ⟨H, ⟨m, hH⟩, hsame⟩ => ⟨H, m, hH, hsame⟩,
      fun ⟨H, m, hH, hsame⟩ => ⟨H, ⟨m, hH⟩, hsame⟩⟩

/-- **A document is written a second time.**  Whatever names and attributes it has been put together
from: if it is written as a text, then it is written as the same text once more, and the tree stays
as it is, exactly if every element uses each prefix for one namespace, or the declarations that are
missing are not to be added. -/
theorem documentText_again_iff {changes : List Change} {doc : NodeId}
    (hdoc : (empty.run changes).type? doc = some .document)
    (hw : (empty.run changes).isReadOnly doc = false) {settings : Settings} {profile : Profile}
    {G : Forest} {s : Text}
    (hs : (quiet settings profile).documentText (empty.run changes) doc = (G, .ok s)) :
    (∃ H, (quiet settings profile).documentText G doc = (H, .ok s) ∧ G.SameNodes H) ↔
      (settings.completeNamespaces = true → (empty.run changes).IsConsistentBelow doc) := by
  have hF := isWellLinked_empty.run changes
  have hproper := @isProper_run changes
  generalize empty.run changes = F at *
  obtain ⟨table, G', ht, hG, hs'⟩ := exists_completesTo (congrArg Prod.snd hs)
  obtain ⟨rfl, -⟩ := Prod.mk.inj (hs.symm.trans hs')
  refine Iff.trans ⟨?_, ?_⟩ (hG.again_iff hF hdoc hw hproper)
  · rintro ⟨H, hH, hsame⟩
    obtain ⟨_, H', -, hcompletes, hH'⟩ := exists_completesTo (congrArg Prod.snd hH)
    obtain ⟨rfl, -⟩ := Prod.mk.inj (hH.symm.trans hH')
    exact ⟨H, hcompletes, hsame⟩
  · -- the second time the same items are written, of a document with the same prolog
    rintro ⟨H, hcompletes, hagain⟩
    obtain ⟨items, hitems, -, hkinds, hsize⟩ := exists_holds_of_completesTo hG
      (hF.holds_toDocument hdoc) (fun _ => hF.mayHold_toDocument hdoc) (hF.count_toDocument_lt hdoc)
    have hwritten := (documentText_eq_iff ht hG hitems hkinds hsize).1 hs
    have hsame := (redeclares_of_completesTo hG).same
    have hitems' : H.Holds doc doc (G.children doc) items :=
      hsame.children_eq doc ▸ hitems.congr fun id => hagain.get?_eq not_false
    refine ⟨H, ?_, hagain⟩
    rw [documentText_eq_iff (hsame.doctype?_eq doc ▸ ht) hcompletes hitems' hkinds
      (hagain.size_eq.symm ▸ hsize), hsame.doctype?_eq, hsame.declaration_eq]
    exact hwritten

/-! ### A tree that is written as the same text again, and one that is not -/

/-- A tree with an element in the default namespace that has the attribute `xmlns:xmlns`, and another
one with an attribute of the same prefix. -/
def settling : List Change :=
  [.addDocument, .createElement 0 ['r'], .createElementNs 0 (some ['w']) ['b'],
    .setAttributeNs 2 (some xmlnsUri) Attribute.xmlnsXmlns ['z'],
    .createElementNs 0 (some ['u']) "p:e".toList, .setAttributeNs 3 (some ['u']) "p:k".toList [],
    .appendChild 0 1, .appendChild 1 2, .appendChild 1 3]

/-- Its text.  The declaration of the default namespace overwrites the attribute of `b`, each
time anew. -/
def settlingText : Text :=
  "<?xml version=\"1.0\" encoding=\"UTF-8\"?>\n".toList ++
    "<r xmlns:p=\"u\"><b xmlns:xmlns=\"w\"/><p:e p:k=\"\"/></r>\n".toList

theorem documentText_settling :
    ((quiet .standard .everyBlock).documentText (empty.run settling) 0).2 = .ok settlingText := by
  decide +kernel

theorem isConsistentBelow_settling : (empty.run settling).IsConsistentBelow 0 :=
  isConsistentBelow_of_forall_lt (by decide)

theorem documentText_again_settling :
    ∃ H, (quiet .standard .everyBlock).documentText
        ((quiet .standard .everyBlock).documentText (empty.run settling) 0).1 0 =
          (H, .ok settlingText) ∧
      ((quiet .standard .everyBlock).documentText (empty.run settling) 0).1.SameNodes H :=
  (documentText_again_iff (by decide) (by decide) (Prod.ext rfl documentText_settling)).2
    fun _ => isConsistentBelow_settling

/-- An element and an attribute of it that have the same prefix and lie in different namespaces. -/
def clashing : List Change :=
  [.addDocument, .createElementNs 0 (some "urn:1".toList) "p:e".toList,
    .setAttributeNs 1 (some "urn:2".toList) "p:a".toList ['v'], .appendChild 0 1]

/-- The name of the element. -/
def clashingName : QName :=
  ⟨some "urn:1".toList, some ['p'], ['e']⟩

/-- The attribute, and the declaration of a namespace for the prefix. -/
def clashingAttributes (uri : Text) : List Attribute :=
  [⟨⟨some "urn:2".toList, some ['p'], ['a']⟩, ['v']⟩,
    ⟨⟨some xmlnsUri, some xmlnsPrefix, ['p']⟩, uri⟩]

/-- The text of the document with this declaration. -/
def clashingText (uri : Text) : Text :=
  "<?xml version=\"1.0\" encoding=\"UTF-8\"?>\n<p:e xmlns:p=\"".toList ++ uri ++
    "\" p:a=\"v\"/>\n".toList

/-- The forest with what is missing below the element declared. -/
def completed (F : Forest) : Forest :=
  (F.ensureDeclared 1 (some 1) true).1

theorem sorted_pair_of_not_precedes {profile : Profile} {key : ElementKey} {a b : Attribute}
    (h : Attribute.precedes profile key a b = false) :
    Attribute.sorted profile key [a, b] = [b, a] := by
  simp [Attribute.sorted, List.mergeSort, List.MergeSort.Internal.splitInTwo, h]

/-- The tree is written with the declaration that completion has left. -/
theorem documentText_clashing {F : Forest} {uri : Text} (hroot : F.root? 0 = some 1)
    (hcompletes : ∃ n, (F.ensureDeclared 1 (some 1) true).2 = .ok n)
    (hchildren : F.children 0 = [1]) (hdoctype : F.doctype? 0 = none)
    (hdecl : F.declaration 0 = .none) (hget : (completed F).get? 1 = some
      ⟨.element clashingName (numberCells 0 (clashingAttributes uri)), some 0, some 0, []⟩)
    (huri : uri = "urn:1".toList ∨ uri = "urn:2".toList) :
    (quiet .standard .everyBlock).documentText F 0 = (completed F, .ok (clashingText uri)) := by
  have hG : (quiet .standard .everyBlock).CompletesTo F 0 (completed F) := by
    obtain ⟨n, hn⟩ := hcompletes
    exact (completesTo_iff hroot rfl).2 ⟨n, Prod.ext rfl hn⟩
  have hitems : (completed F).Holds 0 0 (F.children 0)
      [.element clashingName (clashingAttributes uri) []] := by
    rw [hchildren]
    exact ⟨⟨_, _, map_attr_numberCells 0 _, hget, trivial⟩, trivial⟩
  have hsorted : Attribute.sorted .everyBlock (keyOf clashingName) (clashingAttributes uri) =
      (clashingAttributes uri).reverse := sorted_pair_of_not_precedes rfl
  have hencodes : ∀ s, (quiet .standard .everyBlock).Encodes s := fun _ _ _ => rfl
  have ht : (quiet .standard .everyBlock).entityTable (F.doctype? 0) = .ok ⟨[], false⟩ := by
    rw [hdoctype]
    with_unfolding_all rfl
  refine (documentText_eq_iff ht hG hitems (by simp; rfl) ?_).2 ⟨⟨?_, ?_⟩, ?_⟩
  · exact Nat.succ_le_succ (Nat.zero_le _)
  · rw [hdoctype]
    nofun
  · exact ⟨⟨⟨hencodes _, fun _ _ => hencodes _⟩, trivial⟩, trivial⟩
  · rw [hdoctype, hdecl]
    simp only [eventsWith, bodyFragments, outside, outsideAt, fragmentsAt_element, spellAttributes,
      Item.joined, Item.join, Item.joinedAt]
    rw [show (quiet .standard .everyBlock).profile = .everyBlock from rfl, hsorted]
    rcases huri with rfl | rfl <;> with_unfolding_all rfl

/-- A tree that is written as another text the second time. -/
theorem documentText_again_ne_clashing :
    (empty.run clashing).type? 0 = some .document ∧ (empty.run clashing).isReadOnly 0 = false ∧
      ((quiet .standard .everyBlock).documentText (empty.run clashing) 0).2 =
        .ok (clashingText "urn:2".toList) ∧
      ((quiet .standard .everyBlock).documentText
        ((quiet .standard .everyBlock).documentText (empty.run clashing) 0).1 0).2 =
          .ok (clashingText "urn:1".toList) ∧
      clashingText "urn:1".toList ≠ clashingText "urn:2".toList := by
  have hfirst : (quiet .standard .everyBlock).documentText (empty.run clashing) 0 =
      (completed (empty.run clashing), .ok (clashingText "urn:2".toList)) :=
    documentText_clashing (by decide) ⟨2, by decide⟩ (by decide) (by decide)
      (by decide) (by with_unfolding_all rfl) (Or.inr rfl)
  have hsecond : (quiet .standard .everyBlock).documentText (completed (empty.run clashing)) 0 =
      (completed (completed (empty.run clashing)), .ok (clashingText "urn:1".toList)) :=
    documentText_clashing (by decide) ⟨1, by decide⟩ (by decide) (by decide)
      (by decide) (by with_unfolding_all rfl) (Or.inl rfl)
  rw [hfirst]
  exact ⟨by decide, by decide, rfl, by rw [hsecond], by decide⟩

end Writer

end XmlScribe
