/-
**Attributes that are told apart.**

An attribute is set by its namespace and local name, or by the name that it is written with, and
removed by the latter.  However these ways are mixed, an element never has two attributes with the
same namespace and local name.  A name that lies outside all namespaces has no prefix, so the name
that is written and its namespace settle the whole name.

Main definitions:

* `Attribute.expandedName` — the namespace and the local name of an attribute;
* `Attribute.AreDistinct` — the names are proper, and no two of them have the same expanded name.

Main results:

* `QName.IsProper.eq_of_text` — what a name is written as and its namespace settle it;
* `Attribute.AreDistinct.setExpanded`, `Attribute.AreDistinct.setPlain` — setting an attribute in
  one way or the other leaves distinct attributes;
* `Forest.carries_isDistinct_run`, `Forest.carries_isDistinct_ensureDeclared` — so do any calls, and
  the completion of declarations after them.
-/

import XmlScribe.Proofs.Forest.Proper
import XmlScribe.Proofs.Namespace.Added

set_option autoImplicit false

namespace XmlScribe

/-! ### Names -/

namespace QName

/-- A name outside all namespaces has no prefix. -/
theorem IsProper.eq_plain {q : QName} (h : q.IsProper) (hn : q.namespaceUri = none) :
    q = plain q.text := by
  rcases h with hmade | ⟨name, rfl⟩
  · obtain ⟨uri, pfx, rest⟩ := q
    obtain rfl : uri = none := hn
    cases pfx with
    | none => rfl
    | some p =>
        obtain ⟨-, -, -, hm⟩ := hmade.parts rfl
        cases hm
  · rfl

/-- What a name is written as and its namespace settle the name. -/
theorem IsProper.eq_of_text {q r : QName} (hq : q.IsProper) (hr : r.IsProper)
    (ht : q.text = r.text) (hn : q.namespaceUri = r.namespaceUri) : q = r := by
  rcases hq with hqm | ⟨name, rfl⟩
  · rcases hr with hrm | ⟨name, rfl⟩
    · have hmade : ofText q.namespaceUri q.text = .ok q := hqm
      rw [hn, ht] at hmade
      exact Except.ok.inj (hmade.symm.trans hrm)
    · rw [IsProper.eq_plain (.inl hqm) hn, ht]
      rfl
  · rw [hr.eq_plain hn.symm, ← ht]
    rfl

end QName

/-! ### Lists of attributes -/

namespace Attribute

/-- The namespace and the local name. -/
def expandedName (a : Attribute) : Option Text × Text :=
  (a.name.namespaceUri, a.name.localName)

theorem hasExpandedName_iff {a : Attribute} {uri : Option Text} {localName : Text} :
    a.hasExpandedName uri localName = true ↔ a.expandedName = (uri, localName) := by
  simp [hasExpandedName, expandedName]

/-- Keys stay distinct if the change keeps them and an item with a new key is added only. -/
theorem nodup_map_put {α κ : Type} {key : α → κ} {same : α → Bool} {change : α → α} {new : α}
    {l : List α} (hl : (l.map key).Nodup) (hchange : ∀ a, key (change a) = key a)
    (hnew : (∀ a ∈ l, same a = false) → ∀ a ∈ l, key a ≠ key new) :
    ((put same change new l).map key).Nodup := by
  rcases put_cases same change new l with ⟨hs, he⟩ | ⟨before, a, after, rfl, -, he⟩
  · rw [he, List.map_append, List.map_singleton, ← List.concat_eq_append]
    refine hl.concat fun hmem => ?_
    obtain ⟨a, ha, hk⟩ := List.mem_map.1 hmem
    exact hnew hs a ha hk
  · rw [he]
    simpa [hchange] using hl

end Attribute

/-- The names of the attributes are proper, and no two of them have the same namespace and local
name. -/
structure Attribute.AreDistinct (attributes : List Attribute) : Prop where
  /-- The names are proper. -/
  proper : ∀ a ∈ attributes, a.name.IsProper
  /-- The expanded names are distinct. -/
  nodup : (attributes.map Attribute.expandedName).Nodup

namespace Attribute.AreDistinct

theorem nil : AreDistinct [] :=
  ⟨by simp, by simp⟩

variable {attributes : List Attribute} (h : AreDistinct attributes)
include h

theorem sublist {others : List Attribute} (hs : others.Sublist attributes) : AreDistinct others :=
  ⟨fun a ha => h.proper a (hs.subset ha), h.nodup.sublist (hs.map expandedName)⟩

theorem perm {others : List Attribute} (hp : others.Perm attributes) : AreDistinct others :=
  ⟨fun a ha => h.proper a (hp.mem_iff.1 ha), (hp.map expandedName).nodup_iff.2 h.nodup⟩

/-- Only the names count. -/
theorem of_names {others : List Attribute} (hn : others.map name = attributes.map name) :
    AreDistinct others := by
  refine ⟨fun a ha => ?_, ?_⟩
  · have hmem : a.name ∈ attributes.map name := hn ▸ List.mem_map_of_mem ha
    obtain ⟨old, ho, he⟩ := List.mem_map.1 hmem
    exact he ▸ h.proper old ho
  · have hkey : expandedName = (fun q : QName => (q.namespaceUri, q.localName)) ∘ name := rfl
    rw [hkey, ← List.map_map, hn, List.map_map]
    exact h.nodup

/-- Setting an attribute that is told by namespace and local name. -/
theorem setExpanded {name : QName} (hname : name.IsProper) (value : Text) :
    AreDistinct (setExpanded name value attributes) := by
  refine ⟨forall_mem_put h.proper (fun _ ha => ha) hname, ?_⟩
  refine nodup_map_put h.nodup (fun _ => rfl) fun hs a ha hk => ?_
  exact Bool.false_ne_true ((hs a ha).symm.trans (hasExpandedName_iff.2 hk))

/-- Setting an attribute that is told by the name that it is written with.  An attribute outside
all namespaces with this local name is written with this name. -/
theorem setPlain (name value : Text) : AreDistinct (setPlain name value attributes) := by
  refine ⟨forall_mem_put h.proper (fun _ ha => ha) (QName.isProper_plain name), ?_⟩
  refine nodup_map_put h.nodup (fun _ => rfl) fun hs a ha hk => ?_
  obtain ⟨hn, hl⟩ := Prod.mk.inj hk
  have hq := (h.proper a ha).eq_plain hn
  have ht : a.name.text = name := (congrArg QName.localName hq).symm.trans hl
  exact Bool.false_ne_true ((hs a ha).symm.trans (beq_iff_eq.2 ht))

/-- Attributes with the same namespace that are written with the same name are one. -/
theorem eq_of_text {a b : Attribute} (ha : a ∈ attributes) (hb : b ∈ attributes)
    (ht : a.name.text = b.name.text) (hn : a.name.namespaceUri = b.name.namespaceUri) : a = b := by
  have hq := (h.proper a ha).eq_of_text (h.proper b hb) ht hn
  exact List.inj_on_of_nodup_map h.nodup ha hb (by rw [expandedName, expandedName, hq])

end Attribute.AreDistinct

/-! ### Elements -/

/-- Where an attribute of a node is set, the attributes without their serial numbers change
alike. -/
theorem Forest.map_attr_put (same : Attribute → Bool) (value : Text) (new : AttrCell)
    (cells : List AttrCell) :
    (Attribute.put (fun cell => same cell.attr) (withValue value) new cells).map AttrCell.attr =
      Attribute.put same ({ · with value := value }) new.attr (cells.map AttrCell.attr) :=
  map_put AttrCell.attr same _ (fun _ => rfl) (fun _ => rfl) new cells

/-- The attributes of a node are distinct, if it has any. -/
def Payload.IsDistinct : Payload → Prop
  | element _ cells => Attribute.AreDistinct (cells.map AttrCell.attr)
  | _ => True

/-- All calls leave distinct attributes. -/
theorem Payload.isKept_isDistinct : IsKept (fun _ _ => True) IsDistinct where
  other payload h := by
    cases payload with
    | element name cells => exact absurd rfl h
    | _ => trivial
  plain _ := .nil
  made _ := .nil
  putExpanded serial value hq _ h := by
    rw [IsDistinct, Forest.map_attr_put]
    exact h.setExpanded (QName.isProper_of_ofText hq) value
  putPlain {text _ _} serial value _ h := by
    rw [IsDistinct, Forest.map_attr_put]
    exact h.setPlain text value
  erase _ h := h.sublist (List.eraseP_sublist.map _)
  revalue {_ cells} serial value h := by
    refine h.of_names ?_
    rw [List.map_map, List.map_map, List.map_map]
    refine List.map_congr_left fun cell _ => ?_
    rw [Function.comp_apply, Function.comp_apply, Function.comp_apply, Forest.withValueOf]
    split
    · rfl
    · rfl

namespace Forest

/-- Distinct attributes of an element. -/
theorem areDistinct_of_frame? {F : Forest} (hF : F.Carries Payload.IsDistinct) {d : NodeId}
    {f : Frame} (h : F.frame? d = some f) : Attribute.AreDistinct f.attributes := by
  obtain ⟨name, cells, hp, rfl⟩ := exists_payload_of_frame? h
  exact hF d _ hp

/-- After any calls the attributes of every element are distinct. -/
theorem carries_isDistinct_run (changes : List Change) :
    (empty.run changes).Carries Payload.IsDistinct :=
  carries_empty.run Payload.isKept_isDistinct changes

/-- Completion adds declarations that are told apart from what is there. -/
theorem carries_isDistinct_ensureDeclared {F : Forest} (hF : F.Carries Payload.IsDistinct)
    (element : NodeId) (target : Option NodeId) (deep : Bool) :
    (F.ensureDeclared element target deep).1.Carries Payload.IsDistinct :=
  ensureElements_invariant
    (fun hI hG => Carries.declare Payload.isKept_isDistinct hI hG) target _ hF

end Forest

end XmlScribe
