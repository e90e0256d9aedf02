/-
**The elements of a document and their start tags.**

Every start tag becomes one element, in the order of the tags.  The tag's attributes are set one after
the other; each of them is told apart by namespace and local name, so one that is confused with another
before it changes the value of that one instead of being added.  The element has the attributes of its
tag exactly if no two of them are confused once their names have been resolved.

Main definitions:

* `ElementHead`, `Item.heads` — the elements of some items without what is in them, in order;
* `Builder.AreOwn` — some attributes are those of a tag, one by one;
* `Builder.IsHeadOf` — an element is the one that a tag becomes.

Main results:

* `Attribute.foldl_set_eq_self`, `Attribute.distinct_of_length_foldl_set` — attributes are all kept
  exactly if no two are confused;
* `Builder.isHeadOf_openElement` — the element that a start tag opens;
* `Builder.heads_step_startTag`, `Builder.heads_step_of_ne` — what an event adds to the elements;
* `Document.heads_parse` — the elements of a document are those of its start tags.
-/

import XmlScribe.Proofs.Document.Steps
import XmlScribe.Proofs.Document.Parsed
import XmlScribe.Proofs.Markup.Attributes

set_option autoImplicit false

namespace XmlScribe

open Builder

/-! ### Attributes that are told apart -/

namespace Attribute

variable {a : Attribute} {l : List Attribute}

/-- An attribute whose text is new is confused with none before it, or changes one of them. -/
theorem set_cases (ht : ∀ b ∈ l, b.name.text ≠ a.name.text) :
    (∀ b ∈ l, b.Differs a) ∨ (a.set l).length = l.length := by
  rw [set]
  split
  · rw [setExpanded]
    rcases put_cases (hasExpandedName a.name.namespaceUri a.name.localName)
      ({ · with value := a.value }) ⟨a.name, a.value⟩ l with
      ⟨hfree, -⟩ | ⟨before, b, after, rfl, -, hput⟩
    · refine .inl fun b hb => ⟨ht b hb, ?_⟩
      rintro ⟨-, huri, hlocal⟩
      have hb := hfree b hb
      simp [hasExpandedName, huri, hlocal] at hb
    · rw [hput]
      simp
  · rename_i hnone
    refine .inl fun b hb => ⟨ht b hb, ?_⟩
    rintro ⟨hsome, huri, -⟩
    refine hnone ?_
    rw [← huri]
    exact hsome

/-- Attributes that are told apart are all kept. -/
theorem foldl_set_eq_self {m : Meaning} (hr : ∀ a ∈ l, a.Resolves m) (hd : Distinct l) :
    l.foldl (fun attributes a => a.set attributes) [] = l := by
  induction l using List.reverseRecOn with
  | nil => rfl
  | append_singleton l a ih =>
      have hparts := List.pairwise_append.1 hd
      rw [List.foldl_append, List.foldl_cons, List.foldl_nil,
        ih (fun b hb => hr b (List.mem_append_left _ hb)) hparts.1]
      exact set_eq_append (hr a (by simp)) fun b hb => hparts.2.2 b hb a (by simp)

theorem length_put_le {α : Type} (same : α → Bool) (change : α → α) (new : α) (l : List α) :
    (put same change new l).length ≤ l.length + 1 := by
  rw [length_put]
  split <;> omega

theorem length_set_le (a : Attribute) (l : List Attribute) : (a.set l).length ≤ l.length + 1 := by
  rw [set]
  split
  · exact length_put_le _ _ _ l
  · exact length_put_le _ _ _ l

theorem length_foldl_set_le (l : List Attribute) :
    (l.foldl (fun attributes a => a.set attributes) []).length ≤ l.length := by
  induction l using List.reverseRecOn with
  | nil => exact Nat.le_refl 0
  | append_singleton l a ih =>
      rw [List.foldl_append, List.foldl_cons, List.foldl_nil, List.length_append]
      exact (length_set_le a _).trans (Nat.add_le_add_right ih 1)

/-- If they are all kept, they are told apart. -/
theorem distinct_of_length_foldl_set {m : Meaning} (hr : ∀ a ∈ l, a.Resolves m)
    (ht : (l.map fun a => a.name.text).Nodup)
    (hlength : (l.foldl (fun attributes a => a.set attributes) []).length = l.length) :
    Distinct l := by
  induction l using List.reverseRecOn with
  | nil => exact List.Pairwise.nil
  | append_singleton l a ih =>
      have hr' : ∀ b ∈ l, b.Resolves m := fun b hb => hr b (List.mem_append_left _ hb)
      rw [List.map_append, List.nodup_append] at ht
      rw [List.foldl_append, List.foldl_cons, List.foldl_nil, List.length_append,
        List.length_singleton] at hlength
      -- none of those before was lost, or there would be too few
      have hbefore : (l.foldl (fun attributes a => a.set attributes) []).length = l.length := by
        have hle := length_foldl_set_le l
        have hset := length_set_le a (l.foldl (fun attributes a => a.set attributes) [])
        omega
      have hd := ih hr' ht.1 hbefore
      rw [foldl_set_eq_self hr' hd] at hlength
      refine List.pairwise_append.2 ⟨hd, List.pairwise_singleton _ _, fun b hb c hc => ?_⟩
      rw [List.mem_singleton.1 hc]
      have htext : ∀ b ∈ l, b.name.text ≠ a.name.text := fun b hb =>
        ht.2.2 _ (List.mem_map_of_mem hb) _ (by simp)
      rcases set_cases htext with hfree | hsame
      · exact hfree b hb
      · omega

end Attribute

namespace Builder

variable {b : Builder}

/-! ### The attributes of a tag -/

/-- The attributes are those of a tag: in its order, each with the name that is written there, and with
its own value, in which white space has become spaces and references have been replaced. -/
def AreOwn (b : Builder) (raw : List RawAttribute) (attributes : List Attribute) : Prop :=
  List.Forall₂ (fun r a => a.name.text = r.name ∧ b.expand (normalizeValue r.value) = .ok a.value)
    raw attributes

theorem AreOwn.names {raw : List RawAttribute} {attributes : List Attribute}
    (h : b.AreOwn raw attributes) :
    attributes.map (fun a => a.name.text) = raw.map RawAttribute.name := by
  induction h with
  | nil => rfl
  | cons h _ ih => rw [List.map_cons, List.map_cons, h.1, ih]

/-- The attributes of a tag, with names that are resolved one by one. -/
theorem exists_full_of_foldlM {scopes : List Bindings} {pairs : List (Text × Text)}
    {before attributes : List Attribute}
    (h : pairs.foldlM (addAttribute scopes) before = .ok attributes) :
    ∃ full : List Attribute, pairsOf full = pairs ∧ (∀ a ∈ full, a.Resolves (boundTo? scopes)) ∧
      full.foldl (fun attributes a => a.set attributes) before = attributes := by
  induction pairs generalizing before with
  | nil => exact ⟨[], rfl, by simp, Outcome.pure_eq_ok_iff.1 h⟩
  | cons pair pairs ih =>
      rw [List.foldlM_cons] at h
      obtain ⟨mid, hmid, h⟩ := Outcome.bind_eq_ok_iff.1 h
      obtain ⟨a, rfl, ha, rfl⟩ := exists_of_addAttribute hmid
      obtain ⟨full, rfl, hr, hfull⟩ := ih h
      exact ⟨a :: full, rfl, List.forall_mem_cons.2 ⟨ha, hr⟩, hfull⟩

/-- The values that are read are those of the attributes. -/
theorem areOwn_of_readsAs {raw : List RawAttribute} {full : List Attribute}
    (h : List.Forall₂ b.ReadsAs raw (pairsOf full)) : b.AreOwn raw full := by
  rw [pairsOf, List.forall₂_map_right_iff] at h
  exact h.imp fun _ _ ha => ⟨ha.1.symm, ha.2⟩

end Builder

/-! ### Elements in order -/

/-- The event is a start tag; an empty tag is one that is closed at once. -/
def Event.isStartTag : Event → Bool
  | .startTag _ _ => true
  | _ => false

theorem Event.isStartTag_iff {event : Event} :
    event.isStartTag = true ↔ ∃ content closed, event = .startTag content closed := by
  cases event <;> simp [isStartTag]

/-- An element without what is in it. -/
structure ElementHead where
  /-- The name. -/
  name : QName
  /-- The attributes. -/
  attributes : List Attribute
deriving DecidableEq, Repr

namespace Item

mutual

/-- The elements of an item, each before those in it. -/
def headsAt : Item → List ElementHead
  | element name attributes content => ⟨name, attributes⟩ :: heads content
  | _ => []

/-- The elements of some items. -/
def heads : List Item → List ElementHead
  | [] => []
  | item :: items => headsAt item ++ heads items

end

theorem heads_append (items more : List Item) : heads (items ++ more) = heads items ++ heads more := by
  induction items with
  | nil => rfl
  | cons item items ih => rw [List.cons_append, heads, heads, ih, List.append_assoc]

theorem heads_singleton (item : Item) : heads [item] = item.headsAt :=
  List.append_nil _

end Item

namespace Builder

/-- The open element without what is in it. -/
def headOf (e : OpenElement) : ElementHead :=
  ⟨e.name, e.attributes⟩

/-- The elements that are open and those in them, in order. -/
def headsOpened : List OpenElement → List ElementHead
  | [] => []
  | e :: outer => headsOpened outer ++ headOf e :: Item.heads e.content.reverse

/-- All elements that have been read, in order. -/
def heads (b : Builder) : List ElementHead :=
  Item.heads b.content.reverse ++ headsOpened b.opened

variable {b b' : Builder} {subsets : Subsets}

theorem heads_push (b : Builder) (item : Item) : (b.push item).heads = b.heads ++ item.headsAt := by
  obtain ⟨declaration, entities, opened, content⟩ := b
  cases opened with
  | nil =>
      simp only [push, heads, headsOpened, List.append_nil, List.reverse_cons, Item.heads_append,
        Item.heads_singleton]
  | cons e outer =>
      simp only [push, heads, headsOpened, headOf, List.reverse_cons, Item.heads_append,
        Item.heads_singleton, List.append_assoc, List.cons_append]

theorem heads_append {item : Item} (h : b.append item = .ok b') :
    b'.heads = b.heads ++ item.headsAt := by
  obtain ⟨-, rfl⟩ := append_eq_ok_iff.1 h
  exact b.heads_push item

/-- A start tag adds the element that it opens. -/
theorem heads_step_startTag {content : Text} {closed : Bool}
    (h : step subsets b (.startTag content closed) = .ok b') :
    ∃ e, b.openElement content = .ok e ∧ b'.heads = b.heads ++ [headOf e] := by
  obtain ⟨e, he, h⟩ := Outcome.bind_eq_ok_iff.1 h
  obtain ⟨_, _, -, -, -, -, -, -, hempty⟩ := openElement_eq_ok_iff.1 he
  refine ⟨e, he, ?_⟩
  cases closed with
  | true =>
      obtain rfl := Except.ok.inj h
      rw [heads_push, close, hempty]
      rfl
  | false =>
      obtain rfl := Except.ok.inj h
      simp only [heads, headsOpened, hempty, List.append_assoc]
      rfl

/-- Nothing but a start tag adds an element. -/
theorem heads_step_of_ne {event : Event} (hne : ∀ content closed, event ≠ .startTag content closed)
    (h : step subsets b event = .ok b') : b'.heads = b.heads := by
  cases stepsTo_of_step h with
  | stays => rfl
  | declares _ => rfl
  | @types _ d entities _ _ ha =>
      exact (heads_append (b := { b with entities := b.entities ++ entities }) ha).trans
        (List.append_nil _)
  | opens _ => exact absurd rfl (hne _ _)
  | empties _ => exact absurd rfl (hne _ _)
  | @closes _ e outer ho =>
      rw [heads_push, heads, heads, ho, headsOpened, List.append_assoc]
      rfl
  | text _ _ ha => exact (heads_append ha).trans (List.append_nil _)
  | cdata ha => exact (heads_append ha).trans (List.append_nil _)
  | comment ha => exact (heads_append ha).trans (List.append_nil _)
  | instruction _ ha => exact (heads_append ha).trans (List.append_nil _)

/-! ### Elements and their tags -/

/-- The element is the one that the tag becomes where it is read: it has the tag's name, and exactly
the tag's attributes, unless two of them are confused once their names have been resolved against all
declarations of the tag and those around it. -/
structure IsHeadOf (b : Builder) (content : Text) (head : ElementHead) : Prop where
  /-- The name is the one that is written there. -/
  name : head.name.text = Tag.name content
  /-- The attributes have been read to the end of the tag. -/
  complete : (Tag.attributes content).2 = none
  /-- All attributes are kept, unless two are confused. -/
  attributes_iff : ∃ full, b.AreOwn (Tag.attributes content).1 full ∧
    (∀ a ∈ full, a.Resolves (meaningIn (meaningOf b.opened) full)) ∧
    (b.AreOwn (Tag.attributes content).1 head.attributes ↔ Attribute.Distinct full)

/-- A start tag opens its element. -/
theorem isHeadOf_openElement {content : Text} {e : OpenElement} (h : b.openElement content = .ok e) :
    b.IsHeadOf content (headOf e) := by
  obtain ⟨pairs, uri, hpairs, -, hname, hattributes, -, -, -⟩ := openElement_eq_ok_iff.1 h
  obtain ⟨hcomplete, hvalues⟩ := readAttributes_eq_ok_iff.1 hpairs
  obtain ⟨full, rfl, hr, hfull⟩ := exists_full_of_foldlM hattributes
  have hown := areOwn_of_readsAs hvalues
  rw [boundTo?_cons] at hr
  refine ⟨QName.text_ofText hname, hcomplete, full, hown, hr, fun hkept => ?_, fun hd => ?_⟩
  · refine Attribute.distinct_of_length_foldl_set hr ?_ ?_
    · rw [hown.names]
      exact Tag.nodup_attributes content
    · rw [hfull]
      exact hkept.length_eq.symm.trans hown.length_eq
  · rw [Attribute.foldl_set_eq_self hr hd] at hfull
    rw [headOf, ← hfull]
    exact hown

/-- Some events add as many elements as there are start tags. -/
theorem exists_heads_of_foldlM {events : List Event}
    (h : events.foldlM (step subsets) b = .ok b') :
    ∃ heads, b'.heads = b.heads ++ heads ∧ heads.length = events.countP Event.isStartTag := by
  induction events generalizing b with
  | nil =>
      obtain rfl := Outcome.pure_eq_ok_iff.1 h
      exact ⟨[], (List.append_nil _).symm, rfl⟩
  | cons event events ih =>
      rw [List.foldlM_cons] at h
      obtain ⟨mid, hmid, h⟩ := Outcome.bind_eq_ok_iff.1 h
      obtain ⟨heads, hheads, hlength⟩ := ih h
      rw [List.countP_cons]
      by_cases htag : ∃ content closed, event = .startTag content closed
      · obtain ⟨content, closed, rfl⟩ := htag
        obtain ⟨e, -, hstep⟩ := heads_step_startTag hmid
        exact ⟨headOf e :: heads, by rw [hheads, hstep, List.append_assoc]; rfl,
          by rw [List.length_cons, hlength]; rfl⟩
      · have hne : ∀ content closed, event ≠ .startTag content closed := fun content closed he =>
          htag ⟨content, closed, he⟩
        refine ⟨heads, by rw [hheads, heads_step_of_ne hne hmid], ?_⟩
        rw [hlength, if_neg (by rwa [Event.isStartTag_iff])]
        rfl

/-- The element of a start tag comes after those of the start tags before it. -/
theorem exists_isHeadOf_of_foldlM {before after : List Event} {content : Text} {closed : Bool}
    (h : (before ++ .startTag content closed :: after).foldlM (step subsets) .start = .ok b') :
    ∃ b head, before.foldlM (step subsets) .start = .ok b ∧
      b'.heads[before.countP Event.isStartTag]? = some head ∧ b.IsHeadOf content head := by
  rw [List.foldlM_append] at h
  obtain ⟨b, hb, h⟩ := Outcome.bind_eq_ok_iff.1 h
  rw [List.foldlM_cons] at h
  obtain ⟨mid, hmid, h⟩ := Outcome.bind_eq_ok_iff.1 h
  obtain ⟨earlier, hearlier, hlength⟩ := exists_heads_of_foldlM hb
  obtain ⟨e, he, hstep⟩ := heads_step_startTag hmid
  obtain ⟨later, hlater, -⟩ := exists_heads_of_foldlM h
  refine ⟨b, headOf e, hb, ?_, isHeadOf_openElement he⟩
  rw [hlater, hstep, hearlier, show (start.heads ++ earlier) = earlier from rfl, ← hlength]
  simp

end Builder

namespace Document

/-- Every start tag of a text that is read becomes one element, in order: it has the name and exactly
the attributes of its tag, unless two attributes of the tag are confused. -/
theorem heads_parse {subsets : Subsets} {s : Text} {doc : Document} (h : parse subsets s = .ok doc) :
    (Item.heads doc.content).length =
        (Event.scan (Text.unifyLineEndings s)).1.countP Event.isStartTag ∧
      ∀ before content closed after,
        (Event.scan (Text.unifyLineEndings s)).1 = before ++ .startTag content closed :: after →
        ∃ b head, before.foldlM (step subsets) .start = .ok b ∧
          (Item.heads doc.content)[before.countP Event.isStartTag]? = some head ∧
          b.IsHeadOf content head := by
  rw [parse] at h
  dsimp only at h
  obtain ⟨b, hb, h⟩ := Outcome.bind_eq_ok_iff.1 h
  have hcontent : b.heads = Item.heads doc.content := by
    split at h
    · exact absurd h Outcome.throw_ne_ok
    · rw [finish] at h
      split at h
      · rename_i ho
        obtain rfl := Except.ok.inj h
        rw [Builder.heads, ho, headsOpened, List.append_nil]
      · cases h
  rw [← hcontent]
  constructor
  · obtain ⟨heads, hheads, hlength⟩ := exists_heads_of_foldlM hb
    rw [hheads, ← hlength]
    rfl
  · intro before content closed after he
    exact exists_isHeadOf_of_foldlM (he ▸ hb)

/-! ### Two elements, and two attributes that are confused -/

/-- An element that declares a prefix, and one in it that uses the prefix. -/
def keptText : Text :=
  "<a xmlns:p=\"u\"><b p:x=\"1\" x=\"&lt;\"/></a>".toList

/-- The document that is read. -/
def keptDocument : Document :=
  ⟨.none, [.element ⟨none, none, ['a']⟩
    [⟨⟨some xmlnsUri, some xmlnsPrefix, ['p']⟩, ['u']⟩]
    [.element ⟨none, none, ['b']⟩
      [⟨⟨some ['u'], some ['p'], ['x']⟩, ['1']⟩, ⟨QName.plain ['x'], ['<']⟩] []]]⟩

theorem parse_keptText : parse .none keptText = .ok keptDocument := by
  with_unfolding_all rfl

theorem scan_keptText : (Event.scan (Text.unifyLineEndings keptText)).1 =
    [Event.startTag "a xmlns:p=\"u\"".toList false] ++
      .startTag "b p:x=\"1\" x=\"&lt;\"".toList true :: [.endTag ['a']] := by
  with_unfolding_all rfl

theorem heads_parse_keptText :
    (Item.heads keptDocument.content).length = 2 ∧
      ∃ b head,
        [Event.startTag "a xmlns:p=\"u\"".toList false].foldlM (step .none) .start = .ok b ∧
        (Item.heads keptDocument.content)[1]? = some head ∧
        b.IsHeadOf "b p:x=\"1\" x=\"&lt;\"".toList head := by
  obtain ⟨hlength, htags⟩ := heads_parse parse_keptText
  rw [scan_keptText] at hlength
  exact ⟨hlength, htags _ _ _ _ scan_keptText⟩

/-- A tag with two prefixes for one namespace, and two attributes of the same local name in it. -/
def lostContent : Text :=
  "a xmlns:p=\"u\" xmlns:q=\"u\" p:x=\"1\" q:x=\"2\"".toList

/-- The attributes that are left of it. -/
def lostAttributes : List Attribute :=
  [⟨⟨some xmlnsUri, some xmlnsPrefix, ['p']⟩, ['u']⟩, ⟨⟨some xmlnsUri, some xmlnsPrefix, ['q']⟩, ['u']⟩,
    ⟨⟨some ['u'], some ['p'], ['x']⟩, ['2']⟩]

/-- The tag is accepted, and one of its four attributes is lost; the one before it has its value. -/
theorem parse_lostContent :
    parse .none ('<' :: lostContent ++ ['/', '>']) =
        .ok ⟨.none, [.element ⟨none, none, ['a']⟩ lostAttributes []]⟩ ∧
      (Event.scan (Text.unifyLineEndings ('<' :: lostContent ++ ['/', '>']))).1 =
        [.startTag lostContent true] ∧
      Tag.attributes lostContent =
        ([⟨"xmlns:p".toList, ['u'], 2⟩, ⟨"xmlns:q".toList, ['u'], 14⟩, ⟨"p:x".toList, ['1'], 26⟩,
          ⟨"q:x".toList, ['2'], 34⟩], none) ∧
      ¬ start.AreOwn (Tag.attributes lostContent).1 lostAttributes := by
  have htag : Tag.attributes lostContent =
      ([⟨"xmlns:p".toList, ['u'], 2⟩, ⟨"xmlns:q".toList, ['u'], 14⟩, ⟨"p:x".toList, ['1'], 26⟩,
        ⟨"q:x".toList, ['2'], 34⟩], none) := by
    with_unfolding_all rfl
  refine ⟨by with_unfolding_all rfl, by with_unfolding_all rfl, htag, fun h => ?_⟩
  rw [htag] at h
  exact absurd h.length_eq (by decide)

end Document

end XmlScribe
