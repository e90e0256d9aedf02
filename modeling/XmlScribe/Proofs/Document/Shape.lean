/-
**The shape of documents that are read.**

Every start tag of a text that is read has an end tag of its own, with whole elements between the two.
Outside all elements there is one element at most and one document type at most.  Nothing asks for an
element, though: a text without tags is read, even an empty one.  And a document type is taken wherever
it stands outside the element, so it may come after it.

Main definitions:

* `Event.AreNested` — every start tag is closed by its own end tag;
* `Document.HasShape` — there is one element, one document type at most, and it comes first;
* `Builder.elementCount` — the elements outside all others, one that is open included.

Main results:

* `Event.areNested_of_track` — the names that are tracked close every start tag;
* `Builder.exists_adds_of_step` — what an event adds outside all elements;
* `Document.hasShape_parseWith_iff` — which texts are read as documents that have the shape.
-/

import XmlScribe.Proofs.Document.Resolver
import XmlScribe.Proofs.Document.Tags

set_option autoImplicit false

namespace XmlScribe

open Builder

/-! ### Tags that match -/

namespace Event

/-- The event opens an element that another event closes, or closes one. -/
def isPaired : Event → Bool
  | .startTag _ false => true
  | .endTag _ => true
  | _ => false

/-- The event is a document type. -/
def isDoctype : Event → Bool
  | .doctype _ => true
  | _ => false

/-- Every start tag is closed by an end tag with its name, and between the two every start tag is
closed as well. -/
inductive AreNested : List Event → Prop where
  /-- There is nothing to close. -/
  | nil : AreNested []
  /-- The event opens and closes nothing. -/
  | single {event : Event} {rest : List Event} (h : event.isPaired = false)
      (hrest : AreNested rest) : AreNested (event :: rest)
  /-- An element is opened and closed. -/
  | element {content : Text} {inner rest : List Event} (hinner : AreNested inner)
      (hrest : AreNested rest) :
      AreNested (.startTag content false :: (inner ++ .endTag (Tag.name content) :: rest))

/-- An event that neither opens nor closes an element leaves the open elements as they are. -/
theorem track_of_isPaired {event : Event} (h : event.isPaired = false) (opened : List Text) :
    track opened event = .ok opened := by
  match event with
  | .startTag _ true => rfl
  | .declaration _ | .doctype _ | .text _ | .cdata _ | .comment _ | .instruction _ _ => rfl

/-- Where no element is left open in the end, whole elements come first, and then the innermost open
element is closed, if there is one. -/
theorem exists_areNested_of_track {events : List Event} {opened : List Text}
    (h : events.foldlM track opened = .ok []) :
    (opened = [] → AreNested events) ∧ ∀ name outer, opened = name :: outer →
      ∃ inner rest, events = inner ++ .endTag name :: rest ∧ AreNested inner ∧
        rest.foldlM track outer = .ok [] := by
  -- the induction is on the number of events, because what follows an end tag is looked at again
  induction hn : events.length using Nat.strong_induction_on generalizing events opened with
  | _ n ih =>
      cases events with
      | nil =>
          obtain rfl := Outcome.pure_eq_ok_iff.1 h
          exact ⟨fun _ => .nil, fun _ _ ho => nomatch ho⟩
      | cons event events =>
          rw [List.length_cons] at hn
          rw [List.foldlM_cons] at h
          obtain ⟨next, hnext, h⟩ := Outcome.bind_eq_ok_iff.1 h
          by_cases hpaired : event.isPaired = false
          · rw [track_of_isPaired hpaired] at hnext
            obtain rfl := Except.ok.inj hnext
            obtain ⟨hnil, hcons⟩ := ih _ (by omega) h rfl
            refine ⟨fun ho => .single hpaired (hnil ho), fun name outer ho => ?_⟩
            obtain ⟨inner, rest, rfl, hinner, hrest⟩ := hcons name outer ho
            exact ⟨event :: inner, rest, rfl, .single hpaired hinner, hrest⟩
          · match event, hpaired with
            | .startTag content false, _ =>
                obtain rfl := Except.ok.inj hnext
                obtain ⟨inner, rest, rfl, hinner, hrest⟩ := (ih _ (by omega) h rfl).2 _ _ rfl
                rw [List.length_append, List.length_cons] at hn
                obtain ⟨hnil, hcons⟩ := ih _ (by omega) hrest rfl
                refine ⟨fun ho => .element hinner (hnil ho), fun name outer ho => ?_⟩
                obtain ⟨inner', rest', rfl, hinner', hrest'⟩ := hcons name outer ho
                exact ⟨.startTag content false :: (inner ++ .endTag (Tag.name content) :: inner'),
                  rest', by simp, .element hinner hinner', hrest'⟩
            | .endTag closing, _ =>
                cases opened with
                | nil => cases hnext
                | cons name outer =>
                    rw [track] at hnext
                    split at hnext
                    · rename_i hname
                      obtain rfl := Except.ok.inj hnext
                      refine ⟨nofun, fun name' outer' ho => ?_⟩
                      obtain ⟨rfl, rfl⟩ := List.cons.inj ho
                      exact ⟨[], events, by rw [hname]; rfl, .nil, h⟩
                    · cases hnext

/-- What is closed in the end is nested. -/
theorem areNested_of_track {events : List Event} (h : events.foldlM track [] = .ok []) :
    AreNested events :=
  (exists_areNested_of_track h).1 rfl

/-- The names that are open are tracked while a text is read to its end. -/
theorem exists_track_of_scanFrom {opened : List Text} {s : Text} (h : (scanFrom opened s).2 = none) :
    ∃ names, (scanFrom opened s).1.foldlM track opened = .ok names := by
  fun_induction scanFrom opened s with
  | case1 => exact ⟨_, rfl⟩
  | case2 => cases h
  | case3 => cases h
  | case4 opened s event rest hread inner htrack events fault hrest ih =>
      rw [hrest] at ih
      obtain ⟨names, hnames⟩ := ih h
      exact ⟨names, by rw [List.foldlM_cons, htrack]; exact hnames⟩
  | case5 opened c s hc events fault hrest ih =>
      rw [hrest] at ih
      exact ih h

theorem exists_track_of_scan {s : Text} (h : (scan s).2 = none) :
    ∃ names, (scan s).1.foldlM track [] = .ok names := by
  cases s with
  | nil => exact ⟨[], rfl⟩
  | cons c s =>
      rw [scan] at h ⊢
      split at h
      · rename_i hmark
        rw [if_pos hmark]
        exact exists_track_of_scanFrom h
      · rename_i hmark
        rw [if_neg hmark]
        exact exists_track_of_scanFrom h

/-- The second event may come after the first one: it is no document type, or the first one is no
start tag. -/
def MayPrecede (e f : Event) : Prop :=
  e.isStartTag = true → f.isDoctype = false

end Event

/-- The second item may come after the first one: it is no document type, or the first one is no
element. -/
def Item.MayPrecede (x y : Item) : Prop :=
  x.isElement = true → y.isDoctype = false

/-! ### What stands outside all elements -/

namespace Builder

variable {subsets : Subsets} {b b' : Builder} {event : Event}

/-- The elements outside all others, one that is open included. -/
def elementCount (b : Builder) : Nat :=
  b.content.countP Item.isElement + if b.opened.isEmpty then 0 else 1

/-- What a step adds outside all elements, if it adds anything. -/
structure Adds (b : Builder) (event : Event) (b' : Builder) (added : Option Item) : Prop where
  /-- It comes after all that has been read. -/
  content : b'.content = added.toList ++ b.content
  /-- Only a document type adds a document type. -/
  isDoctype : ∀ item, added = some item → item.isDoctype = event.isDoctype
  /-- It adds the only one, and outside all elements. -/
  doctype : event.isDoctype = true →
    added.isSome = true ∧ b.opened = [] ∧ b.content.countP Item.isDoctype = 0
  /-- A start tag adds the only element. -/
  element : b.elementCount ≤ 1 → b'.elementCount = if event.isStartTag then 1 else b.elementCount
  /-- The tags are tracked. -/
  opened : ∀ {names names' : List Text}, Event.track names event = .ok names' →
    b.opened.length = names.length → b'.opened.length = names'.length

theorem content_push (b : Builder) (item : Item) :
    (b.push item).content = (if b.opened = [] then some item else none).toList ++ b.content := by
  rw [push]
  split
  · rename_i ho
    rw [if_pos ho]
    rfl
  · rename_i ho
    rw [if_neg (by simp [ho])]
    rfl

theorem length_opened_push (b : Builder) (item : Item) :
    (b.push item).opened.length = b.opened.length := by
  rw [push]
  split
  · rfl
  · rename_i ho
    simp [ho]

theorem elementCount_push (b : Builder) (item : Item) :
    (b.push item).elementCount =
      b.elementCount + if b.opened.isEmpty && item.isElement then 1 else 0 := by
  rw [elementCount, elementCount, push]
  split
  · rename_i ho
    simp [ho, List.countP_cons]
  · rename_i ho
    simp [ho]

/-- An element may be put where there is none yet. -/
theorem elementCount_of_checkPlace (hb : b.elementCount ≤ 1) (h : b.checkPlace .element = .ok ()) :
    b.content.countP Item.isElement = 0 := by
  cases ho : b.opened with
  | nil =>
      exact List.countP_eq_zero.2 fun item hi he =>
        (checkPlace_nothing ho h).2 rfl item hi (typeOf_eq_element_iff.2 he)
  | cons e outer =>
      rw [elementCount, ho] at hb
      simpa using hb

theorem isDoctype_of_pushed {b : Builder} {item added : Item} {kind : Bool}
    (h : item.isDoctype = kind) (hadded : (if b.opened = [] then some item else none) = some added) :
    added.isDoctype = kind := by
  split at hadded
  · rw [← Option.some.inj hadded, h]
  · cases hadded

/-- An item of another kind that is put somewhere. -/
theorem adds_append {item : Item} (h : b.append item = .ok b') (he : item.isElement = false)
    (hd : item.isDoctype = false) (hevent : event.isDoctype = false)
    (hpaired : event.isPaired = false) (htag : event.isStartTag = false) :
    b.Adds event b' (if b.opened = [] then some item else none) := by
  obtain ⟨-, rfl⟩ := append_eq_ok_iff.1 h
  refine ⟨b.content_push item, fun i hi => isDoctype_of_pushed (hd.trans hevent.symm) hi,
    fun hc => ?_, fun _ => ?_, fun ht hlen => ?_⟩
  · rw [hevent] at hc
    cases hc
  · rw [elementCount_push, he, htag]
    simp
  · rw [Event.track_of_isPaired hpaired] at ht
    rw [length_opened_push, hlen, Except.ok.inj ht]

/-- Nothing is added. -/
theorem adds_nothing (hc : b'.content = b.content) (ho : b'.opened = b.opened)
    (hevent : event.isDoctype = false) (hpaired : event.isPaired = false)
    (htag : event.isStartTag = false) : b.Adds event b' none := by
  refine ⟨hc, ?_, fun hd => ?_, fun _ => ?_, fun ht hlen => ?_⟩
  · rintro _ ⟨⟩
  · rw [hevent] at hd
    cases hd
  · rw [elementCount, hc, ho, htag]
    rfl
  · rw [Event.track_of_isPaired hpaired] at ht
    rw [ho, hlen, Except.ok.inj ht]

/-- A document type is put outside all elements, where there is none yet. -/
theorem exists_adds_doctype {content : Text} (h : step subsets b (.doctype content) = .ok b') :
    ∃ added, b.Adds (.doctype content) b' added := by
  obtain ⟨hfirst, -⟩ := doctype_of_step h
  obtain ⟨⟨d, entities⟩, -, h⟩ := Outcome.bind_eq_ok_iff.1 h
  obtain ⟨hplace, rfl⟩ := append_eq_ok_iff.1 h
  have ho : b.opened = [] := by
    cases ho : b.opened with
    | nil => rfl
    | cons e outer =>
        exact absurd (checkPlace_opened ho hplace) (by simp [typeOf, NodeType.mayHold])
  refine ⟨some (.doctype d), ?_, ?_, fun _ => ⟨rfl, ho, ?_⟩, fun _ => ?_, fun ht hlen => ?_⟩
  · rw [content_push, if_pos ho]
  · rintro _ ⟨⟩
    rfl
  · exact List.countP_eq_zero.2 fun item hi => by simp [hfirst item hi]
  · rw [elementCount_push]
    simp [Item.isElement, Event.isStartTag, elementCount]
  · rw [length_opened_push]
    exact hlen.trans (congrArg List.length (Except.ok.inj ht))

/-- A start tag adds its element at once if it closes it, and opens it otherwise. -/
theorem exists_adds_startTag {content : Text} {closed : Bool}
    (h : step subsets b (.startTag content closed) = .ok b') :
    ∃ added, b.Adds (.startTag content closed) b' added := by
  obtain ⟨e, he, h⟩ := Outcome.bind_eq_ok_iff.1 h
  obtain ⟨_, _, -, -, -, -, hplace, -, -⟩ := openElement_eq_ok_iff.1 he
  cases closed with
  | true =>
      obtain rfl := Except.ok.inj h
      refine ⟨_, b.content_push (close e), fun _ => isDoctype_of_pushed rfl, ?_, fun hb => ?_,
        fun ht hlen => ?_⟩
      · rintro ⟨⟩
      · have hzero := elementCount_of_checkPlace hb hplace
        rw [elementCount_push, elementCount, hzero]
        cases b.opened <;> rfl
      · rw [length_opened_push]
        exact hlen.trans (congrArg List.length (Except.ok.inj ht))
  | false =>
      obtain rfl := Except.ok.inj h
      refine ⟨none, rfl, ?_, ?_, fun hb => ?_, fun ht hlen => ?_⟩
      · rintro _ ⟨⟩
      · rintro ⟨⟩
      · have hzero := elementCount_of_checkPlace hb hplace
        rw [elementCount, hzero]
        rfl
      · rw [← Except.ok.inj ht, List.length_cons, List.length_cons, hlen]

/-- An end tag adds the innermost open element. -/
theorem exists_adds_endTag {name : Text} (h : step subsets b (.endTag name) = .ok b') :
    ∃ added, b.Adds (.endTag name) b' added := by
  rw [step.eq_def] at h
  dsimp only at h
  split at h
  · rename_i ho
    obtain rfl := Except.ok.inj h
    refine ⟨none, rfl, ?_, ?_, fun _ => rfl, fun {names names'} ht hlen => ?_⟩
    · rintro _ ⟨⟩
    · rintro ⟨⟩
    · -- there is nothing to close, so the end tag would have been refused
      rw [ho, List.length_nil] at hlen
      rw [List.length_eq_zero_iff.1 hlen.symm] at ht
      cases ht
  · rename_i e outer ho
    obtain rfl := Except.ok.inj h
    refine ⟨_, content_push { b with opened := outer } (close e),
      fun _ => isDoctype_of_pushed rfl, ?_, fun hb => ?_, fun {names names'} ht hlen => ?_⟩
    · rintro ⟨⟩
    · rw [elementCount_push, elementCount, elementCount, ho]
      cases outer <;> rfl
    · rw [length_opened_push]
      rw [ho] at hlen
      cases names with
      | nil => cases hlen
      | cons expected names =>
          rw [Event.track] at ht
          split at ht
          · rw [← Except.ok.inj ht]
            exact Nat.succ.inj hlen
          · cases ht

theorem exists_adds_text {raw : Text} (h : step subsets b (.text raw) = .ok b') :
    ∃ added, b.Adds (.text raw) b' added := by
  rw [step.eq_def] at h
  dsimp only at h
  split at h
  · obtain rfl := Except.ok.inj h
    exact ⟨none, adds_nothing rfl rfl rfl rfl rfl⟩
  · obtain ⟨data, -, h⟩ := Outcome.bind_eq_ok_iff.1 h
    split at h
    · obtain rfl := Except.ok.inj h
      exact ⟨none, adds_nothing rfl rfl rfl rfl rfl⟩
    · exact ⟨_, adds_append h rfl rfl rfl rfl rfl⟩

/-- What an event adds outside all elements. -/
theorem exists_adds_of_step (h : step subsets b event = .ok b') : ∃ added, b.Adds event b' added := by
  cases event with
  | declaration content =>
      obtain ⟨declaration, -, h⟩ := Outcome.bind_eq_ok_iff.1 h
      obtain rfl := Except.ok.inj h
      exact ⟨none, adds_nothing rfl rfl rfl rfl rfl⟩
  | doctype content => exact exists_adds_doctype h
  | startTag content closed => exact exists_adds_startTag h
  | endTag name => exact exists_adds_endTag h
  | text raw => exact exists_adds_text h
  | cdata data => exact ⟨_, adds_append h rfl rfl rfl rfl rfl⟩
  | comment data => exact ⟨_, adds_append h rfl rfl rfl rfl rfl⟩
  | instruction target data =>
      obtain ⟨⟨⟩, -, h⟩ := Outcome.bind_eq_ok_iff.1 h
      exact ⟨_, adds_append h rfl rfl rfl rfl rfl⟩

/-! ### All events -/

/-- What some events have come to outside all elements. -/
structure IsShapedBy (seen : List Event) (b : Builder) : Prop where
  /-- There is an element if there has been a start tag, and then only one. -/
  element : b.elementCount = if seen.any Event.isStartTag then 1 else 0
  /-- There is one document type at most. -/
  doctype : b.content.countP Item.isDoctype ≤ 1
  /-- It comes before the element if it has come before the start tags. -/
  ordered : b.content.reverse.Pairwise Item.MayPrecede ↔ seen.Pairwise Event.MayPrecede
  /-- As many elements are open as names are tracked. -/
  opened : ∀ names, seen.foldlM Event.track [] = .ok names → b.opened.length = names.length

/-- Where nothing is open in the end, there is an element exactly if there has been a start tag. -/
theorem IsShapedBy.countP_isElement {seen : List Event} (h : IsShapedBy seen b)
    (ho : b.opened = []) :
    b.content.countP Item.isElement = if seen.any Event.isStartTag then 1 else 0 := by
  have helement := h.element
  rwa [elementCount, ho, List.isEmpty_nil, if_pos rfl, Nat.add_zero] at helement

theorem IsShapedBy.forall_mem_iff {seen : List Event} (h : IsShapedBy seen b) (ho : b.opened = []) :
    (∀ item ∈ b.content, item.isElement = false) ↔ ∀ e ∈ seen, e.isStartTag = false := by
  have helement := h.countP_isElement ho
  constructor
  · intro hnone e he
    rw [List.countP_eq_zero.2 fun item hi => by simp [hnone item hi]] at helement
    cases htag : e.isStartTag with
    | false => rfl
    | true =>
        rw [if_pos (List.any_eq_true.2 ⟨e, he, htag⟩)] at helement
        cases helement
  · intro hnone item hi
    rw [if_neg (by simpa using hnone), List.countP_eq_zero] at helement
    exact Bool.eq_false_iff.2 (helement item hi)

/-- One more event keeps the shape. -/
theorem IsShapedBy.step {seen : List Event} (h : IsShapedBy seen b)
    (hstep : step subsets b event = .ok b') : IsShapedBy (seen ++ [event]) b' := by
  obtain ⟨added, hadds⟩ := exists_adds_of_step hstep
  have hcount : b.elementCount ≤ 1 := by
    rw [h.element]
    split <;> omega
  refine ⟨?element, ?doctype, ?ordered, ?opened⟩
  case element =>
    rw [hadds.element hcount, h.element, List.any_append, List.any_cons, List.any_nil, Bool.or_false]
    cases htag : event.isStartTag with
    | true => rw [if_pos rfl, Bool.or_true, if_pos rfl]
    | false => rw [if_neg Bool.false_ne_true, Bool.or_false]
  case doctype =>
    rw [hadds.content, List.countP_append]
    cases hd : event.isDoctype with
    | true =>
        obtain ⟨-, -, hzero⟩ := hadds.doctype hd
        rw [hzero]
        exact List.countP_le_length.trans (by cases added <;> simp)
    | false =>
        have hnone : added.toList.countP Item.isDoctype = 0 :=
          List.countP_eq_zero.2 fun item hi => by
            rw [hadds.isDoctype item (Option.mem_toList.1 hi), hd]
            simp
        rw [hnone, Nat.zero_add]
        exact h.doctype
  case ordered =>
    rw [hadds.content, List.reverse_append, List.pairwise_append, List.pairwise_append, h.ordered]
    refine and_congr_right fun _ => ?_
    have hsingle : added.toList.reverse.Pairwise Item.MayPrecede := by cases added <;> simp
    simp only [hsingle, List.pairwise_singleton, true_and, List.mem_reverse, List.mem_singleton,
      forall_eq]
    cases hd : event.isDoctype with
    | true =>
        -- a document type is added, and nothing is open
        obtain ⟨hsome, ho, -⟩ := hadds.doctype hd
        obtain ⟨item, rfl⟩ := Option.isSome_iff_exists.1 hsome
        have hitem := (hadds.isDoctype item rfl).trans hd
        simpa [Item.MayPrecede, Event.MayPrecede, hitem, hd] using h.forall_mem_iff ho
    | false =>
        refine iff_of_true (fun x _ item hi _ => ?_) fun _ _ _ => hd
        exact (hadds.isDoctype item (Option.mem_toList.1 hi)).trans hd
  case opened =>
    intro names hnames
    rw [List.foldlM_append] at hnames
    obtain ⟨before, hbefore, hnames⟩ := Outcome.bind_eq_ok_iff.1 hnames
    rw [List.foldlM_cons] at hnames
    obtain ⟨after, hafter, hnames⟩ := Outcome.bind_eq_ok_iff.1 hnames
    obtain rfl := Outcome.pure_eq_ok_iff.1 hnames
    exact hadds.opened hafter (h.opened before hbefore)

theorem isShapedBy_start : IsShapedBy [] start where
  element := rfl
  doctype := Nat.zero_le _
  ordered := iff_of_true .nil .nil
  opened names hnames := by
    obtain rfl := Outcome.pure_eq_ok_iff.1 hnames
    rfl

/-- Where nothing is open in the end, every start tag has been closed. -/
theorem IsShapedBy.areNested {seen : List Event} {names : List Text} (h : IsShapedBy seen b)
    (ho : b.opened = []) (hnames : seen.foldlM Event.track [] = .ok names) : Event.AreNested seen := by
  have hlen := h.opened names hnames
  rw [ho, List.length_nil] at hlen
  rw [List.length_eq_zero_iff.1 hlen.symm] at hnames
  exact Event.areNested_of_track hnames

end Builder

/-! ### Documents -/

namespace Document

/-- There is one element outside all others, and one document type at most, which comes first. -/
structure HasShape (doc : Document) : Prop where
  /-- There is one element. -/
  element : doc.content.countP Item.isElement = 1
  /-- There is one document type at most. -/
  doctype : doc.content.countP Item.isDoctype ≤ 1
  /-- No document type comes after the element. -/
  ordered : doc.content.Pairwise Item.MayPrecede

/-- **The shape of a document that is read.**  Let a text be read, however external definitions are
found.  Then all of it has been scanned, and every start tag in it is closed by its own end tag.  The
document has one element and one document type at most.  It has the shape of a document exactly if the
text has a start tag, and no document type after one. -/
theorem hasShape_parseWith_iff {find : Resolver} {s : Text} {doc : Document}
    (h : parseWith find s = .ok doc) :
    let (events, fault) := Event.scan (Text.unifyLineEndings s)
    fault = none ∧ Event.AreNested events ∧ doc.content.countP Item.isElement ≤ 1 ∧
      doc.content.countP Item.isDoctype ≤ 1 ∧
      (doc.HasShape ↔ (∃ e ∈ events, e.isStartTag = true) ∧ events.Pairwise Event.MayPrecede) := by
  obtain ⟨subsets, h⟩ := exists_parse_of_parseWith h
  rw [parse] at h
  generalize hscan : Event.scan (Text.unifyLineEndings s) = scanned at h ⊢
  obtain ⟨events, fault⟩ := scanned
  dsimp only at h ⊢
  obtain ⟨b, hb, h⟩ := Outcome.bind_eq_ok_iff.1 h
  have hshape : IsShapedBy events b :=
    Outcome.foldlM_invariant (I := IsShapedBy) (fun _ _ _ _ _ hi hstep => hi.step hstep)
      isShapedBy_start hb
  cases fault with
  | some fault => exact absurd h Outcome.throw_ne_ok
  | none =>
      cases ho : b.opened with
      | cons e outer =>
          rw [finish, ho] at h
          cases h
      | nil =>
          rw [finish, ho] at h
          obtain rfl := Except.ok.inj h
          obtain ⟨names, hnames⟩ := Event.exists_track_of_scan (s := Text.unifyLineEndings s)
            (by rw [hscan])
          rw [hscan] at hnames
          have hcount : b.content.reverse.countP Item.isElement =
              if events.any Event.isStartTag then 1 else 0 :=
            List.countP_reverse.trans (hshape.countP_isElement ho)
          have hdoctype : b.content.reverse.countP Item.isDoctype ≤ 1 :=
            List.countP_reverse.trans_le hshape.doctype
          have hone : b.content.reverse.countP Item.isElement = 1 ↔
              ∃ e ∈ events, e.isStartTag = true := by
            rw [hcount, ← List.any_eq_true]
            split <;> simp_all
          refine ⟨rfl, hshape.areNested ho hnames, ?_, hdoctype,
            fun hs => ⟨hone.1 hs.element, hshape.ordered.1 hs.ordered⟩,
            fun hs => ⟨hone.2 hs.1, hdoctype, hshape.ordered.2 hs.2⟩⟩
          rw [hcount]
          split <;> omega

/-- A document type, and an element with another one in it. -/
def wholeText : Text :=
  "<!DOCTYPE a><a><b></b>x</a><!--c-->".toList

/-- The document in the text. -/
def wholeDocument : Document :=
  ⟨.none, [.doctype ⟨['a'], none, none, none, []⟩,
    .element (QName.plain ['a']) [] [.element (QName.plain ['b']) [] [], .text ['x']],
    .comment ['c']]⟩

/-- It has the shape of a document, and so the text has a start tag, and no document type after
one. -/
theorem hasShape_wholeDocument :
    parseWith (fun _ _ => none) wholeText = .ok wholeDocument ∧ wholeDocument.HasShape ∧
      Event.AreNested (Event.scan (Text.unifyLineEndings wholeText)).1 ∧
      (Event.scan (Text.unifyLineEndings wholeText)).1.Pairwise Event.MayPrecede := by
  have hparse : parseWith (fun _ _ => none) wholeText = .ok wholeDocument := by
    with_unfolding_all rfl
  have hshape : wholeDocument.HasShape :=
    ⟨by decide, by decide, by simp [wholeDocument, Item.MayPrecede, Item.isElement, Item.isDoctype]⟩
  obtain ⟨-, hnested, -, -, hiff⟩ := hasShape_parseWith_iff hparse
  exact ⟨hparse, hshape, hnested, (hiff.1 hshape).2⟩

/-- Nothing at all is read as a document without an element, and a document type may come after the
element. -/
theorem not_hasShape_of_missing_or_late :
    (parseWith (fun _ _ => none) [] = .ok ⟨.none, []⟩ ∧ ¬ HasShape ⟨.none, []⟩) ∧
      parseWith (fun _ _ => none) "<a/><!DOCTYPE a>".toList =
        .ok ⟨.none, [.element (QName.plain ['a']) [] [], .doctype ⟨['a'], none, none, none, []⟩]⟩ ∧
      ¬ HasShape
        ⟨.none, [.element (QName.plain ['a']) [] [], .doctype ⟨['a'], none, none, none, []⟩]⟩ := by
  refine ⟨⟨by with_unfolding_all rfl, fun h => ?_⟩, by with_unfolding_all rfl, fun h => ?_⟩
  · exact absurd h.element (by decide)
  · have hlate := List.rel_of_pairwise_cons h.ordered (List.mem_singleton.2 rfl) rfl
    cases hlate

end Document

end XmlScribe
