/-
**Content as it is written and as it is read.**

A fragment is a piece of content together with the way it is written: the raw spelling of character
data, the order, quotation marks and raw values of attributes, the form of an empty element.  It
says both which events its text consists of and which items are read from it, so that reading what
has been written is a statement about fragments alone.

Main definitions:

* `Fragment` — a piece of content with its spelling;
* `Fragment.events` — the events that its text consists of;
* `Fragment.itemsFrom` — the items that are read from it;
* `Fragment.Everywhere` — a property of some fragments and of all fragments in them;
* `Fragment.IsReadable` — the spelling spells what it is meant to;
* `Fragment.IsLexical` — the spelling keeps the events apart.

Main results:

* `Fragment.isSound_events` — every event of such fragments is read back;
* `Fragment.foldlM_track` — the tags match.
-/

import XmlScribe.Proofs.Entity.Escaping
import XmlScribe.Proofs.Markup.Resolve
import XmlScribe.Proofs.Markup.Scan

set_option autoImplicit false

namespace XmlScribe

/-- A piece of content together with the way it is written. -/
inductive Fragment where
  /-- An element; `closed` says that it is a single tag. -/
  | element (name : QName) (attributes : List (Attribute × WrittenAttribute)) (closed : Bool)
      (content : List Fragment)
  /-- Character data with its references. -/
  | chars (raw data : Text)
  /-- A CDATA section. -/
  | cdata (data : Text)
  /-- A comment. -/
  | comment (data : Text)
  /-- A processing instruction. -/
  | instruction (target : Text) (data : Option Text)

namespace Fragment

/-! ### Events and items -/

/-- The content of the start tag of an element. -/
def tagOf (name : QName) (attributes : List (Attribute × WrittenAttribute)) : Text :=
  Tag.written name.text (attributes.map Prod.snd)

/-- The data of a processing instruction, with the space before it if there is any. -/
def spaced : Option Text → Text
  | none => []
  | some [] => []
  | some data => ' ' :: data

mutual

/-- The events that the text of a fragment consists of. -/
def eventsOf : Fragment → List Event
  | element name attributes closed content =>
      if closed then [.startTag (tagOf name attributes) true]
      else .startTag (tagOf name attributes) false :: events content ++ [.endTag name.text]
  | chars raw _ => [.text raw]
  | cdata data => [.cdata data]
  | comment data => [.comment data]
  | instruction target data => [.instruction target (spaced data)]

/-- The events that the text of some fragments consists of. -/
def events : List Fragment → List Event
  | [] => []
  | f :: fragments => eventsOf f ++ events fragments

end

/-- The text of some fragments. -/
def text (fragments : List Fragment) : Text :=
  (events fragments).flatMap Event.source

/-- Character data that is waiting, as an item. -/
def flush (data : Text) : List Item :=
  if data.isEmpty then [] else [.text data]

mutual

/-- The items that are complete after a fragment, where `waiting` is character data before it, and
the character data that waits after it. -/
def itemsAt (waiting : Text) : Fragment → List Item × Text
  | element name attributes _ content =>
      let (inner, last) := itemsFrom [] content
      (flush waiting ++ [.element name (attributes.map Prod.fst) (inner ++ flush last)], [])
  | chars _ data => ([], waiting ++ data)
  | cdata data => (flush waiting ++ [.cdata data], [])
  | comment data => (flush waiting ++ [.comment data], [])
  | instruction target data => (flush waiting ++ [.instruction target data], [])

/-- The items that are complete after some fragments, and the character data that waits. -/
def itemsFrom (waiting : Text) : List Fragment → List Item × Text
  | [] => ([], waiting)
  | f :: fragments =>
      let (items, waiting) := itemsAt waiting f
      let (more, waiting) := itemsFrom waiting fragments
      (items ++ more, waiting)

end

/-- The items that are read from some fragments. -/
def items (fragments : List Fragment) : List Item :=
  (itemsFrom [] fragments).1 ++ flush (itemsFrom [] fragments).2

theorem events_append (fragments more : List Fragment) :
    events (fragments ++ more) = events fragments ++ events more := by
  induction fragments with
  | nil => rfl
  | cons f fragments ih => rw [List.cons_append, events, events, ih, List.append_assoc]

theorem text_append (fragments more : List Fragment) :
    text (fragments ++ more) = text fragments ++ text more := by
  rw [text, events_append, List.flatMap_append]
  rfl

theorem itemsFrom_append (waiting : Text) (fragments more : List Fragment) :
    itemsFrom waiting (fragments ++ more) =
      ((itemsFrom waiting fragments).1 ++ (itemsFrom (itemsFrom waiting fragments).2 more).1,
        (itemsFrom (itemsFrom waiting fragments).2 more).2) := by
  induction fragments generalizing waiting with
  | nil => rfl
  | cons f fragments ih => simp [itemsFrom, ih]

/-! ### Properties of all fragments -/

mutual

/-- The property holds of the fragment and of all fragments in it. -/
def EverywhereAt (P : Fragment → Prop) : Fragment → Prop
  | element name attributes closed content =>
      P (element name attributes closed content) ∧ Everywhere P content
  | chars raw data => P (chars raw data)
  | cdata data => P (cdata data)
  | comment data => P (comment data)
  | instruction target data => P (instruction target data)

/-- The property holds of the fragments and of all fragments in them. -/
def Everywhere (P : Fragment → Prop) : List Fragment → Prop
  | [] => True
  | f :: fragments => EverywhereAt P f ∧ Everywhere P fragments

end

theorem everywhere_iff {P : Fragment → Prop} {fragments : List Fragment} :
    Everywhere P fragments ↔ ∀ f ∈ fragments, EverywhereAt P f := by
  induction fragments with
  | nil => simp [Everywhere]
  | cons f fragments ih => simp [Everywhere, ih]

/-! ### Fragments that can be read -/

/-- An attribute with a spelling that can be read as its value. -/
structure IsSpelled (lookup : Text → Option Text) (a : Attribute) (w : WrittenAttribute) : Prop where
  /-- The spelling ends where it is meant to. -/
  sound : w.IsSound
  /-- The name is written. -/
  name : w.name = a.name.text
  /-- There is no white space but spaces. -/
  not_mem : ∀ c ∈ ['\t', '\n', '\r'], c ∉ w.raw
  /-- The value is spelled. -/
  spells : Reference.Spells lookup w.raw a.value

end Fragment

/-- The processing instruction is read as it is written. -/
structure Instruction.IsReadable (target : Text) (data : Option Text) : Prop where
  /-- The target is allowed. -/
  target : checkTarget target = .ok ()
  /-- There is data if any is mentioned. -/
  ne_nil : data ≠ some []
  /-- The data does not begin with a blank. -/
  not_isBlank : ∀ c s, data = some (c :: s) → Text.isBlank c = false
  /-- The data does not end the instruction. -/
  not_isInfix : ¬ ['?', '>'] <:+: data.getD []

theorem Instruction.isName_of_checkTarget {target : Text} (h : checkTarget target = .ok ()) :
    Name.IsName target ∧ target ≠ ['x', 'm', 'l'] := by
  rw [checkTarget] at h
  split at h
  · simp at h
  · rename_i hx
    refine ⟨Name.check_eq_ok_iff.1 h, ?_⟩
    rintro rfl
    exact hx rfl

/-- A processing instruction is read back, if its target is allowed and its data does not end it. -/
theorem Instruction.readsBack {target : Text} {data : Option Text}
    (ht : checkTarget target = .ok ()) (h : ¬ ['?', '>'] <:+: data.getD []) :
    (Event.instruction target (Fragment.spaced data)).ReadsBack := by
  obtain ⟨hname, hx⟩ := isName_of_checkTarget ht
  have htarget : ¬ ['?', '>'] <:+: target := fun hi =>
    Name.not_mem_of_isName hname (show Name.isNameChar '?' = false by decide) (hi.subset (by simp))
  refine Event.readsBack_instruction hname hx ?_ ?_
  · rcases data with _ | _ | ⟨c, s⟩
    · exact Or.inl rfl
    · exact Or.inl rfl
    · exact Or.inr ⟨c :: s, rfl⟩
  · rcases data with _ | _ | ⟨c, s⟩
    · rwa [Fragment.spaced, List.append_nil]
    · rwa [Fragment.spaced, List.append_nil]
    · have hd : ¬ ['?', '>'] <:+: ' ' :: c :: s := by
        rw [List.infix_cons_iff, not_or]
        exact ⟨by simp, h⟩
      exact Text.not_isInfix_append htarget hd (by simp [Fragment.spaced])

namespace Fragment

mutual

/-- The fragment is read as it is meant, where `lookup` knows the declared entities and `m` what the
prefixes mean. -/
def IsReadableAt (lookup : Text → Option Text) (m : Builder.Meaning) : Fragment → Prop
  | element name attributes closed content =>
      let inner := Builder.meaningIn m (attributes.map Prod.fst)
      name.Resolves inner ∧ (∀ a ∈ attributes, a.1.Resolves inner) ∧
        (∀ a ∈ attributes, IsSpelled lookup a.1 a.2) ∧
        Attribute.Distinct (attributes.map Prod.fst) ∧
        (closed = true → content = []) ∧ IsReadable lookup inner content
  | chars raw data => ('<' ∉ raw ∧ '\r' ∉ raw) ∧ Reference.Spells lookup raw data
  | cdata data => ¬ [']', ']', '>'] <:+: data ∧ '\r' ∉ data
  | comment data => ¬ ['-', '-', '>'] <:+: data ∧ '\r' ∉ data
  | instruction target data => Instruction.IsReadable target data ∧ '\r' ∉ data.getD []

/-- The fragments are read as they are meant. -/
def IsReadable (lookup : Text → Option Text) (m : Builder.Meaning) : List Fragment → Prop
  | [] => True
  | f :: fragments => IsReadableAt lookup m f ∧ IsReadable lookup m fragments

end

theorem isReadable_iff {lookup : Text → Option Text} {m : Builder.Meaning}
    {fragments : List Fragment} :
    IsReadable lookup m fragments ↔ ∀ f ∈ fragments, IsReadableAt lookup m f := by
  induction fragments with
  | nil => simp [IsReadable]
  | cons f fragments ih => simp [IsReadable, ih]

/-! ### Scanning -/

/-- The fragment is scanned as it is written. -/
def IsLexical : Fragment → Prop
  | element name attributes _ _ => Name.IsName name.text ∧ ∀ a ∈ attributes, a.2.IsSound
  | chars raw _ => '<' ∉ raw
  | cdata data => ¬ [']', ']', '>'] <:+: data
  | comment data => ¬ ['-', '-', '>'] <:+: data
  | instruction target data =>
      Instruction.checkTarget target = .ok () ∧ ¬ ['?', '>'] <:+: data.getD []

mutual

theorem IsReadableAt.isLexical {lookup : Text → Option Text} {m : Builder.Meaning} :
    ∀ {f : Fragment}, IsReadableAt lookup m f → EverywhereAt IsLexical f
  | element _ _ _ _, ⟨hname, _, hspelled, _, _, hcontent⟩ =>
      ⟨⟨hname.isMade.isName, fun a ha => (hspelled a ha).sound⟩, hcontent.isLexical⟩
  | chars _ _, h => h.1.1
  | cdata _, h => h.1
  | comment _, h => h.1
  | instruction _ _, h => ⟨h.1.target, h.1.not_isInfix⟩

/-- Fragments that can be read are scanned as they are written. -/
theorem IsReadable.isLexical {lookup : Text → Option Text} {m : Builder.Meaning} :
    ∀ {fragments : List Fragment}, IsReadable lookup m fragments → Everywhere IsLexical fragments
  | [], _ => trivial
  | _ :: _, h => ⟨h.1.isLexical, IsReadable.isLexical h.2⟩

end

theorem isSound_written {attributes : List (Attribute × WrittenAttribute)}
    (h : ∀ a ∈ attributes, a.2.IsSound) : ∀ w ∈ attributes.map Prod.snd, w.IsSound := by
  intro w hw
  obtain ⟨a, ha, rfl⟩ := List.mem_map.1 hw
  exact h a ha

theorem map_name_written {lookup : Text → Option Text}
    {attributes : List (Attribute × WrittenAttribute)}
    (h : ∀ a ∈ attributes, IsSpelled lookup a.1 a.2) :
    (attributes.map Prod.snd).map WrittenAttribute.name =
      (attributes.map Prod.fst).map fun a => a.name.text := by
  rw [List.map_map, List.map_map]
  exact List.map_congr_left fun a ha => (h a ha).name

mutual

/-- Every event of a fragment is read back. -/
theorem isSound_eventsOf :
    ∀ (f : Fragment), EverywhereAt IsLexical f → ∀ event ∈ eventsOf f, event.IsSound
  | element name attributes closed content, ⟨⟨hn, hspelled⟩, hcontent⟩ => by
      have hw := isSound_written hspelled
      intro event he
      rw [eventsOf] at he
      split at he
      · obtain rfl := List.mem_singleton.1 he
        exact Event.readsBack_startTag hn hw true
      · simp only [List.mem_append, List.mem_cons, List.not_mem_nil, or_false] at he
        rcases he with (rfl | he) | rfl
        · exact Event.readsBack_startTag hn hw false
        · exact isSound_events content hcontent event he
        · exact Event.readsBack_endTag hn
  | chars raw data, h => by
      intro event he
      obtain rfl := List.mem_singleton.1 he
      exact h
  | cdata data, h => by
      intro event he
      obtain rfl := List.mem_singleton.1 he
      exact Event.readsBack_cdata h
  | comment data, h => by
      intro event he
      obtain rfl := List.mem_singleton.1 he
      exact Event.readsBack_comment h
  | instruction target data, h => by
      intro event he
      obtain rfl := List.mem_singleton.1 he
      exact Instruction.readsBack h.1 h.2

/-- Every event of some fragments is read back. -/
theorem isSound_events : ∀ (fragments : List Fragment), Everywhere IsLexical fragments →
    ∀ event ∈ events fragments, event.IsSound
  | [], _ => by simp [events]
  | f :: fragments, h => by
      intro event he
      rw [events, List.mem_append] at he
      rcases he with he | he
      · exact isSound_eventsOf f h.1 event he
      · exact isSound_events fragments h.2 event he

end

/-- The events of markup begin with markup. -/
theorem head?_events {fragments : List Fragment}
    (h : ∀ raw data, fragments.head? ≠ some (chars raw data)) (raw : Text) :
    (events fragments).head? ≠ some (.text raw) := by
  cases fragments with
  | nil => simp [events]
  | cons f fragments =>
      cases f with
      | chars raw data => exact absurd rfl (h raw data)
      | element name attributes closed content => cases closed <;> simp [events, eventsOf]
      | _ => simp [events, eventsOf]

/-- The text of markup begins with markup. -/
theorem head?_text {fragments : List Fragment}
    (h : ∀ raw data, fragments.head? ≠ some (chars raw data)) :
    (text fragments).head? ≠ some '\n' := by
  cases fragments with
  | nil => simp [text, events]
  | cons f fragments =>
      cases f with
      | chars raw data => exact absurd rfl (h raw data)
      | element name attributes closed content =>
          cases closed <;> simp [text, events, eventsOf, Event.source]
      | _ => simp [text, events, eventsOf, Event.source]

theorem not_mem_tagOf {lookup : Text → Option Text} {name : QName} (hn : Name.IsName name.text)
    {attributes : List (Attribute × WrittenAttribute)}
    (h : ∀ a ∈ attributes, IsSpelled lookup a.1 a.2) : '\r' ∉ tagOf name attributes := by
  have hname : ∀ {s : Text}, Name.IsName s → '\r' ∉ s := fun hs =>
    Name.not_mem_of_isName hs (by decide)
  rw [tagOf, Tag.written, List.mem_append, not_or]
  refine ⟨hname hn, fun hm => ?_⟩
  obtain ⟨w, hw, hm⟩ := List.mem_flatMap.1 hm
  obtain ⟨a, ha, rfl⟩ := List.mem_map.1 hw
  have hs := h a ha
  have hraw := hs.not_mem '\r' (by simp)
  have hkey := hname hs.sound.isName
  rcases hs.sound.quote with hq | hq <;> simp [WrittenAttribute.text, hq, hraw, hkey] at hm

mutual

/-- There is no carriage return in the text of a fragment. -/
theorem not_mem_sourceAt {lookup : Text → Option Text} {m : Builder.Meaning} :
    ∀ (f : Fragment), IsReadableAt lookup m f → '\r' ∉ (eventsOf f).flatMap Event.source
  | element name attributes closed content, h => by
      obtain ⟨hname, -, hspelled, -, -, hcontent⟩ := h
      have hn : '\r' ∉ name.text := Name.not_mem_of_isName hname.isMade.isName (by decide)
      have htag := not_mem_tagOf hname.isMade.isName hspelled
      have hinner := not_mem_text content hcontent
      rw [text] at hinner
      rw [eventsOf]
      cases closed with
      | true => simp [Event.source, htag]
      | false => simp_all [Event.source]
  | chars raw data, h => by simpa [eventsOf, Event.source] using h.1.2
  | cdata data, h => by simpa [eventsOf, Event.source] using h.2
  | comment data, h => by simpa [eventsOf, Event.source] using h.2
  | instruction target data, h => by
      have ht : '\r' ∉ target :=
        Name.not_mem_of_isName (Instruction.isName_of_checkTarget h.1.target).1 (by decide)
      have hdata : '\r' ∉ spaced data := by
        rcases data with _ | _ | ⟨c, s⟩
        · simp [spaced]
        · simp [spaced]
        · simpa [spaced] using h.2
      simp [eventsOf, Event.source, ht, hdata]

/-- There is no carriage return in the text of some fragments. -/
theorem not_mem_text {lookup : Text → Option Text} {m : Builder.Meaning} :
    ∀ (fragments : List Fragment), IsReadable lookup m fragments → '\r' ∉ text fragments
  | [], _ => by simp [text, events]
  | f :: fragments, h => by
      have hf := not_mem_sourceAt f h.1
      have hrest := not_mem_text fragments h.2
      rw [text, events, List.flatMap_append, List.mem_append, not_or]
      exact ⟨hf, hrest⟩

end

mutual

/-- The tags of a fragment match. -/
theorem foldlM_trackAt : ∀ (f : Fragment), EverywhereAt IsLexical f → ∀ opened,
    (eventsOf f).foldlM Event.track opened = .ok opened
  | element name attributes closed content, ⟨⟨hname, _⟩, hcontent⟩ => by
      have hn : Tag.name (tagOf name attributes) = name.text := Tag.name_written hname _
      intro opened
      rw [eventsOf]
      cases closed with
      | true => rfl
      | false =>
          have hinner := foldlM_track content hcontent (name.text :: opened)
          rw [if_neg (by decide), List.cons_append, List.foldlM_cons, Event.track, hn,
            Outcome.bind_of_eq_ok rfl, Outcome.foldlM_append hinner, List.foldlM_cons, Event.track,
            if_pos rfl]
          rfl
  | chars raw data, _ => fun _ => rfl
  | cdata data, _ => fun _ => rfl
  | comment data, _ => fun _ => rfl
  | instruction target data, _ => fun _ => rfl

/-- The tags of some fragments match. -/
theorem foldlM_track : ∀ (fragments : List Fragment), Everywhere IsLexical fragments →
    ∀ opened, (events fragments).foldlM Event.track opened = .ok opened
  | [], _ => fun _ => rfl
  | f :: fragments, h => fun opened => by
      rw [events, Outcome.foldlM_append (foldlM_trackAt f h.1 opened)]
      exact foldlM_track fragments h.2 opened

end

end Fragment

end XmlScribe
