/-
**Writing again what has been read.**

Content that has been written as it is and read again is written in the same way, with one
exception.  A character of a CDATA section that the character set lacks is written as a reference to
its number.  When it has been read it is a character of a text, and if there is an entity for it, it
is now written as a reference to the entity.

Main definitions:

* `Writer.KeepsReferences` — there are no entities for such characters;
* `Writer.IsWrittenAgain` — what is read from some fragments is written as a certain text;
* `Writer.IsRewritten` — this text is that of the fragments exactly if something holds.

Main results:

* `Writer.isRewritten_verbatim` — the text of content is the same exactly if references are kept.
-/

import XmlScribe.Proofs.Charset.Label
import XmlScribe.Proofs.Document.Joined
import XmlScribe.Proofs.Layout.AttributeOrder
import XmlScribe.Proofs.Text.Parting
import XmlScribe.Proofs.Writer.Content
import XmlScribe.Proofs.Writer.Faithful

set_option autoImplicit false

namespace XmlScribe

open Builder Fragment
open Text (AgreesIff)

namespace Writer

variable {W : Writer} {escaper : Escaper}

/-- No entity stands for a character of a CDATA section that the character set lacks. -/
def KeepsReferences (W : Writer) (escaper : Escaper) : Item → Prop
  | .cdata data => ∀ c ∈ data, W.settings.charset.canEncode c = false →
      escaper.table.lookup? c = none
  | _ => True

/-- What is read from the fragments is written as `s`, and nothing stands in the way. -/
structure IsWrittenAgain (W : Writer) (escaper : Escaper) (fragments : List Fragment) (s : Text) :
    Prop where
  /-- The text, after character data that is waiting. -/
  text_eq : ∀ waiting, '\r' ∉ waiting →
    Fragment.text (W.verbatim escaper (itemsFrom waiting fragments).1) ++
      escaper.encode none (itemsFrom waiting fragments).2 = escaper.encode none waiting ++ s
  /-- No carriage return is read. -/
  hasNoReturn : ∀ waiting, '\r' ∉ waiting →
    Item.Everywhere Item.HasNoReturn (itemsFrom waiting fragments).1 ∧
      '\r' ∉ (itemsFrom waiting fragments).2
  /-- All characters can be written. -/
  canWrite : ∀ waiting, Item.Everywhere W.CanWrite (itemsFrom waiting fragments).1

/-- What is read from the fragments is written as a text that is theirs exactly if `P` holds. -/
def IsRewritten (W : Writer) (escaper : Escaper) (P : Prop) (fragments : List Fragment) : Prop :=
  ∃ s, W.IsWrittenAgain escaper fragments s ∧ (fragments ≠ [] → s ≠ []) ∧
    AgreesIff P (Fragment.text fragments) s

/-! ### Texts -/

theorem verbatim_append (items more : List Item) :
    W.verbatim escaper (items ++ more) = W.verbatim escaper items ++ W.verbatim escaper more := by
  induction items with
  | nil => rfl
  | cons item items ih => rw [List.cons_append, verbatim, verbatim, ih, List.append_assoc]

theorem text_spellText (hsep : W.settings.separator = ['\n']) {data : Text} (h : '\r' ∉ data) :
    Fragment.text [W.spellText escaper data] = escaper.encode none data := by
  rw [spellText, hsep, Text.withLineEndings_eq, Text.endLinesWith_eq_self h]
  simp [Fragment.text, events, eventsOf, Event.source]

theorem text_verbatim_flush (hsep : W.settings.separator = ['\n']) {data : Text} (h : '\r' ∉ data) :
    Fragment.text (W.verbatim escaper (flush data)) = escaper.encode none data := by
  cases data with
  | nil => rfl
  | cons c data => exact text_spellText hsep h

/-! ### Pieces -/

theorem isWrittenAgain_nil : W.IsWrittenAgain escaper [] [] :=
  ⟨fun _ _ => (List.append_nil _).symm, fun _ h => ⟨trivial, h⟩, fun _ => trivial⟩

/-- Pieces that are written again one after the other. -/
theorem IsWrittenAgain.append {fragments more : List Fragment} {s t : Text}
    (h : W.IsWrittenAgain escaper fragments s) (h' : W.IsWrittenAgain escaper more t) :
    W.IsWrittenAgain escaper (fragments ++ more) (s ++ t) := by
  refine ⟨fun waiting hw => ?_, fun waiting hw => ?_, fun waiting => ?_⟩
  · obtain ⟨-, hr⟩ := h.hasNoReturn waiting hw
    rw [itemsFrom_append, verbatim_append, text_append, List.append_assoc, h'.text_eq _ hr,
      ← List.append_assoc, h.text_eq waiting hw, List.append_assoc]
  · obtain ⟨hitems, hr⟩ := h.hasNoReturn waiting hw
    obtain ⟨hmore, hr'⟩ := h'.hasNoReturn _ hr
    rw [itemsFrom_append]
    exact ⟨Item.everywhere_append.2 ⟨hitems, hmore⟩, hr'⟩
  · rw [itemsFrom_append]
    exact Item.everywhere_append.2 ⟨h.canWrite waiting, h'.canWrite _⟩

/-- Character data is spelled anew. -/
theorem isWrittenAgain_chars (raw : Text) {data : Text} (h : '\r' ∉ data) :
    W.IsWrittenAgain escaper [.chars raw data] (escaper.encode none data) :=
  ⟨fun _ _ => escaper.encode_append none _ _,
    fun _ hw => ⟨trivial, by simpa [itemsFrom, itemsAt] using ⟨hw, h⟩⟩, fun _ => trivial⟩

/-- A fragment that is read as an item of its own is written again like the item. -/
theorem isWrittenAgain_item (hsep : W.settings.separator = ['\n']) {f : Fragment} {item : Item}
    (hf : ∀ waiting, itemsAt waiting f = (flush waiting ++ [item], []))
    (hr : item.EverywhereAt Item.HasNoReturn) (hw : item.EverywhereAt W.CanWrite) :
    W.IsWrittenAgain escaper [f] (Fragment.text (W.fragmentsAt escaper 0 false item)) := by
  have hitems : ∀ waiting, itemsFrom waiting [f] = (flush waiting ++ [item], []) := by
    intro waiting
    simp [itemsFrom, hf]
  have hflush : ∀ (P : Item → Prop) (waiting : Text), P (.text waiting) →
      Item.Everywhere P (flush waiting) := by
    intro P waiting hp
    cases waiting with
    | nil => trivial
    | cons c waiting => exact ⟨hp, trivial⟩
  refine ⟨fun waiting hn => ?_, fun waiting hn => ?_, fun waiting => ?_⟩
  · rw [hitems, verbatim_append, text_append, text_verbatim_flush hsep hn, verbatim, verbatim,
      List.append_nil]
    exact List.append_nil _
  · rw [hitems]
    exact ⟨Item.everywhere_append.2 ⟨hflush _ _ hn, hr, trivial⟩, List.not_mem_nil⟩
  · rw [hitems]
    exact Item.everywhere_append.2 ⟨hflush _ _ trivial, hw, trivial⟩

/-- What is read from the content of an element. -/
theorem IsWrittenAgain.items (hsep : W.settings.separator = ['\n']) {fragments : List Fragment}
    {s : Text} (h : W.IsWrittenAgain escaper fragments s) :
    Fragment.text (W.verbatim escaper (items fragments)) = s ∧
      Item.Everywhere Item.HasNoReturn (items fragments) ∧
        Item.Everywhere W.CanWrite (items fragments) := by
  obtain ⟨hr, hlast⟩ := h.hasNoReturn [] List.not_mem_nil
  have htext := h.text_eq [] List.not_mem_nil
  rw [Fragment.items]
  refine ⟨?_, Item.everywhere_append.2 ⟨hr, ?_⟩, Item.everywhere_append.2 ⟨h.canWrite [], ?_⟩⟩
  · rw [verbatim_append, text_append, text_verbatim_flush hsep hlast, htext]
    rfl
  · rw [flush]
    split
    · trivial
    · exact ⟨hlast, trivial⟩
  · rw [flush]
    split <;> trivial

/-! ### Rewritten fragments -/

theorem isRewritten_nil : W.IsRewritten escaper True [] :=
  ⟨[], isWrittenAgain_nil, fun h => absurd rfl h, AgreesIff.rfl []⟩

theorem IsRewritten.append {P Q : Prop} {fragments more : List Fragment}
    (h : W.IsRewritten escaper P fragments) (h' : W.IsRewritten escaper Q more) :
    W.IsRewritten escaper (P ∧ Q) (fragments ++ more) := by
  obtain ⟨s, hs, hne, hagrees⟩ := h
  obtain ⟨t, ht, hne', hagrees'⟩ := h'
  refine ⟨s ++ t, hs.append ht, fun hn he => ?_, ?_⟩
  · obtain ⟨rfl, rfl⟩ := List.append_eq_nil_iff.1 he
    exact hn (List.append_eq_nil_iff.2 ⟨not_imp_comm.1 hne (by simp), not_imp_comm.1 hne' (by simp)⟩)
  · rw [text_append]
    exact hagrees.append hagrees'

theorem IsRewritten.congr {P Q : Prop} {fragments : List Fragment}
    (h : W.IsRewritten escaper P fragments) (hp : P ↔ Q) : W.IsRewritten escaper Q fragments :=
  let ⟨s, hs, hne, hagrees⟩ := h
  ⟨s, hs, hne, hagrees.congr hp⟩

/-- Fragments are rewritten one by one. -/
theorem isRewritten_of_forall {P : Fragment → Prop} {fragments : List Fragment}
    (h : ∀ f ∈ fragments, W.IsRewritten escaper (P f) [f]) :
    W.IsRewritten escaper (∀ f ∈ fragments, P f) fragments := by
  induction fragments with
  | nil => exact isRewritten_nil.congr (by simp)
  | cons f fragments ih =>
      have hrest := ih fun g hg => h g (by simp [hg])
      exact ((h f (by simp)).append hrest).congr (by simp)

/-- Comments, processing instructions and CDATA sections are the same again. -/
theorem isRewritten_leaf (hsep : W.settings.separator = ['\n']) {f : Fragment} {item : Item}
    (hf : ∀ waiting, itemsAt waiting f = (flush waiting ++ [item], []))
    (hitem : W.fragmentsAt escaper 0 false item = [f]) (hne : Fragment.text [f] ≠ [])
    (hr : item.EverywhereAt Item.HasNoReturn) (hw : item.EverywhereAt W.CanWrite) :
    W.IsRewritten escaper True [f] :=
  ⟨_, isWrittenAgain_item hsep hf hr hw, fun _ => by rwa [hitem], by
    rw [hitem]
    exact AgreesIff.rfl _⟩

/-- A text is the same again. -/
theorem isRewritten_text (hsep : W.settings.separator = ['\n']) {data : Text} (h : data ≠ []) :
    W.IsRewritten escaper True [W.spellText escaper data] := by
  have hr := Text.not_mem_endLinesWith data
  have hne : Text.endLinesWith ['\n'] data ≠ [] := fun he => h (Text.endLinesWith_eq_nil_iff.1 he)
  refine ⟨escaper.encode none (Text.endLinesWith ['\n'] data), ?_, fun _ he => ?_, ?_⟩
  · rw [spellText, hsep, Text.withLineEndings_eq]
    exact isWrittenAgain_chars _ hr
  · exact hne ((escaper.encode_eq_nil_iff none _).1 he)
  · rw [spellText, hsep, Text.withLineEndings_eq]
    simpa [Fragment.text, events, eventsOf, Event.source] using AgreesIff.rfl _

/-! ### CDATA sections -/

/-- A character that the character set lacks is not one of those that markup consists of. -/
theorem encodeChar_of_canEncode_eq_false (ha : W.settings.charset.HasAscii)
    (he : escaper.canEncode = W.settings.charset.canEncode) {c : Char}
    (hc : W.settings.charset.canEncode c = false) (ht : escaper.table.lookup? c = none) :
    escaper.encodeChar none c = Escaper.hexReference c := by
  have hplain : ∀ d : Char, d.toNat < 0x80 → Codec.isShift d = false → c ≠ d := by
    rintro d hd hs rfl
    rw [ha c hd hs] at hc
    cases hc
  have hname : Entity.predefinedName? c = none := by
    rw [Entity.predefinedName?, Option.map_eq_none_iff, List.find?_eq_none]
    have hall : ∀ entry ∈ Entity.predefined, entry.2.toNat < 0x80 ∧
        Codec.isShift entry.2 = false := by decide
    intro entry hentry
    have hne := hplain entry.2 (hall entry hentry).1 (hall entry hentry).2
    simpa using Ne.symm hne
  have hrequired : escaper.isRequired none c = true := by
    simp [Escaper.isRequired, he, hc, hplain '\t' (by decide) (by decide),
      hplain '\n' (by decide) (by decide), hplain '\r' (by decide) (by decide)]
  rw [Escaper.encodeChar, ht]
  simp [hrequired, Escaper.charReference, hname]

/-- A reference to a number and a reference to an entity part. -/
theorem agreesIff_hexReference (ha : W.settings.charset.HasAscii)
    (he : escaper.canEncode = W.settings.charset.canEncode) {lookup : Text → Option Text}
    (ht : escaper.table.IsReadable lookup) {c : Char}
    (hc : W.settings.charset.canEncode c = false) :
    AgreesIff (escaper.table.lookup? c = none) (Escaper.hexReference c)
      (escaper.encodeChar none c) := by
  refine ⟨fun hn => (encodeChar_of_canEncode_eq_false ha he hc hn).symm, fun hn => ?_⟩
  obtain ⟨name, hname⟩ := Option.ne_none_iff_exists'.1 hn
  obtain ⟨d, rest, rfl, hd, -⟩ := (ht c name hname).1
  refine ⟨['&'], '#', d, _, rest ++ [';'], ?_, rfl, ?_⟩
  · rintro rfl
    exact absurd hd (by decide)
  · rw [Escaper.encodeChar, hname]
    rfl

/-- A CDATA section is the same again exactly if its references are kept. -/
theorem isRewritten_cdata (hsep : W.settings.separator = ['\n'])
    (ha : W.settings.charset.HasAscii) (he : escaper.canEncode = W.settings.charset.canEncode)
    {lookup : Text → Option Text} (ht : escaper.table.IsReadable lookup) {data : Text}
    (hr : '\r' ∉ data) :
    W.IsRewritten escaper (W.KeepsReferences escaper (.cdata data))
      (CData.fragments W.settings.charset.canEncode data) := by
  have hsection : ∀ run, ¬ CData.closing <:+: run →
      (∀ c ∈ run, W.settings.charset.canEncode c = true) →
      W.IsRewritten escaper True [.cdata run] := by
    intro run hclosing hrun
    have hitem : W.fragmentsAt escaper 0 false (.cdata run) = [.cdata run] := by
      rw [fragmentsAt, CData.fragments_eq_singleton hclosing hrun]
    have hread : ∀ waiting, itemsAt waiting (.cdata run) = (flush waiting ++ [.cdata run], []) :=
      fun _ => rfl
    exact isRewritten_leaf hsep hread hitem (by simp [Fragment.text, events, eventsOf, Event.source])
      trivial trivial
  have hpieces : ∀ f ∈ CData.fragments W.settings.charset.canEncode data,
      W.IsRewritten escaper (∀ raw c, f = .chars raw [c] → escaper.table.lookup? c = none) [f] := by
    refine CData.forall_mem_fragments (fun _ => ?_) (fun run hclosing hrun => ?_)
      fun c hc hlacks => ?_
    · exact (hsection [] (by decide) (by simp)).congr (by simp)
    · exact (hsection run hclosing fun c hc => (hrun c hc).2).congr (by simp)
    · have hc' : '\r' ∉ [c] := fun hm => hr (List.mem_singleton.1 hm ▸ hc)
      have hagrees := agreesIff_hexReference ha he ht hlacks
      refine ⟨_, isWrittenAgain_chars _ hc', fun _ hn => ?_, ?_⟩
      · exact absurd ((escaper.encode_eq_nil_iff none [c]).1 hn) (by simp)
      · have htext : Fragment.text [.chars (Escaper.hexReference c) [c]] =
            Escaper.hexReference c := by simp [Fragment.text, events, eventsOf, Event.source]
        have hencode : escaper.encode none [c] = escaper.encodeChar none c := by
          simp [Escaper.encode]
        rw [htext, hencode]
        exact hagrees.congr (by simp)
  refine (isRewritten_of_forall hpieces).congr ⟨fun h c hc hlacks => ?_, fun h => ?_⟩
  · exact h _ (CData.mem_fragments hc hlacks) _ c rfl
  · refine CData.forall_mem_fragments (by simp) (by simp) fun c hc hlacks raw d hd => ?_
    obtain ⟨rfl⟩ := (List.cons.inj (Fragment.chars.inj hd).2).1
    exact h c hc hlacks

/-! ### Items -/

theorem inside_of_not_formatting (depth : Nat) (name : QName) (content : List Item) :
    W.inside escaper depth false name content = W.verbatim escaper content := by
  rw [inside]
  cases content <;> rfl

/-- Attributes that have been ordered keep their order. -/
theorem spellAttributes_again (name : QName) (attributes : List Attribute) :
    W.spellAttributes escaper name ((W.spellAttributes escaper name attributes).map Prod.fst) =
      W.spellAttributes escaper name attributes := by
  rw [map_fst_spellAttributes, spellAttributes, Attribute.sorted_sorted]
  rfl

theorem fragmentsAt_ne_nil {item : Item} {m : Meaning} (h : item.IsSoundAt m) (depth : Nat)
    (formatting : Bool) : W.fragmentsAt escaper depth formatting item ≠ [] := by
  cases item with
  | element name attributes content => simp [fragmentsAt_element]
  | cdata data =>
      rw [fragmentsAt, CData.fragments]
      cases data with
      | nil => simp
      | cons c data =>
          rw [if_neg (by simp), CData.runs_cons]
          split <;> simp [CData.sectionFragments, CData.sections_ne_nil, CData.otherFragments]
  | doctype d => exact h.elim
  | _ => simp [fragmentsAt]

theorem verbatim_eq_nil_iff {items : List Item} {m : Meaning} (h : Item.IsSound m items) :
    W.verbatim escaper items = [] ↔ items = [] := by
  cases items with
  | nil => simp [verbatim]
  | cons item items => simp [verbatim, fragmentsAt_ne_nil h.1]

/-- An element is the same again if its content is. -/
theorem isRewritten_element (hsep : W.settings.separator = ['\n']) {P : Prop} (name : QName)
    (attributes : List Attribute) {content : List Item} {m : Meaning}
    (hs : Item.IsSound m content) (hp : content = [] → P)
    (hw : W.CanWrite (.element name attributes content))
    (h : W.IsRewritten escaper P (W.verbatim escaper content)) :
    W.IsRewritten escaper P (W.fragmentsAt escaper 0 false (.element name attributes content)) := by
  obtain ⟨s, hs', hne, hagrees⟩ := h
  obtain ⟨htext, hr, hcan⟩ := hs'.items hsep
  have hperm := Attribute.sorted_perm W.profile (keyOf name) attributes
  have hempty : (items (W.verbatim escaper content)).isEmpty = content.isEmpty := by
    cases content with
    | nil => rfl
    | cons item content =>
        have hv : W.verbatim escaper (item :: content) ≠ [] := fun hv =>
          absurd ((verbatim_eq_nil_iff hs).1 hv) (by simp)
        rw [List.isEmpty_cons, List.isEmpty_eq_false_iff]
        intro hi
        rw [hi] at htext
        exact hne hv htext.symm
  have hread : ∀ waiting, itemsAt waiting (.element name (W.spellAttributes escaper name attributes)
      (content.isEmpty && W.settings.emptyTags) (W.verbatim escaper content)) =
        (flush waiting ++ [.element name ((W.spellAttributes escaper name attributes).map Prod.fst)
          (items (W.verbatim escaper content))], []) := fun _ => rfl
  have hable : W.CanWrite (.element name ((W.spellAttributes escaper name attributes).map Prod.fst)
      (items (W.verbatim escaper content))) := by
    rw [map_fst_spellAttributes]
    exact ⟨hw.1, fun a ha => hw.2 a (hperm.mem_iff.1 ha)⟩
  rw [fragmentsAt_element, inside_of_not_formatting]
  refine ⟨_, isWrittenAgain_item hsep hread ⟨trivial, hr⟩ ⟨hable, hcan⟩, fun _ => ?_, ?_⟩
  · rw [fragmentsAt_element, text_element]
    exact List.cons_ne_nil _ _
  · rw [fragmentsAt_element, inside_of_not_formatting, spellAttributes_again, hempty, text_element,
      text_element, htext]
    cases hc : content.isEmpty && W.settings.emptyTags with
    | true =>
        have hcontent := List.isEmpty_iff.1 (Bool.and_eq_true_iff.1 hc).1
        exact (AgreesIff.rfl _).congr (iff_of_true trivial (hp hcontent))
    | false =>
        have hends := (hagrees.append_right ('<' :: '/' :: name.text ++ ['>'])).append_left
          ('<' :: tagOf name (W.spellAttributes escaper name attributes) ++ ['>'])
        simpa using hends

mutual

/-- An item is the same again exactly if its references are kept. -/
theorem isRewritten_fragmentsAt (hsep : W.settings.separator = ['\n'])
    (ha : W.settings.charset.HasAscii) (he : escaper.canEncode = W.settings.charset.canEncode)
    {lookup : Text → Option Text} (ht : escaper.table.IsReadable lookup) :
    ∀ (item : Item) (m : Meaning), item.IsSoundAt m → item.EverywhereAt W.CanWrite →
      W.IsRewritten escaper (item.EverywhereAt (W.KeepsReferences escaper))
        (W.fragmentsAt escaper 0 false item)
  | .element name attributes content, m, hs, hw =>
      isRewritten_element hsep name attributes hs.2.2.2 (fun hc => ⟨trivial, by rw [hc]; trivial⟩)
        hw.1 ((isRewritten_verbatim hsep ha he ht content _ hs.2.2.2 hw.2).congr
          (and_iff_right trivial).symm)
  | .text data, _, hs, _ => isRewritten_text hsep hs
  | .cdata data, _, hs, _ => isRewritten_cdata hsep ha he ht hs.2
  | .comment data, _, _, hw => isRewritten_leaf hsep (fun _ => rfl) rfl
      (by simp [Fragment.text, events, eventsOf, Event.source]) trivial hw
  | .instruction target data, _, _, hw => isRewritten_leaf hsep (fun _ => rfl) rfl
      (by simp [Fragment.text, events, eventsOf, Event.source]) trivial hw
  | .doctype _, _, hs, _ => hs.elim

/-- Content is the same again exactly if its references are kept. -/
theorem isRewritten_verbatim (hsep : W.settings.separator = ['\n'])
    (ha : W.settings.charset.HasAscii) (he : escaper.canEncode = W.settings.charset.canEncode)
    {lookup : Text → Option Text} (ht : escaper.table.IsReadable lookup) :
    ∀ (items : List Item) (m : Meaning), Item.IsSound m items →
      Item.Everywhere W.CanWrite items →
      W.IsRewritten escaper (Item.Everywhere (W.KeepsReferences escaper) items)
        (W.verbatim escaper items)
  | [], _, _, _ => isRewritten_nil
  | item :: items, m, hs, hw => (isRewritten_fragmentsAt hsep ha he ht item m hs.1 hw.1).append
      (isRewritten_verbatim hsep ha he ht items m hs.2 hw.2)

end

/-! ### Adjacent texts -/

theorem text_verbatim_join (hsep : W.settings.separator = ['\n']) {item : Item}
    {items : List Item} (h : Item.Everywhere Item.HasNoReturn (item :: items)) :
    Fragment.text (W.verbatim escaper (Item.join item items)) =
      Fragment.text (W.verbatim escaper (item :: items)) := by
  rcases Item.join_cases item items with he | ⟨data, next, rest, rfl, rfl, he⟩
  · rw [he]
  · obtain ⟨hdata, hnext, -⟩ := h
    have hboth : '\r' ∉ data ++ next := by simpa using ⟨hdata, hnext⟩
    rw [he]
    simp only [verbatim, fragmentsAt, text_append, text_spellText hsep hdata,
      text_spellText hsep hnext, text_spellText hsep hboth, Escaper.encode_append,
      List.append_assoc]

mutual

/-- It makes no difference whether adjacent texts in an item are joined. -/
theorem text_fragmentsAt_joinedAt (hsep : W.settings.separator = ['\n']) :
    ∀ item : Item, item.EverywhereAt Item.HasNoReturn →
      Fragment.text (W.fragmentsAt escaper 0 false item.joinedAt) =
        Fragment.text (W.fragmentsAt escaper 0 false item)
  | .element name attributes content, h => by
      have hempty : (Item.joined content).isEmpty = content.isEmpty := by
        rw [Bool.eq_iff_iff, List.isEmpty_iff, List.isEmpty_iff, Item.joined_eq_nil_iff]
      rw [Item.joinedAt, fragmentsAt_element, fragmentsAt_element, inside_of_not_formatting,
        inside_of_not_formatting, hempty, text_element, text_element,
        text_verbatim_joined hsep content h.2]
  | .text _, _ => rfl
  | .cdata _, _ => rfl
  | .comment _, _ => rfl
  | .instruction _ _, _ => rfl
  | .doctype _, _ => rfl

/-- It makes no difference whether adjacent texts are joined. -/
theorem text_verbatim_joined (hsep : W.settings.separator = ['\n']) :
    ∀ items : List Item, Item.Everywhere Item.HasNoReturn items →
      Fragment.text (W.verbatim escaper (Item.joined items)) =
        Fragment.text (W.verbatim escaper items)
  | [], _ => rfl
  | item :: items, h => by
      have hparts : Item.Everywhere Item.HasNoReturn (item.joinedAt :: Item.joined items) :=
        ⟨Item.hasNoReturn_joinedAt.2 h.1, (Item.hasNoReturn_joined items).2 h.2⟩
      rw [Item.joined, text_verbatim_join hsep hparts, verbatim, verbatim, text_append,
        text_append, text_fragmentsAt_joinedAt hsep item h.1, text_verbatim_joined hsep items h.2]

end

end Writer

end XmlScribe
