/-
**Line separators that are read again.**

Where text is written, its line endings become the separator and are escaped then.  Reading makes a
line feed of a carriage return, alone or with a line feed after it, unless one of the two is written
as an entity.  So what is read in place of a line ending depends on the separator and on the
entities that are used.  Everything else is read as if line feeds had been written.

Main definitions:

* `EntityTable.lineAgain` — what is read where a line ending has been written as a separator;
* `Writer.withSeparator` — the writer with another separator;
* `Fragment.Becomes` — what some fragments are once line endings have become line feeds.

Main results:

* `Escaper.spells_endLinesWith` — what is left of an escaped text spells the text with other line
  endings;
* `Writer.becomesAgain_verbatim` — content;
* `Writer.exists_becomesOutside_bodyFragments` — what stands outside all elements;
* `Writer.parse_withSeparator` — reading the text of a document.
-/

import XmlScribe.Proofs.Document.Reread
import XmlScribe.Proofs.Markup.Unified

set_option autoImplicit false

namespace XmlScribe

open Builder Fragment

/-- What is read where a line ending has been written as this separator: a line feed, or what the
entities stand for. -/
def EntityTable.lineAgain (table : EntityTable) (separator : Text) : Text :=
  if separator = ['\r'] then
    if (table.lookup? '\r').isSome then ['\r'] else ['\n']
  else if separator = ['\r', '\n'] then
    if (table.lookup? '\r').isSome then ['\r', '\n']
    else if (table.lookup? '\n').isSome then ['\n', '\n']
    else ['\n']
  else ['\n']

/-- Without entities for line endings a line feed is read, whatever the separator is. -/
theorem EntityTable.lineAgain_eq {table : EntityTable} (hr : table.lookup? '\r' = none)
    (hn : table.lookup? '\n' = none) (separator : Text) : table.lineAgain separator = ['\n'] := by
  simp [lineAgain, hr, hn]

/-! ### Escaped line endings -/

namespace Escaper

variable {e : Escaper} {lookup : Text → Option Text}

/-- A line ending is escaped only if there is an entity for it. -/
theorem encodeChar_lineEnding (e : Escaper) {c : Char} (hc : c = '\r' ∨ c = '\n') :
    e.encodeChar none c =
      match e.table.lookup? c with
      | some name => entityReference name
      | none => [c] := by
  have hplain : e.isRequired none c = false ∧ e.isRequested c = false := by
    rcases hc with rfl | rfl
    · exact ⟨rfl, by
        rw [isRequested, show isControl '\r' = false by decide,
          show CharSet.privateUse.contains '\r' = false by decide]
        simp⟩
    · exact ⟨rfl, by
        rw [isRequested, show isControl '\n' = false by decide,
          show CharSet.privateUse.contains '\n' = false by decide]
        simp⟩
  rw [encodeChar]
  cases e.table.lookup? c with
  | some name => rfl
  | none => simp [hplain]

/-- What is left of an escaped separator, once line endings have become line feeds. -/
theorem spells_lineAgain (ht : e.table.IsReadable lookup) {sep : Text}
    (hsep : sep = ['\r'] ∨ sep = ['\r', '\n']) :
    Reference.Spells lookup (Text.endLinesWith ['\n'] (e.encode none sep))
      (e.table.lineAgain sep) := by
  have hreference : ∀ {c name}, e.table.lookup? c = some name →
      Reference.Spells lookup (entityReference name) [c] ∧ '\r' ∉ entityReference name :=
    fun hname => ⟨spells_entityReference (ht _ _ hname).1 (ht _ _ hname).2,
      not_mem_entityReference (ht _ _ hname).1 (by decide)⟩
  have hfeed : Reference.Spells lookup ['\n'] ['\n'] := Reference.spells_self (by decide)
  rcases hsep with rfl | rfl
  · have hencode : e.encode none ['\r'] = e.encodeChar none '\r' := List.append_nil _
    rw [hencode, encodeChar_lineEnding e (Or.inl rfl), EntityTable.lineAgain, if_pos rfl]
    cases hname : e.table.lookup? '\r' with
    | none => exact hfeed
    | some name =>
        obtain ⟨hspells, hr⟩ := hreference hname
        rw [Text.endLinesWith_eq_self hr]
        exact hspells
  · have hencode : e.encode none ['\r', '\n'] =
        e.encodeChar none '\r' ++ e.encodeChar none '\n' := by
      simp [encode]
    rw [hencode, encodeChar_lineEnding e (Or.inl rfl), encodeChar_lineEnding e (Or.inr rfl),
      EntityTable.lineAgain, if_neg (by decide), if_pos rfl]
    cases hname : e.table.lookup? '\r' with
    | some name =>
        obtain ⟨hspells, hr⟩ := hreference hname
        rw [Text.endLinesWith_append_of_not_mem hr]
        cases hname' : e.table.lookup? '\n' with
        | some name' =>
            obtain ⟨hspells', hr'⟩ := hreference hname'
            rw [Text.endLinesWith_eq_self hr']
            exact hspells.append hspells'
        | none => exact hspells.append hfeed
    | none =>
        cases hname' : e.table.lookup? '\n' with
        | some name' =>
            -- the carriage return has lost its line feed and ends a line of its own
            obtain ⟨hspells', hr'⟩ := hreference hname'
            rw [List.singleton_append, Text.endLinesWith_return (by simp [entityReference]),
              Text.endLinesWith_eq_self hr']
            exact hfeed.append hspells'
        | none => exact hfeed

/-- No line feed comes to the start of an escaped text. -/
theorem head?_encode_append (ht : e.table.IsReadable lookup) {s t : Text}
    (hs : s.head? ≠ some '\n') (htail : t.head? ≠ some '\n') :
    (e.encode none s ++ t).head? ≠ some '\n' := by
  cases s with
  | nil => exact htail
  | cons c s =>
      have hchar : e.encode none [c] = e.encodeChar none c := List.append_nil _
      have hne : e.encodeChar none c ≠ [] := by
        rw [← hchar, ne_eq, encode_eq_nil_iff]
        exact List.cons_ne_nil c []
      obtain ⟨d, rest, hd⟩ := List.exists_cons_of_ne_nil hne
      rw [encode, List.flatMap_cons, hd]
      rintro ⟨⟩
      have hmem : '\n' ∈ e.encodeChar none c := by rw [hd]; exact List.mem_cons_self
      exact hs (congrArg some (eq_of_mem_encodeChar ht (by decide) hmem).1.symm)

theorem head?_endLinesWith {sep : Text} (hsep : sep = ['\r'] ∨ sep = ['\r', '\n'])
    (data : Text) : (Text.endLinesWith sep data).head? ≠ some '\n' := by
  have hhead : ∀ t, (sep ++ t).head? ≠ some '\n' := by
    rcases hsep with rfl | rfl <;> simp
  induction data using Text.lineInduction with
  | nil => exact nofun
  | pair s => exact hhead _
  | lone s hs =>
      rw [Text.endLinesWith_return hs]
      exact hhead _
  | feed s => exact hhead _
  | char c s hr hn =>
      rw [Text.endLinesWith_cons hr hn]
      simpa using hn

/-- What is left of an escaped text, once line endings have become line feeds. -/
theorem spells_endLinesWith (ht : e.table.IsReadable lookup) {sep : Text}
    (hsep : sep = ['\r'] ∨ sep = ['\r', '\n']) {data : Text} (hdata : '\x00' ∉ data) :
    Reference.Spells lookup
      (Text.endLinesWith ['\n'] (e.encode none (Text.endLinesWith sep data)))
      (Text.endLinesWith (e.table.lineAgain sep) data) := by
  -- what follows a separator does not begin with a line feed, so the two are read apart
  have hhead : ∀ s, (e.encode none (Text.endLinesWith sep s)).head? ≠ some '\n' := by
    intro s
    have h := @head?_encode_append e lookup ht _ [] (head?_endLinesWith hsep s) nofun
    rwa [List.append_nil] at h
  have hline : ∀ s, Reference.Spells lookup
      (Text.endLinesWith ['\n'] (e.encode none (Text.endLinesWith sep s)))
      (Text.endLinesWith (e.table.lineAgain sep) s) →
        Reference.Spells lookup
          (Text.endLinesWith ['\n'] (e.encode none (sep ++ Text.endLinesWith sep s)))
          (e.table.lineAgain sep ++ Text.endLinesWith (e.table.lineAgain sep) s) := by
    intro s hs
    rw [encode_append, Text.endLinesWith_append (hhead s)]
    exact (spells_lineAgain ht hsep).append hs
  induction data using Text.lineInduction with
  | nil => exact .nil
  | pair s ih => exact hline s (ih fun hm => hdata (by simp [hm]))
  | lone s hs ih =>
      rw [Text.endLinesWith_return hs, Text.endLinesWith_return hs]
      exact hline s (ih fun hm => hdata (by simp [hm]))
  | feed s ih => exact hline s (ih fun hm => hdata (by simp [hm]))
  | char c s hr hn ih =>
      have hnot : '\r' ∉ e.encodeChar none c := fun hm =>
        hr (eq_of_mem_encodeChar ht (by decide) hm).1.symm
      simp only [List.mem_cons, not_or] at hdata
      rw [Text.endLinesWith_cons hr hn, Text.endLinesWith_cons hr hn, encode, List.flatMap_cons,
        Text.endLinesWith_append_of_not_mem hnot]
      exact (spells_encodeChar ht none (Ne.symm hdata.1)).append (ih hdata.2)

end Escaper

/-! ### Fragments -/

namespace Fragment

/-- The fragment is character data. -/
def isChars : Fragment → Bool
  | chars _ _ => true
  | _ => false

/-- Where markup stands for markup, the first fragment is markup if the other one is. -/
theorem head?_of_map_isChars {read written : List Fragment}
    (h : read.map isChars = written.map isChars)
    (hw : ∀ raw data, written.head? ≠ some (chars raw data)) (raw data : Text) :
    read.head? ≠ some (chars raw data) := by
  intro hread
  obtain ⟨rest, rfl⟩ := List.head?_eq_some_iff.1 hread
  cases written with
  | nil => cases h
  | cons f fragments =>
      have hf : isChars f = true := (List.cons.inj h).1.symm
      cases f with
      | chars raw data => exact hw raw data rfl
      | _ => cases hf

variable {lookup : Text → Option Text} {m : Meaning}

theorem text_singleton (f : Fragment) : text [f] = (eventsOf f).flatMap Event.source := by
  rw [text, events, events, List.append_nil]

/-- Markup begins with an angle bracket. -/
theorem head?_text_markup {f : Fragment} (hf : ∀ raw data, f ≠ chars raw data) :
    (text [f]).head? = some '<' := by
  cases f with
  | chars raw data => exact absurd rfl (hf raw data)
  | element name attributes closed content =>
      cases closed <;> simp [text_singleton, eventsOf, Event.source]
  | _ => simp [text_singleton, eventsOf, Event.source]

/-- Once line endings have become line feeds, the text of the first fragments is that of the second
ones, and these are read as they are meant.  What follows does not begin with a line feed. -/
structure Becomes (lookup : Text → Option Text) (m : Meaning) (written read : List Fragment) :
    Prop where
  /-- They are read as they are meant. -/
  isReadable : IsReadable lookup m read
  /-- The text does not begin with a line feed either. -/
  head : ∀ t : Text, t.head? ≠ some '\n' → (text written ++ t).head? ≠ some '\n'
  /-- The text once it is read. -/
  text : ∀ t : Text, t.head? ≠ some '\n' → Text.endLinesWith ['\n'] (text written ++ t) =
    text read ++ Text.endLinesWith ['\n'] t

namespace Becomes

theorem nil : Becomes lookup m [] [] :=
  ⟨trivial, fun _ ht => ht, fun _ _ => rfl⟩

theorem append {written read more rest : List Fragment} (h : Becomes lookup m written read)
    (h' : Becomes lookup m more rest) : Becomes lookup m (written ++ more) (read ++ rest) where
  isReadable := isReadable_iff.2 fun f hf =>
    (List.mem_append.1 hf).elim (isReadable_iff.1 h.isReadable f) (isReadable_iff.1 h'.isReadable f)
  head t ht := by
    rw [text_append, List.append_assoc]
    exact h.head _ (h'.head t ht)
  text t ht := by
    rw [text_append, text_append, List.append_assoc, h.text _ (h'.head t ht), h'.text t ht,
      List.append_assoc]

/-- A fragment without carriage returns stays as it is. -/
theorem refl {f : Fragment} (h : IsReadableAt lookup m f) {c : Char} (hc : c ≠ '\n')
    (hhead : (Fragment.text [f]).head? = some c) : Becomes lookup m [f] [f] where
  isReadable := ⟨h, trivial⟩
  head t _ := by
    rw [List.head?_append, hhead]
    simpa using hc
  text t _ := Text.endLinesWith_append_of_not_mem (not_mem_text [f] ⟨h, trivial⟩) t

/-- Markup without content stays as it is. -/
theorem markup {f : Fragment} (h : IsReadableAt lookup m f) (hf : ∀ raw data, f ≠ chars raw data) :
    Becomes lookup m [f] [f] :=
  refl h (by decide) (head?_text_markup hf)

theorem of_forall {fragments : List Fragment}
    (h : ∀ f ∈ fragments, Becomes lookup m [f] [f]) : Becomes lookup m fragments fragments := by
  induction fragments with
  | nil => exact nil
  | cons f fragments ih =>
      exact (h f List.mem_cons_self).append (ih fun g hg => h g (List.mem_cons_of_mem f hg))

/-- An element becomes the element with what its content becomes. -/
theorem element {name : QName} {attributes : List (Attribute × WrittenAttribute)} {closed : Bool}
    {written read : List Fragment}
    (h : IsReadableAt lookup m (.element name attributes closed read)) {inner : Meaning}
    (hcontent : Becomes lookup inner written read) :
    Becomes lookup m [.element name attributes closed written]
      [.element name attributes closed read] where
  isReadable := ⟨h, trivial⟩
  head t _ := by
    rw [List.head?_append, head?_text_markup (fun _ _ => Fragment.noConfusion)]
    exact nofun
  text t _ := by
    obtain ⟨hname, -, hspelled, -, -, -⟩ := h
    have hn := hname.isMade.isName
    rw [text_singleton, text_singleton]
    exact endLinesWith_element (Name.not_mem_of_isName hn (by decide)) (not_mem_tagOf hn hspelled)
      hcontent.text t

end Becomes

/-- What is written becomes fragments with the items of what is meant. -/
def BecomesAgain (lookup : Text → Option Text) (m : Meaning) (written meant : List Fragment) :
    Prop :=
  ∃ read, Becomes lookup m written read ∧ ∀ waiting, itemsFrom waiting read =
    itemsFrom waiting meant

theorem BecomesAgain.append {written meant more rest : List Fragment}
    (h : BecomesAgain lookup m written meant) (h' : BecomesAgain lookup m more rest) :
    BecomesAgain lookup m (written ++ more) (meant ++ rest) := by
  obtain ⟨read, hread, hitems⟩ := h
  obtain ⟨read', hread', hitems'⟩ := h'
  refine ⟨read ++ read', hread.append hread', fun waiting => ?_⟩
  rw [itemsFrom_append, itemsFrom_append, hitems, hitems']

theorem Becomes.again {fragments : List Fragment} (h : Becomes lookup m fragments fragments) :
    BecomesAgain lookup m fragments fragments :=
  ⟨fragments, h, fun _ => rfl⟩

end Fragment

namespace Writer

variable {W : Writer} {escaper : Escaper} {lookup : Text → Option Text} {m : Meaning}
  {subsets : Subsets} {sep : Text}

/-- The writer with another separator. -/
def withSeparator (W : Writer) (separator : Text) : Writer :=
  { W with settings := { W.settings with separator := separator } }

/-! ### Content -/

/-- Character data becomes the same with other line endings. -/
theorem exists_becomes_spellText (ht : escaper.table.IsReadable lookup)
    (hsep : sep = ['\r'] ∨ sep = ['\r', '\n']) {data : Text} (hdata : '\x00' ∉ data) :
    ∃ raw, Becomes lookup m [(W.withSeparator sep).spellText escaper data]
      [.chars raw (Text.endLinesWith (escaper.table.lineAgain sep) data)] := by
  have hspell : (W.withSeparator sep).spellText escaper data =
      .chars (escaper.encode none (Text.endLinesWith sep data)) (Text.endLinesWith sep data) := by
    rw [spellText]
    simp only [Text.withLineEndings_eq]
    rfl
  have hsource : ∀ raw data : Text, Fragment.text [.chars raw data] = raw := by
    intro raw data
    simp [text_singleton, Fragment.eventsOf, Event.source]
  refine ⟨Text.endLinesWith ['\n'] (escaper.encode none (Text.endLinesWith sep data)),
    ⟨⟨⟨fun hm => ?_, Text.not_mem_endLinesWith _⟩, Escaper.spells_endLinesWith ht hsep hdata⟩,
      trivial⟩, fun t htail => ?_, fun t htail => ?_⟩
  · rcases Text.mem_of_mem_endLinesWith hm with hm | hm
    · exact (Escaper.not_mem_encode_none ht _).1 hm
    · exact absurd hm (by decide)
  · rw [hspell, hsource]
    exact Escaper.head?_encode_append ht (Escaper.head?_endLinesWith hsep data) htail
  · rw [hspell, hsource, hsource]
    exact Text.endLinesWith_append htail

/-- A CDATA section stays as it is. -/
theorem becomes_cdata (canEncode : Char → Bool) {data : Text} (hr : '\r' ∉ data)
    (hn : '\x00' ∉ data) :
    Becomes lookup m (CData.fragments canEncode data) (CData.fragments canEncode data) := by
  have hreadable := isReadable_iff.1
    (@CData.isReadable_fragments lookup m canEncode data hr fun h => absurd h hn)
  have hhead : ∀ f ∈ CData.fragments canEncode data,
      ∃ c, c ≠ '\n' ∧ (Fragment.text [f]).head? = some c :=
    CData.forall_mem_fragments (fun _ => ⟨'<', by decide, rfl⟩)
      (fun _ _ _ => ⟨'<', by decide, head?_text_markup nofun⟩)
      fun c _ _ => ⟨'&', by decide, by
        simp [text_singleton, Fragment.eventsOf, Event.source, Escaper.hexReference]⟩
  refine Becomes.of_forall fun f hf => ?_
  obtain ⟨c, hc, hfirst⟩ := hhead f hf
  exact .refl (hreadable f hf) hc hfirst

/-- An element becomes the element with what its content becomes. -/
theorem exists_becomes_element (ht : escaper.table.IsReadable lookup) {name : QName}
    {attributes : List Attribute} {content : List Item}
    (hs : (Item.element name attributes content).IsSoundAt m)
    (hn : Item.HasNoNull (.element name attributes content)) {again : Text}
    (hcontent : BecomesAgain lookup (meaningIn m attributes)
      ((W.withSeparator sep).verbatim escaper content)
      ((W.withSeparator again).verbatim escaper content)) :
    ∃ closed inner, Becomes lookup m
        ((W.withSeparator sep).fragmentsAt escaper 0 false (.element name attributes content))
        [.element name (W.spellAttributes escaper name attributes) closed inner] ∧
      ∀ waiting, itemsFrom waiting
          [.element name (W.spellAttributes escaper name attributes) closed inner] =
        itemsFrom waiting ((W.withSeparator again).fragmentsAt escaper 0 false
          (.element name attributes content)) := by
  have hinside : ∀ W : Writer, content ≠ [] →
      W.inside escaper 0 false name content = W.verbatim escaper content := by
    intro W hne
    rw [inside, if_neg (by simpa using hne)]
    rfl
  rw [fragmentsAt_element, fragmentsAt_element]
  by_cases hne : content = []
  · -- the tag closes the element, or an end tag follows at once
    subst hne
    exact ⟨_, [], .element (isReadableAt_element ht hs hn (fun _ => rfl) trivial)
      (.nil (m := m)), fun _ => rfl⟩
  · obtain ⟨read, hread, hitems⟩ := hcontent
    rw [hinside _ hne, hinside _ hne]
    refine ⟨_, read, .element (isReadableAt_element ht hs hn (fun hc => ?_) hread.isReadable) hread,
      fun waiting => ?_⟩
    · exact absurd (List.isEmpty_iff.1 (Bool.and_eq_true_iff.1 hc).1) hne
    · simp only [itemsFrom, itemsAt, hitems]
      rfl

mutual

/-- An item becomes what it would be with other line endings. -/
theorem becomesAgain_fragmentsAt (ht : escaper.table.IsReadable lookup)
    (hsep : sep = ['\r'] ∨ sep = ['\r', '\n']) :
    ∀ (item : Item) (m : Meaning), item.IsSoundAt m → item.EverywhereAt Item.HasNoNull →
      BecomesAgain lookup m ((W.withSeparator sep).fragmentsAt escaper 0 false item)
        ((W.withSeparator (escaper.table.lineAgain sep)).fragmentsAt escaper 0 false item)
  | .element name attributes content, m, hs, hn => by
      obtain ⟨closed, inner, hbecomes, hitems⟩ := exists_becomes_element ht hs hn.1
        (becomesAgain_verbatim ht hsep content _ hs.2.2.2 hn.2)
      exact ⟨_, hbecomes, hitems⟩
  | .text data, m, _, hn => by
      obtain ⟨raw, hraw⟩ := exists_becomes_spellText ht hsep hn
      refine ⟨_, hraw, fun waiting => ?_⟩
      rw [fragmentsAt, spellText]
      simp only [Text.withLineEndings_eq]
      rfl
  | .cdata data, m, hs, hn => (becomes_cdata _ hs.2 hn).again
  | .comment data, m, hs, _ => Becomes.again (.markup hs nofun)
  | .instruction target data, m, hs, _ => Becomes.again (.markup hs nofun)
  | .doctype _, _, hs, _ => hs.elim

/-- Content becomes what it would be with other line endings. -/
theorem becomesAgain_verbatim (ht : escaper.table.IsReadable lookup)
    (hsep : sep = ['\r'] ∨ sep = ['\r', '\n']) :
    ∀ (items : List Item) (m : Meaning), Item.IsSound m items →
      Item.Everywhere Item.HasNoNull items →
      BecomesAgain lookup m ((W.withSeparator sep).verbatim escaper items)
        ((W.withSeparator (escaper.table.lineAgain sep)).verbatim escaper items)
  | [], _, _, _ => Becomes.nil.again
  | item :: items, m, hs, hn => (becomesAgain_fragmentsAt ht hsep item m hs.1 hn.1).append
      (becomesAgain_verbatim ht hsep items m hs.2 hn.2)

end

/-! ### Documents -/

/-- The same outside all elements, where only items count. -/
structure BecomesOutside (lookup : Text → Option Text) (written meant read : List Fragment) :
    Prop where
  /-- The one becomes the other. -/
  becomes : Becomes lookup (fun _ => none) written read
  /-- The fragments may stand outside all elements. -/
  isOutside : ∀ f ∈ read, f.IsOutside
  /-- Markup becomes markup. -/
  isChars : read.map isChars = written.map isChars
  /-- They have the items of what is meant. -/
  items : itemsOutside read = itemsOutside meant

theorem BecomesOutside.append {written meant read more rest again : List Fragment}
    (h : BecomesOutside lookup written meant read) (h' : BecomesOutside lookup more rest again) :
    BecomesOutside lookup (written ++ more) (meant ++ rest) (read ++ again) where
  becomes := h.becomes.append h'.becomes
  isOutside f hf := (List.mem_append.1 hf).elim (h.isOutside f) (h'.isOutside f)
  isChars := by rw [List.map_append, List.map_append, h.isChars, h'.isChars]
  items := by rw [itemsOutside_append, itemsOutside_append, h.items, h'.items]

/-- The end of a line becomes a line feed. -/
theorem becomesOutside_lineEnd (hsep : sep = ['\r'] ∨ sep = ['\r', '\n']) (again : Text) :
    BecomesOutside lookup [(W.withSeparator sep).lineEnd] [(W.withSeparator again).lineEnd]
      [blanks ['\n']] := by
  have hsource : Fragment.text [(W.withSeparator sep).lineEnd] = sep := by
    rw [text_singleton]
    exact List.append_nil sep
  refine ⟨⟨⟨isReadableAt_blanks rfl (by decide), trivial⟩, fun t _ => ?_, fun t htail => ?_⟩,
    fun f hf => ?_, rfl, rfl⟩
  · rw [hsource]
    rcases hsep with rfl | rfl <;> exact nofun
  · rw [hsource, Text.endLinesWith_lineEnding (by rcases hsep with rfl | rfl <;> decide) htail]
    rfl
  · rw [List.mem_singleton.1 hf]
    exact ⟨rfl, rfl⟩

/-- A comment or a processing instruction stands on a line of its own. -/
theorem exists_becomesOutside_beside (hsep : sep = ['\r'] ∨ sep = ['\r', '\n']) {f : Fragment}
    (hf : IsReadableAt lookup (fun _ => none) f) (hout : f.IsOutside)
    (hne : ∀ raw data, f ≠ .chars raw data) (again : Text) (afterRoot : Bool) :
    ∃ read, BecomesOutside lookup
      (if afterRoot then [(W.withSeparator sep).lineEnd, f] else [f, (W.withSeparator sep).lineEnd])
      (if afterRoot then [(W.withSeparator again).lineEnd, f]
        else [f, (W.withSeparator again).lineEnd]) read := by
  have hself : BecomesOutside lookup [f] [f] [f] :=
    ⟨.markup hf hne, by simpa using hout, rfl, rfl⟩
  have hline := @becomesOutside_lineEnd W lookup sep hsep again
  cases afterRoot with
  | true => exact ⟨_, hline.append hself⟩
  | false => exact ⟨_, hself.append hline⟩

theorem exists_becomesOutside_outsideAt (ht : escaper.table.IsReadable lookup)
    (hsep : sep = ['\r'] ∨ sep = ['\r', '\n']) (hf : W.settings.formatted = false) {item : Item}
    (hs : item.IsSoundOutside subsets) (hn : item.EverywhereAt Item.HasNoNull)
    (afterRoot : Bool) :
    ∃ read, BecomesOutside lookup ((W.withSeparator sep).outsideAt escaper afterRoot item)
      ((W.withSeparator (escaper.table.lineAgain sep)).outsideAt escaper afterRoot item) read := by
  cases item with
  | element name attributes content =>
      obtain ⟨closed, inner, hbecomes, hitems⟩ := @exists_becomes_element W escaper lookup _ sep ht
        name attributes content hs hn.1 (escaper.table.lineAgain sep)
        (becomesAgain_verbatim ht hsep content _ hs.2.2.2 hn.2)
      have hformatted : ∀ sep, (W.withSeparator sep).settings.formatted = false := fun _ => hf
      rw [outsideAt, outsideAt, hformatted, hformatted]
      have hitems := congrArg Prod.fst (hitems [])
      rw [fragmentsAt_element] at hbecomes hitems ⊢
      rw [fragmentsAt_element]
      refine ⟨_, hbecomes, by simp [IsOutside], rfl, ?_⟩
      simpa [itemsOutside, itemsFrom] using hitems
  | comment data =>
      exact exists_becomesOutside_beside hsep (f := .comment data) hs trivial nofun _ _
  | instruction target data =>
      exact exists_becomesOutside_beside hsep (f := .instruction target data) hs trivial nofun _ _
  | doctype d => exact ⟨[], .nil, by simp, rfl, rfl⟩
  | text data => exact hs.elim
  | cdata data => exact hs.elim

/-- What is written of a document after its prolog. -/
theorem exists_becomesOutside_bodyFragments (ht : escaper.table.IsReadable lookup)
    (hsep : sep = ['\r'] ∨ sep = ['\r', '\n']) (hf : W.settings.formatted = false)
    {items : List Item} (hs : ∀ item ∈ items, item.IsSoundOutside subsets)
    (hn : Item.Everywhere Item.HasNoNull items) :
    ∃ read, BecomesOutside lookup ((W.withSeparator sep).bodyFragments escaper items)
      ((W.withSeparator (escaper.table.lineAgain sep)).bodyFragments escaper items) read := by
  have houtside : ∀ afterRoot, ∃ read,
      BecomesOutside lookup ((W.withSeparator sep).outside escaper afterRoot items)
        ((W.withSeparator (escaper.table.lineAgain sep)).outside escaper afterRoot items) read := by
    induction items with
    | nil => exact fun _ => ⟨[], .nil, by simp, rfl, rfl⟩
    | cons item items ih =>
        intro afterRoot
        obtain ⟨read, hread⟩ := exists_becomesOutside_outsideAt ht hsep hf
          (hs item List.mem_cons_self) hn.1 afterRoot
        obtain ⟨rest, hrest⟩ := ih (fun other ho => hs other (List.mem_cons_of_mem item ho)) hn.2
          (afterRoot || item.isElement)
        exact ⟨_, hread.append hrest⟩
  obtain ⟨read, hread⟩ := houtside false
  have hends : ∀ sep, (W.withSeparator sep).settings.endsWithLine = W.settings.endsWithLine :=
    fun _ => rfl
  rw [bodyFragments, bodyFragments, hends, hends]
  split
  · exact ⟨_, hread.append (becomesOutside_lineEnd hsep _)⟩
  · exact ⟨_, hread.append ⟨.nil, by simp, rfl, rfl⟩⟩

/-- **The text of a document is read with other line endings.** -/
theorem parse_withSeparator {doc : Document} (hs : doc.IsSound subsets) (hw : doc.IsWritable)
    (hf : (W.withSeparator ['\n']).IsFaithful) (hformat : W.settings.formatted = false)
    (hsep : sep ∈ Text.lineEndings) {table : EntityTable}
    (ht : W.entityTable doc.doctype? = .ok table) :
    Document.parse subsets (((W.withSeparator sep).eventsOf (W.settings.escaper table)
        W.settings.encodingLabel doc).flatMap Event.source) =
      .ok ((W.withSeparator (table.lineAgain sep)).readAgain (W.settings.escaper table) doc) := by
  by_cases hfeed : sep = ['\n']
  · subst hfeed
    exact parse_eventsOf hs hw hf ht
  · have hreturn : sep = ['\r'] ∨ sep = ['\r', '\n'] := by
      simp only [Text.lineEndings, List.mem_cons, List.not_mem_nil, or_false] at hsep
      exact (hsep.resolve_left hfeed).symm
    obtain ⟨entities, hlookup, hnone, hread⟩ := exists_entities hs hw ht
    -- `read` stands in place of what the writer with line feeds would have written
    obtain ⟨read, hbecomes, hout, hchars, hitems⟩ := @exists_becomesOutside_bodyFragments W
      (W.settings.escaper table) _ subsets sep hlookup hreturn hformat _
      (Item.isSoundOutside_joined hs.content) ((Item.hasNoNull_joined doc.content).2 hw.hasNoNull)
    have hhead : ∀ raw data, read.head? ≠ some (.chars raw data) :=
      head?_of_map_isChars hchars head?_bodyFragments
    have hbody := hbecomes.text [] (by simp)
    rw [List.append_nil, Text.endLinesWith_nil, List.append_nil] at hbody
    have hcount : (itemsOutside read).countP Item.isElement ≤ 1 := by
      rw [hitems, countP_bodyFragments, Item.countP_joined]
      exact hs.element
    have hunified := @unifyLineEndings_eventsAround (W.withSeparator sep) subsets doc hs
      (W.withSeparator ['\n']) rfl hsep rfl _ _ (head?_text head?_bodyFragments) hbody
      W.settings.encodingLabel
    have hparse := parse_eventsAround hs hw hf hnone hread hbecomes.isReadable hout hhead hcount
      hunified
    rw [hitems] at hparse
    exact hparse

end Writer

end XmlScribe
