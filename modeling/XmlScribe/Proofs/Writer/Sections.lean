/-
**Split sections read back.**

Data in a CDATA section is split twice when it is written: at the characters that the character set
lacks, and inside the runs between them at the characters that would end a section.  What comes of
it is a row of parts, each of them a complete section or a reference.  The sections have only
characters that can be written and do not end early, and the references stand for the other
characters one by one.  Wherever the text stands in an element, it is read as pieces of character
data that together are the data.

Main definitions:

* `CData.Part`, `CData.parts` — the sections and references that data is written as;
* `Item.HoldData` — items that are pieces of character data;
* `Text.IsContentFor` — inside any element the text is read as character data.

Main results:

* `CData.flatten_pieces_eq` — the parts are what is written;
* `CData.filterMap_parts` — there is a reference for each character that cannot be written;
* `Fragment.scanFrom_text`, `Fragment.foldlM_items` — reading fragments inside an element;
* `Writer.putCData_readBack` — sections and references, and how they are read.
-/

import XmlScribe.Proofs.Markup.Reading
import XmlScribe.Proofs.Text.LineEnding
import XmlScribe.Proofs.Writer.Anywhere
import XmlScribe.Proofs.Writer.CData

set_option autoImplicit false

namespace XmlScribe

/-! ### Content of an element -/

/-- The items are pieces of character data, which one after the other are the text. -/
inductive Item.HoldData : List Item → Text → Prop
  /-- Nothing holds nothing. -/
  | nil : HoldData [] []
  /-- Character data comes first. -/
  | text {items : List Item} {rest : Text} (data : Text) :
      HoldData items rest → HoldData (.text data :: items) (data ++ rest)
  /-- A section comes first. -/
  | cdata {items : List Item} {rest : Text} (data : Text) :
      HoldData items rest → HoldData (.cdata data :: items) (data ++ rest)

theorem Item.HoldData.append {items more : List Item} {data rest : Text}
    (h : Item.HoldData items data) (h' : Item.HoldData more rest) :
    Item.HoldData (items ++ more) (data ++ rest) := by
  induction h with
  | nil => exact h'
  | text first _ ih =>
      rw [List.append_assoc]
      exact .text first ih
  | cdata first _ ih =>
      rw [List.append_assoc]
      exact .cdata first ih

/-- Inside any element, before whatever markup follows, the text is read as pieces of character
data that together are `data`. -/
def Text.IsContentFor (text data : Text) : Prop :=
  ∀ (subsets : Subsets) (b : Builder) (opened : List Text) (rest : Text), b.opened ≠ [] →
    rest = [] ∨ (∃ t, rest = '<' :: t) →
    ∃ events items,
      Event.scanFrom opened (Text.unifyLineEndings (text ++ rest)) =
        (events ++ (Event.scanFrom opened (Text.unifyLineEndings rest)).1,
          (Event.scanFrom opened (Text.unifyLineEndings rest)).2) ∧
      events.foldlM (Builder.step subsets) b = .ok (b.pushAll items) ∧ Item.HoldData items data

namespace Fragment

open Builder

theorem holdData_flush (data : Text) : Item.HoldData (flush data) data := by
  cases data with
  | nil => exact .nil
  | cons c data =>
      have hdata : Item.HoldData [.text (c :: data)] (c :: data ++ []) := .text _ .nil
      rwa [List.append_nil] at hdata

/-- The text of fragments is scanned as their events, before whatever markup follows. -/
theorem scanFrom_text {fragments : List Fragment} (h : Everywhere IsLexical fragments)
    (opened : List Text) {rest : Text} (hrest : rest = [] ∨ ∃ t, rest = '<' :: t) :
    Event.scanFrom opened (text fragments ++ rest) =
      (Event.mergeFrom [] (events fragments) ++ (Event.scanFrom opened rest).1,
        (Event.scanFrom opened rest).2) :=
  Event.scanFrom_source_append (isSound_events fragments h) (foldlM_track fragments h opened)
    List.not_mem_nil hrest

/-- The events of fragments are read as their items. -/
theorem foldlM_items {subsets : Subsets} {fragments : List Fragment} {b : Builder}
    (h : IsReadable b.replacements b.meaning fragments) (ho : b.opened ≠ []) :
    (Event.mergeFrom [] (events fragments)).foldlM (step subsets) b =
      .ok (b.pushAll (items fragments)) := by
  obtain ⟨raw, hraw, hrun⟩ := @foldlM_step subsets fragments b h ho [] [] .nil []
  -- the character data at the end is waiting for markup that does not come
  rw [← replacements_pushAll _ (itemsFrom [] fragments).1] at hraw
  have hlast := @foldlM_flush subsets _ (opened_pushAll ho (itemsFrom [] fragments).1) _ _ hraw []
  rw [List.append_nil] at hrun hlast
  rw [hrun, items, pushAll_append]
  exact hlast

/-- Fragments of character data that can be read in any element are content for their data. -/
theorem isContentFor_text {fragments : List Fragment} {data : Text}
    (h : ∀ lookup m, IsReadable lookup m fragments) (hdata : Item.HoldData (items fragments) data) :
    Text.IsContentFor (text fragments) data := by
  intro subsets b opened rest ho hrest
  have hreturn : '\r' ∉ text fragments := not_mem_text fragments (h b.replacements b.meaning)
  have hunify : Text.unifyLineEndings (text fragments ++ rest) =
      text fragments ++ Text.unifyLineEndings rest := by
    rw [Text.unifyLineEndings_eq, Text.unifyLineEndings_eq,
      Text.endLinesWith_append_of_not_mem hreturn]
  have hrest' : Text.unifyLineEndings rest = [] ∨ ∃ t, Text.unifyLineEndings rest = '<' :: t := by
    rw [Text.unifyLineEndings_eq]
    rcases hrest with rfl | ⟨t, rfl⟩
    · exact Or.inl Text.endLinesWith_nil
    · exact Or.inr ⟨_, Text.endLinesWith_cons (by decide) (by decide)⟩
  refine ⟨_, items fragments, ?_, foldlM_items (h b.replacements b.meaning) ho, hdata⟩
  rw [hunify]
  exact scanFrom_text (h b.replacements b.meaning).isLexical opened hrest'

end Fragment

namespace CData

/-! ### Parts -/

/-- A part of what data is written as. -/
inductive Part where
  /-- A complete section. -/
  | verbatim (data : Text)
  /-- A reference to a character. -/
  | reference (c : Char)
deriving DecidableEq, Repr

namespace Part

/-- The text of a part. -/
def written : Part → Text
  | verbatim data => opening ++ data ++ closing
  | reference c => Escaper.hexReference c

/-- The data that a part stands for. -/
def data : Part → Text
  | verbatim data => data
  | reference c => [c]

/-- The character, if the part is a reference. -/
def reference? : Part → Option Char
  | verbatim _ => none
  | reference c => some c

/-- The part as a piece of content. -/
def fragment : Part → Fragment
  | verbatim data => .cdata data
  | reference c => .chars (Escaper.hexReference c) [c]

end Part

/-- The sections of a run, or none if there are no characters. -/
def runParts (run : Text) : List Part :=
  if run.isEmpty then [] else (sections run).map .verbatim

/-- The sections and references that data is written as. -/
def parts (canEncode : Char → Bool) (data : Text) : List Part :=
  if data.isEmpty then [.verbatim []]
  else
    runParts (runs canEncode data).1 ++
      (runs canEncode data).2.flatMap fun (c, run) => .reference c :: runParts run

theorem sectionFragments_eq (run : Text) :
    sectionFragments run = (runParts run).map Part.fragment := by
  rw [sectionFragments, runParts]
  split
  · rfl
  · rw [List.map_map]
    rfl

theorem fragments_eq (canEncode : Char → Bool) (data : Text) :
    fragments canEncode data = (parts canEncode data).map Part.fragment := by
  rw [fragments, parts]
  split
  · rfl
  · rw [List.map_append, List.map_flatMap, sectionFragments_eq]
    refine congrArg _ (List.flatMap_congr fun other _ => ?_)
    rw [otherFragments, sectionFragments_eq]
    rfl

theorem text_map_fragment (parts : List Part) :
    Fragment.text (parts.map Part.fragment) = parts.flatMap Part.written := by
  induction parts with
  | nil => rfl
  | cons part parts ih =>
      have hone : Fragment.text [part.fragment] = part.written := by
        cases part with
        | verbatim data =>
            simp [Part.fragment, Part.written, Fragment.text, Fragment.events, Fragment.eventsOf,
              Event.source, opening_eq, closing]
        | reference c =>
            simp [Part.fragment, Part.written, Fragment.text, Fragment.events, Fragment.eventsOf,
              Event.source]
      rw [List.map_cons, ← List.singleton_append, Fragment.text_append, hone, ih, List.flatMap_cons]

/-- The parts are what is written. -/
theorem flatten_pieces_eq (canEncode : Char → Bool) (data : Text) :
    (pieces canEncode data).flatten = (parts canEncode data).flatMap Part.written := by
  rw [flatten_pieces, fragments_eq, text_map_fragment]

/-- A section has only characters that can be written, and does not end early. -/
theorem of_mem_parts {canEncode : Char → Bool} {data run : Text}
    (h : .verbatim run ∈ parts canEncode data) :
    ¬ closing <:+: run ∧ ∀ c ∈ run, canEncode c = true := by
  have hall : ∀ f ∈ fragments canEncode data, ∀ run, f = .cdata run →
      ¬ closing <:+: run ∧ ∀ c ∈ run, canEncode c = true := by
    refine forall_mem_fragments (fun _ run he => ?empty) (fun run hclosing hrun other he => ?run)
      fun c _ _ run he => ?other
    case empty =>
      cases he
      exact ⟨by decide, by simp⟩
    case run =>
      cases he
      exact ⟨hclosing, fun c hc => (hrun c hc).2⟩
    case other => cases he
  have hmem : .cdata run ∈ fragments canEncode data := by
    rw [fragments_eq]
    exact List.mem_map.2 ⟨_, h, rfl⟩
  exact hall _ hmem run rfl

/-! ### References -/

/-- The characters between the runs are those that cannot be written. -/
theorem map_fst_runs (canEncode : Char → Bool) (s : Text) :
    (runs canEncode s).2.map Prod.fst = s.filter (!canEncode ·) := by
  induction s with
  | nil => rfl
  | cons c s ih =>
      rw [runs_cons]
      by_cases hc : canEncode c = true
      · rw [if_pos hc, List.filter_cons_of_neg (by simp [hc])]
        exact ih
      · rw [if_neg hc, List.filter_cons_of_pos (by simp [hc]), List.map_cons, ih]

theorem filterMap_runParts (run : Text) : (runParts run).filterMap Part.reference? = [] := by
  rw [runParts]
  split
  · rfl
  · rw [List.filterMap_map]
    exact List.filterMap_eq_nil_iff.2 fun _ _ => rfl

/-- There is a reference for each character that cannot be written, in the order of the data. -/
theorem filterMap_parts (canEncode : Char → Bool) (data : Text) :
    (parts canEncode data).filterMap Part.reference? = data.filter (!canEncode ·) := by
  have hothers : ∀ others : List (Char × Text),
      (others.flatMap fun (c, run) => .reference c :: runParts run).filterMap Part.reference? =
        others.map Prod.fst := by
    intro others
    rw [List.filterMap_flatMap, List.map_eq_flatMap]
    exact List.flatMap_congr fun other _ => congrArg (other.1 :: ·) (filterMap_runParts other.2)
  rw [parts]
  cases data with
  | nil => rfl
  | cons c data =>
      rw [if_neg (by simp), List.filterMap_append, filterMap_runParts, hothers, map_fst_runs]
      rfl

/-! ### Data -/

theorem flatMap_runParts (run : Text) : (runParts run).flatMap Part.data = run := by
  rw [runParts]
  split
  · rename_i he
    exact (List.isEmpty_iff.1 he).symm
  · rw [List.flatMap_map]
    exact List.flatMap_id'.trans (flatten_sections run)

/-- The parts stand for the data. -/
theorem flatMap_parts (canEncode : Char → Bool) (data : Text) :
    (parts canEncode data).flatMap Part.data = data := by
  have hothers : ∀ others : List (Char × Text),
      (others.flatMap fun (c, run) => .reference c :: runParts run).flatMap Part.data =
        others.flatMap fun (c, run) => c :: run := by
    intro others
    rw [List.flatMap_assoc]
    exact List.flatMap_congr fun other _ => congrArg (other.1 :: ·) (flatMap_runParts other.2)
  rw [parts]
  cases data with
  | nil => rfl
  | cons c data =>
      rw [if_neg (by simp), List.flatMap_append, flatMap_runParts, hothers, append_runs]

/-- Sections and references are read as pieces of character data. -/
theorem holdData_itemsFrom (parts : List Part) (waiting : Text) :
    Item.HoldData ((Fragment.itemsFrom waiting (parts.map Part.fragment)).1 ++
        Fragment.flush (Fragment.itemsFrom waiting (parts.map Part.fragment)).2)
      (waiting ++ parts.flatMap Part.data) := by
  induction parts generalizing waiting with
  | nil =>
      rw [List.flatMap_nil, List.append_nil]
      exact Fragment.holdData_flush waiting
  | cons part parts ih =>
      cases part with
      | verbatim data =>
          -- the character data before a section is complete, and nothing waits after it
          have hrest := (Fragment.holdData_flush waiting).append ((ih []).cdata data)
          rw [List.map_cons, Part.fragment, Fragment.itemsFrom, Fragment.itemsAt]
          simp only [List.append_assoc]
          exact hrest
      | reference c =>
          -- the character goes on with the character data before it
          have hrest := ih (waiting ++ [c])
          rw [List.append_assoc] at hrest
          exact hrest

/-- What data is written as is content for the data, if there is no carriage return in it and the
null character need not be written as a reference. -/
theorem isContentFor_pieces {canEncode : Char → Bool} {data : Text} (hr : '\r' ∉ data)
    (hn : '\x00' ∈ data → canEncode '\x00' = true) :
    Text.IsContentFor (pieces canEncode data).flatten data := by
  have hitems : Item.HoldData (Fragment.items (fragments canEncode data)) data := by
    have hholds := holdData_itemsFrom (parts canEncode data) []
    rw [List.nil_append, flatMap_parts] at hholds
    rw [fragments_eq]
    exact hholds
  rw [flatten_pieces]
  exact Fragment.isContentFor_text (fun lookup m => isReadable_fragments canEncode hr hn) hitems

end CData

namespace Writer

open Walk CData

/-- **Sections are split so that they read back.**  Let the null character count among those that can
be written, and let there be no carriage return in the data.  The data is written as complete
sections and references: no section ends early or has a character that cannot be written, and there
is one reference for each character that cannot.  In any state a writer with this character set
writes their texts, and inside any element these are read as pieces of character data that together
are the data. -/
theorem putCData_readBack {canEncode : Char → Bool} (hzero : canEncode '\x00' = true) {data : Text}
    (hreturn : '\r' ∉ data) :
    ∃ parts : List Part,
      (pieces canEncode data).flatten = parts.flatMap Part.written ∧
      (∀ run, .verbatim run ∈ parts → ¬ closing <:+: run ∧ ∀ c ∈ run, canEncode c = true) ∧
      parts.filterMap Part.reference? = data.filter (!canEncode ·) ∧
      (∀ (W : Writer) (st : WalkState), W.settings.charset.canEncode = canEncode →
        ∃ st', (W.putCData data).run.run st = (.ok (), st') ∧
          textOf st'.trace = textOf st.trace ++ parts.flatMap Part.written) ∧
      Text.IsContentFor (parts.flatMap Part.written) data := by
  have hwritten := flatten_pieces_eq canEncode data
  refine ⟨parts canEncode data, hwritten, fun run => of_mem_parts, filterMap_parts canEncode data,
    ?written, ?read⟩
  case written =>
    rintro W st rfl
    have hwrites := (@writes_putAll st.forest (pieces W.settings.charset.canEncode data)).anywhere
      (isBlind_putAll _).isMute
    obtain ⟨st', hrun, htext⟩ := hwrites.1 trivial
    exact ⟨st', hrun, by rw [htext, hwritten]⟩
  case read =>
    rw [← hwritten]
    exact isContentFor_pieces hreturn fun _ => hzero

/-- Data with ends of sections, one of them interrupted by a character that cannot be written. -/
theorem putCData_readBack_ascii :
    let canEncode := Charset.ascii.canEncode
    let data : Text := "]]]>é]]é>x]]>".toList
    let written : Text := "<![CDATA[]]]]]><![CDATA[>]]>&#xE9;<![CDATA[]]]]>&#xE9;<![CDATA[>x]]]]>".toList ++
      "<![CDATA[>]]>".toList
    canEncode '\x00' = true ∧ '\r' ∉ data ∧ (pieces canEncode data).flatten = written ∧
      Text.IsContentFor written data := by
  intro canEncode data written
  have hzero : canEncode '\x00' = true := by decide
  have hreturn : '\r' ∉ data := by decide
  have hwritten : (pieces canEncode data).flatten = written := by decide +kernel
  obtain ⟨parts, hparts, -, -, -, hread⟩ := putCData_readBack hzero hreturn
  exact ⟨hzero, hreturn, hwritten, by rwa [← hparts, hwritten] at hread⟩

end Writer

end XmlScribe
