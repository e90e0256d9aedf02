/-
**Line endings in comments, instructions and sections.**

These are written with their data as it is, and reading makes line feeds of the line endings in it.
So what is read from such fragments is read from fragments whose data has line feeds already.

Main definitions:

* `Fragment.unified` — the fragments with line feeds for line endings.

Main results:

* `Fragment.endLinesWith_text` — their text is what is read;
* `Fragment.isAccepted_unified`, `Fragment.marks_unified` — they are read, and their markup is the
  same.
-/

import XmlScribe.Proofs.Markup.Accepted
import XmlScribe.Proofs.Text.LineEnding

set_option autoImplicit false

namespace XmlScribe

open Builder

/-- Data between two other texts can be treated apart. -/
theorem Text.endLinesWith_between {lead data tail : Text} (hlead : '\r' ∉ lead) {c : Char}
    (hc : c ≠ '\n') (htail : '\r' ∉ c :: tail) (t : Text) :
    endLinesWith ['\n'] (lead ++ data ++ (c :: tail ++ t)) =
      lead ++ endLinesWith ['\n'] data ++ (c :: tail ++ endLinesWith ['\n'] t) := by
  rw [List.append_assoc, endLinesWith_append_of_not_mem hlead,
    endLinesWith_append (by simpa using hc), endLinesWith_append_of_not_mem htail,
    List.append_assoc]

namespace Fragment

mutual

/-- The fragment with a line feed for every line ending in data that is written as it is. -/
def unifiedAt : Fragment → Fragment
  | element name attributes closed content => element name attributes closed (unified content)
  | chars raw data => chars raw data
  | cdata data => cdata (Text.endLinesWith ['\n'] data)
  | comment data => comment (Text.endLinesWith ['\n'] data)
  | instruction target data => instruction target (data.map (Text.endLinesWith ['\n']))

/-- The fragments with a line feed for every line ending in data that is written as it is. -/
def unified : List Fragment → List Fragment
  | [] => []
  | f :: fragments => unifiedAt f :: unified fragments

end

theorem unified_eq_map (fragments : List Fragment) : unified fragments = fragments.map unifiedAt := by
  induction fragments with
  | nil => rfl
  | cons f fragments ih => rw [unified, ih, List.map_cons]

/-- The space before the data is no line ending. -/
theorem spaced_map (data : Option Text) :
    spaced (data.map (Text.endLinesWith ['\n'])) = Text.endLinesWith ['\n'] (spaced data) := by
  rcases data with _ | _ | ⟨c, s⟩
  · rfl
  · rfl
  · have hne : Text.endLinesWith ['\n'] (c :: s) ≠ [] := fun he => by
      simpa using Text.endLinesWith_eq_nil_iff.1 he
    obtain ⟨d, t, ht⟩ := List.exists_cons_of_ne_nil hne
    rw [Option.map_some, ht]
    show ' ' :: d :: t = Text.endLinesWith ['\n'] (' ' :: c :: s)
    rw [Text.endLinesWith_cons (by decide) (by decide), ht]

/-! ### Text -/

variable {α : Type} {tell : QName → α} {lookup : Text → Option Text}

theorem text_cons (f : Fragment) (fragments : List Fragment) :
    text (f :: fragments) = (eventsOf f).flatMap Event.source ++ text fragments := by
  rw [text, events, List.flatMap_append]
  rfl

/-- The tags of an element are left alone, and its content can be treated apart. -/
theorem endLinesWith_element {name : QName} {attributes : List (Attribute × WrittenAttribute)}
    (hn : '\r' ∉ name.text) (htag : '\r' ∉ tagOf name attributes) {closed : Bool}
    {content read : List Fragment}
    (hcontent : ∀ t : Text, t.head? ≠ some '\n' → Text.endLinesWith ['\n'] (text content ++ t) =
      text read ++ Text.endLinesWith ['\n'] t) (t : Text) :
    Text.endLinesWith ['\n']
        ((eventsOf (element name attributes closed content)).flatMap Event.source ++ t) =
      (eventsOf (element name attributes closed read)).flatMap Event.source ++
        Text.endLinesWith ['\n'] t := by
  rw [eventsOf, eventsOf]
  cases closed with
  | true =>
      refine Text.endLinesWith_append_of_not_mem ?_ t
      simp [Event.source, htag]
  | false =>
      have hstart : '\r' ∉ (Event.startTag (tagOf name attributes) false).source := by
        simp [Event.source, htag]
      have hend : '\r' ∉ (Event.endTag name.text).source := by simp [Event.source, hn]
      have hsource : ∀ fragments : List Fragment, (Event.startTag (tagOf name attributes) false ::
          events fragments ++ [Event.endTag name.text]).flatMap Event.source =
            (Event.startTag (tagOf name attributes) false).source ++
              (text fragments ++ (Event.endTag name.text).source) := by
        intro fragments
        simp [text]
      simp only [Bool.false_eq_true, if_false]
      rw [hsource, hsource, List.append_assoc, List.append_assoc,
        Text.endLinesWith_append_of_not_mem hstart, hcontent _ (by simp [Event.source]),
        Text.endLinesWith_append_of_not_mem hend, List.append_assoc, List.append_assoc]

mutual

theorem endLinesWith_sourceAt {m : Meaning} : ∀ (f : Fragment), IsAcceptedAt tell lookup m f →
    ∀ t, Text.endLinesWith ['\n'] ((eventsOf f).flatMap Event.source ++ t) =
      (eventsOf f.unifiedAt).flatMap Event.source ++ Text.endLinesWith ['\n'] t
  | element name attributes closed content, h, t => by
      obtain ⟨hname, -, hspelled, -, -, hcontent⟩ := h
      rw [unifiedAt]
      exact endLinesWith_element (Name.not_mem_of_isName hname.isName (by decide))
        (not_mem_tagOf hname.isName hspelled) (fun t _ => endLinesWith_text content hcontent t) t
  | chars raw data, h, t => by
      refine Text.endLinesWith_append_of_not_mem ?_ t
      simpa [eventsOf, Event.source] using h.1.2
  | cdata data, h, t => by
      have hsource : ∀ (data t : Text), (eventsOf (cdata data)).flatMap Event.source ++ t =
          ['<', '!', '[', 'C', 'D', 'A', 'T', 'A', '['] ++ data ++ (']' :: [']', '>'] ++ t) := by
        intro data t
        simp [eventsOf, Event.source]
      rw [unifiedAt, hsource, hsource]
      exact Text.endLinesWith_between (by decide) (by decide) (by decide) t
  | comment data, h, t => by
      have hsource : ∀ (data t : Text), (eventsOf (comment data)).flatMap Event.source ++ t =
          ['<', '!', '-', '-'] ++ data ++ ('-' :: ['-', '>'] ++ t) := by
        intro data t
        simp [eventsOf, Event.source]
      rw [unifiedAt, hsource, hsource]
      exact Text.endLinesWith_between (by decide) (by decide) (by decide) t
  | instruction target data, h, t => by
      have htarget : '\r' ∉ '<' :: '?' :: target := by
        simpa using Name.not_mem_of_isName (Instruction.isName_of_checkTarget h.1).1
          (show Name.isNameChar '\r' = false by decide)
      have hsource : ∀ (data : Option Text) (t : Text),
          (eventsOf (instruction target data)).flatMap Event.source ++ t =
            ('<' :: '?' :: target) ++ spaced data ++ ('?' :: ['>'] ++ t) := by
        intro data t
        simp [eventsOf, Event.source]
      rw [unifiedAt, hsource, hsource, spaced_map]
      exact Text.endLinesWith_between htarget (by decide) (by decide) t

theorem endLinesWith_text {m : Meaning} :
    ∀ (fragments : List Fragment), IsAccepted tell lookup m fragments →
      ∀ t, Text.endLinesWith ['\n'] (text fragments ++ t) =
        text (unified fragments) ++ Text.endLinesWith ['\n'] t
  | [], _, _ => rfl
  | f :: fragments, h, t => by
      rw [unified, text_cons, text_cons, List.append_assoc, endLinesWith_sourceAt f h.1,
        endLinesWith_text fragments h.2, List.append_assoc]

end

/-! ### Reading -/

theorem not_isInfix_endLinesWith {mark data : Text} (hm : '\n' ∉ mark) (h : ¬ mark <:+: data) :
    ¬ mark <:+: Text.endLinesWith ['\n'] data := fun hi =>
  h (Text.isInfix_of_isInfix_endLinesWith hm hi)

mutual

theorem isAcceptedAt_unifiedAt {m : Meaning} : ∀ {f : Fragment}, IsAcceptedAt tell lookup m f →
    IsAcceptedAt tell lookup m f.unifiedAt
  | element _ _ _ content, ⟨hname, haccepted, hspelled, hnodup, hclosed, hcontent⟩ =>
      ⟨hname, haccepted, hspelled, hnodup, fun hc => by rw [hclosed hc, unified],
        isAccepted_unified hcontent⟩
  | chars _ _, h => h
  | cdata _, h => not_isInfix_endLinesWith (by decide) h
  | comment _, h => not_isInfix_endLinesWith (by decide) h
  | instruction _ none, h => h
  | instruction _ (some _), h => ⟨h.1, not_isInfix_endLinesWith (by decide) h.2⟩

/-- The fragments with line feeds are read too. -/
theorem isAccepted_unified {m : Meaning} :
    ∀ {fragments : List Fragment}, IsAccepted tell lookup m fragments →
      IsAccepted tell lookup m (unified fragments)
  | [], h => h
  | _ :: _, h => ⟨isAcceptedAt_unifiedAt h.1, isAccepted_unified h.2⟩

end

mutual

theorem marksAt_unifiedAt : ∀ f : Fragment, f.unifiedAt.marksAt tell = f.marksAt tell
  | element _ _ _ content => by rw [unifiedAt, marksAt, marksAt, marks_unified content]
  | chars _ _ => rfl
  | cdata _ => rfl
  | comment _ => rfl
  | instruction _ _ => rfl

/-- Line endings are no markup. -/
theorem marks_unified :
    ∀ fragments : List Fragment, marks tell (unified fragments) = marks tell fragments
  | [] => rfl
  | f :: fragments => by
      rw [unified, marks, marks, marksAt_unifiedAt f, marks_unified fragments]

end

theorem isOutside_unified {fragments : List Fragment} (h : ∀ f ∈ fragments, f.IsOutside) :
    ∀ f ∈ unified fragments, f.IsOutside := by
  intro f hf
  rw [unified_eq_map] at hf
  obtain ⟨g, hg, rfl⟩ := List.mem_map.1 hf
  have hg := h g hg
  cases g <;> exact hg

theorem head?_unified {fragments : List Fragment}
    (h : ∀ raw data, fragments.head? ≠ some (chars raw data)) (raw data : Text) :
    (unified fragments).head? ≠ some (chars raw data) := by
  cases fragments with
  | nil => simp [unified]
  | cons f fragments =>
      cases f with
      | chars raw data => exact absurd rfl (h raw data)
      | _ => simp [unified, unifiedAt]

theorem countP_unified (fragments : List Fragment) :
    (unified fragments).countP isElement = fragments.countP isElement := by
  rw [unified_eq_map, List.countP_map]
  refine List.countP_congr fun f _ => ?_
  cases f <;> rfl

end Fragment

end XmlScribe
