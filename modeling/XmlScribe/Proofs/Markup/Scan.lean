/-
**Events as they are written.**

Every event has a text that it is read from.  When the texts of some events stand one after the
other, scanning finds the events again, but for pieces of character data side by side, which come
as one piece.

Main definitions:

* `Event.source` — the text of an event;
* `Event.ReadsBack` — the text is read as the event, whatever follows;
* `Event.mergeFrom` — events with adjacent character data joined.

Main results:

* `Event.scanFrom_source_append`, `Event.scanFrom_source` — scanning finds the events again;
* `Event.readsBack_startTag` and others — what is read back.
-/

import XmlScribe.Proofs.Doctype.Brackets
import XmlScribe.Proofs.Markup.StartTag
import XmlScribe.Proofs.Outcome

set_option autoImplicit false

namespace XmlScribe

namespace Event

/-! ### Texts of events -/

/-- The text that an event is read from. -/
def source : Event → Text
  | .declaration content => '<' :: '?' :: content ++ ['?', '>']
  | .doctype content => '<' :: '!' :: 'D' :: 'O' :: 'C' :: 'T' :: 'Y' :: 'P' :: 'E' :: ' ' ::
      content ++ ['>']
  | .startTag content true => '<' :: content ++ ['/', '>']
  | .startTag content false => '<' :: content ++ ['>']
  | .endTag name => '<' :: '/' :: name ++ ['>']
  | .text raw => raw
  | .cdata data => '<' :: '!' :: '[' :: 'C' :: 'D' :: 'A' :: 'T' :: 'A' :: '[' :: data ++
      [']', ']', '>']
  | .comment data => '<' :: '!' :: '-' :: '-' :: data ++ ['-', '-', '>']
  | .instruction target data => '<' :: '?' :: target ++ data ++ ['?', '>']

/-- The text of the event is read as the event, whatever follows. -/
def ReadsBack (event : Event) : Prop :=
  ∃ body, event.source = '<' :: body ∧ ∀ rest, read (body ++ rest) = .ok (event, rest)

/-- The event is character data without `<`, or is read back. -/
def IsSound : Event → Prop
  | .text raw => '<' ∉ raw
  | event => event.ReadsBack

/-- Character data that is waiting, as an event. -/
def flush (raw : Text) : List Event :=
  if raw.isEmpty then [] else [.text raw]

/-- The events with adjacent character data joined, where `raw` is waiting. -/
def mergeFrom : (raw : Text) → List Event → List Event
  | raw, [] => flush raw
  | raw, .text more :: events => mergeFrom (raw ++ more) events
  | raw, event :: events => flush raw ++ event :: mergeFrom [] events

theorem mergeFrom_cons {event : Event} (h : ∀ raw, event ≠ .text raw) (raw : Text)
    (events : List Event) :
    mergeFrom raw (event :: events) = flush raw ++ event :: mergeFrom [] events := by
  cases event <;> first | rfl | exact absurd rfl (h _)

/-! ### Scanning -/

/-- Character data is one event, up to the next piece of markup. -/
theorem scanFrom_flush (opened : List Text) {raw : Text} (h : '<' ∉ raw) {s : Text}
    (hs : s = [] ∨ ∃ t, s = '<' :: t) :
    scanFrom opened (raw ++ s) =
      (flush raw ++ (scanFrom opened s).1, (scanFrom opened s).2) := by
  cases raw with
  | nil => rfl
  | cons c raw =>
      simp only [List.mem_cons, not_or] at h
      have hall : ∀ d ∈ raw, decide (d ≠ '<') = true := by
        intro d hd
        have hne : d ≠ '<' := fun he => h.2 (he ▸ hd)
        simpa using hne
      have htake : (raw ++ s).takeWhile (· ≠ '<') = raw := by
        rw [List.takeWhile_append_of_pos hall]
        rcases hs with rfl | ⟨t, rfl⟩ <;> simp
      have hdrop : (raw ++ s).dropWhile (· ≠ '<') = s := by
        rw [List.dropWhile_append_of_pos hall]
        rcases hs with rfl | ⟨t, rfl⟩ <;> simp
      rw [List.cons_append, scanFrom, if_neg (Ne.symm h.1), htake, hdrop]
      rfl

/-- A piece of markup is one event. -/
theorem scanFrom_readsBack {event : Event} (h : event.ReadsBack) {opened opened' : List Text}
    (ht : track opened event = .ok opened') (rest : Text) :
    scanFrom opened (event.source ++ rest) =
      (event :: (scanFrom opened' rest).1, (scanFrom opened' rest).2) := by
  obtain ⟨body, hbody, hread⟩ := h
  rw [hbody, List.cons_append, scanFrom, if_pos rfl]
  split
  · rename_i fault hf
    exact absurd ((hread rest).symm.trans hf) (by simp)
  · rename_i event' rest' he
    cases (hread rest).symm.trans he
    simp only [ht]

theorem head_source {event : Event} (h : event.IsSound) (hne : ∀ raw, event ≠ .text raw) :
    event.ReadsBack ∧ ∃ t, event.source = '<' :: t := by
  have hr : event.ReadsBack := by
    cases event <;> first | exact h | exact absurd rfl (hne _)
  exact ⟨hr, hr.choose, hr.choose_spec.1⟩

/-- Scanning finds the events again, before whatever markup follows. -/
theorem scanFrom_source_append {events : List Event} (h : ∀ event ∈ events, event.IsSound)
    {opened final : List Text} (ht : events.foldlM track opened = .ok final) {raw rest : Text}
    (hraw : '<' ∉ raw) (hrest : rest = [] ∨ ∃ t, rest = '<' :: t) :
    scanFrom opened (raw ++ events.flatMap source ++ rest) =
      (mergeFrom raw events ++ (scanFrom final rest).1, (scanFrom final rest).2) := by
  induction events generalizing opened raw with
  | nil =>
      obtain rfl : opened = final := Except.ok.inj ht
      rw [List.flatMap_nil, List.append_nil, scanFrom_flush opened hraw hrest]
      rfl
  | cons event events ih =>
      have he := h event (by simp)
      have ih := @ih fun e hm => h e (by simp [hm])
      rw [List.foldlM_cons, Outcome.bind_eq_ok_iff] at ht
      obtain ⟨opened', ho, ht⟩ := ht
      by_cases hx : ∃ more, event = .text more
      · obtain ⟨more, rfl⟩ := hx
        have hmore : '<' ∉ more := he
        obtain rfl : opened = opened' := Except.ok.inj ho
        rw [List.flatMap_cons, ← List.append_assoc raw]
        have happ : '<' ∉ raw ++ more := by simp [hraw, hmore]
        exact ih ht happ
      · have hne : ∀ more, event ≠ .text more := fun more hm => hx ⟨more, hm⟩
        obtain ⟨hr, t, hsource⟩ := head_source he hne
        have hnext := ih ht List.not_mem_nil
        rw [List.nil_append] at hnext
        rw [List.flatMap_cons, List.append_assoc, List.append_assoc,
          scanFrom_flush opened hraw (Or.inr ⟨_, by rw [hsource]; rfl⟩),
          scanFrom_readsBack hr ho, hnext, mergeFrom_cons hne, List.append_assoc]
        rfl

/-- Scanning finds the events again. -/
theorem scanFrom_source {events : List Event} (h : ∀ event ∈ events, event.IsSound)
    {opened final : List Text} (ht : events.foldlM track opened = .ok final) {raw : Text}
    (hraw : '<' ∉ raw) :
    scanFrom opened (raw ++ events.flatMap source) = (mergeFrom raw events, none) := by
  have hscan := scanFrom_source_append h ht hraw (Or.inl rfl)
  rwa [List.append_nil, scanFrom, List.append_nil] at hscan

/-- Scanning a text that begins with markup finds the events again. -/
theorem scan_source {events : List Event} (h : ∀ event ∈ events, event.IsSound)
    {final : List Text} (ht : events.foldlM track [] = .ok final)
    (hhead : ∀ raw, events.head? ≠ some (.text raw)) :
    scan (events.flatMap source) = (mergeFrom [] events, none) := by
  have hscan := scanFrom_source h ht List.not_mem_nil
  rw [List.nil_append] at hscan
  rw [← hscan]
  cases events with
  | nil =>
      rw [List.flatMap_nil, scanFrom]
      rfl
  | cons event events =>
      obtain ⟨-, t, hsource⟩ :=
        head_source (h event (by simp)) fun raw he => hhead raw (by rw [he]; rfl)
      rw [List.flatMap_cons, hsource, List.cons_append, scan, if_neg (by decide)]

/-! ### What is read back -/

/-- The name of an element does not begin like other markup. -/
theorem read_eq_readTag {c : Char} (hc : Name.isStartChar c = true) (s : Text) :
    read (c :: s) = readTag ofStartTag (c :: s) := by
  rw [read]
  all_goals
    rintro t ⟨⟩
    exact absurd hc (by decide)

theorem getLast?_written {name : Text} (hname : Name.IsName name)
    {attributes : List WrittenAttribute} (h : ∀ a ∈ attributes, a.IsSound) :
    (Tag.written name attributes).getLast? ≠ some '/' := by
  rw [Tag.written]
  rcases List.eq_nil_or_concat attributes with rfl | ⟨attributes, a, rfl⟩
  · intro hl
    rw [List.flatMap_nil, List.append_nil] at hl
    exact Name.not_mem_of_isName hname (by decide) (List.mem_of_getLast? hl)
  · have hq := (h a (by simp)).quote
    have htext : name ++ (attributes.concat a).flatMap WrittenAttribute.text =
        name ++ attributes.flatMap WrittenAttribute.text ++
          (' ' :: a.name ++ '=' :: a.quote :: a.raw) ++ [a.quote] := by
      simp [WrittenAttribute.text]
    rw [htext, List.getLast?_concat]
    rcases hq with hq | hq <;> rw [hq] <;> decide

/-- A start tag is read back. -/
theorem readsBack_startTag {name : Text} (hname : Name.IsName name)
    {attributes : List WrittenAttribute} (h : ∀ a ∈ attributes, a.IsSound) (closed : Bool) :
    (startTag (Tag.written name attributes) closed).ReadsBack := by
  obtain ⟨c, s, hcons, hc, -⟩ := id hname
  have hread : ∀ t, read (Tag.written name attributes ++ t) =
      readTag ofStartTag (Tag.written name attributes ++ t) := by
    intro t
    rw [Tag.written, hcons]
    exact read_eq_readTag hc _
  cases closed with
  | true =>
      refine ⟨Tag.written name attributes ++ ['/', '>'], rfl, fun rest => ?_⟩
      have hcut := cutTag_written hname h (Or.inr rfl) rest
      have hassoc : Tag.written name attributes ++ ['/', '>'] ++ rest =
          Tag.written name attributes ++ ['/'] ++ '>' :: rest := by simp
      rw [hassoc, List.append_assoc, hread, ← List.append_assoc, readTag, hcut]
      simp [ofStartTag]
  | false =>
      refine ⟨Tag.written name attributes ++ ['>'], rfl, fun rest => ?_⟩
      have hcut := cutTag_written hname h (Or.inl rfl) rest
      have hassoc : Tag.written name attributes ++ ['>'] ++ rest =
          Tag.written name attributes ++ [] ++ '>' :: rest := by simp
      rw [hassoc, List.append_assoc, hread, ← List.append_assoc, readTag, hcut]
      simp [ofStartTag, getLast?_written hname h]

/-- An end tag is read back. -/
theorem readsBack_endTag {name : Text} (hname : Name.IsName name) :
    (endTag name).ReadsBack := by
  refine ⟨'/' :: name ++ ['>'], rfl, fun rest => ?_⟩
  have hn : ∀ c ∈ name, c ≠ '>' ∧ c ≠ '"' ∧ c ≠ '\'' := by
    intro c hc
    refine ⟨?_, ?_, ?_⟩ <;> rintro rfl <;> exact Name.not_mem_of_isName hname (by decide) hc
  have hcut : cutTag none (name ++ '>' :: rest) = some (name, rest) := by
    rw [cutTag_append hn]
    simp [cutTag]
  have hend : Tag.endName name = name := by
    have htrim : Text.trimEnd name = name := by
      rw [Text.trimEnd]
      cases hr : name.reverse with
      | nil => simp_all
      | cons c s =>
          have hc : c ∈ name := List.mem_reverse.1 (by simp [hr])
          have hb := Name.isBlank_of_isNameChar (Name.isNameChar_of_mem hname hc)
          rw [List.dropWhile_cons, hb, if_neg (by decide), ← hr, List.reverse_reverse]
    rw [Tag.endName, htrim]
    cases hn : name with
    | nil => rfl
    | cons c s => rfl
  have hassoc : '/' :: name ++ ['>'] ++ rest = '/' :: (name ++ '>' :: rest) := by simp
  rw [hassoc, read, readTag, hcut]
  simp only [hend]

/-- A CDATA section is read back, if it does not end early. -/
theorem readsBack_cdata {data : Text} (h : ¬ [']', ']', '>'] <:+: data) :
    (cdata data).ReadsBack := by
  refine ⟨'!' :: '[' :: 'C' :: 'D' :: 'A' :: 'T' :: 'A' :: '[' :: data ++ [']', ']', '>'], rfl,
    fun rest => ?_⟩
  have hcut : Text.cutAt [']', ']', '>'] (data ++ [']', ']', '>'] ++ rest) = some (data, rest) :=
    @Text.cutAt_of_not_isInfix [']', ']'] data '>' rest (by decide) h
  show upTo [']', ']', '>'] .unclosedCData .cdata (data ++ [']', ']', '>'] ++ rest) = _
  rw [upTo, hcut]

/-- A comment is read back, if it does not end early. -/
theorem readsBack_comment {data : Text} (h : ¬ ['-', '-', '>'] <:+: data) :
    (comment data).ReadsBack := by
  refine ⟨'!' :: '-' :: '-' :: data ++ ['-', '-', '>'], rfl, fun rest => ?_⟩
  have hcut : Text.cutAt ['-', '-', '>'] (data ++ ['-', '-', '>'] ++ rest) = some (data, rest) :=
    @Text.cutAt_of_not_isInfix ['-', '-'] data '>' rest (by decide) h
  show upTo ['-', '-', '>'] .unclosedComment .comment (data ++ ['-', '-', '>'] ++ rest) = _
  rw [upTo, hcut]

/-- The content of an XML declaration or processing instruction is read up to its end. -/
theorem readInstruction_append {content : Text} (hne : content.head? ≠ some '>')
    (hnil : content ≠ []) (h : ¬ ['?', '>'] <:+: content) (rest : Text) :
    readInstruction (content ++ ['?', '>'] ++ rest) = .ok (ofInstruction content, rest) := by
  have hcut : Text.cutAt ['?', '>'] (content ++ ['?', '>'] ++ rest) = some (content, rest) :=
    @Text.cutAt_of_not_isInfix ['?'] content '>' rest (by decide) h
  have hhead : (content ++ ['?', '>'] ++ rest).head? ≠ some '>' := by
    cases content with
    | nil => exact absurd rfl hnil
    | cons c content => exact hne
  rw [readInstruction, if_neg hhead]
  show upTo ['?', '>'] .unclosedInstruction ofInstruction _ = _
  rw [upTo, hcut]

/-- A processing instruction is read back, if it does not end early. -/
theorem readsBack_instruction {target data : Text} (ht : Name.IsName target)
    (hx : target ≠ ['x', 'm', 'l']) (hd : data = [] ∨ ∃ t, data = ' ' :: t)
    (h : ¬ ['?', '>'] <:+: target ++ data) : (instruction target data).ReadsBack := by
  refine ⟨'?' :: target ++ data ++ ['?', '>'], rfl, fun rest => ?_⟩
  obtain ⟨hn, ha⟩ := Tag.name_append ht hd
  have hof : ofInstruction (target ++ data) = instruction target data := by
    rw [ofInstruction, hn, ha, if_neg hx]
  obtain ⟨c, s, rfl, hc, -⟩ := ht
  have hne : (c :: s ++ data).head? ≠ some '>' := by
    intro hh
    obtain rfl : c = '>' := by simpa using hh
    exact absurd hc (by decide)
  have hread := readInstruction_append hne (by simp) h rest
  rw [hof] at hread
  exact hread

/-- An XML declaration is read back, if it does not end early. -/
theorem readsBack_declaration {content : Text} (hn : Tag.name content = ['x', 'm', 'l'])
    (h : ¬ ['?', '>'] <:+: content) : (declaration content).ReadsBack := by
  refine ⟨'?' :: content ++ ['?', '>'], rfl, fun rest => ?_⟩
  have hof : ofInstruction content = declaration content := by rw [ofInstruction, if_pos hn]
  have hhead : content.head? ≠ some '>' ∧ content ≠ [] := by
    cases content with
    | nil => simp [Tag.name] at hn
    | cons c content =>
        refine ⟨?_, List.cons_ne_nil _ _⟩
        rw [Tag.name, List.takeWhile_cons] at hn
        split at hn
        · obtain rfl : c = 'x' := (List.cons.inj hn).1
          simp
        · simp at hn
  have hread := readInstruction_append hhead.1 hhead.2 h rest
  rw [hof] at hread
  exact hread

/-- A document type declaration is read back, if its angle brackets match. -/
theorem readsBack_doctype {c : Char} {content : Text} (hc : Text.isBlank c = false)
    (h : nest 0 (c :: content) = some 0) : (doctype (c :: content)).ReadsBack := by
  refine ⟨'!' :: 'D' :: 'O' :: 'C' :: 'T' :: 'Y' :: 'P' :: 'E' :: ' ' :: (c :: content) ++ ['>'],
    rfl, fun rest => ?_⟩
  have hnest : nest 0 ('D' :: 'O' :: 'C' :: 'T' :: 'Y' :: 'P' :: 'E' :: ' ' :: c :: content) =
      some 0 := h
  have hcut := cutNested_of_nest hnest rest
  have hassoc : 'D' :: 'O' :: 'C' :: 'T' :: 'Y' :: 'P' :: 'E' :: ' ' :: (c :: content) ++ ['>'] ++
      rest = 'D' :: 'O' :: 'C' :: 'T' :: 'Y' :: 'P' :: 'E' :: ' ' :: c :: content ++
        '>' :: rest := by simp
  have htrim : Text.trimStart (' ' :: c :: content) = c :: content := by
    have hspace : Text.isBlank ' ' = true := rfl
    simp [Text.trimStart, hc, hspace]
  rw [List.cons_append, List.cons_append, hassoc]
  show readDoctype _ = _
  rw [readDoctype, hcut]
  simp only [List.take, List.drop, htrim]
  rfl

end Event

end XmlScribe
