/-
**The events of a document.**

A document text is a sequence of events: tags, runs of character data, comments, processing
instructions, CDATA sections, the document type and the XML declaration.  Scanning also checks that
every end tag names the element that is open.

Main definitions:

* `Event` — one piece of a document;
* `Event.read` — the piece that begins with `<`;
* `Event.scan` — all pieces up to the first fault.

Main results:

* `Event.length_read_le` — what follows a piece is no longer than what it was read from.
-/

import XmlScribe.Markup.Tag

set_option autoImplicit false

namespace XmlScribe

/-- A piece of a document. -/
inductive Event where
  /-- An XML declaration, from `xml` on. -/
  | declaration (content : Text)
  /-- A document type declaration, from its name on. -/
  | doctype (content : Text)
  /-- A start tag or, if `closed` is set, the tag of an empty element. -/
  | startTag (content : Text) (closed : Bool)
  /-- An end tag. -/
  | endTag (name : Text)
  /-- Character data with its references. -/
  | text (raw : Text)
  /-- A CDATA section. -/
  | cdata (data : Text)
  /-- A comment. -/
  | comment (data : Text)
  /-- A processing instruction; `data` begins with the blanks after the target. -/
  | instruction (target data : Text)
deriving DecidableEq, Repr

namespace Event

/-! ### Where markup ends -/

/-- The text before and the text after the first `>` outside quotation marks; `quote` is the mark
that is open. -/
def cutTag : (quote : Option Char) → Text → Option (Text × Text)
  | _, [] => none
  | none, c :: s =>
      if c = '>' then some ([], s)
      else
        (cutTag (if c = '"' ∨ c = '\'' then some c else none) s).map
          fun (before, rest) => (c :: before, rest)
  | some quote, c :: s =>
      (cutTag (if c = quote then none else some quote) s).map
        fun (before, rest) => (c :: before, rest)

/-- The text before and the text after the first `>` that closes no `<`; `depth` counts those that
are open. -/
def cutNested : (depth : Nat) → Text → Option (Text × Text)
  | _, [] => none
  | depth, c :: s =>
      if c = '>' ∧ depth = 0 then some ([], s)
      else
        let depth := if c = '<' then depth + 1 else if c = '>' then depth - 1 else depth
        (cutNested depth s).map fun (before, rest) => (c :: before, rest)

theorem eq_of_cutTag {quote : Option Char} {s before rest : Text}
    (h : cutTag quote s = some (before, rest)) : s = before ++ '>' :: rest := by
  induction s generalizing quote before with
  | nil => simp [cutTag] at h
  | cons c s ih =>
      cases quote with
      | none =>
          simp only [cutTag] at h
          split at h
          · rename_i hc
            cases h
            simp [hc]
          · simp only [Option.map_eq_some_iff, Prod.mk.injEq, Prod.exists] at h
            obtain ⟨b, r, hb, rfl, rfl⟩ := h
            simp [ih hb]
      | some q =>
          simp only [cutTag, Option.map_eq_some_iff, Prod.mk.injEq, Prod.exists] at h
          obtain ⟨b, r, hb, rfl, rfl⟩ := h
          simp [ih hb]

theorem eq_of_cutNested {depth : Nat} {s before rest : Text}
    (h : cutNested depth s = some (before, rest)) : s = before ++ '>' :: rest := by
  induction s generalizing depth before with
  | nil => simp [cutNested] at h
  | cons c s ih =>
      simp only [cutNested] at h
      split at h
      · rename_i hc
        cases h
        simp [hc.1]
      · simp only [Option.map_eq_some_iff, Prod.mk.injEq, Prod.exists] at h
        obtain ⟨b, r, hb, rfl, rfl⟩ := h
        simp [ih hb]

/-! ### Single pieces -/

/-- The piece up to `mark`, or a fault if there is no `mark`. -/
def upTo (mark : Text) (fault : LexicalFault) (make : Text → Event) (s : Text) :
    Except MarkupFault (Event × Text) :=
  match Text.cutAt mark s with
  | some (data, rest) => .ok (make data, rest)
  | none => .error (.lexical fault)

/-- The document type declaration that begins after `<!`. -/
def readDoctype (s : Text) : Except MarkupFault (Event × Text) :=
  match cutNested 0 s with
  | none => .error (.lexical .unclosedDoctype)
  | some (content, rest) =>
      if (content.take 7).map Char.toUpper = "DOCTYPE".toList then
        match Text.trimStart (content.drop 7) with
        | [] => .error (.form .missingDoctypeName)
        | c :: content => .ok (.doctype (c :: content), rest)
      else .error (.lexical .unclosedDoctype)

/-- The piece that begins after `<!`. -/
def readBang (s : Text) : Except MarkupFault (Event × Text) :=
  match s with
  | '[' :: _ =>
      match Text.after? "[CDATA[".toList s with
      | some t => upTo "]]>".toList .unclosedCData .cdata t
      | none => .error (.lexical .unclosedCData)
  | '-' :: _ =>
      match Text.after? "--".toList s with
      | some t => upTo "-->".toList .unclosedComment .comment t
      | none => .error (.lexical .unclosedComment)
  | 'D' :: _ => readDoctype s
  | 'd' :: _ => readDoctype s
  | _ => .error (.lexical .unknownMarkup)

/-- The XML declaration or processing instruction with this content. -/
def ofInstruction (content : Text) : Event :=
  if Tag.name content = ['x', 'm', 'l'] then .declaration content
  else .instruction (Tag.name content) (Tag.afterName content)

/-- The XML declaration or processing instruction that begins after `<?`.  The question mark that
opens it cannot be the one that closes it. -/
def readInstruction (s : Text) : Except MarkupFault (Event × Text) :=
  if s.head? = some '>' then .error (.lexical .unclosedInstruction)
  else upTo "?>".toList .unclosedInstruction ofInstruction s

/-- The start tag with this content. -/
def ofStartTag (content : Text) : Event :=
  if content.getLast? = some '/' then .startTag content.dropLast true
  else .startTag content false

/-- A tag that ends at the first `>` outside quotation marks. -/
def readTag (make : Text → Event) (s : Text) : Except MarkupFault (Event × Text) :=
  match cutTag none s with
  | some (content, rest) => .ok (make content, rest)
  | none => .error (.lexical .unclosedTag)

/-- The piece that begins after `<`. -/
def read (s : Text) : Except MarkupFault (Event × Text) :=
  match s with
  | '!' :: t => readBang t
  | '?' :: t => readInstruction t
  | '/' :: t => readTag (fun content => .endTag (Tag.endName content)) t
  | s => readTag ofStartTag s

theorem length_upTo_le {mark s : Text} {fault : LexicalFault} {make : Text → Event}
    {r : Event × Text} (h : upTo mark fault make s = .ok r) : r.2.length ≤ s.length := by
  unfold upTo at h
  split at h
  · rename_i hc
    cases h
    rw [Text.eq_of_cutAt hc]
    simp only [List.length_append]
    omega
  · simp at h

theorem length_readInstruction_le {s : Text} {r : Event × Text}
    (h : readInstruction s = .ok r) : r.2.length ≤ s.length := by
  unfold readInstruction at h
  split at h
  · simp at h
  · exact length_upTo_le h

theorem length_readTag_le {make : Text → Event} {s : Text} {r : Event × Text}
    (h : readTag make s = .ok r) : r.2.length ≤ s.length := by
  unfold readTag at h
  split at h
  · rename_i hc
    cases h
    rw [eq_of_cutTag hc]
    simp only [List.length_append, List.length_cons]
    omega
  · simp at h

theorem length_readDoctype_le {s : Text} {r : Event × Text} (h : readDoctype s = .ok r) :
    r.2.length ≤ s.length := by
  unfold readDoctype at h
  split at h
  · simp at h
  · rename_i hc
    split at h
    · split at h
      · simp at h
      · cases h
        rw [eq_of_cutNested hc]
        simp only [List.length_append, List.length_cons]
        omega
    · simp at h

theorem length_le_of_after? {lead s rest : Text} (h : Text.after? lead s = some rest) :
    rest.length ≤ s.length := by
  rw [Text.after?_eq_some_iff.1 h, List.length_append]
  omega

theorem length_readBang_le {s : Text} {r : Event × Text} (h : readBang s = .ok r) :
    r.2.length ≤ s.length := by
  unfold readBang at h
  split at h
  · split at h
    · rename_i ht
      exact Nat.le_trans (length_upTo_le h) (length_le_of_after? ht)
    · simp at h
  · split at h
    · rename_i ht
      exact Nat.le_trans (length_upTo_le h) (length_le_of_after? ht)
    · simp at h
  · exact length_readDoctype_le h
  · exact length_readDoctype_le h
  · simp at h

/-- What follows a piece is no longer than the text that the piece was read from. -/
theorem length_read_le {s : Text} {r : Event × Text} (h : read s = .ok r) :
    r.2.length ≤ s.length := by
  unfold read at h
  split at h
  · exact Nat.le_succ_of_le (length_readBang_le h)
  · exact Nat.le_succ_of_le (length_readInstruction_le h)
  · exact Nat.le_succ_of_le (length_readTag_le h)
  · exact length_readTag_le h

/-! ### The whole document -/

/-- The names of the open elements after an event, innermost first. -/
def track (opened : List Text) : Event → Except MarkupFault (List Text)
  | .startTag content false => .ok (Tag.name content :: opened)
  | .endTag name =>
      match opened with
      | [] => .error (.form (.unmatchedEndTag name))
      | expected :: outer =>
          if name = expected then .ok outer
          else .error (.form (.mismatchedEndTag expected name))
  | _ => .ok opened

/-- The events of a text up to the first fault, where `opened` are the names of the open
elements. -/
def scanFrom (opened : List Text) (s : Text) : List Event × Option MarkupFault :=
  match s with
  | [] => ([], none)
  | c :: s =>
      if c = '<' then
        match _h : read s with
        | .error fault => ([], some fault)
        | .ok (event, rest) =>
            match track opened event with
            | .error fault => ([], some fault)
            | .ok opened =>
                let (events, fault) := scanFrom opened rest
                (event :: events, fault)
      else
        let (events, fault) := scanFrom opened (s.dropWhile (· ≠ '<'))
        (.text (c :: s.takeWhile (· ≠ '<')) :: events, fault)
termination_by s.length
decreasing_by
  · exact Nat.lt_succ_of_le (length_read_le _h)
  · exact Nat.lt_succ_of_le (List.dropWhile_sublist _).length_le

/-- The events of a document up to the first fault.  A mark of byte order at the start is passed
over. -/
def scan (s : Text) : List Event × Option MarkupFault :=
  match s with
  | [] => ([], none)
  | c :: rest => if c.toNat = 0xFEFF then scanFrom [] rest else scanFrom [] s

end Event

end XmlScribe
