/-
**Writing CDATA sections.**

A CDATA section ends at `]]>`, so data with these characters takes two sections.  No reference can
stand in a section; a character that the character set lacks is written as a reference between two
sections.

Main definitions:

* `CData.splitAtEnd` — data between the places where sections would end;
* `CData.runs` — the runs of characters that can be written, and the characters between them;
* `CData.pieces` — the pieces of text that data is written as, in order.

Main results:

* `CData.append_runs` — nothing of the data is lost in the runs;
* `CData.splitAtEnd_ne_nil` — there is always a part.
-/

import XmlScribe.Entity.Escape

set_option autoImplicit false

namespace XmlScribe

namespace CData

/-- What begins a section. -/
def opening : Text := "<![CDATA[".toList

/-- What ends a section. -/
def closing : Text := [']', ']', '>']

/-- What takes the place of `closing` inside data: the end of a section after the brackets, and
another section from the rest on. -/
def joint : Text := [']', ']'] ++ closing ++ opening ++ ['>']

/-- The parts of the data between the occurrences of `closing`. -/
def splitAtEnd : Text → List Text
  | ']' :: ']' :: '>' :: s => [] :: splitAtEnd s
  | c :: s =>
      match splitAtEnd s with
      | [] => [[c]]
      | part :: parts => (c :: part) :: parts
  | [] => [[]]

/-- There is always a part. -/
theorem splitAtEnd_ne_nil (s : Text) : splitAtEnd s ≠ [] := by
  unfold splitAtEnd
  split
  · simp
  · split <;> simp
  · simp

/-- The pieces of a section around some characters, or none if there are no characters. -/
def sectionPieces (run : Text) : List Text :=
  if run.isEmpty then []
  else opening :: (splitAtEnd run).intersperse joint ++ [closing]

/-- The run of characters that can be written at the start of the data, and the other characters,
each with the run after it. -/
def runs (canEncode : Char → Bool) : Text → Text × List (Char × Text)
  | [] => ([], [])
  | c :: s =>
      let (run, others) := runs canEncode s
      if canEncode c then (c :: run, others) else ([], (c, run) :: others)

/-- The runs and the characters between them are the data. -/
theorem append_runs (canEncode : Char → Bool) (s : Text) :
    (runs canEncode s).1 ++ (runs canEncode s).2.flatMap (fun (c, run) => c :: run) = s := by
  induction s with
  | nil => rfl
  | cons c s ih =>
      have hr : runs canEncode (c :: s) =
          if canEncode c then (c :: (runs canEncode s).1, (runs canEncode s).2)
          else ([], (c, (runs canEncode s).1) :: (runs canEncode s).2) := rfl
      rw [hr]
      by_cases hc : canEncode c = true
      · rw [if_pos hc]
        exact congrArg (c :: ·) ih
      · rw [if_neg hc]
        exact congrArg (c :: ·) ih

/-- The pieces of text that the data is written as. -/
def pieces (canEncode : Char → Bool) (data : Text) : List Text :=
  if data.isEmpty then [opening ++ closing]
  else
    let (run, others) := runs canEncode data
    sectionPieces run ++ others.flatMap fun (c, run) =>
      Escaper.hexReference c :: sectionPieces run

end CData

end XmlScribe
