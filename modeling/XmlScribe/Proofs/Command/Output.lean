/-
**Writing to a file instead of the standard output.**

A run that writes to a file reads the same documents as the run that writes to the standard output,
as long as the file is none of them: the file holds at every moment what the other run has printed.
But the file is emptied before the first document is read.  A file that is to be read and written in
one run is lost.

Main definitions:

* `World.KeepsApart` — the file that is written is not the one that is read;
* `World.Mirrors` — one world has in a file what has been printed in the other.

Main results:

* `Command.readFile_mirrors`, `Command.saveFile_mirrors` — one document, read and written;
* `Command.saveFiles_mirrors` — all of them;
* `Command.run_addsOutput` — a whole run;
* `Command.run_fileName_ne_printed` — a file that is read and written in one run.
-/

import XmlScribe.Command.Run
import XmlScribe.Proofs.Command.Arguments
import XmlScribe.Proofs.Files.Following

set_option autoImplicit false

namespace XmlScribe

namespace World

/-- Writing to the place does not change what is read under the name: the place is not on the way of
the name, or there is a file at it already and the name does not lead to that. -/
def KeepsApart (w : World) (place : Place) (name : Text) : Prop :=
  place ∉ Place.onTheWay name ∨
    (∃ contents, w.entry? place = some (.file contents)) ∧ w.find name ≠ .ok place

/-- Since the world `w`, something has been printed in the one world, and written to the file at a
place in the other. -/
structure Mirrors (w : World) (place : Place) (printed : Bytes) (u v : World) : Prop where
  /-- The files of the one world are as they were. -/
  entry_left : ∀ p, u.entry? p = w.entry? p
  /-- So are those of the other world, apart from the one file. -/
  entry_right : ∀ p, v.entry? p = if p = place then some (.file printed) else w.entry? p
  /-- The same is left of the standard input. -/
  input : v.input = u.input
  /-- What has been printed. -/
  output_left : u.output = w.output ++ printed
  /-- Nothing has been printed in the other world. -/
  output_right : v.output = w.output

section Mirrors

variable {w u v : World} {place : Place} {printed : Bytes}

/-- A name that keeps apart from the file leads to the same entry in both worlds. -/
theorem Mirrors.entryNamed_eq (h : w.Mirrors place printed u v) {name : Text}
    (hname : w.KeepsApart place name) : v.entryNamed name = u.entryNamed name := by
  have hleft : u.find name = w.find name :=
    find_congr fun p _ => agreesAt_of_entry_eq (h.entry_left p)
  have hright : v.find name = w.find name := by
    refine find_congr fun p hp => ?_
    by_cases hplace : p = place
    · subst hplace
      rcases hname with haway | ⟨⟨contents, hfile⟩, -⟩
      · exact absurd hp haway
      · exact agreesAt_of_files ((h.entry_right p).trans (if_pos rfl)) hfile
    · exact agreesAt_of_entry_eq ((h.entry_right p).trans (if_neg hplace))
  -- the file is the only entry that differs, and the name does not lead to it
  have hentry : ∀ p, w.find name = .ok p → v.entry? p = u.entry? p := by
    intro p hfind
    have hne : p ≠ place := by
      rintro rfl
      rcases hname with haway | ⟨-, hother⟩
      · exact haway (mem_onTheWay_of_find hfind)
      · exact hother hfind
    rw [(h.entry_right p).trans (if_neg hne), h.entry_left p]
  rw [entryNamed, entryNamed, hleft, hright]
  cases hfind : w.find name with
  | error fault => rfl
  | ok p => simp only [bind, Except.bind, hentry p hfind]

theorem Mirrors.takeInput (h : w.Mirrors place printed u v) :
    w.Mirrors place printed u.takeInput.2 v.takeInput.2 :=
  ⟨h.entry_left, h.entry_right, rfl, h.output_left, h.output_right⟩

/-- What is printed in the one world is written to the file in the other. -/
theorem Mirrors.write (h : w.Mirrors place printed u v) (hplace : place.isGiven = false)
    (bytes : Bytes) : w.Mirrors place (printed ++ bytes) (Destination.standardOutput.write u bytes)
      ((Destination.file place).write v bytes) := by
  have hfile : v.append place bytes = v.setEntry place (.file (printed ++ bytes)) := by
    rw [append, (h.entry_right place).trans (if_pos rfl)]
  change w.Mirrors place (printed ++ bytes) (u.print bytes) (v.append place bytes)
  rw [hfile]
  refine ⟨h.entry_left, fun p => ?_, h.input, ?_, h.output_right⟩
  · rw [entry_setEntry hplace, h.entry_right]
    split <;> rfl
  · rw [print, h.output_left, List.append_assoc]

/-- The file is created. -/
theorem mirrors_empty (hplace : place.isGiven = false)
    (hdevice : ∀ device, w.entry? place ≠ some (.device device)) :
    w.Mirrors place [] w (w.empty place) := by
  have hempty : w.empty place = w.setEntry place (.file []) := by
    rw [empty]
    split
    · rename_i device hentry
      exact absurd hentry (hdevice device)
    · rfl
  rw [hempty]
  exact ⟨fun _ => rfl, entry_setEntry hplace (.file []), rfl, (List.append_nil _).symm, rfl⟩

end Mirrors

end World

namespace Command

open World

variable {W : Writer} {w u v : World} {place : Place} {printed : Bytes} {name : Text}

/-! ### One document -/

/-- Both worlds have the same to read. -/
theorem readFile_mirrors (h : w.Mirrors place printed u v)
    (hname : name ≠ standardInput → w.KeepsApart place name) :
    (∃ failure, readFile u name = .error failure ∧ readFile v name = .error failure) ∨
      ∃ contents u' v', readFile u name = .ok (contents, u') ∧
        readFile v name = .ok (contents, v') ∧ w.Mirrors place printed u' v' := by
  have hsame : v.takeInput = (u.input, v.takeInput.2) := Prod.ext h.input rfl
  have hinput : ∃ contents u' v', (.ok u.takeInput : Except Failure _) = .ok (contents, u') ∧
      (.ok v.takeInput : Except Failure _) = .ok (contents, v') ∧
        w.Mirrors place printed u' v' :=
    ⟨_, _, v.takeInput.2, rfl, congrArg _ hsame, h.takeInput⟩
  rw [readFile, readFile]
  by_cases hstandard : name = standardInput
  · rw [if_pos hstandard, if_pos hstandard]
    exact Or.inr hinput
  · rw [if_neg hstandard, if_neg hstandard, h.entryNamed_eq (hname hstandard)]
    rcases u.entryNamed name with fault | ⟨⟩ | contents | device
    · exact Or.inl ⟨_, rfl, rfl⟩
    · exact Or.inl ⟨_, rfl, rfl⟩
    · exact Or.inr ⟨contents, u, v, rfl, rfl, h⟩
    · cases device with
      | standardInput => exact Or.inr hinput
      | null => exact Or.inr ⟨[], u, v, rfl, rfl, h⟩
      | standardOutput => exact Or.inr ⟨[], u, v, rfl, rfl, h⟩

/-- A document is written to the file as it is printed. -/
theorem saveFile_mirrors (h : w.Mirrors place printed u v) (hplace : place.isGiven = false)
    (hname : name ≠ standardInput → w.KeepsApart place name) :
    ∃ printed' u' v' failure, saveFile W .standardOutput u name = (u', failure) ∧
      saveFile W (.file place) v name = (v', failure) ∧ w.Mirrors place printed' u' v' := by
  rw [saveFile, saveFile]
  rcases readFile_mirrors h hname with ⟨failure, hu, hv⟩ | ⟨contents, u', v', hu, hv, h⟩
  · rw [hu, hv]
    exact ⟨printed, u, v, some failure, rfl, rfl, h⟩
  · rw [hu, hv]
    dsimp only
    cases Document.read .none contents with
    | error fault => exact ⟨printed, u', v', _, rfl, rfl, h⟩
    | ok document => exact ⟨_, _, _, _, rfl, rfl, h.write hplace _⟩

/-! ### All documents -/

theorem saveFiles_mirrors {names : List Text} (h : w.Mirrors place printed u v)
    (hplace : place.isGiven = false)
    (hnames : ∀ name ∈ names, name ≠ standardInput → w.KeepsApart place name) :
    ∃ printed' u' v' failure, saveFiles W .standardOutput u names = (u', failure) ∧
      saveFiles W (.file place) v names = (v', failure) ∧ w.Mirrors place printed' u' v' := by
  induction names generalizing printed u v with
  | nil => exact ⟨printed, u, v, none, rfl, rfl, h⟩
  | cons name names ih =>
      obtain ⟨printed', u', v', failure, hu, hv, h⟩ :=
        saveFile_mirrors (W := W) h hplace (hnames name (by simp))
      rw [saveFiles, saveFiles, hu, hv]
      cases failure with
      | some failure => exact ⟨printed', u', v', _, rfl, rfl, h⟩
      | none => exact ih h fun other hother => hnames other (by simp [hother])

/-! ### A whole run -/

/-- A run that writes to a file ends as the run that prints does, and the file then holds what that
one has printed, if the file is none of those that are read.  Where the settings are refused, no file
is created. -/
theorem run_addsOutput {line line' : List Text} {arguments arguments' : List Argument}
    (hline : Argument.parse line = .ok arguments)
    (hnone : Argument.valueOf? .output arguments = none)
    (hline' : Argument.parse line' = .ok arguments')
    (hadds : Argument.AddsOutput name arguments arguments')
    (hplace : w.findForWriting name = .ok place)
    (hdevice : ∀ device, w.entry? place ≠ some (.device device))
    (hapart : ∀ input ∈ Argument.files arguments, input ≠ standardInput →
      w.KeepsApart place input) :
    (run line' w).exitStatus = (run line w).exitStatus ∧
      (run line' w).message = (run line w).message ∧
      (run line' w).world.output = w.output ∧
      ∃ printed, (run line w).world.output = w.output ++ printed ∧
        match Argument.settings arguments with
        | .ok _ => (run line' w).world.contents? name = some printed
        | .error _ => (run line' w).world = w := by
  have hgiven := isGiven_of_findForWriting hplace
  simp only [run, hline, hline', obey, hadds.settings_eq]
  cases hsettings : Argument.settings arguments with
  | error fault => exact ⟨rfl, rfl, rfl, [], (List.append_nil _).symm, rfl⟩
  | ok settings =>
      obtain ⟨printed, u, v, failure, hu, hv, h⟩ :=
        saveFiles_mirrors (W := .quiet settings (Argument.profile arguments))
          (mirrors_empty hgiven hdevice) hgiven hapart
      -- once the file is there, its name leads to it
      have hcontents : v.contents? name = some printed := by
        have hfile : v.entry? place = some (.file printed) :=
          (h.entry_right place).trans (if_pos rfl)
        have hfind : v.find name = .ok place := by
          refine find_of_findForWriting hplace (fun p hp => ?_) (fun p hp => ?_) (by rw [hfile]; rfl)
          · have hne : p ≠ place := by
              rintro rfl
              rw [(of_findForWriting hplace).2.1] at hp
              cases hp
            rwa [isDirectory, (h.entry_right p).trans (if_neg hne)]
          · rw [h.entry_right]
            split
            · rfl
            · exact hp
        rw [contents?, entryNamed_of_find hfind hfile]
      simp only [openDestination, hnone, hadds.valueOf?_output hnone, hplace, hadds.profile_eq,
        hadds.files_eq, hu, hv]
      cases failure with
      | none => exact ⟨rfl, rfl, h.output_right, printed, h.output_left, hcontents⟩
      | some failure => exact ⟨rfl, rfl, h.output_right, printed, h.output_left, hcontents⟩

/-! ### A directory with one document -/

/-- The name of the document. -/
def fileName : Text := "a.xml".toList

/-- The name of a file that is not there. -/
def otherName : Text := "b.xml".toList

/-- A directory with one document. -/
def oneFile : World :=
  .ofFiles [(fileName, Codec.asciiBytes "<a/>".toList)] []

/-- What is printed of the document. -/
def printedFile : Bytes :=
  Codec.asciiBytes "<?xml version=\"1.0\" encoding=\"UTF-8\"?>\n<a/>\n".toList

theorem run_fileName : run [fileName] oneFile = ⟨0, none, oneFile.print printedFile⟩ := by
  with_unfolding_all rfl

theorem run_otherName :
    Argument.parse [fileName] = .ok [.file fileName] ∧
      oneFile.findForWriting otherName = .ok (.within .working otherName) ∧
      (run [['-', 'o'], otherName, fileName] oneFile).exitStatus =
        (run [fileName] oneFile).exitStatus ∧
      (run [['-', 'o'], otherName, fileName] oneFile).message = (run [fileName] oneFile).message ∧
      (run [['-', 'o'], otherName, fileName] oneFile).world.output = [] ∧
      ∃ printed, (run [fileName] oneFile).world.output = printed ∧
        (run [['-', 'o'], otherName, fileName] oneFile).world.contents? otherName =
          some printed := by
  have hline : Argument.parse [fileName] = .ok [.file fileName] := by decide +kernel
  have hplace : oneFile.findForWriting otherName = .ok (.within .working otherName) := by
    decide +kernel
  have hapart : ∀ input ∈ Argument.files [.file fileName], input ≠ standardInput →
      oneFile.KeepsApart (.within .working otherName) input := by
    intro input hinput _
    obtain rfl : input = fileName := by simpa [Argument.files] using hinput
    exact Or.inl (by decide)
  exact ⟨hline, hplace, run_addsOutput hline rfl (Argument.parse_output hline rfl rfl)
    (Argument.addsOutput_cons otherName _) hplace (fun device => by cases device <;> decide) hapart⟩

/-- A file that is read and written in one run is emptied before it is read; the run succeeds, and
the document is lost. -/
theorem run_fileName_ne_printed :
    Argument.parse [['-', 'o'], fileName, fileName] =
        .ok [.value .output fileName, .file fileName] ∧
      (run [fileName] oneFile).world.output = printedFile ∧
      (run [['-', 'o'], fileName, fileName] oneFile).exitStatus = 0 ∧
      (run [['-', 'o'], fileName, fileName] oneFile).message = none ∧
      (run [['-', 'o'], fileName, fileName] oneFile).world.contents? fileName =
        some (Codec.asciiBytes "<?xml version=\"1.0\" encoding=\"UTF-8\"?>\n".toList) ∧
      (run [['-', 'o'], fileName, fileName] oneFile).world.contents? fileName ≠
        some printedFile := by
  have hcontents : (run [['-', 'o'], fileName, fileName] oneFile).world.contents? fileName =
      some (Codec.asciiBytes "<?xml version=\"1.0\" encoding=\"UTF-8\"?>\n".toList) := by
    with_unfolding_all rfl
  refine ⟨by decide +kernel, ?_, by with_unfolding_all rfl, by with_unfolding_all rfl, hcontents, ?_⟩
  · rw [run_fileName]
    rfl
  · rw [hcontents]
    decide

end Command

end XmlScribe
