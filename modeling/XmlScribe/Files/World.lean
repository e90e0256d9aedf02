/-
**Files, input and output.**

All that a command can read and write: the files and directories, the standard input and the
standard output.  Names are followed part by part, so that it can be told which part is at fault.

Main definitions:

* `World` — the files, the standard input and the standard output;
* `World.find` — the place of what has a name;
* `World.findForWriting` — the place of a file that is to be created or emptied;
* `World.entryNamed` — what there is under a name.
-/

import XmlScribe.Charset.Utf16
import XmlScribe.Files.Place

set_option autoImplicit false

namespace XmlScribe

/-- A file that is more, or less, than its contents. -/
inductive Device where
  /-- It is empty and keeps nothing. -/
  | null
  /-- The standard input. -/
  | standardInput
  /-- The standard output. -/
  | standardOutput
deriving DecidableEq, Repr

/-- What is at a place. -/
inductive Entry where
  /-- A directory. -/
  | directory
  /-- A file. -/
  | file (contents : Bytes)
  /-- A device. -/
  | device (device : Device)
deriving DecidableEq, Repr

/-- What can be read and written. -/
structure World where
  /-- What is at which place. -/
  entries : List (Place × Entry)
  /-- What has not been read from the standard input yet. -/
  input : Bytes
  /-- What has been written to the standard output. -/
  output : Bytes
deriving DecidableEq, Repr

namespace World

/-! ### What there is -/

/-- The devices, which are in a directory of their own. -/
def devices : List (Place × Entry) :=
  let directory := Place.within .top "dev".toList
  [(directory, .directory),
   (.within directory "null".toList, .device .null),
   (.within directory "stdin".toList, .device .standardInput),
   (.within directory "stdout".toList, .device .standardOutput)]

/-- The world with some files, their directories and the devices. -/
def ofFiles (files : List (Text × Bytes)) (input : Bytes) : World where
  entries :=
    files.map (fun (name, contents) => (Place.ofName name, .file contents))
      ++ files.flatMap (fun (name, _) => (Place.ofName name).around.map fun p => (p, .directory))
      ++ devices
  input := input
  output := []

/-- What is at a place. -/
def entry? (w : World) (place : Place) : Option Entry :=
  if place.isGiven then some .directory else w.entries.lookup place

/-- There is a directory at the place. -/
def isDirectory (w : World) (place : Place) : Bool :=
  w.entry? place == some .directory

/-! ### Following names -/

/-- The number of bytes that a part of a name can have. -/
def longestPart : Nat := 255

/-- The number of bytes that a name can have. -/
def longestName : Nat := 4095

/-- Refuses a name that leads nowhere. -/
def checkName (name : Text) : Except FileFault Unit :=
  if name.isEmpty then .error .missing
  else if longestName < Text.utf8Size name then .error .nameTooLong
  else .ok ()

/-- Where a part of a name leads. -/
def step (w : World) (place : Place) (part : Text) : Except FileFault Place :=
  if !w.isDirectory place then .error .notDirectory
  else if longestPart < Text.utf8Size part then .error .nameTooLong
  else if (w.entry? (place.enter part)).isNone then .error .missing
  else .ok (place.enter part)

/-- The place of what has a name. -/
def find (w : World) (name : Text) : Except FileFault Place := do
  checkName name
  (Place.parts name).foldlM w.step (Place.startOf name)

/-- The place of a file that is to be created or emptied.  Only the last part of the name may lead
to nothing, and it must not be written like the name of a directory. -/
def findForWriting (w : World) (name : Text) : Except FileFault Place := do
  checkName name
  let body := (name.reverse.dropWhile (· == '/')).reverse
  if body.isEmpty then throw .isDirectory
  let parts := Place.parts body
  let last := parts.getLast?.getD []
  let directory ← parts.dropLast.foldlM w.step (Place.startOf name)
  if !w.isDirectory directory then throw .notDirectory
  if last = Place.here ∨ last = Place.up ∨ body.length < name.length then throw .isDirectory
  if longestPart < Text.utf8Size last then throw .nameTooLong
  if w.isDirectory (.within directory last) then throw .isDirectory
  return .within directory last

/-- What there is under a name. -/
def entryNamed (w : World) (name : Text) : Except FileFault Entry := do
  match w.entry? (← w.find name) with
  | some entry => return entry
  | none => throw .missing

/-- The contents of the file with a name, if there is one. -/
def contents? (w : World) (name : Text) : Option Bytes :=
  match w.entryNamed name with
  | .ok (.file contents) => some contents
  | .ok (.device _) => some []
  | _ => none

/-! ### Changes -/

/-- The world in which there is something else at a place. -/
def setEntry (w : World) (place : Place) (entry : Entry) : World :=
  { w with entries := (place, entry) :: w.entries.filter (·.1 != place) }

/-- The world in which there is an empty file at a place.  A device stays what it is. -/
def empty (w : World) (place : Place) : World :=
  match w.entry? place with
  | some (.device _) => w
  | _ => w.setEntry place (.file [])

/-- All that is left of the standard input, and the world after it has been read. -/
def takeInput (w : World) : Bytes × World :=
  (w.input, { w with input := [] })

/-- The world in which more has been written to the standard output. -/
def print (w : World) (bytes : Bytes) : World :=
  { w with output := w.output ++ bytes }

/-- The world in which more has been written to the file at a place. -/
def append (w : World) (place : Place) (bytes : Bytes) : World :=
  match w.entry? place with
  | some (.file contents) => w.setEntry place (.file (contents ++ bytes))
  | some (.device .standardOutput) => w.print bytes
  | _ => w

end World

end XmlScribe
