/-
**Places of files.**

The name of a file tells a way: from the working directory or, if the name begins with a slash, from
the topmost one, through a directory for every part of the name up to the last.  Different names
can lead to the same place.

Main definitions:

* `FileFault` — why a file cannot be opened, created or read;
* `FileFault.message` — what the system says about it;
* `Place` — where a file or a directory is;
* `Place.parent` — the directory around a place;
* `Place.ofName` — where a name leads;
* `Place.name` — a name that leads to a place.
-/

import XmlScribe.Text.Basic

set_option autoImplicit false

namespace XmlScribe

/-- Why a file cannot be opened, created or read. -/
inductive FileFault where
  /-- There is nothing with this name. -/
  | missing
  /-- A part of the name that leads to a directory leads to something else. -/
  | notDirectory
  /-- A directory has no contents to be read or written. -/
  | isDirectory
  /-- The name, or a part of it, is too long. -/
  | nameTooLong
deriving DecidableEq, Repr

/-- What the system says about the fault. -/
def FileFault.message : FileFault → String
  | .missing => "No such file or directory (os error 2)"
  | .notDirectory => "Not a directory (os error 20)"
  | .isDirectory => "Is a directory (os error 21)"
  | .nameTooLong => "File name too long (os error 36)"

/-- Where a file or a directory is. -/
inductive Place where
  /-- The working directory. -/
  | working
  /-- The topmost directory. -/
  | top
  /-- The place of a name within a directory; `..` is the directory around it. -/
  | within (directory : Place) (name : Text)
deriving DecidableEq, Repr

namespace Place

/-- The part of a name that leads nowhere else. -/
def here : Text := ['.']

/-- The part of a name that leads to the directory around. -/
def up : Text := ['.', '.']

/-- The directory around a place. -/
def parent : Place → Place
  | working => within working up
  | top => top
  | within directory name =>
      if name = up then within (within directory name) up else directory

/-- There is a directory at this place, whatever files there are: it is the topmost one, the working
directory or one around that. -/
def isGiven : Place → Bool
  | working => true
  | top => true
  | within _ name => name == up

/-- The directories around a place, the nearest first, without the one that the way begins at. -/
def around : Place → List Place
  | within (within directory name) _ => within directory name :: around (within directory name)
  | _ => []

/-- Where the way of a name begins. -/
def startOf (name : Text) : Place :=
  if name.head? = some '/' then top else working

/-- The parts of a name. -/
def parts (name : Text) : List Text :=
  name.splitOn '/'

/-- Where a part of a name leads from a directory. -/
def enter (directory : Place) (part : Text) : Place :=
  if part = [] ∨ part = here then directory
  else if part = up then directory.parent
  else within directory part

/-- Where a name leads. -/
def ofName (name : Text) : Place :=
  (parts name).foldl enter (startOf name)

/-- A directory and the places where the parts of a name lead from there. -/
def way (directory : Place) : List Text → List Place
  | [] => [directory]
  | part :: parts => directory :: way (directory.enter part) parts

/-- The places that a name leads through, and the one that it leads to. -/
def onTheWay (name : Text) : List Place :=
  way (startOf name) (parts name)

/-- A name that leads to a place. -/
def name : Place → Text
  | working => here
  | top => ['/']
  | within directory part => directory.name ++ '/' :: part

end Place

end XmlScribe
