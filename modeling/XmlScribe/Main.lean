/-
**The command.**

Main definitions:

* `main` — reads what a run may need, runs, and carries out what the run says.
-/

import XmlScribe.Command.Run

set_option autoImplicit false

open XmlScribe

/-- The number of the system for the attempt to read a directory. -/
def directoryCode : UInt32 := 21

/-- What is at a place, if there is something that can be read. -/
def entryAt (place : Place) : IO (Option (Place × Entry)) := do
  try
    let contents ← IO.FS.readBinFile (String.ofList place.name)
    return some (place, .file contents.toList)
  catch fault =>
    match fault with
    | .inappropriateType _ code _ =>
        return if code = directoryCode then some (place, .directory) else none
    | _ => return none

/-- All bytes of the standard input, up to `fuel` slices of them. -/
def readInput (stdin : IO.FS.Stream) : (fuel : Nat) → IO Bytes
  | 0 => return []
  | fuel + 1 => do
      let slice ← stdin.read 65536
      if slice.isEmpty then return []
      return slice.toList ++ (← readInput stdin fuel)

/-- The names of the files that the arguments ask for. -/
def namedFiles (arguments : List Argument) : List Text :=
  Argument.files arguments ++ (Argument.valueOf? .output arguments).toList

/-- The part of the world that the arguments name: all that is on the ways of the names. -/
def worldFor (arguments : List Argument) : IO World := do
  let names := namedFiles arguments
  let places := names.flatMap Place.onTheWay
  let entries ← (places.filter (!·.isGiven)).eraseDups.filterMapM entryAt
  let input ←
    if names.elem Command.standardInput then readInput (← IO.getStdin) 0x100000000 else pure []
  return ⟨entries, input, []⟩

/-- Reads what a run may need, runs, and carries out what the run says. -/
def main (line : List String) : IO UInt32 := do
  let line := line.map String.toList
  let arguments := (Argument.parse line).toOption.getD []
  let world ← worldFor arguments
  let outcome := Command.run line world
  for name in (Argument.valueOf? .output arguments).toList do
    match outcome.world.contents? name with
    | some contents =>
        if world.contents? name ≠ some contents then
          IO.FS.writeBinFile (String.ofList name) contents.toByteArray
    | none => pure ()
  let stdout ← IO.getStdout
  stdout.write outcome.world.output.toByteArray
  stdout.flush
  match outcome.message with
  | some message => IO.eprintln ("[ERROR] " ++ message)
  | none => pure ()
  return UInt32.ofNat outcome.exitStatus
