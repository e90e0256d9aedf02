/-
**Running the command.**

The command reads documents from files and writes them, one after the other, to its output or to a
file.  A run turns one world of files into another, so that all it does can be told from the two.

Main definitions:

* `Destination` — where documents are written;
* `Failure` — why a run fails, and its message;
* `Command.saveFiles` — some documents are read and written;
* `Command.run` — a whole run.
-/

import XmlScribe.Command.Arguments
import XmlScribe.Document.Read
import XmlScribe.Files.World
import XmlScribe.Forest.Adopt
import XmlScribe.Writer.Save

set_option autoImplicit false

namespace XmlScribe

/-- Where documents are written. -/
inductive Destination where
  /-- The standard output. -/
  | standardOutput
  /-- A file. -/
  | file (place : Place)
deriving DecidableEq, Repr

/-- The world in which more has been written to a destination. -/
def Destination.write (destination : Destination) (w : World) (bytes : Bytes) : World :=
  match destination with
  | .standardOutput => w.print bytes
  | .file place => w.append place bytes

/-- Why a run fails. -/
inductive Failure where
  /-- The encoding that is asked for is unknown. -/
  | encoding (fault : SaveFault)
  /-- A file cannot be opened. -/
  | notOpened (name : Text) (fault : FileFault)
  /-- A file cannot be created. -/
  | notCreated (name : Text) (fault : FileFault)
  /-- A document cannot be read. -/
  | unreadable (name : Text) (fault : ReadFault)
  /-- A document cannot be written. -/
  | unwritable (name : Text) (fault : SaveFault)
deriving DecidableEq, Repr

namespace Failure

/-- What the command was about, and the wordings of the faults from the nearest to the deepest. -/
def chain : Failure → List String
  | .encoding fault => "invalid --encoding" :: fault.message :: fault.causes
  | .notOpened name fault => ["failed to open " ++ String.ofList name, fault.message]
  | .notCreated name fault => ["failed to create " ++ String.ofList name, fault.message]
  | .unreadable name fault =>
      ("failed to parse " ++ String.ofList name) :: fault.message :: fault.causes
  | .unwritable name fault =>
      ("failed to serialize " ++ String.ofList name) :: fault.message :: fault.causes

/-- The wording of the failure. -/
def message (failure : Failure) : String :=
  ": ".intercalate failure.chain

end Failure

/-- What has come of a run. -/
structure Outcome where
  /-- The exit status. -/
  exitStatus : Nat
  /-- The message of a failure. -/
  message : Option String
  /-- The world after the run. -/
  world : World
deriving DecidableEq, Repr

namespace Command

/-- The name that stands for the standard input. -/
def standardInput : Text := ['-']

/-- The contents of a file or what is left of the standard input, and the world after reading. -/
def readFile (w : World) (name : Text) : Except Failure (Bytes × World) :=
  if name = standardInput then .ok w.takeInput
  else
    match w.entryNamed name with
    | .error fault => .error (.notOpened name fault)
    | .ok .directory => .error (.unreadable name (.file .isDirectory))
    | .ok (.file contents) => .ok (contents, w)
    | .ok (.device .standardInput) => .ok w.takeInput
    | .ok (.device _) => .ok ([], w)

/-- The world after a document has been read and written, and why that has failed, if it has. -/
def saveFile (W : Writer) (destination : Destination) (w : World) (name : Text) :
    World × Option Failure :=
  match readFile w name with
  | .error failure => (w, some failure)
  | .ok (contents, w) =>
      match Document.read .none contents with
      | .error fault => (w, some (.unreadable name fault))
      | .ok document =>
          let (F, doc) := Forest.empty.plant document
          let saved := W.saveDocument F doc .unlimited
          (destination.write w saved.sink.received, saved.fault.map (.unwritable name))

/-- The world after some documents have been read and written, up to the first failure. -/
def saveFiles (W : Writer) (destination : Destination) :
    World → List Text → World × Option Failure
  | w, [] => (w, none)
  | w, name :: names =>
      match saveFile W destination w name with
      | (w, some failure) => (w, some failure)
      | (w, none) => saveFiles W destination w names

/-- The destination that the arguments ask for, and the world in which it is there and empty. -/
def openDestination (w : World) (arguments : List Argument) :
    Except Failure (Destination × World) :=
  match Argument.valueOf? .output arguments with
  | none => .ok (.standardOutput, w)
  | some name =>
      match w.findForWriting name with
      | .error fault => .error (.notCreated name fault)
      | .ok place => .ok (.file place, w.empty place)

/-- The world after the arguments have been obeyed. -/
def obey (w : World) (arguments : List Argument) : World × Option Failure :=
  match Argument.settings arguments with
  | .error fault => (w, some (.encoding fault))
  | .ok settings =>
      match openDestination w arguments with
      | .error failure => (w, some failure)
      | .ok (destination, w) =>
          saveFiles (.quiet settings (Argument.profile arguments)) destination w
            (Argument.files arguments)

/-- What the command says of its version. -/
def versionLine : Text := "domsave 0.1.0\n".toList

/-- A run of the command. -/
def run (line : List Text) (w : World) : Outcome :=
  match Argument.parse line with
  | .error .usage => ⟨2, none, w⟩
  | .error .help => ⟨0, none, w⟩
  | .error .version => ⟨0, none, w.print (Charset.utf8.encode versionLine)⟩
  | .ok arguments =>
      match obey w arguments with
      | (w, none) => ⟨0, none, w⟩
      | (w, some failure) => ⟨1, some failure.message, w⟩

end Command

end XmlScribe
