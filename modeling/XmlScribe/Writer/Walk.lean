/-
**Walks through a forest that is written.**

Writing a document is a walk through its nodes.  A walk leaves a trace of the pieces of text that
it writes; what becomes of them, a text or bytes in a sink, is decided afterwards.  Each step of
the trace remembers the forest at its time, because a sink may fail at any step and the forest then
is as it was.

The tree may change while it is written: a disturbance strikes once, when the profile is asked a
certain question.

Main definitions:

* `Disturbance` — a change that strikes during a walk;
* `Writer` — settings and profile, all that writing depends on besides the document;
* `Piece`, `Step` — what is written, and when;
* `Walk` — the walks;
* `Walk.put`, `Walk.forest`, `Walk.complete`, `Walk.ask` — the basic walks.
-/

import XmlScribe.Layout.Content
import XmlScribe.Layout.Profile
import XmlScribe.Namespace.Completion
import XmlScribe.Writer.Settings

set_option autoImplicit false

namespace XmlScribe

/-- A change of the forest that strikes once, when the profile is asked the first question that
`trigger` holds of. -/
structure Disturbance where
  /-- The questions that set off the change, by the number of questions asked before and by the
  element that they are about. -/
  trigger : (asked : Nat) → ElementKey → Bool
  /-- The change. -/
  change : Forest → Forest

/-- All that writing depends on besides the document. -/
structure Writer where
  /-- The settings. -/
  settings : Settings
  /-- The profile. -/
  profile : Profile
  /-- A change that is to strike while the document is written. -/
  disturbance : Option Disturbance

/-- The writer that nothing disturbs. -/
def Writer.quiet (settings : Settings) (profile : Profile) : Writer :=
  ⟨settings, profile, none⟩

/-- Something to be written. -/
inductive Piece where
  /-- The byte order mark. -/
  | mark
  /-- Text. -/
  | text (s : Text)
deriving DecidableEq, Repr

/-- The text of a piece. -/
def Piece.toText : Piece → Text
  | .mark => []
  | .text s => s

/-- A piece, and the forest at the time when it is written. -/
structure Step where
  /-- The piece. -/
  piece : Piece
  /-- The forest. -/
  forest : Forest

/-- How far a walk has come. -/
structure WalkState where
  /-- The forest. -/
  forest : Forest
  /-- The disturbance, if it has not struck yet. -/
  disturbance : Option Disturbance
  /-- The number of questions that the profile has been asked. -/
  asked : Nat
  /-- The steps that have been made, the latest first. -/
  trace : List Step

/-- A walk through a forest. -/
abbrev Walk (α : Type) := ExceptT SaveFault (StateM WalkState) α

namespace Walk

/-- The forest as it is now. -/
def forest : Walk Forest := do
  return (← get).forest

/-- Writes a piece. -/
def putPiece (piece : Piece) : Walk Unit :=
  modify fun st => { st with trace := ⟨piece, st.forest⟩ :: st.trace }

/-- Writes a text. -/
def put (s : Text) : Walk Unit :=
  putPiece (.text s)

/-- Writes a text that is known beforehand. -/
def putString (s : String) : Walk Unit :=
  put s.toList

/-- Writes some texts. -/
def putAll : List Text → Walk Unit
  | [] => pure ()
  | s :: texts => do
      put s
      putAll texts

/-- Adds the declarations that an element and those below it lack. -/
def complete (element : NodeId) (target : Option NodeId) : Walk Unit := do
  let (G, count) := (← forest).ensureDeclared element target true
  modify fun st => { st with forest := G }
  match count with
  | .ok _ => pure ()
  | .error fault => throw (.tree fault)

/-- The state after a question about `key`.  A disturbance has struck if the question sets it
off. -/
def afterQuestion (key : ElementKey) (st : WalkState) : WalkState :=
  match st.disturbance.filter (·.trigger st.asked key) with
  | some d =>
      { st with forest := d.change st.forest, disturbance := none, asked := st.asked + 1 }
  | none => { st with asked := st.asked + 1 }

/-- Asks the profile about an element. -/
def ask (profile : Profile) (key : ElementKey) : Walk Traits := do
  modify (afterQuestion key)
  return ⟨profile.isBlock key, profile.isBreak key, profile.isFlush key, profile.isPreserved key⟩

/-- Refuses to go on if the number of children of an element has changed. -/
def checkChildren (element : NodeId) (expected : Nat) : Walk Unit := do
  let found := ((← forest).children element).length
  if found ≠ expected then throw (.childrenChanged expected found)

end Walk

end XmlScribe
