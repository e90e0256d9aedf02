/-
**Buffered output.**

A sink takes bytes in slices.  It may take only a limited number of them; a slice that does not fit
is refused as a whole.  A sink may also fail when it is told to flush.

Text is collected until there are more than `OutputBuffer.threshold` bytes of it, and is then
written to a sink in one slice in the character set of the output.  Text that the sink refuses
stays in the buffer.

Main definitions:

* `Sink` — what a sink has received, and what it refuses;
* `SinkFault` — why a sink fails;
* `Sink.write`, `Sink.flush` — the operations;
* `OutputBuffer` — the sink, the text that is waiting, and the number of bytes written;
* `OutputBuffer.writeMark` — the byte order mark is written;
* `OutputBuffer.writeText` — text is added;
* `OutputBuffer.flush` — everything is written.
-/

import XmlScribe.Charset.Basic
import XmlScribe.Charset.Utf16

set_option autoImplicit false

namespace XmlScribe

/-- Why a sink fails. -/
inductive SinkFault where
  /-- The bytes do not fit. -/
  | full
  /-- The sink cannot flush. -/
  | notFlushed
deriving DecidableEq, Repr

/-- The wording of the fault. -/
def SinkFault.message : SinkFault → String
  | .full => "sink full"
  | .notFlushed => "flush failed"

/-- A destination of bytes. -/
structure Sink where
  /-- The bytes that it has received. -/
  received : Bytes
  /-- The number of bytes that it takes, if there is a limit. -/
  limit : Option Nat
  /-- It fails when it is told to flush. -/
  failsToFlush : Bool
deriving DecidableEq, Repr

namespace Sink

/-- A sink that takes everything. -/
def unlimited : Sink := ⟨[], none, false⟩

/-- A sink that takes so many bytes at most, if a number is given. -/
def withLimit (limit : Option Nat) : Sink := ⟨[], limit, false⟩

/-- The sink has room for some bytes. -/
def fits (sink : Sink) (bytes : Bytes) : Bool :=
  sink.limit.all fun limit => sink.received.length + bytes.length ≤ limit

/-- The sink after it has taken some bytes. -/
def write (sink : Sink) (bytes : Bytes) : Except SinkFault Sink :=
  if bytes.isEmpty then .ok sink
  else if sink.fits bytes then .ok { sink with received := sink.received ++ bytes }
  else .error .full

/-- Tells the sink to flush. -/
def flush (sink : Sink) : Except SinkFault Unit :=
  if sink.failsToFlush then .error .notFlushed else .ok ()

/-- A sink without a limit takes everything. -/
theorem write_of_limit_eq_none {sink : Sink} (h : sink.limit = none) (bytes : Bytes) :
    sink.write bytes = .ok { sink with received := sink.received ++ bytes } := by
  cases bytes with
  | nil => simp [write]
  | cons b bytes => simp [write, fits, h]

end Sink

/-- A sink behind a buffer. -/
structure OutputBuffer where
  /-- The character set of the output. -/
  charset : Charset
  /-- The destination. -/
  sink : Sink
  /-- The text that is waiting. -/
  pending : Text
  /-- The number of bytes that have been written. -/
  written : Nat

namespace OutputBuffer

/-- The number of bytes in UTF-8 above which the waiting text is written. -/
def threshold : Nat := 4000

/-- A buffer without text before a sink. -/
def ofSink (charset : Charset) (sink : Sink) : OutputBuffer := ⟨charset, sink, [], 0⟩

/-- The buffer after bytes have been written to the sink. -/
def writeBytes (b : OutputBuffer) (bytes : Bytes) : Except SinkFault OutputBuffer :=
  (b.sink.write bytes).map fun sink => { b with sink := sink, written := b.written + bytes.length }

/-- The buffer after the byte order mark has been written. -/
def writeMark (b : OutputBuffer) : Except SinkFault OutputBuffer :=
  b.writeBytes b.charset.byteOrderMark

/-- The buffer after the waiting text has been written. -/
def writePending (b : OutputBuffer) : Except SinkFault OutputBuffer :=
  (b.writeBytes (b.charset.encode b.pending)).map ({ · with pending := [] })

/-- The buffer with more text waiting. -/
def push (b : OutputBuffer) (s : Text) : OutputBuffer :=
  { b with pending := b.pending ++ s }

/-- The buffer after text has been added, and whether the sink has refused it.  The text is in the
buffer in either case. -/
def writeText (b : OutputBuffer) (s : Text) : OutputBuffer × Option SinkFault :=
  let c := b.push s
  if c.pending.utf8Size ≤ threshold then (c, none)
  else
    match c.writePending with
    | .ok d => (d, none)
    | .error fault => (c, some fault)

/-- The buffer after everything has been written, and the number of bytes that have been written
in all. -/
def flush (b : OutputBuffer) : OutputBuffer × Except SinkFault Nat :=
  match b.writePending with
  | .error fault => (b, .error fault)
  | .ok c => (c, c.sink.flush.map fun _ => c.written)

end OutputBuffer

end XmlScribe
