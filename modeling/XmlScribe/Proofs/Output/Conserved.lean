/-
**What a buffer keeps when its sink fails.**

A sink may refuse a slice at one time and take it at another, and it may fail to flush.  A slice
that is refused stays in the buffer as waiting text and is written again later, together with what
has come after it.  So nothing is lost and nothing is written twice: the bytes that the sink has
received, followed by those of the waiting text, are the bytes of the mark and of all texts so far,
also of those whose writing has failed.  This holds because the bytes of a text are those of its
parts, wherever it is cut.

What a sink does with a slice is said by its condition at that time.  An operation writes one slice
at most, and whatever a sink answers to it and to being told to flush, there is a condition under
which it does so.  So conditions that change from operation to operation give every sink that takes
a slice as a whole or not at all.

Main definitions:

* `Sink.Condition` — what a sink takes, and whether it can flush, for a time;
* `OutputBuffer.Request` — the operations;
* `OutputBuffer.run` — a buffer after some operations, each under a condition of its own;
* `OutputBuffer.Conserves` — nothing has been lost or doubled.

Main results:

* `Sink.exists_condition` — conditions give all answers that a sink may give;
* `OutputBuffer.writePending_cases` — the waiting text is written as a whole or not at all;
* `OutputBuffer.Conserves.apply`, `OutputBuffer.Conserves.run` — an operation keeps everything, and
  so do any operations;
* `OutputBuffer.received_run` — what has been received and what is waiting after any operations.
-/

import XmlScribe.Output.Buffer
import XmlScribe.Proofs.Charset.Reading

set_option autoImplicit false

namespace XmlScribe

/-! ### Sinks that change -/

namespace Sink

/-- What a sink does for a time. -/
structure Condition where
  /-- The number of bytes that it takes in all, if there is a limit. -/
  limit : Option Nat
  /-- It fails when it is told to flush. -/
  failsToFlush : Bool
deriving DecidableEq, Repr

/-- The sink under a condition. -/
def under (sink : Sink) (condition : Condition) : Sink :=
  { sink with limit := condition.limit, failsToFlush := condition.failsToFlush }

/-- A sink that has received nothing. -/
def fresh (condition : Condition) : Sink :=
  unlimited.under condition

/-- A slice is taken as a whole or not at all. -/
theorem write_cases (sink : Sink) (bytes : Bytes) :
    sink.write bytes = .ok { sink with received := sink.received ++ bytes } ∨
      sink.write bytes = .error .full := by
  rw [write]
  split
  · rename_i hempty
    left
    rw [List.isEmpty_iff.1 hempty, List.append_nil]
  · split
    · exact Or.inl rfl
    · exact Or.inr rfl

/-- Whether a sink takes a slice and whether it can flush is free, each for itself. -/
theorem exists_condition (sink : Sink) {bytes : Bytes} (hne : bytes ≠ []) (takes flushes : Bool) :
    ∃ condition,
      (sink.under condition).write bytes =
          (if takes then
            .ok { sink.under condition with received := sink.received ++ bytes }
          else .error .full) ∧
        (sink.under condition).flush = if flushes then .ok () else .error .notFlushed := by
  refine ⟨⟨if takes then none else some sink.received.length, !flushes⟩, ?_, ?_⟩
  · cases takes with
    | true => exact write_of_limit_eq_none rfl bytes
    | false =>
        have hlong : sink.received.length < sink.received.length + bytes.length :=
          Nat.lt_add_of_pos_right (List.length_pos_iff.2 hne)
        have hfull : (sink.under ⟨some sink.received.length, !flushes⟩).fits bytes = false :=
          decide_eq_false (Nat.not_le.2 hlong)
        have hnonempty : ¬ bytes.isEmpty = true := fun he => hne (List.isEmpty_iff.1 he)
        rw [if_neg Bool.false_ne_true, write, if_neg hnonempty, hfull, if_neg Bool.false_ne_true,
          if_neg Bool.false_ne_true]
  · cases flushes <;> rfl

end Sink

namespace OutputBuffer

/-! ### Operations -/

/-- The buffer while its sink is under a condition. -/
def under (b : OutputBuffer) (condition : Sink.Condition) : OutputBuffer :=
  { b with sink := b.sink.under condition }

/-- An operation on a buffer. -/
inductive Request where
  /-- Text is added; this may be a single character. -/
  | write (s : Text)
  /-- Everything is written. -/
  | flush
deriving DecidableEq, Repr

namespace Request

/-- The text that an operation adds. -/
def text : Request → Text
  | write s => s
  | flush => []

/-- The buffer after an operation, whether it has failed or not. -/
def apply (b : OutputBuffer) : Request → OutputBuffer
  | write s => (b.writeText s).1
  | flush => b.flush.1

end Request

/-- The buffer after some operations, each while the sink is under a condition of its own. -/
def run (b : OutputBuffer) (requests : List (Sink.Condition × Request)) : OutputBuffer :=
  requests.foldl (fun b (condition, request) => request.apply (b.under condition)) b

/-- A buffer before a sink that has received nothing, after the byte order mark has been written if
it is wanted. -/
def begin? (charset : Charset) (condition : Sink.Condition) (mark : Bool) :
    Except SinkFault OutputBuffer :=
  if mark then (ofSink charset (.fresh condition)).writeMark
  else .ok (ofSink charset (.fresh condition))

/-! ### What operations keep -/

/-- What the sink has received and the waiting text are the bytes `sent`. -/
structure Conserves (b : OutputBuffer) (charset : Charset) (sent : Bytes) : Prop where
  /-- The character set of the output. -/
  charset_eq : b.charset = charset
  /-- What has been received, and what is waiting. -/
  received : b.sink.received ++ charset.encode b.pending = sent
  /-- The bytes that have been received are counted. -/
  written : b.written = b.sink.received.length

variable {b c : OutputBuffer} {charset : Charset} {sent : Bytes}

/-- Bytes are written as a whole or not at all. -/
theorem writeBytes_cases (b : OutputBuffer) (bytes : Bytes) :
    (∃ fault, b.writeBytes bytes = .error fault) ∨
      b.writeBytes bytes = .ok { b with
        sink := { b.sink with received := b.sink.received ++ bytes }
        written := b.written + bytes.length } := by
  rw [writeBytes]
  rcases b.sink.write_cases bytes with h | h <;> rw [h]
  · exact Or.inr rfl
  · exact Or.inl ⟨.full, rfl⟩

/-- The waiting text is written as a whole or not at all. -/
theorem writePending_cases (b : OutputBuffer) :
    (∃ fault, b.writePending = .error fault) ∨
      b.writePending = .ok { b with
        sink := { b.sink with received := b.sink.received ++ b.charset.encode b.pending }
        written := b.written + (b.charset.encode b.pending).length
        pending := [] } := by
  rw [writePending]
  rcases b.writeBytes_cases (b.charset.encode b.pending) with ⟨fault, h⟩ | h <;> rw [h]
  · exact Or.inl ⟨fault, rfl⟩
  · exact Or.inr rfl

/-- A condition is nothing that is received or waits. -/
theorem Conserves.under (h : b.Conserves charset sent) (condition : Sink.Condition) :
    (b.under condition).Conserves charset sent :=
  ⟨h.charset_eq, h.received, h.written⟩

section Own

variable (hc : charset ∈ Charset.own)
include hc

theorem conserves_ofSink (condition : Sink.Condition) :
    (ofSink charset (.fresh condition)).Conserves charset [] :=
  ⟨rfl, Charset.encode_nil hc, rfl⟩

/-- At the beginning there is the mark or nothing. -/
theorem conserves_begin? {condition : Sink.Condition} {mark : Bool}
    (h : begin? charset condition mark = .ok b) :
    b.Conserves charset (if mark then charset.byteOrderMark else []) := by
  have hstart := conserves_ofSink hc condition
  rw [begin?] at h
  cases mark with
  | false =>
      obtain rfl := Except.ok.inj h
      exact hstart
  | true =>
      rw [if_pos rfl, writeMark] at h
      rcases (ofSink charset (.fresh condition)).writeBytes_cases charset.byteOrderMark with
        ⟨fault, hw⟩ | hw
      · cases hw.symm.trans h
      · obtain rfl := Except.ok.inj (hw.symm.trans h)
        refine ⟨rfl, ?_, ?_⟩
        · exact (congrArg (charset.byteOrderMark ++ ·) (Charset.encode_nil hc)).trans
            (List.append_nil _)
        · exact Nat.zero_add _

/-- Text that is added waits. -/
theorem Conserves.push (h : b.Conserves charset sent) (s : Text) :
    (b.push s).Conserves charset (sent ++ charset.encode s) := by
  refine ⟨h.charset_eq, ?_, h.written⟩
  rw [OutputBuffer.push, Charset.encode_append hc, ← List.append_assoc, h.received]

/-- Waiting text that is written has been received, and does not wait any more. -/
theorem Conserves.writePending (h : b.Conserves charset sent) (hw : b.writePending = .ok c) :
    c.Conserves charset sent ∧ c.pending = [] := by
  rcases b.writePending_cases with ⟨fault, hfault⟩ | hok
  · cases hfault.symm.trans hw
  · obtain rfl := Except.ok.inj (hok.symm.trans hw)
    refine ⟨⟨h.charset_eq, ?_, ?_⟩, rfl⟩
    · rw [Charset.encode_nil hc, List.append_nil, h.charset_eq, h.received]
    · rw [List.length_append, h.written]

/-- Text is added, whether the sink refuses it or not. -/
theorem Conserves.writeText (h : b.Conserves charset sent) (s : Text) :
    (b.writeText s).1.Conserves charset (sent ++ charset.encode s) := by
  have hpush := h.push hc s
  rw [OutputBuffer.writeText]
  split
  · exact hpush
  · cases hw : (b.push s).writePending with
    | ok c => exact (hpush.writePending hc hw).1
    | error fault => exact hpush

/-- Nothing is lost when everything is to be written, whether the sink takes it or not. -/
theorem Conserves.flush (h : b.Conserves charset sent) : b.flush.1.Conserves charset sent := by
  rw [OutputBuffer.flush]
  cases hw : b.writePending with
  | ok c => exact (h.writePending hc hw).1
  | error fault => exact h

/-- An operation keeps everything, and adds its text. -/
theorem Conserves.apply (h : b.Conserves charset sent) (request : Request) :
    (request.apply b).Conserves charset (sent ++ charset.encode request.text) := by
  cases request with
  | write s => exact h.writeText hc s
  | flush =>
      rw [Request.text, Charset.encode_nil hc, List.append_nil]
      exact h.flush hc

/-- Any operations keep everything, and add their texts. -/
theorem Conserves.run (h : b.Conserves charset sent)
    (requests : List (Sink.Condition × Request)) :
    (b.run requests).Conserves charset
      (sent ++ charset.encode (requests.flatMap fun request => request.2.text)) := by
  induction requests generalizing b sent with
  | nil =>
      rw [List.flatMap_nil, Charset.encode_nil hc, List.append_nil]
      exact h
  | cons request requests ih =>
      rw [List.flatMap_cons, Charset.encode_append hc, ← List.append_assoc]
      exact ih ((h.under request.1).apply hc request.2)

end Own

/-- After text has been added without a fault, not much is waiting. -/
theorem utf8Size_le_of_writeText {s : Text} (h : b.writeText s = (c, none)) :
    c.pending.utf8Size ≤ threshold := by
  rw [OutputBuffer.writeText] at h
  split at h
  · obtain ⟨rfl, -⟩ := Prod.mk.inj h
    assumption
  · rcases (b.push s).writePending_cases with ⟨fault, hw⟩ | hw <;> rw [hw] at h
    · cases h
    · obtain ⟨rfl, -⟩ := Prod.mk.inj h
      exact Nat.zero_le _

/-- After everything has been written without a fault, nothing is waiting, and the number of bytes
is given. -/
theorem of_flush_eq_ok {n : Nat} (h : b.flush = (c, .ok n)) : c.pending = [] ∧ n = c.written := by
  rw [OutputBuffer.flush] at h
  rcases b.writePending_cases with ⟨fault, hw⟩ | hw <;> rw [hw] at h
  · cases h
  · obtain ⟨rfl, hflush⟩ := Prod.mk.inj h
    refine ⟨rfl, ?_⟩
    dsimp only at hflush
    rw [Sink.flush] at hflush
    split at hflush
    · cases hflush
    · exact (Except.ok.inj hflush).symm

/-- **What has been received and what is waiting after any operations.**  At the beginning the mark
is written or not; then text is added and the buffer is flushed, while the sink takes a slice at one
time and refuses it at another.  The bytes received and those of the waiting text are those of the
mark and of all texts so far; the bytes received are counted; after the next text that is added
without a fault at most `threshold` bytes are waiting; and after the next flush without a fault
nothing is, and the flush gives the number of bytes received. -/
theorem received_run (hc : charset ∈ Charset.own) {condition : Sink.Condition} {mark : Bool}
    (hb : begin? charset condition mark = .ok b)
    (requests : List (Sink.Condition × Request)) :
    let after := b.run requests
    after.sink.received ++ charset.encode after.pending =
        (if mark then charset.byteOrderMark else []) ++
          charset.encode (requests.flatMap fun request => request.2.text) ∧
      after.written = after.sink.received.length ∧
      (∀ condition s c, (after.under condition).writeText s = (c, none) →
        c.pending.utf8Size ≤ threshold) ∧
      (∀ condition c n, (after.under condition).flush = (c, .ok n) →
        c.pending = [] ∧ n = c.sink.received.length) := by
  have hstart := conserves_begin? hc hb
  have hrun := hstart.run hc requests
  refine ⟨hrun.received, hrun.written, fun _ _ _ => utf8Size_le_of_writeText, ?_⟩
  intro condition c n hflush
  obtain ⟨hpending, rfl⟩ := of_flush_eq_ok hflush
  have hc' := (hrun.under condition).flush hc
  rw [hflush] at hc'
  exact ⟨hpending, hc'.written⟩

/-- A sink with room for a byte order mark only, and then without a limit. -/
theorem received_run_refusing :
    Charset.utf16LittleEndian ∈ Charset.own ∧
      ∃ b, begin? .utf16LittleEndian ⟨some 2, false⟩ true = .ok b ∧
        let after := b.run [(⟨some 2, false⟩, .write "a𝄞".toList), (⟨some 2, false⟩, .flush),
          (⟨some 2, false⟩, .write "é".toList), (⟨none, true⟩, .flush)]
        after.sink.received = [0xFF, 0xFE, 0x61, 0, 0x34, 0xD8, 0x1E, 0xDD, 0xE9, 0] ∧
        after.sink.received ++ Charset.utf16LittleEndian.encode after.pending =
          Charset.utf16LittleEndian.byteOrderMark ++
            Charset.utf16LittleEndian.encode "a𝄞é".toList := by
  have hc : Charset.utf16LittleEndian ∈ Charset.own := by simp [Charset.own]
  refine ⟨hc, _, rfl, by decide, ?_⟩
  exact (@received_run _ _ hc ⟨some 2, false⟩ true rfl _).1

end OutputBuffer

end XmlScribe
