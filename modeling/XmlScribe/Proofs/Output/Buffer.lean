/-
**What a buffer sends to a sink that never fails.**

The buffer hands text on whenever more of it is waiting than fits, so where the text is cut depends on
how much has been written before.  None of this can be seen in the end: the bytes that the sink has
received, followed by those of the text that is still waiting, are the bytes of all the text so far.
Every operation keeps this, and when the buffer is emptied the sink has everything.

Main definitions:

* `Sink.IsUnfailing` — the sink takes everything;
* `OutputBuffer.Sends` — what the sink will have received when the buffer is emptied.

Main results:

* `OutputBuffer.Sends.writeText` — one text more;
* `OutputBuffer.Sends.deliver` — the texts of some steps;
* `OutputBuffer.Sends.flush` — the sink receives what was to be sent.
-/

import XmlScribe.Proofs.Charset.Reading
import XmlScribe.Writer.Save

set_option autoImplicit false

namespace XmlScribe

/-- The sink takes all bytes and does not fail to flush. -/
structure Sink.IsUnfailing (sink : Sink) : Prop where
  /-- There is no limit. -/
  unlimited : sink.limit = none
  /-- It can flush. -/
  flushes : sink.failsToFlush = false

namespace OutputBuffer

variable {b : OutputBuffer} {charset : Charset} {sent : Bytes}

/-- The sink never fails, and will have received `sent` when the buffer has been emptied. -/
structure Sends (b : OutputBuffer) (charset : Charset) (sent : Bytes) : Prop where
  /-- The character set of the output. -/
  charset_eq : b.charset = charset
  /-- The sink takes everything. -/
  unfailing : b.sink.IsUnfailing
  /-- What has been received, and what is waiting. -/
  received : b.sink.received ++ charset.encode b.pending = sent

/-- The buffer after bytes have been written to a sink that takes them. -/
def afterBytes (b : OutputBuffer) (bytes : Bytes) : OutputBuffer :=
  { b with
    sink := { b.sink with received := b.sink.received ++ bytes }
    written := b.written + bytes.length }

theorem writeBytes_of_unfailing (h : b.sink.IsUnfailing) (bytes : Bytes) :
    b.writeBytes bytes = .ok (b.afterBytes bytes) := by
  rw [writeBytes, Sink.write_of_limit_eq_none h.unlimited]
  rfl

/-! ### Single operations -/

section Own

variable (hc : charset ∈ Charset.own)
include hc

theorem sends_ofSink {sink : Sink} (h : sink.IsUnfailing) :
    (ofSink charset sink).Sends charset sink.received :=
  ⟨rfl, h, by rw [ofSink, Charset.encode_nil hc, List.append_nil]⟩

/-- Bytes can be written past the buffer while no text is waiting. -/
theorem Sends.afterBytes (h : b.Sends charset sent) (hb : b.pending = []) (bytes : Bytes) :
    (b.afterBytes bytes).Sends charset (sent ++ bytes) := by
  refine ⟨h.charset_eq, ⟨h.unfailing.unlimited, h.unfailing.flushes⟩, ?_⟩
  have hreceived := h.received
  rw [hb, Charset.encode_nil hc, List.append_nil] at hreceived
  rw [OutputBuffer.afterBytes, hb, Charset.encode_nil hc, List.append_nil, hreceived]

theorem Sends.push (h : b.Sends charset sent) (s : Text) :
    (b.push s).Sends charset (sent ++ charset.encode s) := by
  refine ⟨h.charset_eq, h.unfailing, ?_⟩
  rw [OutputBuffer.push, Charset.encode_append hc, ← List.append_assoc, h.received]

/-- The waiting text is handed on, and nothing is left to wait. -/
theorem Sends.writePending (h : b.Sends charset sent) :
    ∃ c, b.writePending = .ok c ∧ c.Sends charset sent ∧ c.pending = [] := by
  refine ⟨{ b.afterBytes (charset.encode b.pending) with pending := [] }, ?_,
    ⟨h.charset_eq, ⟨h.unfailing.unlimited, h.unfailing.flushes⟩, ?_⟩, rfl⟩
  · rw [OutputBuffer.writePending, h.charset_eq, writeBytes_of_unfailing h.unfailing]
    rfl
  · rw [Charset.encode_nil hc, List.append_nil]
    exact h.received

/-- Whether or not the buffer is full, one text more is sent. -/
theorem Sends.writeText (h : b.Sends charset sent) (s : Text) :
    ∃ c, b.writeText s = (c, none) ∧ c.Sends charset (sent ++ charset.encode s) := by
  have hpush := h.push hc s
  rw [OutputBuffer.writeText]
  split
  · exact ⟨_, rfl, hpush⟩
  · obtain ⟨c, hwrite, hsends, -⟩ := hpush.writePending hc
    exact ⟨c, by rw [hwrite], hsends⟩

theorem Sends.acceptMark (h : b.Sends charset sent) (hb : b.pending = []) :
    ∃ c, b.accept .mark = (c, none) ∧ c.Sends charset (sent ++ charset.byteOrderMark) := by
  refine ⟨_, ?_, h.afterBytes hc hb charset.byteOrderMark⟩
  rw [accept, writeMark, h.charset_eq, writeBytes_of_unfailing h.unfailing]

/-- When the buffer is emptied the sink has received everything. -/
theorem Sends.flush (h : b.Sends charset sent) :
    ∃ c total, b.flush = (c, .ok total) ∧ c.sink.received = sent := by
  obtain ⟨c, hwrite, hsends, hpending⟩ := h.writePending hc
  refine ⟨c, c.written, ?_, ?_⟩
  · rw [OutputBuffer.flush, hwrite]
    simp [Sink.flush, hsends.unfailing.flushes, Except.map]
  · rw [← hsends.received, hpending, Charset.encode_nil hc, List.append_nil]

/-! ### Steps -/

/-- The texts of some steps are sent one after the other. -/
theorem Sends.deliver {steps : List Step} (hsteps : ∀ step ∈ steps, step.piece ≠ .mark)
    (h : b.Sends charset sent) :
    ∃ c, b.deliver steps = (c, none) ∧
      c.Sends charset (sent ++ charset.encode (steps.flatMap fun step => step.piece.toText)) := by
  induction steps generalizing b sent with
  | nil => exact ⟨b, rfl, by rwa [List.flatMap_nil, Charset.encode_nil hc, List.append_nil]⟩
  | cons step steps ih =>
      obtain ⟨piece, G⟩ := step
      cases piece with
      | mark => exact absurd rfl (hsteps _ List.mem_cons_self)
      | text s =>
          obtain ⟨d, hwrite, hd⟩ := h.writeText hc s
          obtain ⟨c, hdeliver, hsends⟩ :=
            ih (fun step hstep => hsteps step (List.mem_cons_of_mem _ hstep)) hd
          refine ⟨c, ?_, ?_⟩
          · rw [OutputBuffer.deliver, accept, hwrite]
            exact hdeliver
          · rwa [List.flatMap_cons, Charset.encode_append hc, ← List.append_assoc]

end Own

end OutputBuffer

end XmlScribe
