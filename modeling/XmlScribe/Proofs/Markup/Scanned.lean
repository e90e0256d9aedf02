/-
**Events that have been scanned.**

An event that has been found in a text is cut off where its kind of markup ends, so its content does
not have the mark that ends it.  If the text has no carriage return, no event has one.

Main definitions:

* `Event.IsScanned` — what is known of an event that has been found.

Main results:

* `Event.isScanned_scan` — it is known of all events of a text.
-/

import XmlScribe.Proofs.Doctype.Brackets
import XmlScribe.Proofs.Text.Occurrence

set_option autoImplicit false

namespace XmlScribe

namespace Event

/-- What is known of an event that has been found in a text without carriage returns. -/
def IsScanned : Event → Prop
  | .declaration content => ¬ ['?', '>'] <:+: content ∧ '\r' ∉ content
  | .doctype content => nest 0 content = some 0 ∧ '\r' ∉ content
  | .cdata data => ¬ [']', ']', '>'] <:+: data ∧ '\r' ∉ data
  | .comment data => ¬ ['-', '-', '>'] <:+: data ∧ '\r' ∉ data
  | .instruction _ data => ¬ ['?', '>'] <:+: data ∧ '\r' ∉ data
  | _ => True

/-! ### Single pieces -/

theorem of_upTo {mark s : Text} {fault : LexicalFault} {make : Text → Event} {event : Event}
    {rest : Text} (hm : mark ≠ []) (h : upTo mark fault make s = .ok (event, rest))
    (hs : '\r' ∉ s) :
    ∃ data, event = make data ∧ ¬ mark <:+: data ∧ '\r' ∉ data ∧ '\r' ∉ rest := by
  rw [upTo] at h
  split at h
  · rename_i data rest' hc
    cases h
    rw [Text.eq_of_cutAt hc] at hs
    simp only [List.mem_append, not_or] at hs
    exact ⟨data, rfl, Text.not_isInfix_of_cutAt hm hc, hs.1.1, hs.2⟩
  · simp at h

theorem isScanned_ofInstruction {content : Text} (h : ¬ ['?', '>'] <:+: content)
    (hr : '\r' ∉ content) : (ofInstruction content).IsScanned := by
  rw [ofInstruction]
  split
  · exact ⟨h, hr⟩
  · have hsuffix : Tag.afterName content <:+ content := List.dropWhile_suffix _
    exact ⟨fun hi => h (hi.trans hsuffix.isInfix), fun hm => hr (hsuffix.subset hm)⟩

/-- The angle brackets of a document type declaration stand after its keyword. -/
theorem nest_of_readDoctype {s : Text} {event : Event} {rest : Text}
    (h : readDoctype s = .ok (event, rest)) (hs : '\r' ∉ s) : event.IsScanned ∧ '\r' ∉ rest := by
  rw [readDoctype] at h
  split at h
  · simp at h
  · rename_i content rest' hc
    have heq := eq_of_cutNested hc
    split at h
    · rename_i hk
      split at h
      · simp at h
      · rename_i c t ht
        cases h
        have hkeyword : angles (content.take 7) = [] := by
          refine angles_eq_nil fun d hd => ?_
          have hm : d.toUpper ∈ "DOCTYPE".toList := hk ▸ List.mem_map_of_mem hd
          constructor
          · rintro rfl
            exact absurd hm (by decide)
          · rintro rfl
            exact absurd hm (by decide)
        have hangles : angles (c :: t) = angles content := by
          rw [← ht, angles_trimStart]
          conv_rhs => rw [← List.take_append_drop 7 content, angles_append, hkeyword,
            List.nil_append]
        rw [heq] at hs
        simp only [List.mem_append, List.mem_cons, not_or] at hs
        refine ⟨⟨?_, fun hm => hs.1 ?_⟩, hs.2.2⟩
        · rw [nest_congr hangles]
          exact nest_of_cutNested hc
        · rw [← ht] at hm
          exact (List.drop_sublist 7 content).subset ((List.dropWhile_sublist _).subset hm)
    · simp at h

theorem isScanned_readBang {s : Text} {event : Event} {rest : Text}
    (h : readBang s = .ok (event, rest)) (hs : '\r' ∉ s) : event.IsScanned ∧ '\r' ∉ rest := by
  have hafter : ∀ {lead t : Text}, Text.after? lead s = some t → '\r' ∉ t := by
    intro lead t ht hm
    rw [Text.after?_eq_some_iff.1 ht] at hs
    exact hs (List.mem_append_right _ hm)
  rw [readBang.eq_def] at h
  split at h
  · split at h
    · rename_i ht
      obtain ⟨data, rfl, h₁, h₂, h₃⟩ := of_upTo (by decide) h (hafter ht)
      exact ⟨⟨h₁, h₂⟩, h₃⟩
    · simp at h
  · split at h
    · rename_i ht
      obtain ⟨data, rfl, h₁, h₂, h₃⟩ := of_upTo (by decide) h (hafter ht)
      exact ⟨⟨h₁, h₂⟩, h₃⟩
    · simp at h
  · exact nest_of_readDoctype h hs
  · exact nest_of_readDoctype h hs
  · simp at h

theorem isScanned_readTag {make : Text → Event} (hmake : ∀ content, (make content).IsScanned)
    {s : Text} {event : Event} {rest : Text} (h : readTag make s = .ok (event, rest))
    (hs : '\r' ∉ s) : event.IsScanned ∧ '\r' ∉ rest := by
  rw [readTag] at h
  split at h
  · rename_i hc
    cases h
    rw [eq_of_cutTag hc] at hs
    simp only [List.mem_append, List.mem_cons, not_or] at hs
    exact ⟨hmake _, hs.2.2⟩
  · simp at h

/-- What is known of the piece after `<`. -/
theorem isScanned_read {s : Text} {event : Event} {rest : Text} (h : read s = .ok (event, rest))
    (hs : '\r' ∉ s) : event.IsScanned ∧ '\r' ∉ rest := by
  rw [read.eq_def] at h
  split at h
  · exact isScanned_readBang h fun hm => hs (by simp [hm])
  · rename_i t
    rw [readInstruction] at h
    split at h
    · simp at h
    · obtain ⟨data, rfl, h₁, h₂, h₃⟩ := of_upTo (by decide) h fun hm => hs (by simp [hm])
      exact ⟨isScanned_ofInstruction h₁ h₂, h₃⟩
  · exact isScanned_readTag (fun _ => by trivial) h fun hm => hs (by simp [hm])
  · refine isScanned_readTag (fun content => ?_) h hs
    rw [ofStartTag]
    split <;> trivial

/-! ### All pieces -/

theorem isScanned_scanFrom {opened : List Text} {s : Text} (hs : '\r' ∉ s) :
    ∀ event ∈ (scanFrom opened s).1, event.IsScanned := by
  fun_induction scanFrom opened s with
  | case1 => simp
  | case2 => simp
  | case3 => simp
  | case4 opened s event rest hread inner htrack events fault hrest ih =>
      obtain ⟨hevent, hr⟩ := isScanned_read hread fun hm => hs (by simp [hm])
      rw [hrest] at ih
      intro e he
      rcases List.mem_cons.1 he with rfl | he
      · exact hevent
      · exact ih hr e he
  | case5 opened c s hc events fault hrest ih =>
      rw [hrest] at ih
      intro e he
      rcases List.mem_cons.1 he with rfl | he
      · trivial
      · refine ih (fun hm => hs ?_) e he
        exact List.mem_cons_of_mem c ((List.dropWhile_sublist _).subset hm)

/-- What is known of all events of a text. -/
theorem isScanned_scan {s : Text} (hs : '\r' ∉ s) : ∀ event ∈ (scan s).1, event.IsScanned := by
  cases s with
  | nil => simp [scan]
  | cons c rest =>
      rw [scan]
      split
      · exact isScanned_scanFrom fun hm => hs (by simp [hm])
      · exact isScanned_scanFrom hs

end Event

end XmlScribe
