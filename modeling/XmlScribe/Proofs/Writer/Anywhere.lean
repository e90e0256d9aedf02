/-
**What is written in any state.**

A walk that asks nothing cannot set off a disturbance, so it does the same whether one is waiting
or not: what it writes where nothing disturbs it, it writes in every state.

A document type is written by such a walk, and what is written of it is read back: the quotation
marks are chosen so that the identifiers do not have them, the name ends at the space after it, and
the subset ends at the last bracket.

Main results:

* `Walk.IsMute.run_disturbance` — a walk that asks nothing does not look at the disturbance;
* `Walk.Writes.anywhere` — what it writes, it writes in any state;
* `Writer.parse_putDoctype` — a document type that is written is read back.
-/

import XmlScribe.Proofs.Writer.Document
import XmlScribe.Proofs.Writer.Mute

set_option autoImplicit false

namespace XmlScribe

namespace Walk

open Writer

variable {α : Type} {walk : Walk α}

/-- A walk that asks nothing does the same whatever disturbance is waiting, and leaves it waiting. -/
theorem IsMute.run_disturbance (h : IsMute walk) (st : WalkState) (d : Option Disturbance) :
    walk.run.run { st with disturbance := d } =
      ((walk.run.run st).1, { (walk.run.run st).2 with disturbance := d }) := by
  induction h generalizing st with
  | pure a => rfl
  | throw hfault => rfl
  | forest => rfl
  | put s => rfl
  | @bind α β first next _ _ ih ih' =>
      rw [Outcome.run_bind, Outcome.run_bind, ih]
      rcases first.run.run st with ⟨fault | a, mid⟩
      · rfl
      · exact ih' a mid

/-- What a walk that asks nothing writes where nothing disturbs it, it writes in any state. -/
theorem Writes.anywhere {able : Prop} {a : α} {s : Text} {st : WalkState}
    (hw : Writes st.forest walk able a s) (h : IsMute walk) :
    (able → ∃ st', walk.run.run st = (.ok a, st') ∧ textOf st'.trace = textOf st.trace ++ s) ∧
      (¬ able → ∃ fault st', walk.run.run st = (.error fault, st')) := by
  -- the state is the quiet one with its own disturbance put back
  have hrun : walk.run.run st =
      ((walk.run.run { st with disturbance := none }).1,
        { (walk.run.run { st with disturbance := none }).2 with disturbance := st.disturbance }) :=
    h.run_disturbance { st with disturbance := none } st.disturbance
  have hquiet : ({ st with disturbance := none } : WalkState).IsQuiet st.forest := ⟨rfl, rfl⟩
  refine ⟨fun hable => ?succeeds, fun hnot => ?fails⟩
  case succeeds =>
    obtain ⟨st', hst', -, htext⟩ := hw.succeeds hable _ hquiet
    rw [hrun, hst']
    exact ⟨_, rfl, htext⟩
  case fails =>
    obtain ⟨fault, st', hst'⟩ := hw.fails hnot _ hquiet
    rw [hrun, hst']
    exact ⟨fault, _, rfl⟩

end Walk

namespace Doctype

/-- The header that a document type with these parts is read as. -/
theorem exists_parse_written {name : Text} {publicId systemId subset : Option Text}
    (hname : Name.IsName name) (hids : hasValidIds publicId systemId = true)
    (hpublic : ∀ id, publicId = some id → IsQuotable id)
    (hsystem : ∀ id, systemId = some id → IsQuotable id) (hsubset : subset ≠ some []) :
    ∃ header, parse (written name publicId systemId subset) = .ok header ∧ header.name = name ∧
      header.publicId = publicId ∧ header.systemId = systemId ∧ header.subset = subset := by
  have hends : ∀ c ∈ name, endsName c = false := fun c hc =>
    endsName_of_isNameChar (Name.isNameChar_of_mem hname hc)
  refine ⟨_, parse_written subset hname.ne_nil hends hids hpublic hsystem, rfl, ?publicId, ?systemId,
    ?subset⟩
  case publicId =>
    cases systemId with
    | some systemId => rfl
    | none =>
        -- a public identifier does not stand alone
        cases publicId with
        | none => rfl
        | some publicId => cases hids
  case systemId => cases systemId <;> rfl
  case subset =>
    rcases subset with _ | _ | ⟨c, subset⟩
    · rfl
    · exact absurd rfl hsubset
    · rfl

end Doctype

namespace Writer

open Walk

/-- **A document type is read back as it was written.**  Let the name be in order, let a public
identifier stand only beside a system identifier, let neither have both quotation marks, and let
the subset, if there is one, not be empty.  In any state the document type is written if its
characters can be encoded, and what has been written between `<!DOCTYPE` and `>` is read as the
same name, identifiers and subset. -/
theorem parse_putDoctype {W : Writer} {name : Text} {publicId systemId subset : Option Text}
    (hname : Name.check name = .ok ()) (hids : Doctype.hasValidIds publicId systemId = true)
    (hpublic : ∀ id, publicId = some id → Doctype.IsQuotable id)
    (hsystem : ∀ id, systemId = some id → Doctype.IsQuotable id) (hsubset : subset ≠ some [])
    (hable : W.CanWriteDoctype ⟨name, publicId, systemId, subset, []⟩) (st : WalkState) :
    ∃ st' content header, (W.putDoctype ⟨name, publicId, systemId⟩ subset).run.run st = (.ok (), st') ∧
      textOf st'.trace = textOf st.trace ++ ("<!DOCTYPE ".toList ++ content ++ ">".toList) ∧
      Doctype.parse content = .ok header ∧ header.name = name ∧ header.publicId = publicId ∧
      header.systemId = systemId ∧ header.subset = subset := by
  obtain ⟨header, hparse, hheader⟩ := Doctype.exists_parse_written (Name.check_eq_ok_iff.1 hname)
    hids hpublic hsystem hsubset
  have hwrites := (@writes_putDoctype W st.forest ⟨name, publicId, systemId, subset, []⟩).anywhere
    (isBlind_putDoctype _ subset).isMute
  obtain ⟨st', hrun, htext⟩ := hwrites.1 ⟨hids, hable⟩
  exact ⟨st', Doctype.written name publicId systemId subset, header, hrun, htext, hparse, hheader⟩

/-- A name, identifiers and a subset that look like keywords, brackets and quotation marks, written
while a disturbance is waiting. -/
theorem parse_putDoctype_keywords :
    let name : Text := "SYSTEM".toList
    let publicId : Text := "PUBLIC \"[".toList
    let systemId : Text := "SYSTEM ']>".toList
    let subset : Text := "] \"[' ]>".toList
    let W : Writer := ⟨{ Settings.standard with charset := .ascii }, .everyBlock, none⟩
    let st : WalkState := ⟨.empty, some ⟨fun _ _ => true, id⟩, 3, []⟩
    Name.check name = .ok () ∧
      ∃ st' content header,
        (W.putDoctype ⟨name, some publicId, some systemId⟩ (some subset)).run.run st = (.ok (), st') ∧
        textOf st'.trace = textOf st.trace ++ ("<!DOCTYPE ".toList ++ content ++ ">".toList) ∧
        Doctype.parse content = .ok header ∧ header.name = name ∧
        header.publicId = some publicId ∧ header.systemId = some systemId ∧
        header.subset = some subset := by
  intro name publicId systemId subset W st
  have hname : Name.check name = .ok () := by decide
  have hencodes : ∀ literal ∈ [name, publicId, systemId, subset], ∀ c ∈ literal,
      Charset.ascii.canEncode c = true := by
    have hall : [name, publicId, systemId, subset].all (·.all Charset.ascii.canEncode) = true := by
      decide
    simpa only [List.all_eq_true] using hall
  have hable : W.CanWriteDoctype ⟨name, some publicId, some systemId, some subset, []⟩ := by
    refine ⟨hencodes name (by simp), fun literal hl => ?_, fun literal hl => ?_,
      hencodes subset (by simp)⟩
    · obtain rfl := Option.some.inj hl
      exact hencodes publicId (by simp)
    · obtain rfl := Option.some.inj hl
      exact hencodes systemId (by simp)
  have hpublic : ∀ id, some publicId = some id → Doctype.IsQuotable id := by
    intro id hid
    obtain rfl := Option.some.inj hid
    exact Or.inr (by decide)
  have hsystem : ∀ id, some systemId = some id → Doctype.IsQuotable id := by
    intro id hid
    obtain rfl := Option.some.inj hid
    exact Or.inl (by decide)
  exact ⟨hname, parse_putDoctype hname rfl hpublic hsystem (by decide) hable st⟩

end Writer

end XmlScribe
