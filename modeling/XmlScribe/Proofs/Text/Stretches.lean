/-
**Collapsing, stretch by stretch.**

A text consists of stretches: the runs, and what stands between them.  Each stretch is as long as it
can be, so there is only one way to cut a text into them.  Collapsing keeps what is no run and writes
one `fill` for a run, or nothing if the run is at an edge that is trimmed.  A text that is a single run
is at both edges.

The loop that collapses never looks ahead, so it does not see the stretches: it writes the `fill` of a
run when it meets the character after it, and knows by what it has written whether the run was the
first stretch.

Main definitions:

* `Text.AreStretches`, `Text.stretches` — runs and other stretches in turn, and those of a text;
* `Text.writeRun`, `Text.writeStretches` — what is written for a run, and for all stretches.

Main results:

* `Text.eq_stretches_iff` — a text is cut into stretches in one way only;
* `Text.collapse_eq_writeStretches` — the loop does what is said of stretches;
* `Text.collapseRuns_stretches` — so does the shortcut, and doing it again changes nothing.
-/

import Mathlib.Data.List.SplitBy
import XmlScribe.Proofs.Text.Runs

set_option autoImplicit false

namespace XmlScribe

namespace Text

/-! ### Stretches -/

/-- Runs and other stretches, in turn. -/
structure AreStretches (isRun : Char → Bool) (pieces : List Text) : Prop where
  /-- None is empty. -/
  ne_nil : ∀ piece ∈ pieces, piece ≠ []
  /-- The characters of a run are run characters, those of another stretch are not. -/
  uniform : ∀ piece ∈ pieces, ∀ c ∈ piece, isRun c = piece.all isRun
  /-- A stretch ends only where one of the other kind begins, or the text ends. -/
  inTurn : pieces.IsChain fun piece next => piece.all isRun ≠ next.all isRun

/-- The stretches of a text. -/
def stretches (isRun : Char → Bool) (s : Text) : List Text :=
  s.splitBy fun c d => isRun c == isRun d

variable {isRun : Char → Bool} {fill : Char} {trim : Trim} {s : Text}

/-- All characters are of one kind if each of them is of the kind of the one before. -/
theorem isChain_beq_iff {piece : Text} (hne : piece ≠ []) :
    (piece.IsChain fun c d => (isRun c == isRun d) = true) ↔
      ∀ c ∈ piece, isRun c = piece.all isRun := by
  have htrans : IsTrans Char fun c d => (isRun c == isRun d) = true :=
    ⟨fun a b c hab hbc => by simp_all⟩
  rw [List.isChain_iff_pairwise]
  constructor
  · intro h
    obtain ⟨c, rest, rfl⟩ := List.exists_cons_of_ne_nil hne
    simp only [List.pairwise_cons, beq_iff_eq] at h
    have hrest : ∀ d ∈ c :: rest, isRun d = isRun c := by
      intro d hd
      rcases List.mem_cons.1 hd with rfl | hd
      · rfl
      · exact (h.1 d hd).symm
    have hall : (c :: rest).all isRun = isRun c := by
      cases hc : isRun c with
      | true => exact List.all_eq_true.2 fun d hd => (hrest d hd).trans hc
      | false => simp [hc]
    exact fun d hd => (hrest d hd).trans hall.symm
  · intro h
    exact List.pairwise_of_forall_mem_list fun c hc d hd => by simp [h c hc, h d hd]

/-- **A text is cut into stretches in one way only.** -/
theorem eq_stretches_iff {pieces : List Text} :
    pieces = stretches isRun s ↔ pieces.flatten = s ∧ AreStretches isRun pieces := by
  rw [eq_comm, stretches, List.splitBy_eq_iff, eq_comm]
  refine and_congr_right fun _ => ⟨fun ⟨hne, hchain, hturn⟩ => ?_, fun ⟨hne, huniform, hturn⟩ => ?_⟩
  · have hne' : ∀ piece ∈ pieces, piece ≠ [] := fun piece hp he => hne (he ▸ hp)
    have huniform : ∀ piece ∈ pieces, ∀ c ∈ piece, isRun c = piece.all isRun := fun piece hp =>
      (isChain_beq_iff (hne' piece hp)).1 (hchain piece hp)
    refine ⟨hne', huniform, hturn.imp_of_mem_imp ?_⟩
    rintro piece next hp hn ⟨hlast, hhead, hkinds⟩
    rwa [huniform piece hp _ (List.getLast_mem hlast), huniform next hn _ (List.head_mem hhead),
      beq_eq_false_iff_ne] at hkinds
  · refine ⟨fun hnil => hne [] hnil rfl,
      fun piece hp => (isChain_beq_iff (hne piece hp)).2 (huniform piece hp),
      hturn.imp_of_mem_imp fun piece next hp hn hkinds => ⟨hne piece hp, hne next hn, ?_⟩⟩
    rwa [huniform piece hp _ (List.getLast_mem _), huniform next hn _ (List.head_mem _),
      beq_eq_false_iff_ne]

theorem areStretches_cons {piece : Text} {pieces : List Text}
    (h : AreStretches isRun (piece :: pieces)) :
    (∀ next ∈ pieces.head?, piece.all isRun ≠ next.all isRun) ∧ AreStretches isRun pieces := by
  obtain ⟨hhead, hturn⟩ := List.isChain_cons.1 h.inTurn
  exact ⟨hhead, fun p hp => h.ne_nil p (List.mem_cons_of_mem piece hp),
    fun p hp => h.uniform p (List.mem_cons_of_mem piece hp), hturn⟩

/-! ### What is written for them -/

/-- What is written for a run that is the first or the last stretch of a text, or neither. -/
def writeRun (fill : Char) (trim : Trim) (first last : Bool) : Text :=
  if trim.atStart && first || trim.atEnd && last then [] else [fill]

/-- What is written for some stretches, with which a text ends.  With `whole` it begins with them
too. -/
def writeStretches (isRun : Char → Bool) (fill : Char) (trim : Trim) (whole : Bool)
    (pieces : List Text) : Text :=
  (pieces.mapIdx fun i piece =>
    if piece.all isRun then writeRun fill trim (whole && i == 0) (i + 1 == pieces.length)
    else piece).flatten

theorem writeStretches_nil (whole : Bool) : writeStretches isRun fill trim whole [] = [] := rfl

theorem writeStretches_cons (whole : Bool) (piece : Text) (pieces : List Text) :
    writeStretches isRun fill trim whole (piece :: pieces) =
      (if piece.all isRun then writeRun fill trim whole pieces.isEmpty else piece) ++
        writeStretches isRun fill trim false pieces := by
  have hlast : (0 == pieces.length) = pieces.isEmpty := by cases pieces <;> rfl
  simp [writeStretches, List.mapIdx_cons, hlast]

/-! ### The loop -/

/-- A run that is open is written before what follows it. -/
theorem collapseFrom_other {piece : Text} (hne : piece ≠ []) (hp : ∀ c ∈ piece, isRun c = false)
    (written inRun : Bool) (s : Text) :
    collapseFrom isRun fill trim written inRun (piece ++ s) =
      (if inRun then writeRun fill trim (!written) false else []) ++
        (piece ++ collapseFrom isRun fill trim true false s) := by
  obtain ⟨c, rest, rfl⟩ := List.exists_cons_of_ne_nil hne
  simp only [List.mem_cons, forall_eq_or_imp] at hp
  rw [List.cons_append, collapseFrom, if_neg (by simp [hp.1]),
    collapseFrom_append_of_forall_not hp.2, Bool.true_or, writeRun]
  cases inRun <;> cases written <;> cases trim.atStart <;> simp

/-- The loop over stretches.  A run that is open is written before them, and no run follows it. -/
theorem collapseFrom_flatten {pieces : List Text} (hp : AreStretches isRun pieces)
    (written inRun : Bool)
    (hopen : inRun = true → ∀ next ∈ pieces.head?, next.all isRun = false) :
    collapseFrom isRun fill trim written inRun pieces.flatten =
      (if inRun then writeRun fill trim (!written) pieces.isEmpty else []) ++
        writeStretches isRun fill trim (!written && !inRun) pieces := by
  induction pieces generalizing written inRun with
  | nil =>
      rw [List.flatten_nil, collapseFrom, writeStretches_nil, List.append_nil, writeRun]
      cases inRun <;> cases written <;> cases trim.atStart <;> cases trim.atEnd <;> rfl
  | cons piece pieces ih =>
      obtain ⟨hnext, hrest⟩ := areStretches_cons hp
      have hne := hp.ne_nil piece List.mem_cons_self
      have huniform := hp.uniform piece List.mem_cons_self
      rw [List.flatten_cons, writeStretches_cons]
      cases hkind : piece.all isRun with
      | true =>
          -- the run is open afterwards, and before it none was
          rw [hkind] at huniform hnext
          obtain rfl : inRun = false := by
            by_contra hin
            have hother := hopen (by simpa using hin) piece (by simp)
            rw [hkind] at hother
            cases hother
          rw [collapseFrom_run hne huniform, ih hrest written true fun _ next hn => by
            simpa using (hnext next hn).symm]
          simp
      | false =>
          rw [hkind] at huniform
          rw [collapseFrom_other hne huniform, ih hrest true false (by simp)]
          simp

/-- What the loop writes is what is written for the stretches of the text. -/
theorem collapse_eq_writeStretches (isRun : Char → Bool) (fill : Char) (trim : Trim) (s : Text) :
    collapse isRun fill trim s =
      writeStretches isRun fill trim true (stretches isRun s) := by
  obtain ⟨hs, hp⟩ : (stretches isRun s).flatten = s ∧ AreStretches isRun (stretches isRun s) :=
    eq_stretches_iff.1 rfl
  calc collapse isRun fill trim s
      = collapseFrom isRun fill trim false false (stretches isRun s).flatten := by
        rw [hs, collapse]
    _ = writeStretches isRun fill trim true (stretches isRun s) :=
        collapseFrom_flatten hp false false (by simp)

/-- **What collapsing runs comes to.**  Let runs be made of any characters, and let any character fill
in for them, run character itself or not.  There is one way to cut a text into stretches.  Collapsing
keeps the stretches that are no runs, drops a run at a trimmed edge and writes one `fill` for every
other run.  The texts that are left alone without a look at their runs are just those that the loop
would leave as they are, and collapsing the result once more changes nothing. -/
theorem collapseRuns_stretches (isRun : Char → Bool) (fill : Char) (trim : Trim) (s : Text) :
    (∀ pieces, pieces = stretches isRun s ↔ pieces.flatten = s ∧ AreStretches isRun pieces) ∧
      collapseRuns isRun fill trim s =
        writeStretches isRun fill trim true (stretches isRun s) ∧
      (needsCollapse isRun fill trim s = false ↔ collapse isRun fill trim s = s) ∧
      collapseRuns isRun fill trim (collapseRuns isRun fill trim s) =
        collapseRuns isRun fill trim s := by
  simp only [collapseRuns_eq_collapse, collapse_collapse, and_true]
  exact ⟨fun _ => eq_stretches_iff, collapse_eq_writeStretches isRun fill trim s,
    needsCollapse_eq_false_iff⟩

/-- A run at the start is dropped, one inside and one at the end are filled, by a character that is
no run character. -/
example : stretches isBlank "  a \n b\t".toList =
      ["  ".toList, "a".toList, " \n ".toList, "b".toList, "\t".toList] ∧
    collapseRuns isBlank '_' ⟨true, false⟩ "  a \n b\t".toList = "a_b_".toList := by
  decide

end Text

end XmlScribe
