/-
**CDATA sections as they are written.**

Data is written as sections around the runs of characters that can be written, and as references to
the characters between them.  A run with the characters that would end a section takes more than one.

Main definitions:

* `CData.sections` — the sections that a run is written as;
* `CData.fragments` — the sections and references that data is written as.

Main results:

* `CData.of_mem_sections` — no section ends early;
* `CData.flatten_pieces` — the sections and references are what is written;
* `CData.isReadable_fragments` — they are read as they are meant;
* `CData.outlinesFrom_fragments` — they hold the data.
-/

import XmlScribe.Proofs.Document.Outline
import XmlScribe.Writer.CData

set_option autoImplicit false

namespace XmlScribe

namespace CData

/-- The sections of data in parts, between which the characters that end a section stand, where
`lead` comes first. -/
def sectionsFrom (lead : Text) : List Text → List Text
  | [] => []
  | [part] => [lead ++ part]
  | part :: parts => (lead ++ part ++ [']', ']']) :: sectionsFrom ['>'] parts

/-- The sections that a run is written as. -/
def sections (run : Text) : List Text :=
  sectionsFrom [] (splitAtEnd run)

/-- The sections of a run, or none if there are no characters. -/
def sectionFragments (run : Text) : List Fragment :=
  if run.isEmpty then [] else (sections run).map .cdata

/-- A reference and the sections after it. -/
def otherFragments (other : Char × Text) : List Fragment :=
  .chars (Escaper.hexReference other.1) [other.1] :: sectionFragments other.2

/-- The sections and references that data is written as. -/
def fragments (canEncode : Char → Bool) (data : Text) : List Fragment :=
  if data.isEmpty then [.cdata []]
  else
    sectionFragments (runs canEncode data).1 ++
      (runs canEncode data).2.flatMap otherFragments

/-! ### Runs -/

theorem runs_cons (canEncode : Char → Bool) (c : Char) (s : Text) :
    runs canEncode (c :: s) =
      if canEncode c then (c :: (runs canEncode s).1, (runs canEncode s).2)
      else ([], (c, (runs canEncode s).1) :: (runs canEncode s).2) := rfl

theorem fst_runs_isPrefix (canEncode : Char → Bool) (s : Text) : (runs canEncode s).1 <+: s := by
  rw [← append_runs canEncode s]
  exact ⟨_, congrArg (· ++ _) (by rw [append_runs])⟩

/-- The first run can be written. -/
theorem canEncode_of_mem_fst_runs {canEncode : Char → Bool} {s : Text} {c : Char}
    (h : c ∈ (runs canEncode s).1) : canEncode c = true := by
  induction s with
  | nil => simp [runs] at h
  | cons d s ih =>
      rw [runs_cons] at h
      split at h
      · rename_i hd
        rcases List.mem_cons.1 h with rfl | h
        · exact hd
        · exact ih h
      · simp at h

/-- The characters between the runs cannot be written, and the runs after them are parts of the data
that can. -/
theorem of_mem_snd_runs {canEncode : Char → Bool} {s : Text} {other : Char × Text}
    (h : other ∈ (runs canEncode s).2) :
    other.1 ∈ s ∧ canEncode other.1 = false ∧ other.2 <:+: s ∧
      ∀ c ∈ other.2, canEncode c = true := by
  induction s with
  | nil => simp [runs] at h
  | cons d s ih =>
      have hold : other ∈ (runs canEncode s).2 → other.1 ∈ d :: s ∧ canEncode other.1 = false ∧
          other.2 <:+: d :: s ∧ ∀ c ∈ other.2, canEncode c = true := by
        intro h
        obtain ⟨h₁, h₂, h₃, h₄⟩ := ih h
        exact ⟨List.mem_cons_of_mem _ h₁, h₂, List.infix_cons h₃, h₄⟩
      rw [runs_cons] at h
      split at h
      · exact hold h
      · rename_i hd
        rcases List.mem_cons.1 h with rfl | h
        · refine ⟨List.mem_cons_self, Bool.eq_false_iff.2 hd, ?_, fun c hc => ?_⟩
          · exact List.infix_cons (fst_runs_isPrefix canEncode s).isInfix
          · exact canEncode_of_mem_fst_runs hc
        · exact hold h

/-- Every character that cannot be written stands between two runs. -/
theorem exists_mem_snd_runs {canEncode : Char → Bool} {s : Text} {c : Char} (h : c ∈ s)
    (hc : canEncode c = false) : ∃ run, (c, run) ∈ (runs canEncode s).2 := by
  induction s with
  | nil => simp at h
  | cons d s ih =>
      rw [runs_cons]
      rcases List.mem_cons.1 h with rfl | h
      · exact ⟨(runs canEncode s).1, by simp [hc]⟩
      · obtain ⟨run, hrun⟩ := ih h
        split
        · exact ⟨run, hrun⟩
        · exact ⟨run, List.mem_cons_of_mem _ hrun⟩

/-- Data that can be written is a single run. -/
theorem runs_eq_self {canEncode : Char → Bool} {s : Text} (h : ∀ c ∈ s, canEncode c = true) :
    runs canEncode s = (s, []) := by
  induction s with
  | nil => rfl
  | cons c s ih =>
      rw [runs_cons, if_pos (h c (by simp)), ih fun d hd => h d (by simp [hd])]

/-! ### Sections -/

theorem splitAtEnd_eq_self {s : Text} (h : ¬ closing <:+: s) : splitAtEnd s = [s] := by
  induction s with
  | nil => rfl
  | cons c s ih =>
      rw [List.infix_cons_iff, not_or] at h
      have hne : ∀ t, c :: s ≠ ']' :: ']' :: '>' :: t := fun t ht => h.1 ⟨t, ht.symm⟩
      rw [splitAtEnd, ih h.2]
      intro t hc hs
      exact hne t (by rw [hc, hs])

/-- Data begins with its first part; the characters that end a section come after it if there are
more. -/
theorem splitAtEnd_eq_cons (s : Text) : ∃ part parts, splitAtEnd s = part :: parts ∧
    part <+: s ∧ (parts ≠ [] → part ++ closing <+: s) := by
  fun_induction splitAtEnd s with
  | case1 s ih => exact ⟨[], _, rfl, List.nil_prefix, fun _ => ⟨s, rfl⟩⟩
  | case2 c s _ h ih => exact absurd h (splitAtEnd_ne_nil s)
  | case3 c s _ part parts h ih =>
      obtain ⟨part', parts', he, hp, hc⟩ := ih
      obtain ⟨rfl, rfl⟩ := List.cons.inj (h.symm.trans he)
      exact ⟨c :: part, parts, rfl, (List.prefix_cons_inj c).2 hp,
        fun hne => (List.prefix_cons_inj c).2 (hc hne)⟩
  | case4 => exact ⟨[], [], rfl, List.nil_prefix, fun h => absurd rfl h⟩

/-- Nothing in a part ends a section, and its characters are those of the data. -/
theorem of_mem_splitAtEnd {s part : Text} (h : part ∈ splitAtEnd s) :
    ¬ closing <:+: part ∧ part ⊆ s := by
  fun_induction splitAtEnd s generalizing part with
  | case1 s ih =>
      rcases List.mem_cons.1 h with rfl | h
      · exact ⟨by decide, List.nil_subset _⟩
      · obtain ⟨hc, hs⟩ := ih h
        exact ⟨hc, fun c hm => by simp [hs hm]⟩
  | case2 c s _ hn ih => exact absurd hn (splitAtEnd_ne_nil s)
  | case3 c s hne first parts he ih =>
      rcases List.mem_cons.1 h with rfl | h
      · obtain ⟨hc, hs⟩ := ih (he ▸ List.mem_cons_self)
        refine ⟨fun hi => ?_, List.cons_subset_cons c hs⟩
        rcases List.infix_cons_iff.1 hi with ⟨t, ht⟩ | hi
        · -- the data would have begun with the end of a section
          obtain ⟨part', parts', he', ⟨u, hu⟩, -⟩ := splitAtEnd_eq_cons s
          obtain ⟨rfl, -⟩ := List.cons.inj (he.symm.trans he')
          obtain ⟨rfl, rfl⟩ := List.cons.inj ht
          exact hne (t ++ u) rfl hu.symm
        · exact hc hi
      · obtain ⟨hc, hs⟩ := ih (he ▸ List.mem_cons_of_mem _ h)
        exact ⟨hc, fun d hm => List.mem_cons_of_mem c (hs hm)⟩
  | case4 =>
      rw [List.mem_singleton.1 h]
      exact ⟨by decide, List.nil_subset _⟩

/-- A section goes on with the first part. -/
theorem sectionsFrom_cons (lead : Text) (c : Char) (part : Text) (parts : List Text) :
    sectionsFrom lead ((c :: part) :: parts) = sectionsFrom (lead ++ [c]) (part :: parts) := by
  cases parts <;> simp [sectionsFrom]

/-- The sections hold the data. -/
theorem flatten_sectionsFrom (lead s : Text) :
    (sectionsFrom lead (splitAtEnd s)).flatten = lead ++ s := by
  fun_induction splitAtEnd s generalizing lead with
  | case1 s ih =>
      obtain ⟨part, parts, he, -⟩ := splitAtEnd_eq_cons s
      have ih := ih ['>']
      rw [he] at ih
      rw [he, sectionsFrom, List.flatten_cons, ih]
      · simp
      · simp
  | case2 c s hne hn ih => exact absurd hn (splitAtEnd_ne_nil s)
  | case3 c s hne part parts he ih =>
      rw [sectionsFrom_cons, ← he, ih]
      simp
  | case4 => simp [sectionsFrom]

theorem flatten_sections (run : Text) : (sections run).flatten = run :=
  flatten_sectionsFrom [] run

theorem sections_eq_singleton {run : Text} (h : ¬ closing <:+: run) : sections run = [run] := by
  rw [sections, splitAtEnd_eq_self h]
  rfl

theorem sections_ne_nil (run : Text) : sections run ≠ [] := by
  obtain ⟨part, parts, he, -⟩ := splitAtEnd_eq_cons run
  rw [sections, he]
  cases parts <;> simp [sectionsFrom]

/-- No section ends early, and its characters are those of the run. -/
theorem of_mem_sections {run part : Text} (h : part ∈ sections run) :
    ¬ closing <:+: part ∧ part ⊆ run := by
  have hkey : ∀ (parts : List Text) (lead : Text), lead = [] ∨ lead = ['>'] →
      (∀ p ∈ parts, ¬ closing <:+: p) → ∀ p ∈ sectionsFrom lead parts, ¬ closing <:+: p := by
    intro parts
    induction parts with
    | nil => simp [sectionsFrom]
    | cons first parts ih =>
        intro lead hlead hparts p hp
        have hfirst : ¬ closing <:+: lead ++ first := by
          have hf := hparts first (by simp)
          rcases hlead with rfl | rfl
          · exact hf
          · exact Text.not_isInfix_append_of_not_mem (by decide) hf
        cases parts with
        | nil =>
            rw [sectionsFrom, List.mem_singleton] at hp
            rwa [hp]
        | cons second parts =>
            rw [sectionsFrom] at hp
            · rcases List.mem_cons.1 hp with rfl | hp
              · exact @Text.not_isInfix_append_of_last_not_mem [']', ']'] _ _ '>' hfirst (by decide)
              · exact ih ['>'] (Or.inr rfl) (fun q hq => hparts q (by simp [hq])) p hp
            · simp
  refine ⟨hkey _ [] (Or.inl rfl) (fun p hp => (of_mem_splitAtEnd hp).1) part h, fun c hc => ?_⟩
  rw [← flatten_sections run]
  exact List.mem_flatten.2 ⟨part, h, hc⟩

theorem fragments_eq_singleton {canEncode : Char → Bool} {s : Text} (hs : ¬ closing <:+: s)
    (h : ∀ c ∈ s, canEncode c = true) : fragments canEncode s = [.cdata s] := by
  rw [fragments, runs_eq_self h]
  cases s with
  | nil => rfl
  | cons c s => simp [sectionFragments, sections_eq_singleton hs]

/-- Data is written as sections if all characters can be written. -/
theorem exists_fragments_eq_map {canEncode : Char → Bool} {s : Text}
    (h : ∀ c ∈ s, canEncode c = true) : ∃ part parts,
      fragments canEncode s = (part :: parts).map .cdata ∧
        ∀ other ∈ part :: parts, ¬ closing <:+: other ∧ other ⊆ s := by
  rw [fragments, runs_eq_self h]
  cases s with
  | nil => exact ⟨[], [], rfl, by simpa using show ¬ closing <:+: [] by decide⟩
  | cons c s =>
      obtain ⟨part, parts, hparts⟩ := List.exists_cons_of_ne_nil (sections_ne_nil (c :: s))
      refine ⟨part, parts, ?_, fun other ho => of_mem_sections (hparts ▸ ho)⟩
      rw [← hparts]
      simp [sectionFragments]

/-! ### What is written -/

theorem opening_eq : opening = ['<', '!', '[', 'C', 'D', 'A', 'T', 'A', '['] := rfl

/-- Between the parts of a run one section ends and another one begins. -/
theorem flatten_intersperse_joint (lead : Text) {parts : List Text} (h : parts ≠ []) :
    opening ++ lead ++ (parts.intersperse joint).flatten ++ closing =
      Fragment.text ((sectionsFrom lead parts).map .cdata) := by
  have hone : ∀ run, Fragment.text [.cdata run] = opening ++ run ++ closing := by
    intro run
    simp [opening_eq, closing, Fragment.text, Fragment.events, Fragment.eventsOf, Event.source]
  induction parts generalizing lead with
  | nil => exact absurd rfl h
  | cons part parts ih =>
      cases parts with
      | nil => simp [sectionsFrom, hone]
      | cons second parts =>
          have ih := ih ['>'] (by simp)
          have hcons : sectionsFrom lead (part :: second :: parts) =
              (lead ++ part ++ [']', ']']) :: sectionsFrom ['>'] (second :: parts) := by
            rw [sectionsFrom]
            simp
          have htext := Fragment.text_append [.cdata (lead ++ part ++ [']', ']'])]
            ((sectionsFrom ['>'] (second :: parts)).map .cdata)
          rw [← ih, hone] at htext
          rw [hcons, List.map_cons]
          refine Eq.trans ?_ htext.symm
          simp [joint]

theorem flatten_sectionPieces (run : Text) :
    (sectionPieces run).flatten = Fragment.text (sectionFragments run) := by
  rw [sectionPieces, sectionFragments]
  split
  · rfl
  · rw [sections, ← flatten_intersperse_joint [] (splitAtEnd_ne_nil run)]
    simp

/-- The pieces of the runs that follow a reference are their fragments. -/
theorem flatten_otherPieces (others : List (Char × Text)) :
    (others.flatMap fun (c, run) => Escaper.hexReference c :: sectionPieces run).flatten =
      Fragment.text (others.flatMap otherFragments) := by
  induction others with
  | nil => rfl
  | cons other others ih =>
      rw [List.flatMap_cons, List.flatMap_cons, List.flatten_append, Fragment.text_append, ih,
        List.flatten_cons, flatten_sectionPieces]
      rfl

/-- The pieces that are written are the text of the sections and references. -/
theorem flatten_pieces (canEncode : Char → Bool) (data : Text) :
    (pieces canEncode data).flatten = Fragment.text (fragments canEncode data) := by
  rw [pieces, fragments]
  cases data with
  | nil => rfl
  | cons c data =>
      simp only [List.isEmpty_cons, Bool.false_eq_true, if_false]
      rw [List.flatten_append, Fragment.text_append, flatten_sectionPieces, flatten_otherPieces]

/-! ### What is read -/

/-- A property of all fragments, from the sections and references one by one. -/
theorem forall_mem_fragments {canEncode : Char → Bool} {data : Text} {P : Fragment → Prop}
    (hempty : data = [] → P (.cdata []))
    (hsection : ∀ run, ¬ closing <:+: run → (∀ c ∈ run, c ∈ data ∧ canEncode c = true) →
      P (.cdata run))
    (hother : ∀ c ∈ data, canEncode c = false → P (.chars (Escaper.hexReference c) [c])) :
    ∀ f ∈ fragments canEncode data, P f := by
  have hrun : ∀ run, run <:+: data → (∀ c ∈ run, canEncode c = true) →
      ∀ f ∈ sectionFragments run, P f := by
    intro run hi hc f hf
    rw [sectionFragments] at hf
    split at hf
    · simp at hf
    · obtain ⟨part, hpart, rfl⟩ := List.mem_map.1 hf
      obtain ⟨hclosing, hsub⟩ := of_mem_sections hpart
      exact hsection part hclosing fun c hm => ⟨hi.subset (hsub hm), hc c (hsub hm)⟩
  intro f hf
  rw [fragments] at hf
  split at hf
  · rename_i he
    obtain rfl := List.mem_singleton.1 hf
    exact hempty (List.isEmpty_iff.1 he)
  · rcases List.mem_append.1 hf with hf | hf
    · exact hrun _ (fst_runs_isPrefix canEncode data).isInfix
        (fun c => canEncode_of_mem_fst_runs) f hf
    · obtain ⟨other, ho, hf⟩ := List.mem_flatMap.1 hf
      obtain ⟨h₁, h₂, h₃, h₄⟩ := of_mem_snd_runs ho
      rcases List.mem_cons.1 hf with rfl | hf
      · exact hother other.1 h₁ h₂
      · exact hrun _ h₃ h₄ f hf

/-- A character that cannot be written is written as a reference. -/
theorem mem_fragments {canEncode : Char → Bool} {data : Text} {c : Char} (h : c ∈ data)
    (hc : canEncode c = false) :
    .chars (Escaper.hexReference c) [c] ∈ fragments canEncode data := by
  obtain ⟨run, hrun⟩ := exists_mem_snd_runs h hc
  have hne : data.isEmpty = false := by
    cases data with
    | nil => simp at h
    | cons d data => rfl
  rw [fragments, hne, if_neg (by decide), List.mem_append, List.mem_flatMap]
  exact Or.inr ⟨(c, run), hrun, List.mem_cons_self⟩

/-- The sections and references are read as they are meant, if the null character, to which there
is no reference, need not be written as one. -/
theorem isReadable_fragments {lookup : Text → Option Text} {m : Builder.Meaning}
    (canEncode : Char → Bool) {data : Text} (hr : '\r' ∉ data)
    (hn : '\x00' ∈ data → canEncode '\x00' = true) :
    Fragment.IsReadable lookup m (fragments canEncode data) := by
  refine Fragment.isReadable_iff.2 (forall_mem_fragments (fun _ => ?_) (fun run hclosing hrun => ?_)
    fun c hc hcannot => ?_)
  · exact by simp [Fragment.IsReadableAt]
  · exact ⟨hclosing, fun hm => hr (hrun _ hm).1⟩
  · have hne : c ≠ '\x00' := by
      rintro rfl
      exact Bool.false_ne_true (hcannot.symm.trans (hn hc))
    exact ⟨⟨Escaper.not_mem_hexReference c (by decide),
      Escaper.not_mem_hexReference c (by decide)⟩, Reference.spells_hexReference hne⟩

theorem outlinesFrom_sectionFragments (kept : ElementKey → Bool) (exact : Bool)
    (waiting run : Text) : Fragment.outlinesFrom kept exact waiting (sectionFragments run) =
      ([], waiting ++ Outline.counted exact run) := by
  have hall : ∀ (parts : List Text) (waiting : Text),
      Fragment.outlinesFrom kept exact waiting (parts.map .cdata) =
        ([], waiting ++ Outline.counted exact parts.flatten) := by
    intro parts
    induction parts with
    | nil =>
        intro waiting
        rw [List.flatten_nil, Outline.counted_nil, List.append_nil]
        rfl
    | cons part parts ih =>
        intro waiting
        rw [List.map_cons, Fragment.outlinesFrom, Fragment.outlinesAt]
        simp only [ih, List.flatten_cons, Outline.counted_append, List.append_assoc]
        rfl
  rw [sectionFragments]
  split
  · rename_i he
    rw [List.isEmpty_iff.1 he, Outline.counted_nil, List.append_nil]
    rfl
  · rw [hall, flatten_sections]

/-- Characters that have to be written as references count as text, as the runs after them do. -/
theorem outlinesFrom_otherFragments (kept : ElementKey → Bool) (exact : Bool) (waiting : Text)
    (others : List (Char × Text)) :
    Fragment.outlinesFrom kept exact waiting (others.flatMap otherFragments) =
      ([], waiting ++ Outline.counted exact (others.flatMap fun (c, run) => c :: run)) := by
  induction others generalizing waiting with
  | nil =>
      rw [List.flatMap_nil, List.flatMap_nil, Outline.counted_nil, List.append_nil]
      rfl
  | cons other others ih =>
      have hone : Fragment.outlinesFrom kept exact waiting (otherFragments other) =
          ([], waiting ++ Outline.counted exact (other.1 :: other.2)) := by
        rw [← List.singleton_append, Outline.counted_append, ← List.append_assoc]
        exact outlinesFrom_sectionFragments kept exact _ other.2
      rw [List.flatMap_cons, List.flatMap_cons, Fragment.outlinesFrom_append, hone, ih,
        List.append_assoc, ← Outline.counted_append]
      rfl

/-- The sections and references hold the data. -/
theorem outlinesFrom_fragments (kept : ElementKey → Bool) (exact : Bool) (canEncode : Char → Bool)
    (waiting data : Text) : Fragment.outlinesFrom kept exact waiting (fragments canEncode data) =
      ([], waiting ++ Outline.counted exact data) := by
  rw [fragments]
  cases data with
  | nil => rfl
  | cons c data =>
      simp only [List.isEmpty_cons, Bool.false_eq_true, if_false]
      rw [Fragment.outlinesFrom_append, outlinesFrom_sectionFragments, outlinesFrom_otherFragments,
        List.append_assoc, ← Outline.counted_append, append_runs]
      rfl

end CData

end XmlScribe
