/-
**Names that completion captures.**

Once completion has declared a prefix on `e`, the names below `e` that have taken it from above take it
from `e`.  Completion looks only at the names on the way from the element that lacks the declaration
up to `e`, so it does not see such a name on another way.  If the name comes later it is mended when
it is visited.  If it has been visited before, it has lost its meaning.

An invariant of the states that completion runs through tells exactly which names are lost.

Main definitions:

* `Forest.IsFirstToLack` — the first element that needs a prefix otherwise than it is meant above;
* `Forest.IsCaptured` — the prefix of a name comes from above `e`, and such an element comes later.

Main results:

* `Forest.Completing.declares_or_isCaptured` — what has been visited is declared or captured;
* `Forest.Completing.declares_eq_false` — what is captured is not declared in the end;
* `Forest.ensureDeclared_undeclared_eq_nil_iff` — the elements that completion leaves complete.
-/

import XmlScribe.Proofs.Namespace.Completing

set_option autoImplicit false

namespace XmlScribe

namespace Forest

/-! ### Captured names -/

/-- The element `x` comes first, after the elements in `before`, of those that take the prefix from
above `e` and lack what they need; `c` is what it needs, and `e` itself does not use the prefix. -/
structure IsFirstToLack (F : Forest) (e : NodeId) (p : Text) (before : List NodeId) (x : NodeId)
    (c : Binding) : Prop where
  /-- These are the elements before it. -/
  exists_elementsFrom : ∃ after, F.elementsFrom e = before ++ x :: after
  /-- It needs the prefix. -/
  nsPrefix_eq : c.nsPrefix = some p
  /-- One of its names does. -/
  mem : c ∈ F.bindingsAt x
  /-- It takes the prefix from above. -/
  takes : F.TakesFromAbove e x (some p)
  /-- The prefix does not mean there what is needed. -/
  missing : (F.scope x).declares c = false
  /-- For the elements before it, it does. -/
  first : ∀ y ∈ before, F.TakesFromAbove e y (some p) → ∀ a ∈ F.bindingsAt y,
    a.nsPrefix = some p → (F.scope y).declares a = true
  /-- The element `e` does not use the prefix. -/
  unused : ∀ a ∈ F.bindingsAt e, a.nsPrefix ≠ some p

/-- Completion at `e` captures a name of the element `d`: the name takes its prefix from above `e`,
and so does an element that comes later, which is the first one to lack the prefix. -/
def IsCaptured (F : Forest) (e d : NodeId) (b : Binding) : Prop :=
  ∃ p before x c, F.IsFirstToLack e p before x c ∧ d ∈ before ∧ b ∈ F.bindingsAt d ∧
    b.nsPrefix = some p ∧ F.TakesFromAbove e d (some p)

/-- Two ways to part a list agree if neither mark is in the first part of the other. -/
theorem eq_of_append_cons_eq {α : Type} {s t r r' : List α} {y x : α}
    (h : s ++ y :: r = t ++ x :: r') (hx : x ∉ s) (hy : y ∉ t) : s = t ∧ y = x := by
  rcases List.append_eq_append_iff.1 h with ⟨m, rfl, hm⟩ | ⟨m, rfl, hm⟩
  · cases m with
    | nil => exact ⟨by simp, (List.cons.inj hm).1⟩
    | cons z m => exact absurd (by simp [(List.cons.inj hm).1]) hy
  · cases m with
    | nil => exact ⟨by simp, (List.cons.inj hm).1.symm⟩
    | cons z m => exact absurd (by simp [(List.cons.inj hm).1]) hx

/-! ### What happens to a captured name -/

namespace Completing

variable {F₀ : Forest} {e : NodeId} {target : Option NodeId} (he : F₀.IsPart e)
include he

/-- While `e` neither uses nor declares a prefix, what takes it from above goes on to do so: a
declaration on its way would have been placed on `e`. -/
theorem takes_of_declarationOn_eq_none {seen : List NodeId} {F : Forest}
    (h : Completing F₀ e (some e) seen F) {p : Text}
    (hunused : ∀ a ∈ F₀.bindingsAt e, a.nsPrefix ≠ some p)
    (hnone : F.declarationOn e (some p) = none) {d : NodeId} (hd : F₀.Below e d)
    (hde : F₀.isElement d = true) (htakes : F₀.TakesFromAbove e d (some p)) :
    F.TakesFromAbove e d (some p) := by
  induction h with
  | start => exact htakes
  | visit _ _ _ ih => exact ih hnone
  | @add seen rest F x c hF hnext hc hmiss ih =>
      have hk := isKept he (Or.inr rfl) hF
      have hk' := isKept he (Or.inr rfl) (.add hF hnext hc hmiss)
      have himp := isImplicit_eq_false_of_declares hmiss
      obtain ⟨hxb, hxe, -⟩ := mem_of_next he hnext
      have hon := hk.declarationOn_placeOf (Or.inr rfl : some e = none ∨ some e = some e)
        (hk.below_iff.2 hxb) ((hk.same.isElement_eq x).trans hxe) himp
      rw [hon] at hnone
      split at hnone
      · cases hnone
      · rename_i hplace
        have hF' := ih hnone
        obtain ⟨path, hpath, hall⟩ := hF'
        refine ⟨path, ?_, fun id hid => ?_⟩
        · rw [pathTo?, hk'.same.elementLineage_eq, ← hk.same.elementLineage_eq]
          exact hpath
        · rw [hon, if_neg, hall id hid]
          rintro ⟨rfl, hp⟩
          rcases placeOf_eq (F := F) (Or.inr rfl : some e = none ∨ some e = some e) x c with
            ⟨hpx, hnot⟩ | ⟨hpe, -⟩
          · -- `x` is on the way from `d` up to `e`, so the declaration could be placed on `e`
            rw [hpx] at hid
            have hx := hk.part.takes_of_mem_elementLineage (hk.below_iff.2 hd)
              ((hk.same.isElement_eq d).trans hde) ⟨path, hpath, hall⟩
              (subset_of_pathTo? hpath hid) (hk.below_iff.2 hxb)
            have hcan := hk.part.canHoist_of_takes hp.symm himp hx
              fun a ha => hunused a (hk.bindings e ▸ ha)
            rw [hnot rfl (by rw [← hp]; rfl)] at hcan
            cases hcan
          · exact hplace ⟨hpe, hp⟩

/-- A declaration that is placed on `e` takes from a name that has been visited only what is
captured. -/
theorem isCaptured_of_canHoist {seen rest : List NodeId} {F : Forest}
    (hF : Completing F₀ e (some e) seen F)
    (hvisited : ∀ y ∈ seen, ∀ a ∈ F₀.bindingsAt y,
      (F.scope y).declares a = true ∨ (some e = some e ∧ F₀.IsCaptured e y a))
    {x : NodeId} (hnext : F₀.elementsFrom e = seen.reverse ++ x :: rest) {c : Binding}
    (hc : c ∈ F.bindingsAt x) (hmiss : (F.scope x).declares c = false)
    (hsome : c.nsPrefix.isSome = true) (hcan : F.canHoist e x c = true) {d : NodeId}
    (hd : d ∈ seen) {b : Binding} (hb : b ∈ F₀.bindingsAt d) (hp : b.nsPrefix = c.nsPrefix)
    (htk : F.TakesFromAbove e d c.nsPrefix) : F₀.IsCaptured e d b := by
  have hk := isKept he (Or.inr rfl) hF
  have himp := isImplicit_eq_false_of_declares hmiss
  obtain ⟨hxb, hxe, -⟩ := mem_of_next he hnext
  obtain ⟨p, hcp⟩ := Option.isSome_iff_exists.1 hsome
  rw [hcp] at htk hp
  obtain ⟨htx, -⟩ := canHoist_eq_true_iff.1 hcan
  rw [hcp] at htx
  have hel : ∀ y ∈ seen, F₀.Below e y ∧ F₀.isElement y = true := fun y hy =>
    he.links.mem_elementsFrom_iff.1 (by rw [hnext]; simp [hy])
  obtain ⟨hdb, hde⟩ := hel d hd
  have hdb' := hk.below_iff.2 hdb
  have hde' := (hk.same.isElement_eq d).trans hde
  obtain ⟨path, hpath, -, -, htakes⟩ := hk.part.exists_path hdb' hde'
  have hline : e ∈ F.elementLineage d := by simp [hpath]
  have hnone := ((htakes (some p)).1 htk).2
  -- `e` has been visited; if it used the prefix, the prefix would mean there what `x` needs
  have hunused : ∀ a ∈ F₀.bindingsAt e, a.nsPrefix ≠ some p := by
    intro a ha hap
    have hes : e ∈ seen :=
      mem_of_mem_elementLineage he hnext hd (hk.same.elementLineage_eq d ▸ hline) .refl
    rcases hvisited e hes a ha with hdecl | ⟨-, hcap⟩
    · have hte := hk.part.takes_of_mem_elementLineage hdb' hde' htk hline .refl
      have himpa := (isImplicit_congr (hap.trans hcp.symm)).trans himp
      have hm := (hk.part.declares_iff_of_takes .refl hk.part.isElement hap himpa hte).1 hdecl
      rw [IsPart.uriText_eq_of_canHoist hcan (hk.bindings e ▸ ha) (hap.trans hcp.symm)] at hm
      rw [(hk.part.declares_iff_of_takes (hk.below_iff.2 hxb)
        ((hk.same.isElement_eq x).trans hxe) hcp himp htx).2 hm] at hmiss
      cases hmiss
    · obtain ⟨q, _, _, _, hl, -, -, haq, -⟩ := hcap
      exact hl.unused a ha haq
  refine ⟨p, seen.reverse, x, c, ⟨⟨rest, hnext⟩, hcp, hk.bindings x ▸ hc, hk.takes htx, ?_, ?_,
    hunused⟩, List.mem_reverse.2 hd, hb, hp, hk.takes htk⟩
  · rw [← Bool.not_eq_true, ← hk.declares_iff he hxb hxe hcp himp htx, hmiss]
    simp
  · intro y hy hty a ha hap
    have hys := List.mem_reverse.1 hy
    rcases hvisited y hys a ha with hdecl | ⟨-, hcap⟩
    · have himpa := (isImplicit_congr (hap.trans hcp.symm)).trans himp
      have hty' := takes_of_declarationOn_eq_none he hF hunused hnone (hel y hys).1 (hel y hys).2
        hty
      exact (hk.declares_iff he (hel y hys).1 (hel y hys).2 hap himpa hty').1 hdecl
    · obtain ⟨q, before, _, _, hl, hym, -, haq, -⟩ := hcap
      obtain rfl := Option.some.inj (hap.symm.trans haq)
      exact hl.first y hym hty a ha hap

/-- **What has been visited is declared or captured.** -/
theorem declares_or_isCaptured
    (hcons : ∀ d f, F₀.Below e d → F₀.frame? d = some f → f.IsConsistent)
    (ht : target = none ∨ target = some e) {seen : List NodeId}
    {F : Forest} (h : Completing F₀ e target seen F) : ∀ d ∈ seen, ∀ b ∈ F₀.bindingsAt d,
      (F.scope d).declares b = true ∨ (target = some e ∧ F₀.IsCaptured e d b) := by
  induction h with
  | start => simp
  | @visit seen rest F x hF hnext hall ih =>
      intro d hd b hb
      rcases List.mem_cons.1 hd with rfl | hd
      · have hcomplete := hall.isComplete fun b hb a ha => by
          rw [(isKept he ht hF).bindings d] at hb ha
          exact eq_of_mem_bindingsAt (hcons d · (mem_of_next he hnext).1) hb ha
        exact Or.inl (hcomplete b ((isKept he ht hF).bindings d ▸ hb))
      · exact ih d hd b hb
  | @add seen rest F x c hF hnext hc hmiss ih =>
      intro d hd b hb
      rcases ih d hd b hb with hold | hcap
      · rcases declaration?_add he ht hF hnext hmiss hd b.nsPrefix with
          hsame | ⟨hp, hsome, rfl, hcan, htk⟩
        · rw [declares_congr hsame]
          exact Or.inl hold
        · exact Or.inr ⟨rfl, isCaptured_of_canHoist he hF ih hnext hc hmiss (hp ▸ hsome) hcan hd hb
            hp (hp ▸ htk)⟩
      · exact Or.inr hcap

section FirstToLack

variable (hcons : ∀ d f, F₀.Below e d → F₀.frame? d = some f → f.IsConsistent)
  {p : Text} {before : List NodeId} {x : NodeId} {c : Binding}
  (hl : F₀.IsFirstToLack e p before x c)
include hcons hl

/-- While nothing declares the prefix at `e`, the element that lacks it has not been visited: it is
not visited before it has what it needs. -/
theorem ne_of_isSettled {seen : List NodeId} {F : Forest} (hF : Completing F₀ e (some e) seen F)
    (hnone : F.declarationOn e (some p) = none) {y : NodeId} (hy : F.IsSettled y) : y ≠ x := by
  rintro rfl
  have hk := isKept he (Or.inr rfl) hF
  obtain ⟨after, hsplit⟩ := hl.exists_elementsFrom
  obtain ⟨hyb, hye⟩ := he.links.mem_elementsFrom_iff.1
    (show y ∈ F₀.elementsFrom e by rw [hsplit]; simp)
  have hcomplete := hy.isComplete fun b hb a ha => by
    rw [hk.bindings y] at hb ha
    exact eq_of_mem_bindingsAt (hcons y · hyb) hb ha
  have hty := takes_of_declarationOn_eq_none he hF hl.unused hnone hyb hye hl.takes
  have hdeclares := (hk.declares_iff he hyb hye hl.nsPrefix_eq
    (isImplicit_eq_false_of_declares hl.missing) hty).1 (hcomplete c (hk.bindings y ▸ hl.mem))
  rw [hl.missing] at hdeclares
  cases hdeclares

/-- The first element for which the prefix is declared on `e` is the first one to lack it. -/
theorem eq_of_canHoist {seen rest : List NodeId} {F : Forest}
    (hF : Completing F₀ e (some e) seen F) (hx : x ∉ seen) {y : NodeId}
    (hnext : F₀.elementsFrom e = seen.reverse ++ y :: rest) {b : Binding}
    (hb : b ∈ F.bindingsAt y) (hmiss : (F.scope y).declares b = false)
    (hp : b.nsPrefix = some p) (hcan : F.canHoist e y b = true) :
    seen.reverse = before ∧ y = x ∧ b = c := by
  have hk := isKept he (Or.inr rfl) hF
  obtain ⟨after, hsplit⟩ := hl.exists_elementsFrom
  obtain ⟨hyb, hye, -⟩ := mem_of_next he hnext
  obtain ⟨hty, -⟩ := canHoist_eq_true_iff.1 hcan
  rw [hp] at hty
  have hmiss₀ : ¬ (F₀.scope y).declares b = true := by
    rw [← hk.declares_iff he hyb hye hp (isImplicit_eq_false_of_declares hmiss) hty, hmiss]
    simp
  have hybefore : y ∉ before := fun hy =>
    hmiss₀ (hl.first y hy (hk.takes hty) b (hk.bindings y ▸ hb) hp)
  obtain ⟨rfl, rfl⟩ := eq_of_append_cons_eq (hnext.symm.trans hsplit)
    (fun hm => hx (List.mem_reverse.1 hm)) hybefore
  exact ⟨rfl, rfl, eq_of_mem_bindingsAt (hcons y · hyb) hl.mem (hk.bindings y ▸ hb)
    (hp.trans hl.nsPrefix_eq.symm)⟩

/-- What happens to a prefix that an element is the first one to lack.  Until that element is visited
nothing declares the prefix at `e`; what it needs is then declared there, and stays. -/
theorem declarationOn_or {seen : List NodeId} {F : Forest}
    (h : Completing F₀ e (some e) seen F) :
    (F.declarationOn e (some p) = none ∧ x ∉ seen) ∨
      (before ⊆ seen ∧ F.declarationOn e (some p) ≠ none ∧
        ∀ d ∈ before, F₀.TakesFromAbove e d (some p) →
          (F.scope d).declaration? (some p) = some c.uriText) := by
  have htarget : some e = none ∨ some e = some e := Or.inr rfl
  induction h with
  | start =>
      obtain ⟨after, hsplit⟩ := hl.exists_elementsFrom
      obtain ⟨hxb, hxe⟩ := he.links.mem_elementsFrom_iff.1
        (show x ∈ F₀.elementsFrom e by rw [hsplit]; simp)
      obtain ⟨_, -, -, -, htakes⟩ := he.exists_path hxb hxe
      exact Or.inl ⟨((htakes _).1 hl.takes).2, by simp⟩
  | @visit seen rest F y hF hnext hsettled ih =>
      rcases ih with ⟨hnone, hx⟩ | ⟨hsub, hdecl, hall⟩
      · refine Or.inl ⟨hnone, fun hm => ?_⟩
        exact ne_of_isSettled he hcons hl hF hnone hsettled ((List.mem_cons.1 hm).resolve_right hx).symm
      · exact Or.inr ⟨List.subset_cons_of_subset y hsub, hdecl, hall⟩
  | @add seen rest F y b hF hnext hb hmiss ih =>
      have hk := isKept he htarget hF
      have himp := isImplicit_eq_false_of_declares hmiss
      obtain ⟨hyb, hye, -⟩ := mem_of_next he hnext
      have hyb' := hk.below_iff.2 hyb
      have hye' := (hk.same.isElement_eq y).trans hye
      have hon := hk.declarationOn_placeOf htarget hyb' hye' himp
      rcases ih with ⟨hnone, hx⟩ | ⟨hsub, hdecl, hall⟩
      · by_cases hp : F.placeOf (some e) y b = e ∧ some p = b.nsPrefix
        · obtain ⟨hpe, hp⟩ := hp
          -- the prefix is declared at `e` only for an element that takes it from above
          have hcan : F.canHoist e y b = true := by
            rcases placeOf_eq (F := F) htarget y b with ⟨hpy, -⟩ | ⟨-, -, -, hcan⟩
            · obtain rfl := hpe.symm.trans hpy
              exact absurd hp.symm (hl.unused b (hk.bindings e ▸ hb))
            · exact hcan
          obtain ⟨rfl, rfl, rfl⟩ := eq_of_canHoist he hcons hl hF hx hnext hb hmiss hp.symm hcan
          refine Or.inr ⟨fun d hd => List.mem_reverse.1 hd, ?_, fun d hd htd => ?_⟩
          · rw [hon, if_pos ⟨hpe, hp⟩]
            simp
          · obtain ⟨hdb, hde⟩ := he.links.mem_elementsFrom_iff.1
              (show d ∈ F₀.elementsFrom e by rw [hnext]; exact List.mem_append_left _ hd)
            have htd' := takes_of_declarationOn_eq_none he hF hl.unused hnone hdb hde htd
            rw [hpe, hp]
            exact (hk.part.declaration?_withDeclaration_top himp (hp ▸ hnone)
              (hk.below_iff.2 hdb) ((hk.same.isElement_eq d).trans hde)).1 (hp ▸ htd')
        · exact Or.inl ⟨by rw [hon, if_neg hp]; exact hnone, hx⟩
      · refine Or.inr ⟨hsub, fun hnone => ?_, fun d hd htd => ?_⟩
        · rw [hon] at hnone
          split at hnone
          · cases hnone
          · exact hdecl hnone
        · rw [← hall d hd htd]
          refine (declaration?_add he htarget hF hnext hmiss (hsub hd) (some p)).resolve_right ?_
          -- what is declared at `e` is not taken from above
          rintro ⟨-, -, -, -, htk⟩
          obtain ⟨hdb, hde⟩ := he.links.mem_elementsFrom_iff.1
            (show d ∈ F₀.elementsFrom e by rw [hnext]; simp [hsub hd])
          obtain ⟨_, -, -, -, htakes⟩ := hk.part.exists_path (hk.below_iff.2 hdb)
            ((hk.same.isElement_eq d).trans hde)
          exact hdecl ((htakes _).1 htk).2

end FirstToLack

/-- **What is captured is not declared in the end.** -/
theorem declares_eq_false
    (hcons : ∀ d f, F₀.Below e d → F₀.frame? d = some f → f.IsConsistent)
    {F : Forest}
    (h : Completing F₀ e (some e) (F₀.elementsFrom e).reverse F) {d : NodeId} {b : Binding}
    (hb : F₀.IsCaptured e d b) : (F.scope d).declares b = false := by
  obtain ⟨p, before, x, c, hl, hd, hbd, hp, htd⟩ := hb
  obtain ⟨after, hsplit⟩ := hl.exists_elementsFrom
  have himpc := isImplicit_eq_false_of_declares hl.missing
  have himp := (isImplicit_congr (hp.trans hl.nsPrefix_eq.symm)).trans himpc
  obtain ⟨hdb, hde⟩ := he.links.mem_elementsFrom_iff.1
    (show d ∈ F₀.elementsFrom e by rw [hsplit]; simp [hd])
  obtain ⟨hxb, hxe⟩ := he.links.mem_elementsFrom_iff.1
    (show x ∈ F₀.elementsFrom e by rw [hsplit]; simp)
  rcases declarationOn_or he hcons hl h with ⟨-, hx⟩ | ⟨-, -, hall⟩
  · exact absurd (by rw [hsplit]; simp) hx
  · -- what it means above suits the one name and not the other
    have hmean := (he.declares_iff_of_takes hdb hde hp himp htd).1 (hl.first d hd htd b hbd hp)
    have hne : c.uriText ≠ b.uriText := by
      intro hu
      rw [← hu, ← he.declares_iff_of_takes hxb hxe hl.nsPrefix_eq himpc hl.takes, hl.missing] at hmean
      cases hmean
    rw [Scope.declares, himp, hp, hall d hd htd]
    simpa using hne

end Completing

/-- **The elements that completion leaves complete** are those that have no captured name. -/
theorem ensureDeclared_undeclared_eq_nil_iff {F : Forest} {e : NodeId} (he : F.IsPart e)
    (hcons : ∀ d f, F.Below e d → F.frame? d = some f → f.IsConsistent)
    {target : Option NodeId} (ht : target = none ∨ target = some e) {G : Forest} {n : Nat}
    (hrun : F.ensureDeclared e target true = (G, .ok n)) {d : NodeId} (hd : F.Below e d)
    (hde : F.isElement d = true) :
    (G.scope d).undeclared = [] ↔ (target = some e → ∀ b, ¬ F.IsCaptured e d b) := by
  have hwalk : F.ensureElements target (F.elementsFrom e) = (G, .ok n) := hrun
  have hstart : Completing F e target [] F := .start
  have h := Completing.of_ensureElements he ht rfl hstart hwalk
  have hk := Completing.isKept he ht h
  rw [undeclared_scope_eq_nil_iff ((hk.same.isElement_eq d).trans hde)]
  constructor
  · rintro hcomplete rfl b hb
    have hmiss := Completing.declares_eq_false he hcons h hb
    obtain ⟨_, _, _, _, -, -, hbd, -, -⟩ := hb
    rw [hcomplete b (hk.bindings d ▸ hbd)] at hmiss
    cases hmiss
  · intro hfree b hb
    have hm : d ∈ (F.elementsFrom e).reverse :=
      List.mem_reverse.2 (he.links.mem_elementsFrom_iff.2 ⟨hd, hde⟩)
    rcases Completing.declares_or_isCaptured he hcons ht h d hm b (hk.bindings d ▸ hb) with
      hdecl | ⟨htop, hcap⟩
    · exact hdecl
    · exact absurd hcap (hfree htop b)

end Forest

end XmlScribe
