/-
**Writing leaves the forest as it is.**

Apart from the completion of namespaces, and from a disturbance, nothing that a writer does changes
the forest, whether the walk succeeds or fails in the end.  So what has become of the forest after an
element has been written is what completion has made of it.

Main results:

* `Writer.of_run_completeFrom` — what completion makes of the forest;
* `Writer.forest_saveElement` — the forest after an element has been written.
-/

import XmlScribe.Proofs.Writer.Plain

set_option autoImplicit false

namespace XmlScribe

namespace Writer

open Walk

variable {W : Writer} {escaper : Escaper}

theorem isQuiet_of_run_putMark {F : Forest} {st st' : WalkState} (hst : st.IsQuiet F)
    {wanted : Bool} {outcome : Except SaveFault Unit}
    (hrun : (putMark wanted).run.run st = (outcome, st')) : st'.IsQuiet F := by
  cases wanted with
  | true =>
      cases hrun
      exact ⟨hst.forest, hst.disturbance⟩
  | false =>
      cases hrun
      exact hst

/-! ### An element that is written -/

/-- Where completion succeeds, the forest is what completion has made of it, and nothing has been
written. -/
theorem of_run_completeFrom {F : Forest} {element : NodeId} {st st' : WalkState}
    (hst : st.IsQuiet F) (h : (W.completeFrom element).run.run st = (.ok (), st')) :
    ∃ G, st'.IsQuiet G ∧ st'.trace = st.trace ∧ if W.settings.completeNamespaces then
      ∃ n, F.ensureDeclared element (if W.settings.declareAtTop then some element else none) true =
        (G, .ok n)
      else G = F := by
  rw [completeFrom] at h
  split at h
  · rename_i hc
    obtain ⟨_, _, hforest, h⟩ := Outcome.exists_of_run_bind h
    rw [run_forest, hst.forest] at hforest
    cases hforest
    rcases hE : F.ensureDeclared element (if W.settings.declareAtTop then some element else none)
      true with ⟨G, fault | n⟩
    · rw [hE] at h
      cases h
    · rw [hE] at h
      obtain ⟨-, rfl⟩ := Prod.mk.inj h
      exact ⟨G, ⟨rfl, hst.disturbance⟩, rfl, by rw [if_pos hc]; exact ⟨n, rfl⟩⟩
  · rename_i hc
    obtain ⟨-, rfl⟩ := Prod.mk.inj h
    exact ⟨F, hst, rfl, if_neg hc ▸ rfl⟩

/-- The forest after a walk that has been written without a fault. -/
theorem forest_save {F : Forest} {walk : Walk Unit} {sink : Sink}
    (h : (W.save F walk sink).fault = none) :
    ∃ st, W.runWalk F walk = (.ok (), st) ∧ (W.save F walk sink).forest = st.forest := by
  rcases hrun : W.runWalk F walk with ⟨fault | ⟨⟩, st⟩
  · rw [save, hrun] at h
    dsimp only at h
    split at h <;> simp_all
  · refine ⟨st, rfl, ?_⟩
    rw [save, hrun] at h ⊢
    dsimp only at h ⊢
    split
    · simp_all
    · simp_all
    · split <;> rfl

/-- After an element has been written, the forest is what completion has made of it. -/
theorem forest_saveElement {settings : Settings} {profile : Profile} {F : Forest} {e : NodeId}
    {sink : Sink} (hc : settings.completeNamespaces = true)
    (h : ((quiet settings profile).saveElement F e sink).fault = none) :
    ∃ n, F.ensureDeclared e (if settings.declareAtTop then some e else none) true =
      (((quiet settings profile).saveElement F e sink).forest, .ok n) := by
  obtain ⟨st, hrun, hforest⟩ := forest_save h
  have hquiet : (⟨F, none, 0, []⟩ : WalkState).IsQuiet F := ⟨rfl, rfl⟩
  obtain ⟨_, _, h₁, hrun⟩ := Outcome.exists_of_run_bind (show (elementWalk _ e).run.run _ = _ from hrun)
  rw [run_forest] at h₁
  cases h₁
  obtain ⟨escaper, st₂, h₂, hrun⟩ := Outcome.exists_of_run_bind hrun
  have hst₂ := (isBlind_escaperFor _).isPlain.isQuiet_of_run hquiet h₂
  obtain ⟨_, st₃, h₃, hrun⟩ := Outcome.exists_of_run_bind hrun
  have hst₃ := isQuiet_of_run_putMark hst₂ h₃
  obtain ⟨_, st₄, h₄, hrun⟩ := Outcome.exists_of_run_bind hrun
  obtain ⟨G, hst₄, -, hG⟩ := of_run_completeFrom hst₃ h₄
  have hst := (isPlain_putElement e 0 _).isQuiet_of_run hst₄ hrun
  obtain ⟨n, hn⟩ := (if_pos hc ▸ hG)
  exact ⟨n, by rw [saveElement, hforest, hst.forest]; exact hn⟩

end Writer

end XmlScribe
