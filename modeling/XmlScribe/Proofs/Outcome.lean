/-
**Outcomes of steps that may fail.**

A chain of steps that may fail succeeds exactly if every step does.  If the steps work on a state,
the state is kept where they fail.  If each step fails with faults of one kind only, so does the chain.

Main definitions:

* `Outcome.FailsIn` — a step fails with faults of one kind only.

Main results:

* `Outcome.bind_eq_ok_iff`, `Outcome.map_eq_ok_iff`, `Outcome.mapError_eq_ok_iff` — when a step
  after another one, or a step with its result or fault changed, succeeds;
* `Outcome.run_bind` — a step after another one, on a state;
* `Outcome.exists_of_run_bind`, `Outcome.of_run_bind_error`, `Outcome.of_run_bind` — what it has
  come to if it succeeds, if it fails, and in any case;
* `Outcome.foldlM_append` — a chain in two parts;
* `Outcome.foldlM_invariant` — what all steps keep;
* `Outcome.mapM_eq_ok_iff` — a step for every item;
* `Outcome.FailsIn.bind`, `Outcome.failsIn_foldlM` — the faults of several steps.
-/

import Mathlib.Data.List.Forall2

set_option autoImplicit false

namespace XmlScribe

namespace Outcome

variable {ε ε' α β γ : Type}

theorem bind_eq_ok_iff {x : Except ε α} {f : α → Except ε β} {b : β} :
    x >>= f = .ok b ↔ ∃ a, x = .ok a ∧ f a = .ok b := by
  cases x with
  | error fault => simp [bind, Except.bind]
  | ok a => simp [bind, Except.bind]

theorem map_eq_ok_iff {x : Except ε α} {f : α → β} {b : β} :
    x.map f = .ok b ↔ ∃ a, x = .ok a ∧ f a = b := by
  cases x with
  | error fault => simp [Except.map]
  | ok a => simp [Except.map]

theorem mapError_eq_ok_iff {x : Except ε α} {f : ε → ε'} {a : α} :
    x.mapError f = .ok a ↔ x = .ok a := by
  cases x with
  | error fault => constructor <;> intro h <;> cases h
  | ok b => constructor <;> intro h <;> cases h <;> rfl

theorem pure_eq_ok_iff {a b : α} : (pure a : Except ε α) = .ok b ↔ a = b := by
  simp [pure, Except.pure]

theorem throw_ne_ok {fault : ε} {a : α} : (throw fault : Except ε α) ≠ .ok a := by
  simp [throw, throwThe, MonadExceptOf.throw]

theorem bind_of_eq_ok {x : Except ε α} {a : α} (h : x = .ok a) (f : α → Except ε β) :
    x >>= f = f a := by
  rw [h]
  rfl

theorem mapError_of_eq_ok {x : Except ε α} {a : α} (h : x = .ok a) (f : ε → ε') :
    x.mapError f = .ok a := by
  rw [h]
  rfl

/-- A step on a state is made where the one before it has come to, unless that has failed. -/
theorem run_bind {σ : Type} (x : ExceptT ε (StateM σ) α) (f : α → ExceptT ε (StateM σ) β) (s : σ) :
    (x >>= f).run.run s =
      match x.run.run s with
      | (.ok a, s') => (f a).run.run s'
      | (.error fault, s') => (.error fault, s') := by
  change (ExceptT.bindCont f (x.run.run s).1).run (x.run.run s).2 = _
  rcases x.run.run s with ⟨fault | a, s'⟩ <;> rfl

section RunBind

variable {σ : Type} {x : ExceptT ε (StateM σ) α} {f : α → ExceptT ε (StateM σ) β} {s s' : σ}

/-- A step that has succeeded has been preceded by one that has succeeded. -/
theorem exists_of_run_bind {b : β} (h : (x >>= f).run.run s = (.ok b, s')) :
    ∃ a mid, x.run.run s = (.ok a, mid) ∧ (f a).run.run mid = (.ok b, s') := by
  rw [run_bind] at h
  rcases hrun : x.run.run s with ⟨fault | a, mid⟩
  · rw [hrun] at h
    cases h
  · rw [hrun] at h
    exact ⟨a, mid, rfl, h⟩

/-- Of two steps one has failed. -/
theorem of_run_bind_error {fault : ε} (h : (x >>= f).run.run s = (.error fault, s')) :
    x.run.run s = (.error fault, s') ∨
      ∃ a mid, x.run.run s = (.ok a, mid) ∧ (f a).run.run mid = (.error fault, s') := by
  rw [run_bind] at h
  rcases hrun : x.run.run s with ⟨other | a, mid⟩
  · rw [hrun] at h
    obtain ⟨hfault, rfl⟩ := Prod.mk.inj h
    exact Or.inl (by rw [Except.error.inj hfault])
  · rw [hrun] at h
    exact Or.inr ⟨a, mid, rfl, h⟩

/-- What holds after the first step and is kept by the second holds after both, whether they fail
or not. -/
theorem of_run_bind {I : σ → Prop} (h : I (x.run.run s).2)
    (h' : ∀ a mid, x.run.run s = (.ok a, mid) → I mid → I ((f a).run.run mid).2) :
    I ((x >>= f).run.run s).2 := by
  rw [run_bind]
  rcases hrun : x.run.run s with ⟨fault | a, mid⟩
  · rwa [hrun] at h
  · rw [hrun] at h
    exact h' a mid hrun h

end RunBind

/-- A chain of steps that begins with a chain that succeeds. -/
theorem foldlM_append {f : α → β → Except ε α} {l m : List β} {a b : α}
    (h : l.foldlM f a = .ok b) : (l ++ m).foldlM f a = m.foldlM f b := by
  rw [List.foldlM_append]
  exact bind_of_eq_ok h _

/-- What holds at the start of a chain and is kept by its steps holds at its end. -/
theorem foldlM_invariant {f : α → β → Except ε α} {I : List β → α → Prop} {l : List β} {a b : α}
    (hstep : ∀ seen item a b, seen ++ [item] <+: l → I seen a → f a item = .ok b →
      I (seen ++ [item]) b)
    (ha : I [] a) (h : l.foldlM f a = .ok b) : I l b := by
  have hrest : ∀ (rest seen : List β) (a : α), seen ++ rest = l → I seen a →
      rest.foldlM f a = .ok b → I l b := by
    intro rest
    induction rest with
    | nil =>
        intro seen a hl hi hr
        rw [List.append_nil] at hl
        obtain rfl : a = b := pure_eq_ok_iff.1 hr
        exact hl ▸ hi
    | cons item rest ih =>
        intro seen a hl hi hr
        rw [List.foldlM_cons, bind_eq_ok_iff] at hr
        obtain ⟨c, hc, hr⟩ := hr
        have hl' : seen ++ [item] ++ rest = l := by rw [List.append_assoc]; exact hl
        exact ih _ c hl' (hstep seen item a c ⟨rest, hl'⟩ hi hc) hr
  exact hrest l [] a rfl ha h

/-- A step for every item of a list succeeds exactly if each of them does. -/
theorem mapM_eq_ok_iff {f : α → Except ε β} {l : List α} {m : List β} :
    l.mapM f = .ok m ↔ List.Forall₂ (fun a b => f a = .ok b) l m := by
  induction l generalizing m with
  | nil => rw [List.mapM_nil, pure_eq_ok_iff, List.forall₂_nil_left_iff, eq_comm]
  | cons a l ih =>
      rw [List.mapM_cons, bind_eq_ok_iff]
      constructor
      · rintro ⟨b, hb, h⟩
        obtain ⟨m, hm, h⟩ := bind_eq_ok_iff.1 h
        obtain rfl := pure_eq_ok_iff.1 h
        exact .cons hb (ih.1 hm)
      · intro h
        cases h with
        | cons hb h => exact ⟨_, hb, bind_eq_ok_iff.2 ⟨_, ih.2 h, rfl⟩⟩

/-! ### Steps that fail with some faults only -/

variable {P : ε → Prop}

/-- The step fails with faults of this kind only. -/
def FailsIn (P : ε → Prop) (x : Except ε α) : Prop :=
  ∀ fault, x = .error fault → P fault

theorem failsIn_ok (a : α) : FailsIn P (.ok a) := nofun

theorem failsIn_error {fault : ε} (h : P fault) : FailsIn P (.error fault : Except ε α) := by
  rintro _ ⟨⟩
  exact h

theorem FailsIn.bind {x : Except ε α} {f : α → Except ε β} (hx : FailsIn P x)
    (hf : ∀ a, FailsIn P (f a)) : FailsIn P (x >>= f) := by
  cases x with
  | error fault => exact failsIn_error (hx fault rfl)
  | ok a => exact hf a

theorem FailsIn.map {x : Except ε α} (hx : FailsIn P x) (f : α → β) : FailsIn P (x.map f) := by
  cases x with
  | error fault => exact failsIn_error (hx fault rfl)
  | ok a => exact failsIn_ok _

/-- Faults that are made into faults of this kind. -/
theorem failsIn_mapError {f : ε' → ε} (h : ∀ fault, P (f fault)) (x : Except ε' α) :
    FailsIn P (x.mapError f) := by
  cases x with
  | error fault => exact failsIn_error (h fault)
  | ok a => exact failsIn_ok a

theorem failsIn_foldlM {f : β → α → Except ε β} (h : ∀ b a, FailsIn P (f b a)) (l : List α) (b : β) :
    FailsIn P (l.foldlM f b) := by
  induction l generalizing b with
  | nil => exact failsIn_ok b
  | cons a l ih =>
      rw [List.foldlM_cons]
      exact (h b a).bind ih

theorem failsIn_mapM {f : α → Except ε β} (h : ∀ a, FailsIn P (f a)) (l : List α) :
    FailsIn P (l.mapM f) := by
  induction l with
  | nil => exact failsIn_ok []
  | cons a l ih =>
      rw [List.mapM_cons]
      exact (h a).bind fun b => ih.bind fun bs => failsIn_ok _

end Outcome

end XmlScribe
