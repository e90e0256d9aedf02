/-
**Asking for another output.**

An option can be given wherever it is not given already, and an argument more changes nothing about
how the others are understood.  The option for the output says nothing about what is read and how it
is written.

Main definitions:

* `Argument.IsAllowed` — the argument can be given;
* `Argument.GoesOn` — what is done with further arguments does not depend on those that are known;
* `Argument.AddsOutput` — the arguments with a file to write to among them.

Main results:

* `Argument.parseFrom_cons` — an argument before all others;
* `Argument.parse_output`, `Argument.parse_longOutput` — the option for the output before all others;
* `Argument.AddsOutput.files_eq`, `Argument.AddsOutput.settings_eq`,
  `Argument.AddsOutput.profile_eq` — what it says nothing about.
-/

import XmlScribe.Command.Arguments
import XmlScribe.Proofs.Outcome
import XmlScribe.Proofs.Text.Occurrence

set_option autoImplicit false

namespace XmlScribe

namespace Argument

/-! ### One argument -/

/-- The argument does not stop the command, and its value is one that it can have. -/
def IsAllowed : Argument → Prop
  | .flag f => f ≠ .version ∧ f ≠ .help
  | .value o v => o.allows v = true
  | .file _ => True

/-- An argument is accepted if it can be given and none of the others clashes with it. -/
theorem accept_eq_ok_iff {known r : List Argument} {x : Argument} :
    accept known x = .ok r ↔
      known.any (clashes x) = false ∧ x.IsAllowed ∧ r = known ++ [x] := by
  cases hk : known.any (clashes x) with
  | true => simp [accept, hk]
  | false =>
      cases x with
      | flag f => cases f <;> simp [accept, hk, IsAllowed, eq_comm]
      | value o v =>
          by_cases hv : o.allows v = true
          · simp [accept, hk, IsAllowed, hv, eq_comm]
          · simp [accept, hk, IsAllowed, hv]
      | file name => simp [accept, hk, IsAllowed, eq_comm]

/-- What is done with further arguments: those that are known stay, and another one before them that
clashes with none of all these changes nothing. -/
def GoesOn {α : Type} (take : List Argument → Except Stop (List Argument × α)) : Prop :=
  ∀ known r result, take known = .ok (r, result) → known <+: r ∧
    ∀ a, (∀ x ∈ r, clashes x a = false) → take (a :: known) = .ok (a :: r, result)

section GoesOn

variable {α : Type}

theorem goesOn_ok (result : α) : GoesOn fun known => .ok (known, result) := by
  intro known r result' h
  obtain ⟨rfl, rfl⟩ := Prod.mk.inj (Except.ok.inj h)
  exact ⟨List.prefix_rfl, fun _ _ => rfl⟩

theorem goesOn_error (stop : Stop) :
    GoesOn fun _ => (.error stop : Except Stop (List Argument × α)) :=
  nofun

/-- An argument is accepted before others are taken. -/
theorem GoesOn.accept_bind {take : List Argument → Except Stop (List Argument × α)}
    (h : GoesOn take) (x : Argument) : GoesOn fun known => accept known x >>= take := by
  intro known r result hr
  obtain ⟨next, hnext, hr⟩ := Outcome.bind_eq_ok_iff.1 hr
  obtain ⟨hclash, hallowed, rfl⟩ := accept_eq_ok_iff.1 hnext
  obtain ⟨hlead, hcons⟩ := h _ r result hr
  refine ⟨(List.prefix_append _ _).trans hlead, fun a ha => ?_⟩
  have hx : clashes x a = false := ha x (hlead.subset (by simp))
  have haccept : accept (a :: known) x = .ok (a :: (known ++ [x])) :=
    accept_eq_ok_iff.2 ⟨by rw [List.any_cons, hx, hclash]; rfl, hallowed, rfl⟩
  exact Outcome.bind_eq_ok_iff.2 ⟨_, haccept, hcons a ha⟩

theorem goesOn_accept (x : Argument) (result : α) :
    GoesOn fun known => (accept known x).map (·, result) := by
  have h : (fun known => (accept known x).map (·, result)) =
      fun known => accept known x >>= fun known => .ok (known, result) := by
    funext known
    cases accept known x <;> rfl
  rw [h]
  exact (goesOn_ok result).accept_bind x

end GoesOn

/-! ### Command lines -/

theorem goesOn_takeLong (body : Text) : GoesOn fun known => takeLong known body := by
  unfold takeLong
  split
  · split
    · exact goesOn_accept _ none
    · exact goesOn_error _
  · dsimp only
    split
    · exact goesOn_accept _ none
    · exact goesOn_ok _
    · exact goesOn_error _

theorem goesOn_takeShort (s : Text) : GoesOn fun known => takeShort known s := by
  induction s with
  | nil => exact goesOn_ok none
  | cons c s ih =>
      simp only [takeShort]
      split
      · exact ih.accept_bind _
      · split
        · exact goesOn_ok _
        · exact goesOn_accept _ none
      · exact goesOn_error _

theorem goesOn_take (arg : Text) : GoesOn fun known => take known arg := by
  unfold take
  split
  · exact goesOn_takeLong _
  · exact goesOn_takeShort _
  · exact goesOn_accept _ none

/-- An argument before those that are known changes nothing if it clashes with none. -/
theorem parseFrom_cons {waiting : Option ValueOption} {known r : List Argument} {line : List Text}
    (h : parseFrom waiting known line = .ok r) :
    known <+: r ∧ ∀ a, (∀ x ∈ r, clashes x a = false) →
      parseFrom waiting (a :: known) line = .ok (a :: r) := by
  induction line generalizing waiting known with
  | nil =>
      cases waiting with
      | none =>
          obtain rfl := Except.ok.inj h
          exact ⟨List.prefix_rfl, fun _ _ => rfl⟩
      | some o => cases h
  | cons arg line ih =>
      cases waiting with
      | none =>
          rw [parseFrom] at h
          split at h
          · rename_i harg
            obtain rfl := Except.ok.inj h
            refine ⟨List.prefix_append _ _, fun a _ => ?_⟩
            rw [parseFrom, if_pos harg]
            rfl
          · rename_i harg
            obtain ⟨⟨next, waiting⟩, hnext, h⟩ := Outcome.bind_eq_ok_iff.1 h
            obtain ⟨hlead, hcons⟩ := goesOn_take arg known next waiting hnext
            obtain ⟨hlead', hcons'⟩ := ih h
            refine ⟨hlead.trans hlead', fun a ha => ?_⟩
            have htake := hcons a fun x hx => ha x (hlead'.subset hx)
            rw [parseFrom, if_neg harg]
            exact Outcome.bind_eq_ok_iff.2 ⟨_, htake, hcons' a ha⟩
      | some o =>
          rw [parseFrom] at h
          split at h
          · cases h
          · rename_i harg
            obtain ⟨next, hnext, h⟩ := Outcome.bind_eq_ok_iff.1 h
            obtain ⟨hclash, hallowed, rfl⟩ := accept_eq_ok_iff.1 hnext
            obtain ⟨hlead, hcons⟩ := ih h
            refine ⟨(List.prefix_append _ _).trans hlead, fun a ha => ?_⟩
            have hx : clashes (.value o arg) a = false := ha _ (hlead.subset (by simp))
            rw [parseFrom, if_neg harg]
            exact Outcome.bind_eq_ok_iff.2 ⟨_, accept_eq_ok_iff.2
              ⟨by rw [List.any_cons, hx, hclash]; rfl, hallowed, rfl⟩, hcons a ha⟩

/-- The value of an option that none of the arguments gives can be given before them. -/
theorem parse_of_parseFrom {o : ValueOption} {v : Text} {line line' : List Text}
    {arguments : List Argument} (h : parse line = .ok arguments)
    (ho : valueOf? o arguments = none)
    (hline : parseFrom none [] line' = parseFrom none [.value o v] line) :
    parse line' = .ok (.value o v :: arguments) := by
  obtain ⟨known, hknown, h⟩ := Outcome.bind_eq_ok_iff.1 h
  split at h
  · exact absurd h Outcome.throw_ne_ok
  rename_i hfiles
  obtain rfl := Except.ok.inj h
  have hclash : ∀ x ∈ known, clashes x (.value o v) = false := by
    intro x hx
    cases x with
    | value p _ =>
        have hp := List.findSome?_eq_none_iff.1 ho _ hx
        simpa [clashes] using hp
    | _ => rfl
  rw [parse, hline, (parseFrom_cons hknown).2 _ hclash]
  exact if_neg hfiles

/-- The option for the output, with its value behind it, before all others. -/
theorem parse_output {name : Text} {line : List Text} {arguments : List Argument}
    (h : parse line = .ok arguments) (ho : valueOf? .output arguments = none)
    (hname : isOption name = false) :
    parse (['-', 'o'] :: name :: line) = .ok (.value .output name :: arguments) := by
  refine parse_of_parseFrom h ho ?_
  rw [parseFrom, if_neg (by decide)]
  change parseFrom (some .output) [] (name :: line) = _
  rw [parseFrom, if_neg (by simp [hname])]
  rfl

/-- The option for the output by its long name, in one argument with its value, before all
others. -/
theorem parse_longOutput {name : Text} {line : List Text} {arguments : List Argument}
    (h : parse line = .ok arguments) (ho : valueOf? .output arguments = none) :
    parse (("--output=".toList ++ name) :: line) = .ok (.value .output name :: arguments) := by
  refine parse_of_parseFrom h ho ?_
  rw [parseFrom, if_neg (by simp)]
  have hcut : Text.cutAt ['='] ("output=".toList ++ name) = some ("output".toList, name) := by
    rw [show "output=".toList ++ name = "output".toList ++ '=' :: name from rfl]
    exact Text.cutAt_singleton_eq_some_iff.2 ⟨rfl, by decide⟩
  have htake : take [] ("--output=".toList ++ name) =
      .ok ([.value .output name], (none : Option ValueOption)) := by
    change takeLong [] ("output=".toList ++ name) = _
    rw [takeLong, hcut]
    rfl
  rw [htake]
  rfl

/-! ### What the option for the output says nothing about -/

/-- The arguments with a file to write to among them. -/
def AddsOutput (name : Text) (arguments arguments' : List Argument) : Prop :=
  ∃ before after, arguments = before ++ after ∧
    arguments' = before ++ .value .output name :: after

namespace AddsOutput

variable {name : Text} {arguments arguments' : List Argument}
  (h : AddsOutput name arguments arguments')
include h

theorem files_eq : files arguments' = files arguments := by
  obtain ⟨before, after, rfl, rfl⟩ := h
  simp [files]

theorem profile_eq : profile arguments' = profile arguments := by
  obtain ⟨before, after, rfl, rfl⟩ := h
  simp [profile, valueOf?]

theorem settings_eq : settings arguments' = settings arguments := by
  obtain ⟨before, after, rfl, rfl⟩ := h
  rw [settings, settings, List.foldlM_append, List.foldlM_append]
  rfl

theorem valueOf?_output (ho : valueOf? .output arguments = none) :
    valueOf? .output arguments' = some name := by
  obtain ⟨before, after, rfl, rfl⟩ := h
  rw [valueOf?, List.findSome?_append] at ho ⊢
  rw [(Option.or_eq_none_iff.1 ho).1]
  simp

end AddsOutput

/-- An option for the output that is given before all others. -/
theorem addsOutput_cons (name : Text) (arguments : List Argument) :
    AddsOutput name arguments (.value .output name :: arguments) :=
  ⟨[], arguments, rfl, rfl⟩

end Argument

end XmlScribe
