/-
**Following names.**

Where a name leads depends only on the places on its way: on whether there is something at each of
them, and whether it is a directory.  What the files on the way contain does not matter, and neither
does what happens elsewhere.

Main definitions:

* `World.AgreesAt` — two worlds are alike at a place, for who follows names.

Main results:

* `World.entry_setEntry` — what is at a place after a change;
* `World.find_congr` — names lead to the same places in worlds that are alike on their ways;
* `World.mem_onTheWay_of_find` — a name leads to a place on its way;
* `World.find_of_findForWriting` — a file that has been created is found under its name.
-/

import XmlScribe.Files.World
import XmlScribe.Proofs.Outcome

set_option autoImplicit false

namespace XmlScribe

namespace Place

theorem mem_way_self (directory : Place) (parts : List Text) : directory ∈ way directory parts := by
  cases parts <;> exact List.mem_cons_self

/-- Only a text that is empty or ends with the separator has an empty piece at its end. -/
theorem exists_splitOn_eq (sep : Char) (s : Text) : ∃ leading last, s.splitOn sep = leading ++ [last] ∧
    (last = [] → s = [] ∨ s.getLast? = some sep) := by
  induction s with
  | nil => exact ⟨[], [], rfl, fun _ => Or.inl rfl⟩
  | cons c s ih =>
      obtain ⟨leading, last, hsplit, hempty⟩ := ih
      rw [Text.splitOn, hsplit]
      by_cases hc : c = sep
      · refine ⟨[] :: leading, last, if_pos hc, fun hlast => Or.inr ?_⟩
        rcases hempty hlast with rfl | hend
        · rw [hc]
          rfl
        · rw [List.getLast?_cons, hend]
          rfl
      · rw [if_neg hc]
        cases leading with
        | nil => exact ⟨[], c :: last, rfl, nofun⟩
        | cons piece leading =>
            refine ⟨(c :: piece) :: leading, last, rfl, fun hlast => Or.inr ?_⟩
            rcases hempty hlast with rfl | hend
            · simp [Text.splitOn] at hsplit
            · rw [List.getLast?_cons, hend]
              rfl

theorem enter_eq_within {directory : Place} {part : Text} (h₀ : part ≠ []) (h₁ : part ≠ here)
    (h₂ : part ≠ up) : directory.enter part = within directory part := by
  simp [enter, h₀, h₁, h₂]

end Place

namespace World

/-! ### Changes -/

theorem lookup_filter {place p : Place} (h : p ≠ place) (entries : List (Place × Entry)) :
    (entries.filter (·.1 != place)).lookup p = entries.lookup p := by
  induction entries with
  | nil => rfl
  | cons entry entries ih =>
      obtain ⟨q, e⟩ := entry
      by_cases hq : q = place
      · have hpq : (p == q) = false := beq_eq_false_iff_ne.2 (hq ▸ h)
        rw [List.filter_cons_of_neg (by simp [hq]), ih, List.lookup_cons, hpq]
      · rw [List.filter_cons_of_pos (by simp [hq]), List.lookup_cons, List.lookup_cons, ih]

/-- What is at a place after there is something else at another one, or there. -/
theorem entry_setEntry {w : World} {place : Place} (h : place.isGiven = false) (entry : Entry)
    (p : Place) :
    World.entry? (w.setEntry place entry) p = if p = place then some entry else w.entry? p := by
  by_cases hp : p = place
  · subst hp
    rw [if_pos rfl, entry?, if_neg (by simp [h])]
    simp [setEntry]
  · rw [if_neg hp, entry?, entry?, setEntry]
    have hne : (p == place) = false := beq_eq_false_iff_ne.2 hp
    simp only [List.lookup_cons, hne, lookup_filter hp]

/-! ### Names that lead to the same places -/

/-- The worlds are alike at a place: there is something in both or in none, and a directory in both
or in none. -/
structure AgreesAt (v w : World) (place : Place) : Prop where
  /-- There is something. -/
  isNone_eq : (v.entry? place).isNone = (w.entry? place).isNone
  /-- There is a directory. -/
  isDirectory_eq : v.isDirectory place = w.isDirectory place

theorem agreesAt_of_entry_eq {v w : World} {place : Place} (h : v.entry? place = w.entry? place) :
    v.AgreesAt w place :=
  ⟨by rw [h], by rw [isDirectory, isDirectory, h]⟩

/-- What files contain does not matter. -/
theorem agreesAt_of_files {v w : World} {place : Place} {contents contents' : Bytes}
    (h : v.entry? place = some (.file contents)) (h' : w.entry? place = some (.file contents')) :
    v.AgreesAt w place := by
  refine ⟨by rw [h, h']; rfl, ?_⟩
  rw [isDirectory, isDirectory, h, h']
  rfl

theorem step_congr {v w : World} {place : Place} {part : Text} (h : v.AgreesAt w place)
    (h' : v.AgreesAt w (place.enter part)) : v.step place part = w.step place part := by
  rw [step, step, h.isDirectory_eq, h'.isNone_eq]

theorem eq_of_step {w : World} {place p : Place} {part : Text} (h : w.step place part = .ok p) :
    p = place.enter part := by
  rw [step] at h
  split at h
  · cases h
  · split at h
    · cases h
    · split at h
      · cases h
      · exact (Except.ok.inj h).symm

theorem foldlM_step_congr {v w : World} {parts : List Text} {place : Place}
    (h : ∀ p ∈ Place.way place parts, v.AgreesAt w p) :
    parts.foldlM v.step place = parts.foldlM w.step place := by
  induction parts generalizing place with
  | nil => rfl
  | cons part parts ih =>
      have hrest : ∀ p ∈ Place.way (place.enter part) parts, v.AgreesAt w p := fun p hp =>
        h p (List.mem_cons_of_mem place hp)
      have hstep : v.step place part = w.step place part :=
        step_congr (h place (Place.mem_way_self _ _)) (hrest _ (Place.mem_way_self _ _))
      rw [List.foldlM_cons, List.foldlM_cons, hstep]
      cases hp : w.step place part with
      | error fault => rfl
      | ok p =>
          obtain rfl := eq_of_step hp
          exact ih hrest

/-- A name leads to the same place in worlds that are alike on its way. -/
theorem find_congr {v w : World} {name : Text} (h : ∀ p ∈ Place.onTheWay name, v.AgreesAt w p) :
    v.find name = w.find name := by
  rw [find, find, foldlM_step_congr h]

theorem mem_way_of_foldlM {w : World} {parts : List Text} {place p : Place}
    (h : parts.foldlM w.step place = .ok p) : p ∈ Place.way place parts := by
  induction parts generalizing place with
  | nil =>
      obtain rfl := Except.ok.inj h
      exact Place.mem_way_self _ _
  | cons part parts ih =>
      rw [List.foldlM_cons] at h
      obtain ⟨q, hq, h⟩ := Outcome.bind_eq_ok_iff.1 h
      obtain rfl := eq_of_step hq
      exact List.mem_cons_of_mem place (ih h)

/-- A name leads to a place on its way. -/
theorem mem_onTheWay_of_find {w : World} {name : Text} {place : Place}
    (h : w.find name = .ok place) : place ∈ Place.onTheWay name := by
  obtain ⟨-, -, h⟩ := Outcome.bind_eq_ok_iff.1 h
  exact mem_way_of_foldlM h

/-- What there is under a name that leads to a place. -/
theorem entryNamed_of_find {w : World} {name : Text} {place : Place} {entry : Entry}
    (h : w.find name = .ok place) (he : w.entry? place = some entry) :
    w.entryNamed name = .ok entry := by
  rw [entryNamed, h]
  simp only [bind, Except.bind, he]
  rfl

/-! ### Files that are created -/

/-- Where a name does not end like that of a directory, nothing is taken off its end. -/
theorem dropWhile_slash_eq_self {name : Text} (h : name.getLast? ≠ some '/') :
    (name.reverse.dropWhile (· == '/')).reverse = name := by
  cases hr : name.reverse with
  | nil => simpa using hr
  | cons c rest =>
      have hc : (c == '/') = false := by
        rw [beq_eq_false_iff_ne]
        rintro rfl
        exact h (by rw [← List.head?_reverse, hr]; rfl)
      rw [List.dropWhile_cons_of_neg (by simp [hc]), ← hr, List.reverse_reverse]

/-- A name from which nothing is taken off does not end like that of a directory. -/
theorem getLast?_ne_slash {name : Text}
    (h : ¬ (name.reverse.dropWhile (· == '/')).reverse.length < name.length) :
    name.getLast? ≠ some '/' := by
  intro hlast
  rw [← List.head?_reverse] at hlast
  obtain ⟨rest, hr⟩ := List.head?_eq_some_iff.1 hlast
  apply h
  have hlength : name.length = rest.length + 1 := by
    rw [← List.length_reverse, hr, List.length_cons]
  have hle := (List.dropWhile_sublist (· == '/') (l := rest)).length_le
  rw [hr, List.dropWhile_cons_of_pos rfl, List.length_reverse, hlength]
  omega

/-- A file that is to be created gets a name of its own in a directory. -/
theorem of_findForWriting {w : World} {name : Text} {place : Place}
    (h : w.findForWriting name = .ok place) :
    checkName name = .ok () ∧ w.isDirectory place = false ∧
      ∃ directory leading last, Place.parts name = leading ++ [last] ∧
        leading.foldlM w.step (Place.startOf name) = .ok directory ∧
        w.isDirectory directory = true ∧ Text.utf8Size last ≤ longestPart ∧
        last ≠ Place.up ∧ place = .within directory last ∧ directory.enter last = place := by
  obtain ⟨⟨⟩, hcheck, h⟩ := Outcome.bind_eq_ok_iff.1 h
  dsimp only at h
  -- the checks in their order: a name is left, its directory is one, the last part is a name of its
  -- own and not too long, and no directory is there
  split at h
  · exact absurd h Outcome.throw_ne_ok
  rename_i hbody
  obtain ⟨directory, hdirectory, h⟩ := Outcome.bind_eq_ok_iff.1 h
  split at h
  · exact absurd h Outcome.throw_ne_ok
  rename_i hd
  split at h
  · exact absurd h Outcome.throw_ne_ok
  rename_i hlast
  split at h
  · exact absurd h Outcome.throw_ne_ok
  rename_i hsize
  split at h
  · exact absurd h Outcome.throw_ne_ok
  rename_i hfree
  obtain rfl := Except.ok.inj h
  obtain ⟨hhere, hup, hend⟩ := not_or.1 hlast |>.imp_right not_or.1
  -- the name does not end with a slash, so its last part is not empty
  have hslash := getLast?_ne_slash hend
  rw [dropWhile_slash_eq_self hslash] at hbody hdirectory hhere hup hsize hfree
  obtain ⟨leading, last, hparts, hempty⟩ := Place.exists_splitOn_eq '/' name
  have hne : last ≠ [] := fun hnil => by
    rcases hempty hnil with rfl | h
    · exact hbody rfl
    · exact hslash h
  rw [dropWhile_slash_eq_self hslash]
  rw [Place.parts, hparts, List.getLast?_concat, Option.getD_some] at hhere hup hsize hfree ⊢
  rw [Place.parts, hparts, List.dropLast_concat] at hdirectory
  refine ⟨hcheck, Bool.eq_false_iff.2 hfree, directory, leading, last, rfl, hdirectory, by simpa using hd,
    Nat.le_of_not_lt hsize, hup, rfl, Place.enter_eq_within hne hhere hup⟩

/-- A place that a file is created at is one that files can be at. -/
theorem isGiven_of_findForWriting {w : World} {name : Text} {place : Place}
    (h : w.findForWriting name = .ok place) : place.isGiven = false := by
  obtain ⟨-, -, _, _, _, -, -, -, -, hup, rfl, -⟩ := of_findForWriting h
  simpa [Place.isGiven] using hup

theorem foldlM_step_mono {v w : World} (hv : ∀ p, w.isDirectory p = true → v.isDirectory p = true)
    (hsome : ∀ p, (w.entry? p).isNone = false → (v.entry? p).isNone = false) {parts : List Text}
    {place p : Place} (h : parts.foldlM w.step place = .ok p) :
    parts.foldlM v.step place = .ok p := by
  induction parts generalizing place with
  | nil => exact h
  | cons part parts ih =>
      rw [List.foldlM_cons] at h ⊢
      obtain ⟨q, hq, h⟩ := Outcome.bind_eq_ok_iff.1 h
      have hstep : v.step place part = .ok q := by
        rw [step] at hq ⊢
        split at hq
        · cases hq
        · rename_i hd
          split at hq
          · cases hq
          · rename_i hsize
            split at hq
            · cases hq
            · rename_i hnone
              rw [if_neg (by simpa using hv place (by simpa using hd)), if_neg hsize,
                if_neg (by rw [hsome _ (Bool.eq_false_iff.2 hnone)]; exact Bool.false_ne_true)]
              exact hq
      rw [hstep]
      exact ih h

/-- A file that has been created is found under its name, where nothing else has been taken away. -/
theorem find_of_findForWriting {v w : World} {name : Text} {place : Place}
    (h : w.findForWriting name = .ok place)
    (hv : ∀ p, w.isDirectory p = true → v.isDirectory p = true)
    (hsome : ∀ p, (w.entry? p).isNone = false → (v.entry? p).isNone = false)
    (hplace : (v.entry? place).isNone = false) : v.find name = .ok place := by
  obtain ⟨hcheck, -, directory, leading, last, hparts, hleading, hd, hsize, -, -, henter⟩ :=
    of_findForWriting h
  rw [find, hcheck, hparts]
  have hstep : v.step directory last = .ok place := by
    rw [step, if_neg (by simp [hv directory hd]), if_neg (Nat.not_lt.2 hsize), henter,
      if_neg (by simp [hplace])]
  refine Outcome.bind_eq_ok_iff.2 ⟨(), rfl, ?_⟩
  rw [Outcome.foldlM_append (foldlM_step_mono hv hsome hleading), List.foldlM_cons, hstep]
  rfl

end World

end XmlScribe
