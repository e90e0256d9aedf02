/-
**The parts of a document type declaration.**

What is read from a declaration stands in it, part after part; so a character that the declaration
does not have is not in what is written for it either.

A definition is read from left to right, and what is left of it at any time is the end of it.  The name
of an entity stands at the start of what is left, so it is a part of the definition as it is written.

Main results:

* `Doctype.sublist_parse` — the parts stand in the declaration, in order;
* `Doctype.not_mem_written` — what is written has no carriage return if the declaration had none;
* `Doctype.isInfix_of_parseEntities` — the names of entities stand in the definition;
* `Doctype.IsRead.isInfix_name` — and if there is no definition outside, in the internal subset.
-/

import XmlScribe.Proofs.Doctype.Written

set_option autoImplicit false

namespace XmlScribe

namespace Doctype

theorem sublist_takeLiteral {s : Text} {r : Text × Text} (h : takeLiteral s = .ok r) :
    (r.1 ++ r.2).Sublist s := by
  obtain ⟨c, t, rfl, -, hc⟩ := takeLiteral_cases h
  rw [Text.eq_of_cutAt hc, List.append_assoc]
  exact ((List.Sublist.refl _).append (List.sublist_append_right _ _)).cons c

/-- The identifiers one after the other. -/
def ExternalId.text (id : ExternalId) : Text :=
  id.publicId.getD [] ++ id.systemId

theorem sublist_takeExternalId {s : Text} {r : Option ExternalId × Text}
    (h : takeExternalId s = .ok r) : ((r.1.map ExternalId.text).getD [] ++ r.2).Sublist s := by
  rcases takeExternalId_cases h with ⟨t, sys, ht, ha, hr⟩ | ⟨t, pub, u, sys, ht, ha, hb, hr⟩ | rfl
  · rw [hr]
    exact (sublist_takeLiteral ha).trans
      ((isSuffix_trimStart t).trans (isSuffix_after? ht)).sublist
  · have hsys := (sublist_takeLiteral hb).trans (isSuffix_trimStart u).sublist
    have hpub := (sublist_takeLiteral ha).trans
      ((isSuffix_trimStart t).trans (isSuffix_after? ht)).sublist
    refine List.Sublist.trans ?_ hpub
    simp only [hr, Option.map_some, Option.getD_some, ExternalId.text, List.append_assoc]
    exact (List.Sublist.refl pub).append hsys
  · exact List.Sublist.refl s

theorem sublist_takeSubset {s : Text} {r : Option Text × Text} (h : takeSubset s = .ok r) :
    (r.1.getD [] ++ r.2).Sublist s := by
  rcases takeSubset_cases h with ⟨subset, rfl, hr⟩ | rfl
  · rw [hr]
    exact ((List.Sublist.refl _).append (List.sublist_cons_self _ _)).cons _
  · exact List.Sublist.refl s

/-- The parts of a declaration stand in it, in order. -/
theorem sublist_parse {content : Text} {header : Header} (h : parse content = .ok header) :
    (header.name ++ ((header.externalId.map ExternalId.text).getD [] ++
      header.subset.getD [])).Sublist content := by
  obtain ⟨s, t, u, ha, hb, hc, -⟩ := parse_cases h
  have h₁ := (eq_of_takeName ha) ▸ (isSuffix_trimStart content).sublist
  have h₂ := (sublist_takeExternalId hb).trans (isSuffix_trimStart s).sublist
  have h₃ := (sublist_takeSubset hc).trans (isSuffix_trimStart t).sublist
  have hsubset := (List.sublist_append_left _ u).trans h₃
  have hid := ((List.Sublist.refl _).append hsubset).trans h₂
  exact ((List.Sublist.refl header.name).append hid).trans h₁

/-- What is written for a declaration has no carriage return if the declaration had none. -/
theorem not_mem_written {subsets : Subsets} {content : Text} {d : Doctype}
    {entities : List (Text × Text)}
    (h : Builder.readDoctype subsets content = .ok (d, entities)) (hr : '\r' ∉ content) :
    '\r' ∉ written d.name d.publicId d.systemId d.subset := by
  obtain ⟨⟨name, id, subset⟩, inner, outer, hh, -, -, -, hd, -⟩ :=
    Builder.readDoctype_eq_ok_iff.1 h
  rw [foldl_addEntity_eq] at hd
  have hparts : '\r' ∉ name ++ ((id.map ExternalId.text).getD [] ++ subset.getD []) := fun hm =>
    hr ((sublist_parse hh).subset hm)
  simp only [List.mem_append, not_or] at hparts
  have hquoted : ∀ literal : Text, '\r' ∉ literal → '\r' ∉ quoted literal := by
    intro literal hl
    rcases Entity.chooseQuote_cases literal with hq | hq <;> simp [quoted, hq, hl]
  have hids : '\r' ∉ writtenIds (id.bind ExternalId.publicId) (id.map ExternalId.systemId) := by
    cases id with
    | none => simp [writtenIds]
    | some id =>
        obtain ⟨pub, sys⟩ := id
        cases pub with
        | none =>
            have hs : '\r' ∉ sys := by simpa [ExternalId.text] using hparts.2.1
            simp [writtenIds, systemKeyword, hquoted sys hs]
        | some pub =>
            have hs : '\r' ∉ pub ∧ '\r' ∉ sys := by simpa [ExternalId.text] using hparts.2.1
            simp [writtenIds, publicKeyword, hquoted sys hs.2, hquoted pub hs.1]
  have hsubset : '\r' ∉ writtenSubset (subset.getD []) := by
    rw [writtenSubset]
    split
    · simp
    · simpa using hparts.2.2
  rw [hd]
  show '\r' ∉ written name (id.bind ExternalId.publicId) (id.map ExternalId.systemId) subset
  simp only [written, List.mem_append, not_or]
  exact ⟨⟨hparts.1, hids⟩, hsubset⟩

/-! ### Names of entities -/

theorem isInfix_of_takeEntityDecl {s : Text} {r : Option EntityDecl × Text}
    (h : takeEntityDecl s = .ok r) {decl : EntityDecl} (hd : r.1 = some decl) : decl.name <:+: s := by
  rw [takeEntityDecl] at h
  split at h
  · cases h
  · split at h
    · obtain ⟨rest, -, rfl⟩ := Outcome.map_eq_ok_iff.1 h
      cases hd
    · obtain ⟨⟨name, t⟩, hname, h⟩ := Outcome.bind_eq_ok_iff.1 h
      obtain ⟨⟨body, u⟩, -, h⟩ := Outcome.bind_eq_ok_iff.1 h
      obtain ⟨rest, -, h⟩ := Outcome.bind_eq_ok_iff.1 h
      obtain rfl := Except.ok.inj h
      obtain rfl := Option.some.inj hd
      have hprefix : name <+: Text.trimStart s := ⟨t, (eq_of_takeName hname).symm⟩
      exact hprefix.isInfix.trans (isSuffix_trimStart s).isInfix

theorem isInfix_of_takeItem {s : Text} {r : Option EntityDecl × Text} (h : takeItem s = .ok r)
    {decl : EntityDecl} (hd : r.1 = some decl) : decl.name <:+: s := by
  rw [takeItem] at h
  split at h
  · rename_i t ht
    exact (isInfix_of_takeEntityDecl h hd).trans (isSuffix_after? ht).isInfix
  · split at h
    · obtain ⟨rest, -, rfl⟩ := Outcome.map_eq_ok_iff.1 h
      cases hd
    · obtain rfl := Except.ok.inj h
      cases hd

/-- The names of entities stand in the definition. -/
theorem isInfix_of_parseEntities {s : Text} {decls : List EntityDecl}
    (h : parseEntities s = .ok decls) : ∀ decl ∈ decls, decl.name <:+: s := by
  induction s using parseEntities.induct generalizing decls with
  | case1 s hs =>
      rw [parseEntities, dif_pos hs] at h
      obtain rfl := Except.ok.inj h
      exact fun _ hd => absurd hd List.not_mem_nil
  | case2 s hs fault hitem =>
      rw [parseEntities, dif_neg hs] at h
      split at h
      · cases h
      · rename_i hother
        exact absurd (hitem.symm.trans hother) nofun
  | case3 s hs decl rest hitem ih =>
      rw [parseEntities, dif_neg hs] at h
      split at h
      · cases h
      · rename_i hother
        obtain ⟨⟨⟩⟩ := hitem.symm.trans hother
        obtain ⟨others, hothers, rfl⟩ := Outcome.map_eq_ok_iff.1 h
        have htrim := (isSuffix_trimStart s).isInfix
        intro other hmem
        rcases List.mem_append.1 hmem with hmem | hmem
        · exact (isInfix_of_takeItem hitem (Option.mem_toList.1 hmem)).trans htrim
        · exact ((ih hothers other hmem).trans (isLeft_takeItem hs hitem).isSuffix.isInfix).trans htrim

theorem mem_of_mem_foldl_addEntity {d : Doctype} {decls : List EntityDecl} {decl : EntityDecl}
    (h : decl ∈ (decls.foldl addEntity d).entities) : decl ∈ d.entities ∨ decl ∈ decls := by
  induction decls generalizing d with
  | nil => exact Or.inl h
  | cons first decls ih =>
      rcases ih h with hd | hd
      · rw [addEntity] at hd
        split at hd
        · exact Or.inl hd
        · rcases List.mem_append.1 hd with hd | hd
          · exact Or.inl hd
          · exact Or.inr (List.mem_singleton.1 hd ▸ List.mem_cons_self)
      · exact Or.inr (List.mem_cons_of_mem first hd)

/-- Where there is no definition outside, the names of entities stand in the internal subset. -/
theorem IsRead.isInfix_name {d : Doctype} (h : d.IsRead .none) :
    ∀ decl ∈ d.entities, decl.name <:+: d.subset.getD [] := by
  obtain ⟨content, entities, hread, -, -⟩ := h
  obtain ⟨header, inner, outer, -, -, hinner, houter, rfl, -⟩ :=
    Builder.readDoctype_eq_ok_iff.1 hread
  -- nothing is at hand outside, whatever the identifiers are
  have hnone : outer = [] := by
    rw [Builder.outerDecls] at houter
    split at houter
    · rename_i subset hsubset
      obtain ⟨id, -, hid⟩ := Option.bind_eq_some_iff.1 hsubset
      cases hpub : header.publicId <;> rw [hpub] at hid <;> cases hid
    · exact (Except.ok.inj houter).symm
  subst hnone
  intro decl hdecl
  rw [List.append_nil] at hdecl ⊢
  rw [foldl_addEntity_eq]
  rcases mem_of_mem_foldl_addEntity hdecl with hd | hd
  · exact absurd hd List.not_mem_nil
  · exact isInfix_of_parseEntities hinner decl hd

end Doctype

end XmlScribe
