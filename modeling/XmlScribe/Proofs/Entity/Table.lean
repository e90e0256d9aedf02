/-
**The table of entities can be read back.**

A document type keeps the first declaration of every name, and the table takes its entities from
the declarations kept.  So an entity of the table stands for its character where the declarations
are read again: a predefined one by agreement, which `EntityTable.addDecl` checks, any other by its
declaration.

Main definitions:

* `EntityDecl.replacements` — the replacement texts that a list of declarations provides.

Main results:

* `Doctype.entity?_foldl_addEntity` — which declaration of a name a document type keeps;
* `Doctype.lookup_replacements` — a kept declaration is the one that a reader goes by;
* `EntityTable.isReadable_build` — a table that has been built can be read back.
-/

import XmlScribe.Doctype.Basic
import XmlScribe.Proofs.Entity.Escaping

set_option autoImplicit false

namespace XmlScribe

/-- The replacement texts of the internal entities of a list of declarations. -/
def EntityDecl.replacements (decls : List EntityDecl) : List (Text × Text) :=
  decls.filterMap fun decl => decl.value?.map fun value => (decl.name, value)

/-! ### Declarations that count -/

namespace Doctype

theorem entity?_addEntity (d : Doctype) (decl : EntityDecl) (name : Text) :
    (d.addEntity decl).entity? name =
      (d.entity? name).or (if decl.name = name then some decl else none) := by
  rw [addEntity]
  split
  · rename_i h
    split
    · rename_i hn
      subst hn
      obtain ⟨e, he⟩ := Option.isSome_iff_exists.1 h
      rw [he]
      rfl
    · rw [Option.or_none]
  · rw [entity?, entity?, List.find?_append, List.find?_singleton]
    simp only [decide_eq_true_eq]

/-- A document type keeps the first declaration of every name. -/
theorem entity?_foldl_addEntity (d : Doctype) (decls : List EntityDecl) (name : Text) :
    (decls.foldl addEntity d).entity? name =
      (d.entity? name).or (decls.find? fun decl => decl.name = name) := by
  induction decls generalizing d with
  | nil => exact (Option.or_none).symm
  | cons decl decls ih =>
      rw [List.foldl_cons, ih, entity?_addEntity, Option.or_assoc, List.find?_cons]
      by_cases hn : decl.name = name
      · simp [hn]
      · simp [hn]

/-- A document type has no two declarations of one name, if it had none before. -/
theorem nodup_entities_foldl_addEntity {d : Doctype} (decls : List EntityDecl)
    (h : (d.entities.map EntityDecl.name).Nodup) :
    ((decls.foldl addEntity d).entities.map EntityDecl.name).Nodup := by
  induction decls generalizing d with
  | nil => exact h
  | cons decl decls ih =>
      rw [List.foldl_cons]
      refine ih ?_
      rw [addEntity]
      split
      · exact h
      · rename_i hn
        rw [List.map_append, List.nodup_append]
        refine ⟨h, by simp, fun a ha b hb => ?_⟩
        obtain rfl := List.mem_singleton.1 hb
        rintro rfl
        obtain ⟨other, ho, hname⟩ := List.mem_map.1 ha
        refine hn ?_
        rw [entity?, List.find?_isSome]
        exact ⟨other, ho, by simpa using hname⟩

theorem find?_of_nodup {decls : List EntityDecl} (h : (decls.map EntityDecl.name).Nodup)
    {decl : EntityDecl} (hd : decl ∈ decls) :
    decls.find? (fun other => other.name = decl.name) = some decl := by
  induction decls with
  | nil => simp at hd
  | cons first decls ih =>
      rw [List.map_cons, List.nodup_cons] at h
      rcases List.mem_cons.1 hd with rfl | hd
      · simp
      · have hne : first.name ≠ decl.name := fun hn => h.1 (hn ▸ List.mem_map_of_mem hd)
        rw [List.find?_cons_of_neg (by simpa using hne)]
        exact ih h.2 hd

theorem lookup_replacements_of_find? {decls : List EntityDecl} {decl : EntityDecl} {name value : Text}
    (h : decls.find? (fun other => other.name = name) = some decl)
    (hv : decl.value? = some value) : (EntityDecl.replacements decls).lookup name = some value := by
  induction decls with
  | nil => simp at h
  | cons first decls ih =>
      rw [EntityDecl.replacements, List.filterMap_cons]
      by_cases hn : first.name = name
      · rw [List.find?_cons_of_pos (by simpa using hn)] at h
        obtain rfl := Option.some.inj h
        simp [hv, hn]
      · rw [List.find?_cons_of_neg (by simpa using hn)] at h
        have hrest := ih h
        cases hf : first.value? with
        | none => exact hrest
        | some v =>
            have hb : (name == first.name) = false := by simpa using Ne.symm hn
            simp only [Option.map_some, List.lookup_cons, hb]
            exact hrest

/-- A kept declaration with a replacement text is the one that a reader goes by. -/
theorem lookup_replacements {d : Doctype} (hd : d.entities = []) {decls : List EntityDecl}
    {decl : EntityDecl} (hm : decl ∈ (decls.foldl addEntity d).entities) {value : Text}
    (hv : decl.value? = some value) :
    (EntityDecl.replacements decls).lookup decl.name = some value := by
  refine lookup_replacements_of_find? ?_ hv
  have hn := nodup_entities_foldl_addEntity (d := d) decls (by simp [hd])
  have hf := find?_of_nodup hn hm
  have he := entity?_foldl_addEntity d decls decl.name
  rw [entity?, hf, entity?, hd] at he
  simpa using he.symm

end Doctype

/-! ### The table -/

namespace EntityTable

/-- Where a character of a table comes from. -/
def ComesFrom (decls : List EntityDecl) (c : Char) (name : Text) : Prop :=
  ∃ decl ∈ decls, decl.name = name ∧ decl.value? = some [c] ∧
    ∀ expected, Entity.predefinedChar? name = some expected → expected = c

theorem value?_of_singleChar? {decl : EntityDecl} {c : Char} (h : decl.singleChar? = some c) :
    decl.value? = some [c] := by
  rw [EntityDecl.singleChar?] at h
  split at h
  · rename_i d hd
    rw [hd, Option.some.inj h]
  · simp at h

theorem mem_of_addDecl {known known' : List (Char × Text)} {decl : EntityDecl}
    (h : addDecl known decl = .ok known') {c : Char} {name : Text} (hm : (c, name) ∈ known') :
    (c, name) ∈ known ∨ ComesFrom [decl] c name := by
  rw [addDecl] at h
  split at h
  · cases h
    exact Or.inl hm
  · rename_i d hd
    split at h
    · simp at h
    · rename_i hexp
      split at h
      · cases h
        exact Or.inl hm
      · split at h
        · cases h
          exact Or.inl hm
        · cases h
          rcases List.mem_append.1 hm with hm | hm
          · exact Or.inl hm
          · cases List.mem_singleton.1 hm
            refine Or.inr ⟨decl, by simp, rfl, value?_of_singleChar? hd, fun expected he => ?_⟩
            rw [he, Option.filter_eq_none_iff] at hexp
            simpa using hexp expected rfl

theorem comesFrom_of_foldlM {decls : List EntityDecl} {known known' : List (Char × Text)}
    (h : decls.foldlM addDecl known = .ok known') {c : Char} {name : Text}
    (hm : (c, name) ∈ known') : (c, name) ∈ known ∨ ComesFrom decls c name := by
  induction decls generalizing known with
  | nil =>
      cases h
      exact Or.inl hm
  | cons decl decls ih =>
      rw [List.foldlM_cons] at h
      cases ha : addDecl known decl with
      | error fault => simp [ha, bind, Except.bind] at h
      | ok next =>
          rw [ha] at h
          rcases ih h with hn | ⟨other, ho, hrest⟩
          · rcases mem_of_addDecl ha hn with hk | ⟨other, ho, hrest⟩
            · exact Or.inl hk
            · exact Or.inr ⟨other, by simp [List.mem_singleton.1 ho], hrest⟩
          · exact Or.inr ⟨other, by simp [ho], hrest⟩

theorem resolve_of_isName {lookup : Text → Option Text} {name : Text} (hn : Name.IsName name)
    (start : Nat) {value : Text}
    (h : ((Entity.predefinedChar? name).map fun c => [c]).or (lookup name) = some value) :
    Reference.resolve lookup start name = .ok value := by
  obtain ⟨c, rest, rfl, hc, -⟩ := hn
  rw [Reference.resolve]
  · rw [h]
  · rintro digits ⟨⟩
    exact absurd hc (by decide)

/-- An entity of a table is declared, or predefined. -/
theorem lookup?_cases {decls : List EntityDecl} {predefinedToo : Bool} {table : EntityTable}
    (h : build decls predefinedToo = .ok table) {c : Char} {name : Text}
    (hc : table.lookup? c = some name) :
    ComesFrom decls c name ∨ Entity.predefinedName? c = some name := by
  rw [build] at h
  cases hk : decls.foldlM addDecl [] with
  | error fault => simp [hk, Except.map] at h
  | ok known =>
      rw [hk] at h
      cases h
      rw [lookup?, Option.or_eq_some_iff] at hc
      rcases hc with hc | ⟨-, hc⟩
      · obtain ⟨before, after, hdecl, -⟩ := List.lookup_eq_some_iff.1 hc
        have hmem : (c, name) ∈ known := by
          rw [show known = _ from hdecl]
          simp
        exact Or.inl ((comesFrom_of_foldlM hk hmem).resolve_left List.not_mem_nil)
      · cases predefinedToo with
        | false => simp at hc
        | true => exact Or.inr hc

/-- A table that has been built from declarations can be read back, if the names are names and a
reader goes by the declarations. -/
theorem isReadable_build {decls : List EntityDecl} {predefinedToo : Bool} {table : EntityTable}
    (h : build decls predefinedToo = .ok table) {lookup : Text → Option Text}
    (hn : ∀ decl ∈ decls, Name.IsName decl.name)
    (hl : ∀ decl ∈ decls, ∀ value, decl.value? = some value → lookup decl.name = some value) :
    table.IsReadable lookup := by
  intro c name hc
  rcases lookup?_cases h hc with ⟨decl, hd, rfl, hv, hp⟩ | hc
  · refine ⟨hn decl hd, fun start => resolve_of_isName (hn decl hd) start ?_⟩
    cases he : Entity.predefinedChar? decl.name with
    | none => exact hl decl hd _ hv
    | some expected =>
        rw [hp expected he]
        rfl
  · exact ⟨Escaper.isName_predefinedName hc, Escaper.resolve_predefinedName lookup hc⟩

end EntityTable

end XmlScribe
