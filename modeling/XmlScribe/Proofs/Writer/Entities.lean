/-
**The entities that a writer uses.**

A writer refers to an entity only if it is predefined or the document type of the document declares
it.  Where that document type is written too, a reader knows all of them.

Main results:

* `Writer.exists_replacements` — what a reader of the written document type knows;
* `Writer.isSome_predefinedChar?` — when all entities that are used are predefined.
-/

import XmlScribe.Proofs.Doctype.Written
import XmlScribe.Writer.Save

set_option autoImplicit false

namespace XmlScribe

/-- The name of a predefined entity is one. -/
theorem Entity.isSome_predefinedChar?_of_predefinedName? {c : Char} {name : Text}
    (h : predefinedName? c = some name) : (predefinedChar? name).isSome = true := by
  obtain ⟨entry, he, rfl⟩ := Option.map_eq_some_iff.1 h
  have hall : ∀ entry ∈ predefined, (predefinedChar? entry.1).isSome = true := by decide
  exact hall entry (List.mem_of_find?_eq_some he)

namespace Writer

variable {W : Writer} {subsets : Subsets} {doctype : Option Doctype} {table : EntityTable}

/-- An entity that a writer uses is predefined, or declared for a single character by the document
type, if the writer uses its declarations. -/
theorem lookup?_cases (ht : W.entityTable doctype = .ok table) {c : Char} {name : Text}
    (hc : table.lookup? c = some name) :
    (Entity.predefinedChar? name).isSome = true ∨
      W.settings.declaredEntities = true ∧ ∃ d, doctype = some d ∧
        ∃ decl ∈ d.entities, decl.name = name ∧ decl.value? = some [c] := by
  rw [entityTable, Outcome.mapError_eq_ok_iff] at ht
  rcases EntityTable.lookup?_cases ht hc with ⟨decl, hd, hname, hv, -⟩ | hc
  · refine Or.inr ?_
    split at hd
    · rename_i huse
      cases doctype with
      | none => exact absurd hd List.not_mem_nil
      | some d => exact ⟨huse, d, rfl, decl, hd, hname, hv⟩
    · exact absurd hd List.not_mem_nil
  · exact Or.inl (Entity.isSome_predefinedChar?_of_predefinedName? hc)

/-- What a reader of the written document type knows: whatever the writer uses is read as it was
meant, and is predefined or declared there. -/
theorem exists_replacements (hread : ∀ d, doctype = some d → d.IsRead subsets)
    (hnames : ∀ d, doctype = some d → ∀ decl ∈ d.entities, Name.isName decl.name = true)
    (ht : W.entityTable doctype = .ok table) :
    ∃ entities : List (Text × Text), table.IsReadable (fun name => entities.lookup name) ∧
      (doctype = none → entities = []) ∧
      (∀ d, doctype = some d →
        Builder.readDoctype subsets (Doctype.written d.name d.publicId d.systemId d.subset) =
          .ok (d.withoutEmptySubset, entities)) ∧
      ∀ c name, table.lookup? c = some name → (Entity.predefinedChar? name).isSome = true ∨
        (entities.lookup name).isSome = true := by
  have hbuild := Outcome.mapError_eq_ok_iff.1 (entityTable.eq_def W doctype ▸ ht)
  cases doctype with
  | none =>
      refine ⟨[], EntityTable.isReadable_build hbuild (by simp) (by simp), fun _ => rfl, nofun,
        fun c name hc => ?_⟩
      rcases lookup?_cases ht hc with hp | ⟨-, d, hd, -⟩
      · exact Or.inl hp
      · cases hd
  | some d =>
      obtain ⟨content, entities, hd, -⟩ := hread d rfl
      have hknown : ∀ decl ∈ d.entities, ∀ value, decl.value? = some value →
          entities.lookup decl.name = some value := by
        intro decl hdecl value hvalue
        obtain ⟨header, inner, outer, -, -, -, -, rfl, rfl⟩ := Builder.readDoctype_eq_ok_iff.1 hd
        exact Doctype.lookup_replacements rfl hdecl hvalue
      have hused : ∀ decl ∈ (if W.settings.declaredEntities then
          ((some d).map Doctype.entities).getD [] else []), decl ∈ d.entities := by
        intro decl hdecl
        split at hdecl
        · exact hdecl
        · exact absurd hdecl List.not_mem_nil
      refine ⟨entities, EntityTable.isReadable_build hbuild ?_ ?_, nofun, ?_,
        fun c name hc => ?_⟩
      · exact fun decl hdecl => Name.isName_iff.1 (hnames d rfl decl (hused decl hdecl))
      · exact fun decl hdecl => hknown decl (hused decl hdecl)
      · rintro e ⟨⟩
        exact Builder.readDoctype_written hd
      · rcases lookup?_cases ht hc with hp | ⟨-, e, ⟨⟩, decl, hdecl, rfl, hv⟩
        · exact Or.inl hp
        · rw [hknown decl hdecl _ hv]
          exact Or.inr rfl

/-- All entities that are used are predefined, if the document type declares no other one for a
single character or its declarations are not used. -/
theorem isSome_predefinedChar? (ht : W.entityTable doctype = .ok table)
    (h : W.settings.declaredEntities = true → ∀ d, doctype = some d → ∀ decl ∈ d.entities,
      ∀ c, decl.value? = some [c] → (Entity.predefinedChar? decl.name).isSome = true)
    {c : Char} {name : Text} (hc : table.lookup? c = some name) :
    (Entity.predefinedChar? name).isSome = true := by
  rcases lookup?_cases ht hc with hp | ⟨huse, d, hd, decl, hdecl, rfl, hv⟩
  · exact hp
  · exact h huse d hd decl hdecl c hv

end Writer

end XmlScribe
