/-
**What an entity means to a reader and to the tree.**

A document type keeps the first declaration of every name, and a reader keeps the first replacement
text of every name.  The two are the same unless the first declaration of a name says only where the
text is kept and a later one has a text: then the document type has no text for the name, and the
reader has one.

Main definitions:

* `Doctype.declarations` — all that a document type declares, inside and outside, in order;
* `EntityDecl.IsOverridden` — a later declaration of an entity has a text that the first one lacks;
* `Builder.Replaces`, `Builder.Refuses` — what becomes of the references to an entity.

Main results:

* `EntityDecl.lookup_replacements_eq_iff` — where the reader goes by the first declaration;
* `Builder.replaces_iff`, `Builder.refuses_iff` — a reader goes by the replacement texts it has kept;
* `Builder.keepsDeclared_of_foldlM` — these are the ones that the document type declares;
* `Builder.references_agree_iff` — where a reader and the document type agree.
-/

import XmlScribe.Proofs.Doctype.Written
import XmlScribe.Proofs.Document.Resolver
import XmlScribe.Proofs.Entity.Referring
import XmlScribe.Proofs.Markup.Reading

set_option autoImplicit false

namespace XmlScribe

/-! ### Declarations -/

namespace EntityDecl

/-- The first declaration of the entity has no replacement text, but a later one has. -/
def IsOverridden (decls : List EntityDecl) (name : Text) : Prop :=
  ∃ first, decls.find? (fun decl => decl.name = name) = some first ∧ first.value? = none ∧
    ∃ later ∈ decls, later.name = name ∧ later.value?.isSome = true

theorem lookup_replacements_eq_none_iff {decls : List EntityDecl} {name : Text} :
    (replacements decls).lookup name = none ↔
      ∀ decl ∈ decls, decl.name = name → decl.value? = none := by
  simp only [List.lookup_eq_none_iff, replacements, List.mem_filterMap, Option.map_eq_some_iff]
  constructor
  · intro h decl hd hname
    by_contra hvalue
    obtain ⟨value, hvalue⟩ := Option.ne_none_iff_exists'.1 hvalue
    have := h (decl.name, value) ⟨decl, hd, value, hvalue, rfl⟩
    simp [hname] at this
  · rintro h p ⟨decl, hd, value, hvalue, rfl⟩
    have : decl.name ≠ name := fun hname => by
      rw [h decl hd hname] at hvalue
      cases hvalue
    simpa using Ne.symm this

/-- The first replacement text is that of the first declaration, unless that has none but a later one
has. -/
theorem lookup_replacements_eq_iff {decls : List EntityDecl} {name : Text} :
    (replacements decls).lookup name =
      (decls.find? fun decl => decl.name = name).bind value? ↔ ¬ IsOverridden decls name := by
  cases hf : decls.find? fun decl => decl.name = name with
  | none =>
      refine iff_of_true (lookup_replacements_eq_none_iff.2 fun decl hd hname => ?_) ?_
      · exact absurd (decide_eq_true hname) (List.find?_eq_none.1 hf decl hd)
      · rintro ⟨first, hfirst, -⟩
        rw [hf] at hfirst
        cases hfirst
  | some first =>
      rw [Option.bind_some]
      cases hv : first.value? with
      | some value =>
          refine iff_of_true (Doctype.lookup_replacements_of_find? hf hv) ?_
          rintro ⟨other, hother, hnone, -⟩
          obtain rfl := Option.some.inj (hf.symm.trans hother)
          rw [hv] at hnone
          cases hnone
      | none =>
          rw [lookup_replacements_eq_none_iff]
          constructor
          · rintro h ⟨-, -, -, later, hl, hname, hsome⟩
            rw [h later hl hname] at hsome
            cases hsome
          · intro h decl hd hname
            by_contra hvalue
            exact h ⟨first, hf, hv, decl, hd, hname, Option.isSome_iff_ne_none.2 hvalue⟩

end EntityDecl

namespace Doctype

/-- The declarations of a document type with this content: those inside, then those in the definition
outside. -/
def declarations (find : Resolver) (content : Text) : Except DoctypeFault (List EntityDecl) := do
  let header ← parse content
  let inner ← parseEntities (header.subset.getD [])
  let outer ← (header.systemId.bind (find header.publicId)).elim (.ok []) parseEntities
  return inner ++ outer

/-- A document type that is read keeps these declarations, the first of every name; a reader keeps
their replacement texts. -/
theorem declarations_of_readDoctype {find : Resolver} {content : Text} {d : Doctype}
    {entities : List (Text × Text)}
    (h : Builder.readDoctype (find.answers content) content = .ok (d, entities)) :
    ∃ decls, declarations find content = .ok decls ∧
      (∀ name, d.entity? name = decls.find? fun decl => decl.name = name) ∧
      entities = EntityDecl.replacements decls := by
  obtain ⟨header, inner, outer, hh, -, hi, ho, rfl, rfl⟩ := Builder.readDoctype_eq_ok_iff.1 h
  refine ⟨inner ++ outer, ?_, fun name => ?_, rfl⟩
  · have hout : (header.systemId.bind (find header.publicId)).elim (.ok []) parseEntities =
        .ok outer := by
      rw [Builder.outerDecls, Resolver.resolve?_answers find hh] at ho
      cases hfound : header.systemId.bind (find header.publicId) with
      | none =>
          simp only [hfound] at ho
          exact congrArg _ (Outcome.pure_eq_ok_iff.1 ho)
      | some subset =>
          simp only [hfound] at ho
          exact Outcome.mapError_eq_ok_iff.1 ho
    rw [declarations, Outcome.bind_of_eq_ok hh, Outcome.bind_of_eq_ok hi, Outcome.bind_of_eq_ok hout]
    rfl
  · rw [entity?_foldl_addEntity]
    rfl

end Doctype

/-! ### References -/

/-- A reference to an entity of this name can be written: the name does not end it and is not taken
for a number, and no white space in it becomes a space. -/
structure Entity.IsReferable (name : Text) : Prop where
  /-- There is no semicolon. -/
  semicolon : ';' ∉ name
  /-- There is no ampersand. -/
  ampersand : '&' ∉ name
  /-- There is no number sign in front. -/
  number : name.head? ≠ some '#'
  /-- There is no white space. -/
  isBlank : ∀ c ∈ name, Text.isBlank c = false

/-- Names can be written so. -/
theorem Entity.isReferable_of_isName {name : Text} (h : Name.IsName name) : IsReferable name where
  semicolon := Name.not_mem_of_isName h (by decide)
  ampersand := Name.not_mem_of_isName h (by decide)
  number hhead := Name.not_mem_of_isName h (by decide) (List.mem_of_mem_head? hhead)
  isBlank c hc := Name.isBlank_of_isNameChar (Name.isNameChar_of_mem h hc)

namespace Reference

variable {lookup : Text → Option Text} {name : Text}

/-- An entity that is not predefined stands for what it is declared to. -/
theorem resolve_of_not_predefined (hn : Entity.IsReferable name)
    (hp : Entity.predefinedChar? name = none) (start : Nat) :
    resolve lookup start name =
      match lookup name with
      | some value => .ok value
      | none => .error (.unknownEntity start (start + Text.utf8Size name) name) := by
  rw [resolve, hp]
  · rfl
  · rintro digits rfl
    exact hn.number rfl

end Reference

namespace Builder

/-- What is done to a raw text before its references are replaced: nothing in content; in the value of
an attribute white space becomes spaces. -/
def preparations : List (Text → Text) := [id, normalizeValue]

/-- In content and in values a reference to the entity is replaced by the text, whatever stands before
and after it. -/
def Replaces (b : Builder) (name value : Text) : Prop :=
  ∀ prepare ∈ preparations, ∀ before after data,
    b.expand (prepare (before ++ Escaper.entityReference name ++ after)) = .ok data ↔
      ∃ first last, b.expand (prepare before) = .ok first ∧ b.expand (prepare after) = .ok last ∧
        data = first ++ value ++ last

/-- In content and in values a reference to the entity is refused, whatever stands before and after
it; it is the fault unless there is one before it. -/
def Refuses (b : Builder) (name : Text) : Prop :=
  ∀ prepare ∈ preparations, ∀ before after,
    (∀ data, b.expand (prepare (before ++ Escaper.entityReference name ++ after)) ≠ .ok data) ∧
    ∀ first, b.expand (prepare before) = .ok first →
      b.expand (prepare (before ++ Escaper.entityReference name ++ after)) =
        .error (.markup (.reference (.unknownEntity (Text.utf8Size (prepare before) + 1)
          (Text.utf8Size (prepare before) + 1 + Text.utf8Size name) name)))

variable {b : Builder} {name value : Text}

/-- A reference stays as it is. -/
theorem prepare_around (hn : Entity.IsReferable name) {prepare : Text → Text}
    (h : prepare ∈ preparations) (before after : Text) :
    prepare (before ++ Escaper.entityReference name ++ after) =
      prepare before ++ Escaper.entityReference name ++ prepare after := by
  rcases List.mem_pair.1 h with rfl | rfl
  · rfl
  · have hname : normalizeValue (Escaper.entityReference name) = Escaper.entityReference name := by
      have hblank : ∀ d, Text.isBlank d = true → d ∉ name := fun d hd hm =>
        absurd hd (by simp [hn.isBlank d hm])
      refine normalizeValue_eq_self fun d hd => ?_
      simp only [List.mem_cons, List.not_mem_nil, or_false] at hd
      rcases hd with rfl | rfl | rfl <;>
        simpa [Escaper.entityReference] using hblank _ rfl
    rw [normalizeValue, List.map_append, List.map_append]
    exact congrArg (normalizeValue before ++ · ++ normalizeValue after) hname

theorem expand_eq_ok_iff {raw data : Text} :
    b.expand raw = .ok data ↔ Reference.expand b.replacements raw = .ok data :=
  Outcome.mapError_eq_ok_iff

/-- An entity that a reader has a text for is replaced by it. -/
theorem replaces_of_eq_some (hn : Entity.IsReferable name)
    (hp : Entity.predefinedChar? name = none) (h : b.replacements name = some value) :
    b.Replaces name value := by
  intro prepare hprepare before after data
  simp only [prepare_around hn hprepare, expand_eq_ok_iff]
  rw [Reference.expand_around_eq_ok_iff hn.semicolon]
  have hresolve : ∀ start, Reference.resolve b.replacements start name = .ok value := fun start => by
    rw [Reference.resolve_of_not_predefined hn hp, h]
  constructor
  · rintro ⟨first, value', last, hfirst, -, hvalue, hlast, rfl⟩
    obtain rfl := Except.ok.inj ((hvalue 0).symm.trans (hresolve 0))
    exact ⟨first, last, hfirst, hlast, rfl⟩
  · rintro ⟨first, last, hfirst, hlast, rfl⟩
    exact ⟨first, value, last, hfirst, hn.ampersand, hresolve, hlast, rfl⟩

/-- An entity that a reader has no text for is refused. -/
theorem refuses_of_eq_none (hn : Entity.IsReferable name)
    (hp : Entity.predefinedChar? name = none) (h : b.replacements name = none) :
    b.Refuses name := by
  intro prepare hprepare before after
  have hresolve : ∀ start, Reference.resolve b.replacements start name =
      .error (.unknownEntity start (start + Text.utf8Size name) name) := fun start => by
    rw [Reference.resolve_of_not_predefined hn hp, h]
  rw [prepare_around hn hprepare]
  constructor
  · intro data hdata
    obtain ⟨first, value, last, -, -, hvalue, -, -⟩ :=
      (Reference.expand_around_eq_ok_iff hn.semicolon).1 (expand_eq_ok_iff.1 hdata)
    cases (hresolve 0).symm.trans (hvalue 0)
  · intro first hfirst
    have hfault : Reference.expand b.replacements
        (prepare before ++ Escaper.entityReference name ++ prepare after) = .error _ :=
      Reference.expand_of_unresolved hn.semicolon hn.ampersand (expand_eq_ok_iff.1 hfirst) (hresolve _)
    rw [expand, show (fun name => b.entities.lookup name) = b.replacements from rfl, hfault]
    rfl

/-- A reference by itself is replaced by the text. -/
theorem Replaces.expand_entityReference (h : b.Replaces name value) :
    b.expand (Escaper.entityReference name) = .ok value := by
  have hiff := h id (by simp [preparations]) [] [] value
  rw [List.nil_append, List.append_nil] at hiff
  exact hiff.2 ⟨[], [], rfl, rfl, by simp⟩

theorem Refuses.expand_entityReference_ne (h : b.Refuses name) :
    b.expand (Escaper.entityReference name) ≠ .ok value := by
  have hne := (h id (by simp [preparations]) [] []).1 value
  rwa [List.nil_append, List.append_nil] at hne

/-- A reader replaces exactly the entities that it has a text for. -/
theorem replaces_iff (hn : Entity.IsReferable name) (hp : Entity.predefinedChar? name = none) :
    b.Replaces name value ↔ b.replacements name = some value := by
  refine ⟨fun h => ?_, replaces_of_eq_some hn hp⟩
  cases hvalue : b.replacements name with
  | none =>
      exact absurd h.expand_entityReference
        (refuses_of_eq_none hn hp hvalue).expand_entityReference_ne
  | some other =>
      have hother := (replaces_of_eq_some hn hp hvalue).expand_entityReference
      exact congrArg some (Except.ok.inj (hother.symm.trans h.expand_entityReference))

/-- And it refuses exactly the others. -/
theorem refuses_iff (hn : Entity.IsReferable name) (hp : Entity.predefinedChar? name = none) :
    b.Refuses name ↔ b.replacements name = none := by
  refine ⟨fun h => ?_, refuses_of_eq_none hn hp⟩
  by_contra hvalue
  obtain ⟨value, hvalue⟩ := Option.ne_none_iff_exists'.1 hvalue
  exact h.expand_entityReference_ne (replaces_of_eq_some hn hp hvalue).expand_entityReference

/-! ### What a reader keeps -/

theorem entities_push (b : Builder) (item : Item) : (b.push item).entities = b.entities := by
  rw [push]
  split <;> rfl

theorem entities_append {b b' : Builder} {item : Item} (h : b.append item = .ok b') :
    b'.entities = b.entities := by
  obtain ⟨-, rfl⟩ := append_eq_ok_iff.1 h
  exact b.entities_push item

/-- Nothing but a document type declares entities. -/
theorem entities_step {subsets : Subsets} {b b' : Builder} {event : Event}
    (hne : ∀ content, event ≠ .doctype content) (h : step subsets b event = .ok b') :
    b'.entities = b.entities := by
  cases stepsTo_of_step h with
  | stays => rfl
  | declares _ => rfl
  | types _ _ => exact absurd rfl (hne _)
  | opens _ => rfl
  | empties _ => exact b.entities_push _
  | @closes _ e outer _ => exact entities_push { b with opened := outer } (close e)
  | text _ _ ha => exact entities_append ha
  | cdata ha => exact entities_append ha
  | comment ha => exact entities_append ha
  | instruction _ ha => exact entities_append ha

/-- The document type with this content has been read: the tree keeps the first declaration of every
name, and the reader keeps the replacement texts. -/
structure KeepsDeclared (find : Resolver) (b : Builder) (content : Text) (d : Doctype)
    (decls : List EntityDecl) : Prop where
  /-- The document type is in the tree. -/
  mem : Item.doctype d ∈ b.content
  /-- These are the declarations. -/
  declarations : Doctype.declarations find content = .ok decls
  /-- The tree keeps the first one of every name. -/
  entity? : ∀ name, d.entity? name = decls.find? fun decl => decl.name = name
  /-- The reader keeps the replacement texts. -/
  entities : b.entities = EntityDecl.replacements decls

variable {find : Resolver} {b' : Builder} {content : Text}

/-- A document type is read where nothing has been declared before. -/
theorem exists_keepsDeclared_of_step (hb : b.entities = [])
    (h : stepWith find b (.doctype content) = .ok b') :
    ∃ d decls, KeepsDeclared find b' content d decls := by
  obtain ⟨⟨d, entities⟩, hread, ha⟩ := Outcome.bind_eq_ok_iff.1 h
  obtain ⟨decls, hdecls, hentity, rfl⟩ := Doctype.declarations_of_readDoctype hread
  have hentities := entities_append ha
  obtain ⟨hplace, rfl⟩ := append_eq_ok_iff.1 ha
  refine ⟨d, decls, ?_, hdecls, hentity, by rw [hentities, hb, List.nil_append]⟩
  cases ho : b.opened with
  | cons e outer =>
      exact absurd (checkPlace_opened ho hplace) (by simp [typeOf, NodeType.mayHold])
  | nil =>
      simp only [push]
      exact List.mem_cons_self

/-- Later events take nothing of that away. -/
theorem KeepsDeclared.step {d : Doctype} {decls : List EntityDecl}
    (h : KeepsDeclared find b content d decls) {subsets : Subsets} {event : Event}
    (hne : ∀ content, event ≠ .doctype content) (hstep : step subsets b event = .ok b') :
    KeepsDeclared find b' content d decls :=
  ⟨(suffix_step hstep).subset h.mem, h.declarations, h.entity?,
    (entities_step hne hstep).trans h.entities⟩

/-- After all events either nothing is declared, or what the only document type declares. -/
theorem keepsDeclared_of_foldlM {events : List Event}
    (h : events.foldlM (stepWith find) .start = .ok b) :
    (b.entities = [] ∧ ∀ content, Event.doctype content ∉ events) ∨
      ∃ content d decls, KeepsDeclared find b content d decls ∧
        ∀ other, Event.doctype other ∈ events → other = content := by
  refine Outcome.foldlM_invariant (I := fun seen b =>
    (b.entities = [] ∧ ∀ content, Event.doctype content ∉ seen) ∨
      ∃ content d decls, KeepsDeclared find b content d decls ∧
        ∀ other, Event.doctype other ∈ seen → other = content)
    (fun seen event b b' _ hI hstep => ?_) (.inl ⟨rfl, fun _ => List.not_mem_nil⟩) h
  by_cases hdoctype : ∃ content, event = .doctype content
  · obtain ⟨content, rfl⟩ := hdoctype
    rcases hI with ⟨hentities, hnone⟩ | ⟨_, d, _, hkeeps, -⟩
    · obtain ⟨d, decls, hkeeps⟩ := exists_keepsDeclared_of_step hentities hstep
      refine .inr ⟨content, d, decls, hkeeps, fun other ho => ?_⟩
      rcases List.mem_append.1 ho with ho | ho
      · exact absurd ho (hnone other)
      · exact Event.doctype.inj (List.mem_singleton.1 ho)
    · -- a second document type would have been refused
      have hnone := (doctype_of_step hstep).1 _ hkeeps.mem
      cases hnone
  · have hne : ∀ content, event ≠ .doctype content := fun content he => hdoctype ⟨content, he⟩
    have hstep : step .none b event = .ok b' := by
      cases event with
      | doctype content => exact absurd rfl (hne content)
      | _ => exact hstep
    have hmem : ∀ other, Event.doctype other ∈ seen ++ [event] → Event.doctype other ∈ seen := by
      intro other ho
      exact (List.mem_append.1 ho).resolve_right fun ho => hne other (List.mem_singleton.1 ho).symm
    rcases hI with ⟨hentities, hnone⟩ | ⟨content, d, decls, hkeeps, honly⟩
    · exact .inl ⟨(entities_step hne hstep).trans hentities,
        fun content ho => hnone content (hmem content ho)⟩
    · exact .inr ⟨content, d, decls, hkeeps.step hne hstep, fun other ho => honly other (hmem other ho)⟩

/-- Once a document type has been read, references in content and in the values of attributes are
replaced by what the document type has for their entities, and refused where it has nothing, exactly for
those entities that no later declaration gives a text that the first one lacks. -/
theorem references_agree_iff {events : List Event}
    (h : events.foldlM (stepWith find) .start = .ok b) (hc : Event.doctype content ∈ events) :
    ∃ d decls, Item.doctype d ∈ b.content ∧ Doctype.declarations find content = .ok decls ∧
      ∀ name, Entity.IsReferable name → Entity.predefinedChar? name = none →
        (((∀ value, b.Replaces name value ↔ (d.entity? name).bind EntityDecl.value? = some value) ∧
            ((d.entity? name).bind EntityDecl.value? = none → b.Refuses name)) ↔
          ¬ EntityDecl.IsOverridden decls name) := by
  rcases keepsDeclared_of_foldlM h with ⟨-, hnone⟩ | ⟨_, d, decls, hkeeps, honly⟩
  · exact absurd hc (hnone content)
  · obtain rfl := honly content hc
    refine ⟨d, decls, hkeeps.mem, hkeeps.declarations, fun name hn hp => ?_⟩
    have hreplacements : b.replacements name = (EntityDecl.replacements decls).lookup name :=
      congrArg (·.lookup name) hkeeps.entities
    simp only [replaces_iff hn hp, refuses_iff hn hp, hkeeps.entity?, hreplacements]
    rw [← EntityDecl.lookup_replacements_eq_iff]
    exact ⟨fun h => Option.ext h.1, fun h => ⟨fun value => by rw [h], fun hnone => h.trans hnone⟩⟩

/-! ### Two declarations of one entity -/

/-- A document type that declares an entity, with a definition outside that declares it again, and
another one. -/
def twiceContent : Text :=
  "a SYSTEM \"x\" [<!ENTITY e \"v\">]".toList

/-- The definition outside. -/
def twiceResolver : Resolver := fun _ _ =>
  some "<!ENTITY e \"w\"><!ENTITY f \"z\">".toList

/-- What has been read then. -/
def twiceBuilder : Builder :=
  ⟨.none, [(['e'], ['v']), (['e'], ['w']), (['f'], ['z'])], [],
    [.doctype ⟨['a'], none, some ['x'], some "<!ENTITY e \"v\">".toList,
      [⟨['e'], .internal ['v']⟩, ⟨['f'], .internal ['z']⟩]⟩]⟩

theorem foldlM_twiceContent :
    [Event.doctype twiceContent].foldlM (stepWith twiceResolver) .start = .ok twiceBuilder := by
  with_unfolding_all rfl

/-- All that is declared. -/
def twiceDecls : List EntityDecl :=
  [⟨['e'], .internal ['v']⟩, ⟨['e'], .internal ['w']⟩, ⟨['f'], .internal ['z']⟩]

theorem declarations_twiceContent :
    Doctype.declarations twiceResolver twiceContent = .ok twiceDecls := by
  with_unfolding_all rfl

theorem not_isOverridden_twiceDecls (name : Text) : ¬ EntityDecl.IsOverridden twiceDecls name := by
  rintro ⟨first, hfirst, hnone, -⟩
  have hm := List.mem_of_find?_eq_some hfirst
  simp only [twiceDecls, List.mem_cons, List.not_mem_nil, or_false] at hm
  rcases hm with rfl | rfl | rfl <;> cases hnone

theorem references_agree_twiceContent :
    twiceBuilder.Replaces ['e'] ['v'] ∧ twiceBuilder.Replaces ['f'] ['z'] ∧
      twiceBuilder.Refuses ['g'] := by
  obtain ⟨d, decls, hd, hdecls, hagree⟩ :=
    references_agree_iff foldlM_twiceContent (List.mem_singleton_self _)
  obtain rfl := Item.doctype.inj (List.mem_singleton.1 hd)
  obtain rfl := Except.ok.inj (declarations_twiceContent.symm.trans hdecls)
  have hname : ∀ c : Char, Name.isName [c] = true → Entity.IsReferable [c] := fun c hc =>
    Entity.isReferable_of_isName (Name.isName_iff.1 hc)
  have he := (hagree ['e'] (hname 'e' rfl) rfl).2
    (not_isOverridden_twiceDecls _)
  have hf := (hagree ['f'] (hname 'f' rfl) rfl).2
    (not_isOverridden_twiceDecls _)
  have hg := (hagree ['g'] (hname 'g' rfl) rfl).2
    (not_isOverridden_twiceDecls _)
  exact ⟨(he.1 _).2 rfl, (hf.1 _).2 rfl, hg.2 rfl⟩

/-- A document type that says where the text of an entity is kept, and then what it is. -/
def overriddenText : Text :=
  "<!DOCTYPE a [<!ENTITY e SYSTEM \"x\"><!ENTITY e \"v\">]><a>&e;</a>".toList

/-- The document type that is read. -/
def overriddenDoctype : Doctype :=
  ⟨['a'], none, none, some "<!ENTITY e SYSTEM \"x\"><!ENTITY e \"v\">".toList,
    [⟨['e'], .external none ['x']⟩]⟩

/-- The reference is replaced by the second declaration, although the document type keeps the first
one, which has no text. -/
theorem parse_overriddenText :
    Document.parse .none overriddenText =
        .ok ⟨.none, [.doctype overriddenDoctype, .element ⟨none, none, ['a']⟩ [] [.text ['v']]]⟩ ∧
      Entity.predefinedChar? ['e'] = none ∧
      overriddenDoctype.entity? ['e'] = some ⟨['e'], .external none ['x']⟩ ∧
      (overriddenDoctype.entity? ['e']).bind EntityDecl.value? = none :=
  ⟨by with_unfolding_all rfl, rfl, rfl, rfl⟩

end Builder

end XmlScribe
