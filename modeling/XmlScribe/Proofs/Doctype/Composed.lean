/-
**Definitions one after the other.**

A definition is read item by item.  An item that has been read to its end ends there whatever comes
after it: its last mark is found before anything that follows, and a keyword that does not stand at
its beginning cannot arise where it ends.  Only stray text has no end of its own; it goes on with
whatever stray text follows, and says nothing either way.  So two definitions, one after the other,
declare what the first one declares and then what the second one declares, and comments and
processing instructions between them make no difference.

Main results:

* `Doctype.takeLiteral_followed`, `Doctype.skipMarkup_followed`, `Doctype.takeItem_followed` and the
  like — what is read to its end is read the same whatever follows;
* `Doctype.parseEntities_dropWhile` — stray text says nothing;
* `Doctype.parseEntities_append` — what comes first declares the same whatever follows;
* `Doctype.parseEntities_composed` — the declarations of two definitions, with comments and
  processing instructions between them.
-/

import Mathlib.Data.List.DropRight
import XmlScribe.Doctype.Entities
import XmlScribe.Proofs.Outcome
import XmlScribe.Proofs.Text.Occurrence

set_option autoImplicit false

namespace XmlScribe

namespace Text

/-! ### Texts and what follows them -/

theorem trimStart_append {s : Text} (h : trimStart s ≠ []) (t : Text) :
    trimStart (s ++ t) = trimStart s ++ t := by
  have hne : (s.dropWhile isBlank).isEmpty = false := List.isEmpty_eq_false_iff.2 h
  rw [trimStart, List.dropWhile_append, hne, if_neg (by decide)]
  rfl

theorem trimStart_append_of_eq_nil {s : Text} (h : trimStart s = []) (t : Text) :
    trimStart (s ++ t) = trimStart t := by
  have hnil : (s.dropWhile isBlank).isEmpty = true := List.isEmpty_iff.2 h
  rw [trimStart, List.dropWhile_append, hnil, if_pos rfl]
  rfl

theorem trimStart_trimStart (s : Text) : trimStart (trimStart s) = trimStart s :=
  List.dropWhile_idempotent isBlank s

theorem after?_append_of_eq_some {lead s rest : Text} (h : after? lead s = some rest) (t : Text) :
    after? lead (s ++ t) = some (rest ++ t) := by
  rw [after?_eq_some_iff] at h ⊢
  rw [h, List.append_assoc]

/-- A beginning does not arise where two texts meet, if the first has a character that the beginning
lacks. -/
theorem after?_append_of_eq_none {lead s : Text} {c : Char} (h : after? lead s = none) (hc : c ∈ s)
    (hl : c ∉ lead) (t : Text) : after? lead (s ++ t) = none := by
  rw [after?_eq_none_iff] at h ⊢
  intro hp
  rcases List.prefix_or_prefix_of_prefix hp (List.prefix_append s t) with hlead | hs
  · exact h hlead
  · exact hl (hs.subset hc)

end Text

namespace Doctype

/-! ### What is read whatever follows -/

/-- A literal ends at its mark. -/
theorem takeLiteral_followed {s : Text} {r : Text × Text} (h : takeLiteral s = .ok r) (t : Text) :
    takeLiteral (s ++ t) = .ok (r.1, r.2 ++ t) := by
  obtain ⟨c, u, rfl, hquote, hcut⟩ := takeLiteral_cases h
  rw [List.cons_append, takeLiteral, if_pos hquote, Text.cutAt_append t hcut]

theorem takeLiteral_ne_nil {s : Text} {r : Text × Text} (h : takeLiteral s = .ok r) : s ≠ [] := by
  obtain ⟨c, t, rfl, -, -⟩ := takeLiteral_cases h
  exact List.cons_ne_nil c t

/-- A name ends before the character after it. -/
theorem takeName_followed {s : Text} {r : Text × Text} (h : takeName s = .ok r) (hne : r.2 ≠ [])
    (t : Text) : takeName (s ++ t) = .ok (r.1, r.2 ++ t) := by
  rw [takeName] at h
  split at h
  · cases h
  · rename_i hhead
    obtain rfl := Except.ok.inj h
    have hs : s ≠ [] := by
      rintro rfl
      exact hhead rfl
    have hhead' : ¬ (s ++ t).head?.all endsName = true := by
      rwa [List.head?_append_of_ne_nil s hs]
    have hdrop : (s.dropWhile (!endsName ·)).isEmpty = false := List.isEmpty_eq_false_iff.2 hne
    -- the name is shorter than the text, so it does not reach what follows
    have htake : (s.takeWhile (!endsName ·)).length ≠ s.length := by
      intro hlen
      have hself : s.takeWhile (!endsName ·) = s := List.IsPrefix.eq_of_length
        (List.takeWhile_prefix _) hlen
      exact hne (List.dropWhile_eq_nil_iff.2 (List.takeWhile_eq_self_iff.1 hself))
    rw [takeName, if_neg hhead', List.takeWhile_append, if_neg htake, List.dropWhile_append, hdrop,
      if_neg (by decide)]

/-- There is a mark that closes what is skipped. -/
theorem mem_of_skipToClose {quote : Option Char} {s rest : Text}
    (h : skipToClose quote s = .ok rest) : '>' ∈ s := by
  induction s generalizing quote with
  | nil => cases quote <;> cases h
  | cons c s ih =>
      cases quote with
      | none =>
          rw [skipToClose] at h
          split at h
          · rename_i hc
            exact hc ▸ List.mem_cons_self
          · split at h
            · exact List.mem_cons_of_mem c (ih h)
            · exact List.mem_cons_of_mem c (ih h)
      | some q =>
          rw [skipToClose] at h
          split at h
          · exact List.mem_cons_of_mem c (ih h)
          · exact List.mem_cons_of_mem c (ih h)

theorem skipToClose_followed {quote : Option Char} {s rest : Text}
    (h : skipToClose quote s = .ok rest) (t : Text) :
    skipToClose quote (s ++ t) = .ok (rest ++ t) := by
  induction s generalizing quote with
  | nil => cases quote <;> cases h
  | cons c s ih =>
      cases quote with
      | none =>
          rw [skipToClose] at h
          rw [List.cons_append, skipToClose]
          split at h
          · rename_i hc
            rw [if_pos hc, Except.ok.inj h]
          · rename_i hc
            rw [if_neg hc]
            split at h
            · rename_i hq
              rw [if_pos hq]
              exact ih h
            · rename_i hq
              rw [if_neg hq]
              exact ih h
      | some q =>
          rw [skipToClose] at h
          rw [List.cons_append, skipToClose]
          split at h
          · rename_i hc
            rw [if_pos hc]
            exact ih h
          · rename_i hc
            rw [if_neg hc]
            exact ih h

/-- What is skipped has the last mark of a declaration, a comment or a processing instruction. -/
theorem mem_of_skipMarkup {s rest : Text} (h : skipMarkup s = .ok rest) : '>' ∈ s := by
  rcases skipMarkup_eq_ok_iff.1 h with ⟨t, data, ht, hc⟩ | ⟨t, data, ht, hc⟩ | ⟨-, -, h⟩
  · rw [Text.after?_eq_some_iff.1 ht, Text.eq_of_cutAt hc]
    simp
  · rw [Text.after?_eq_some_iff.1 ht, Text.eq_of_cutAt hc]
    simp
  · exact mem_of_skipToClose h

/-- A declaration, a comment or a processing instruction ends at its last mark, and its first marks
do not arise from what follows. -/
theorem skipMarkup_followed {s rest : Text} (h : skipMarkup s = .ok rest) (t : Text) :
    skipMarkup (s ++ t) = .ok (rest ++ t) := by
  have hclose := mem_of_skipMarkup h
  rw [skipMarkup_eq_ok_iff] at h ⊢
  rcases h with ⟨u, data, hu, hcut⟩ | ⟨u, data, hu, hcut⟩ | ⟨hcomment, hinstruction, h⟩
  · exact .inl ⟨u ++ t, data, Text.after?_append_of_eq_some hu t, Text.cutAt_append t hcut⟩
  · exact .inr (.inl ⟨u ++ t, data, Text.after?_append_of_eq_some hu t, Text.cutAt_append t hcut⟩)
  · exact .inr (.inr ⟨Text.after?_append_of_eq_none hcomment hclose (by decide) t,
      Text.after?_append_of_eq_none hinstruction hclose (by decide) t, skipToClose_followed h t⟩)

/-- Where a literal begins, no keyword does. -/
theorem takeExternalId_of_takeLiteral {s : Text} {r : Text × Text} (h : takeLiteral s = .ok r) :
    takeExternalId s = .ok (none, s) := by
  obtain ⟨c, t, rfl, hquote, -⟩ := takeLiteral_cases h
  rcases hquote with rfl | rfl
  · rfl
  · rfl

/-- Identifiers end with a literal. -/
theorem takeExternalId_followed {s rest : Text} {id : ExternalId}
    (h : takeExternalId s = .ok (some id, rest)) (t : Text) :
    takeExternalId (s ++ t) = .ok (some id, rest ++ t) := by
  rcases takeExternalId_cases h with ⟨u, sys, hu, hsys, hid⟩ | ⟨u, pub, v, sys, hu, hpub, hsys, hid⟩ |
      hnone
  · obtain rfl := Option.some.inj hid
    rw [takeExternalId, Text.after?_append_of_eq_some hu]
    simp only [Text.trimStart_append (takeLiteral_ne_nil hsys), takeLiteral_followed hsys]
    rfl
  · obtain rfl := Option.some.inj hid
    have hsystem : Text.after? "SYSTEM".toList (s ++ t) = none := by
      rw [Text.after?_eq_some_iff.1 hu]
      rfl
    rw [takeExternalId, hsystem]
    simp only [Text.after?_append_of_eq_some hu, Text.trimStart_append (takeLiteral_ne_nil hpub),
      takeLiteral_followed hpub, Text.trimStart_append (takeLiteral_ne_nil hsys),
      takeLiteral_followed hsys, bind, Except.bind]
    rfl
  · cases hnone

/-- What a declaration says about its entity ends with a literal. -/
theorem takeEntityBody_followed {s : Text} {r : EntityBody × Text} (h : takeEntityBody s = .ok r)
    (t : Text) : takeEntityBody (s ++ t) = .ok (r.1, r.2 ++ t) := by
  obtain ⟨⟨id, u⟩, hid, h⟩ := Outcome.bind_eq_ok_iff.1 h
  cases id with
  | some id =>
      obtain rfl := Except.ok.inj h
      rw [takeEntityBody, takeExternalId_followed hid]
      rfl
  | none =>
      obtain ⟨⟨literal, rest⟩, hliteral, h⟩ := Outcome.bind_eq_ok_iff.1 h
      obtain ⟨value, hvalue, h⟩ := Outcome.bind_eq_ok_iff.1 h
      obtain rfl := Except.ok.inj h
      -- no keyword has been taken, so the literal stands at the beginning
      obtain rfl : s = u := by
        rcases takeExternalId_cases hid with ⟨_, _, _, _, hsome⟩ | ⟨_, _, _, _, _, _, _, hsome⟩ | hnone
        · cases hsome
        · cases hsome
        · exact (congrArg Prod.snd hnone).symm
      have hliteral' := takeLiteral_followed hliteral t
      rw [takeEntityBody, takeExternalId_of_takeLiteral hliteral']
      show (takeLiteral (s ++ t) >>= _) = _
      rw [hliteral']
      show (expandCharRefs literal >>= _) = _
      rw [hvalue]
      rfl

theorem takeEntityBody_ne_nil {s : Text} {r : EntityBody × Text} (h : takeEntityBody s = .ok r) :
    s ≠ [] := by
  rintro rfl
  cases h

/-- A general entity is declared by a name, which says nothing of `%`, and what is said about it. -/
theorem takeEntityDecl_eq_ok {s name u v rest : Text} {body : EntityBody}
    (hblank : s.head?.any Text.isBlank = true)
    (hname : takeName (Text.trimStart s) = .ok (name, u))
    (hbody : takeEntityBody (Text.trimStart u) = .ok (body, v)) (hrest : skipMarkup v = .ok rest) :
    takeEntityDecl s = .ok (some ⟨name, body⟩, rest) := by
  rw [takeEntityDecl, hblank, if_neg (by decide)]
  split
  · rename_i w hw
    rw [hw] at hname
    cases hname
  · rw [hname]
    show (takeEntityBody (Text.trimStart u) >>= _) = _
    rw [hbody]
    show (skipMarkup v >>= _) = _
    rw [hrest]
    rfl

/-- The declaration of an entity ends at its last mark. -/
theorem takeEntityDecl_followed {s : Text} {r : Option EntityDecl × Text}
    (h : takeEntityDecl s = .ok r) (t : Text) : takeEntityDecl (s ++ t) = .ok (r.1, r.2 ++ t) := by
  rw [takeEntityDecl] at h
  split at h
  · cases h
  · rename_i hblank
    have hs : s ≠ [] := by
      rintro rfl
      exact hblank rfl
    have hblank' : ¬ (!(s ++ t).head?.any Text.isBlank) = true := by
      rwa [List.head?_append_of_ne_nil s hs]
    split at h
    · rename_i u hu
      obtain ⟨rest, hrest, rfl⟩ := Outcome.map_eq_ok_iff.1 h
      have htrim : Text.trimStart (s ++ t) = '%' :: (u ++ t) := by
        rw [Text.trimStart_append (by rw [hu]; exact List.cons_ne_nil _ _), hu, List.cons_append]
      rw [takeEntityDecl, if_neg hblank', htrim]
      simp only [skipMarkup_followed hrest]
      rfl
    · rename_i hpercent
      obtain ⟨⟨name, u⟩, hname, h⟩ := Outcome.bind_eq_ok_iff.1 h
      obtain ⟨⟨body, v⟩, hbody, h⟩ := Outcome.bind_eq_ok_iff.1 h
      obtain ⟨rest, hrest, h⟩ := Outcome.bind_eq_ok_iff.1 h
      obtain rfl := Except.ok.inj h
      have hu : Text.trimStart u ≠ [] := takeEntityBody_ne_nil hbody
      have hune : u ≠ [] := by
        rintro rfl
        exact hu rfl
      have htrim : Text.trimStart s ≠ [] := by
        intro he
        rw [he] at hname
        cases hname
      have hname' : takeName (Text.trimStart (s ++ t)) = .ok (name, u ++ t) := by
        rw [Text.trimStart_append htrim]
        exact takeName_followed hname hune t
      have hbody' : takeEntityBody (Text.trimStart (u ++ t)) = .ok (body, v ++ t) := by
        rw [Text.trimStart_append hu]
        exact takeEntityBody_followed hbody t
      exact takeEntityDecl_eq_ok (by simpa using hblank') hname' hbody' (skipMarkup_followed hrest t)

/-- An item that begins with `<` ends before whatever follows. -/
theorem takeItem_followed {s : Text} {r : Option EntityDecl × Text} (hs : s.head? = some '<')
    (h : takeItem s = .ok r) (t : Text) : takeItem (s ++ t) = .ok (r.1, r.2 ++ t) := by
  have hhead : (s ++ t).head? = some '<' := by
    rw [List.head?_append, hs]
    rfl
  rw [takeItem] at h
  split at h
  · rename_i u hu
    rw [takeItem, Text.after?_append_of_eq_some hu]
    exact takeEntityDecl_followed h t
  · rename_i hkeyword
    rw [if_pos hs] at h
    obtain ⟨rest, hrest, rfl⟩ := Outcome.map_eq_ok_iff.1 h
    -- what is skipped ends with a mark that the keyword lacks
    have hclose := mem_of_skipMarkup hrest
    rw [takeItem, Text.after?_append_of_eq_none hkeyword hclose (by decide)]
    simp only [if_pos hhead, skipMarkup_followed hrest]
    rfl

/-! ### Definitions -/

theorem map_nil_append (x : Except DoctypeFault (List EntityDecl)) : x.map ([] ++ ·) = x := by
  cases x <;> rfl

theorem map_append_map (x : Except DoctypeFault (List EntityDecl)) (k l : List EntityDecl) :
    (x.map (l ++ ·)).map (k ++ ·) = x.map (k ++ l ++ ·) := by
  cases x with
  | error fault => rfl
  | ok others => exact congrArg Except.ok (List.append_assoc k l others).symm

theorem parseEntities_of_eq_nil {s : Text} (h : Text.trimStart s = []) :
    parseEntities s = .ok [] := by
  rw [parseEntities, dif_pos h]

theorem parseEntities_of_takeItem {s rest : Text} {decl : Option EntityDecl}
    (hs : Text.trimStart s ≠ []) (h : takeItem (Text.trimStart s) = .ok (decl, rest)) :
    parseEntities s = (parseEntities rest).map (decl.toList ++ ·) := by
  rw [parseEntities, dif_neg hs]
  split
  · rename_i fault hfault
    cases h.symm.trans hfault
  · rename_i decl' rest' hitem
    cases h.symm.trans hitem
    rfl

theorem parseEntities_of_takeItem_eq_error {s : Text} {fault : DoctypeFault}
    (hs : Text.trimStart s ≠ []) (h : takeItem (Text.trimStart s) = .error fault) :
    parseEntities s = .error fault := by
  rw [parseEntities, dif_neg hs]
  split
  · rename_i fault' hfault
    cases h.symm.trans hfault
    rfl
  · rename_i decl rest hitem
    cases h.symm.trans hitem

/-- Blanks at the beginning of a definition say nothing. -/
theorem parseEntities_congr {s t : Text} (h : Text.trimStart s = Text.trimStart t) :
    parseEntities s = parseEntities t := by
  by_cases hs : Text.trimStart s = []
  · rw [parseEntities_of_eq_nil hs, parseEntities_of_eq_nil (h ▸ hs)]
  · have ht : Text.trimStart t ≠ [] := h ▸ hs
    cases hitem : takeItem (Text.trimStart s) with
    | error fault =>
        rw [parseEntities_of_takeItem_eq_error hs hitem,
          parseEntities_of_takeItem_eq_error ht (h ▸ hitem)]
    | ok r =>
        rw [parseEntities_of_takeItem hs hitem, parseEntities_of_takeItem ht (h ▸ hitem)]

/-- No item begins among the blanks. -/
theorem dropWhile_trimStart (s : Text) :
    (Text.trimStart s).dropWhile (· ≠ '<') = s.dropWhile (· ≠ '<') := by
  induction s with
  | nil => rfl
  | cons c s ih =>
      by_cases hc : Text.isBlank c = true
      · have hne : c ≠ '<' := by
          rintro rfl
          cases hc
        have htrim : Text.trimStart (c :: s) = Text.trimStart s := List.dropWhile_cons_of_pos hc
        have hdrop : (c :: s).dropWhile (· ≠ '<') = s.dropWhile (· ≠ '<') :=
          List.dropWhile_cons_of_pos (decide_eq_true hne)
        rw [htrim, hdrop, ih]
      · have htrim : Text.trimStart (c :: s) = c :: s := List.dropWhile_cons_of_neg hc
        rw [htrim]

/-- The next item is the same, whether stray text before it has been passed over or not. -/
theorem dropWhile_dropWhile_append (s t : Text) :
    (s.dropWhile (· ≠ '<') ++ t).dropWhile (· ≠ '<') = (s ++ t).dropWhile (· ≠ '<') := by
  induction s with
  | nil => rfl
  | cons c s ih =>
      by_cases hc : (decide (c ≠ '<')) = true
      · have hdrop : (c :: s).dropWhile (· ≠ '<') = s.dropWhile (· ≠ '<') :=
          List.dropWhile_cons_of_pos hc
        have hdrop' : (c :: (s ++ t)).dropWhile (· ≠ '<') = (s ++ t).dropWhile (· ≠ '<') :=
          List.dropWhile_cons_of_pos hc
        rw [hdrop, ih, List.cons_append, hdrop']
      · have hdrop : (c :: s).dropWhile (· ≠ '<') = c :: s := List.dropWhile_cons_of_neg hc
        rw [hdrop]

/-- Text that is neither blank nor an item is passed over. -/
theorem takeItem_of_head?_ne {s : Text} (h : s.head? ≠ some '<') :
    takeItem s = .ok (none, s.dropWhile (· ≠ '<')) := by
  have hkeyword : Text.after? "<!ENTITY".toList s = none := by
    rw [Text.after?_eq_none_iff]
    rintro ⟨rest, rfl⟩
    exact h rfl
  rw [takeItem, hkeyword]
  exact if_neg h

/-- Stray text, up to the next item, says nothing. -/
theorem parseEntities_dropWhile (s : Text) :
    parseEntities (s.dropWhile (· ≠ '<')) = parseEntities s := by
  rw [← dropWhile_trimStart]
  by_cases hs : Text.trimStart s = []
  · rw [hs, parseEntities_of_eq_nil hs]
    exact parseEntities_of_eq_nil rfl
  · by_cases hhead : (Text.trimStart s).head? = some '<'
    · -- the next item stands at the beginning already
      obtain ⟨rest, hrest⟩ := List.head?_eq_some_iff.1 hhead
      have hdrop : (Text.trimStart s).dropWhile (· ≠ '<') = Text.trimStart s := by
        rw [hrest]
        rfl
      rw [hdrop]
      exact parseEntities_congr (Text.trimStart_trimStart s)
    · rw [parseEntities_of_takeItem hs (takeItem_of_head?_ne hhead)]
      exact (map_nil_append _).symm

/-- What comes first declares the same whatever follows. -/
theorem parseEntities_append {a : Text} {decls : List EntityDecl} (h : parseEntities a = .ok decls)
    (b : Text) : parseEntities (a ++ b) = (parseEntities b).map (decls ++ ·) := by
  induction a using parseEntities.induct generalizing decls with
  | case1 a ha =>
      obtain rfl := Except.ok.inj ((parseEntities_of_eq_nil ha).symm.trans h)
      rw [parseEntities_congr (Text.trimStart_append_of_eq_nil ha b)]
      exact (map_nil_append _).symm
  | case2 a ha fault hitem => cases (parseEntities_of_takeItem_eq_error ha hitem).symm.trans h
  | case3 a ha decl rest hitem ih =>
      rw [parseEntities_of_takeItem ha hitem] at h
      obtain ⟨others, hothers, rfl⟩ := Outcome.map_eq_ok_iff.1 h
      have htrim : Text.trimStart (a ++ b) = Text.trimStart a ++ b := Text.trimStart_append ha b
      have hne : Text.trimStart (a ++ b) ≠ [] := by
        rw [htrim]
        exact List.append_ne_nil_of_left_ne_nil ha b
      by_cases hhead : (Text.trimStart a).head? = some '<'
      · have hitem' : takeItem (Text.trimStart (a ++ b)) = .ok (decl, rest ++ b) := by
          rw [htrim]
          exact takeItem_followed hhead hitem b
        rw [parseEntities_of_takeItem hne hitem', ih hothers, map_append_map]
      · -- stray text goes on with what follows, up to the same next item
        rw [takeItem_of_head?_ne hhead] at hitem
        obtain ⟨rfl, rfl⟩ := Prod.mk.inj (Except.ok.inj hitem)
        have hnext : (a.dropWhile (· ≠ '<') ++ b).dropWhile (· ≠ '<') =
            (a ++ b).dropWhile (· ≠ '<') := dropWhile_dropWhile_append a b
        rw [dropWhile_trimStart] at ih hothers
        rw [← parseEntities_dropWhile (a ++ b), ← hnext, parseEntities_dropWhile, ih hothers]
        rfl

/-! ### What stands between two definitions -/

/-- Markup at the beginning that declares nothing. -/
theorem parseEntities_of_skipMarkup {s rest : Text} (hs : s.head? = some '<')
    (hkeyword : Text.after? "<!ENTITY".toList s = none) (h : skipMarkup s = .ok rest) :
    parseEntities s = parseEntities rest := by
  obtain ⟨t, rfl⟩ := List.head?_eq_some_iff.1 hs
  have htrim : Text.trimStart ('<' :: t) = '<' :: t := rfl
  have hitem : takeItem (Text.trimStart ('<' :: t)) = .ok (none, rest) := by
    rw [htrim, takeItem, hkeyword]
    simp only [if_pos hs, h]
    rfl
  have hne : Text.trimStart ('<' :: t) ≠ [] := htrim ▸ List.cons_ne_nil '<' t
  rw [parseEntities_of_takeItem hne hitem]
  exact map_nil_append _

/-- A comment says nothing, whatever stands in it. -/
theorem parseEntities_comment {data : Text} (h : ¬ "-->".toList <:+: data) (rest : Text) :
    parseEntities ("<!--".toList ++ data ++ "-->".toList ++ rest) = parseEntities rest := by
  have hcut : Text.cutAt "-->".toList (data ++ "-->".toList ++ rest) = some (data, rest) :=
    @Text.cutAt_of_not_isInfix ['-', '-'] data '>' rest (by decide) h
  have hassoc : "<!--".toList ++ data ++ "-->".toList ++ rest =
      "<!--".toList ++ (data ++ "-->".toList ++ rest) := by
    simp only [List.append_assoc]
  have hskip : skipMarkup ("<!--".toList ++ (data ++ "-->".toList ++ rest)) = .ok rest :=
    skipMarkup_eq_ok_iff.2 (.inl ⟨_, data, Text.after?_append _ _, hcut⟩)
  rw [hassoc]
  exact parseEntities_of_skipMarkup rfl rfl hskip

/-- A processing instruction says nothing, whatever stands in it. -/
theorem parseEntities_instruction {data : Text} (h : ¬ "?>".toList <:+: data) (rest : Text) :
    parseEntities ("<?".toList ++ data ++ "?>".toList ++ rest) = parseEntities rest := by
  have hcut : Text.cutAt "?>".toList (data ++ "?>".toList ++ rest) = some (data, rest) :=
    @Text.cutAt_of_not_isInfix ['?'] data '>' rest (by decide) h
  have hassoc : "<?".toList ++ data ++ "?>".toList ++ rest =
      "<?".toList ++ (data ++ "?>".toList ++ rest) := by
    simp only [List.append_assoc]
  have hskip : skipMarkup ("<?".toList ++ (data ++ "?>".toList ++ rest)) = .ok rest :=
    skipMarkup_eq_ok_iff.2 (.inr (.inl ⟨_, data, Text.after?_append _ _, hcut⟩))
  rw [hassoc]
  exact parseEntities_of_skipMarkup rfl rfl hskip

/-- **Definitions are read one after the other.**  If the first definition can be read, the two
together declare what the first one declares and then what the second one declares, and fail like
the second one if that fails.  A comment or a processing instruction between them changes nothing,
whatever stands in it. -/
theorem parseEntities_composed {a : Text} {decls : List EntityDecl}
    (h : parseEntities a = .ok decls) (b : Text) :
    (∀ others, parseEntities b = .ok others → parseEntities (a ++ b) = .ok (decls ++ others)) ∧
      (∀ fault, parseEntities b = .error fault → parseEntities (a ++ b) = .error fault) ∧
      (∀ data, ¬ "-->".toList <:+: data →
        parseEntities (a ++ ("<!--".toList ++ data ++ "-->".toList) ++ b) =
          parseEntities (a ++ b)) ∧
      (∀ data, ¬ "?>".toList <:+: data →
        parseEntities (a ++ ("<?".toList ++ data ++ "?>".toList) ++ b) =
          parseEntities (a ++ b)) := by
  have hab : parseEntities (a ++ b) = (parseEntities b).map (decls ++ ·) := parseEntities_append h b
  refine ⟨?others, ?fault, ?comment, ?instruction⟩
  case others =>
    intro others hothers
    rw [hab, hothers]
    rfl
  case fault =>
    intro fault hfault
    rw [hab, hfault]
    rfl
  case comment =>
    intro data hdata
    rw [List.append_assoc, parseEntities_append h, parseEntities_comment hdata, hab]
  case instruction =>
    intro data hdata
    rw [List.append_assoc, parseEntities_append h, parseEntities_instruction hdata, hab]

/-- A definition that ends with stray text, one that begins with some, and between them a comment
and an instruction that look like declarations. -/
theorem parseEntities_composed_stray :
    let a : Text := "quote' <?p \"?><!ENTITY one 'a > b'> stray \" ".toList
    let b : Text := "stray> <!ENTITY % no 'x'><!ENTITY two SYSTEM \"<!--\" NDATA '>' >".toList
    let decls : List EntityDecl := [⟨"one".toList, .internal "a > b".toList⟩]
    let others : List EntityDecl := [⟨"two".toList, .external none "<!--".toList⟩]
    let data : Text := " it's <!ENTITY three \">\"> -- ".toList
    parseEntities a = .ok decls ∧ parseEntities b = .ok others ∧
      parseEntities (a ++ b) = .ok (decls ++ others) ∧
      parseEntities (a ++ ("<!--".toList ++ data ++ "-->".toList) ++ b) = .ok (decls ++ others) ∧
      parseEntities (a ++ ("<?".toList ++ data ++ "?>".toList) ++ b) = .ok (decls ++ others) := by
  intro a b decls others data
  have ha : parseEntities a = .ok decls := by decide +kernel
  have hb : parseEntities b = .ok others := by decide +kernel
  obtain ⟨hab, -, hcomment, hinstruction⟩ := parseEntities_composed ha b
  refine ⟨ha, hb, hab others hb, ?comment, ?instruction⟩
  case comment => exact (hcomment data (by decide)).trans (hab others hb)
  case instruction => exact (hinstruction data (by decide)).trans (hab others hb)

end Doctype

end XmlScribe
