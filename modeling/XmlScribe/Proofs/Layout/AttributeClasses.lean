/-
**The classes of attributes.**

The order of attributes is an order of their keys.  Attributes that are told apart have different
keys, although capital letters do not count before the end of a key; so their order is strict, and
how they were listed before makes no difference.  The class comes first in a key: the attributes in
order are those of the first class, those of the second one, and so on.

Main definitions:

* `Attribute.keyIn` — the key of an attribute of an element;
* `Attribute.isDefaultDeclaration`, `Attribute.isPrefixDeclaration`, `Attribute.isOrdinary` — the
  classes;
* `Attribute.AreInOrder` — the keys grow, and the classes follow one another.

Main results:

* `Attribute.AreDistinct.eq_of_keyIn` — attributes that are told apart have different keys;
* `Attribute.AreDistinct.areInOrder_sorted` — sorted attributes are in order;
* `Attribute.AreDistinct.sorted_congr` — only the set of attributes counts.
-/

import XmlScribe.Proofs.Forest.Distinct
import XmlScribe.Proofs.Layout.AttributeOrder
import XmlScribe.Proofs.Namespace.Tidy

set_option autoImplicit false

namespace XmlScribe

/-! ### Keys -/

namespace AttributeKey

open Std

instance : LawfulEqCmp order where
  compare_self := ReflCmp.compare_self
  eq_of_compare {k l} h := by
    obtain ⟨g, r, p, n, t, u⟩ := k
    obtain ⟨g', r', p', n', t', u'⟩ := l
    simpa [order, Ordering.then_eq_eq, compareTexts_eq_eq] using h

end AttributeKey

namespace Attribute

/-- The key of an attribute of an element. -/
def keyIn (profile : Profile) (key : ElementKey) (a : Attribute) : AttributeKey :=
  AttributeKey.ofAttribute a (profile.rank? key a.name.text)

variable {profile : Profile} {key : ElementKey}

theorem precedes_iff {a b : Attribute} :
    precedes profile key a b = true ↔
      ((a.keyIn profile key).order (b.keyIn profile key)).isLE = true :=
  Iff.rfl

/-- The end of a key has the name as it is written and its namespace. -/
theorem name_eq_of_keyIn {a b : Attribute} (ha : a.name.IsProper) (hb : b.name.IsProper)
    (h : a.keyIn profile key = b.keyIn profile key) : a.name = b.name := by
  have ht : a.name.text = b.name.text := congrArg AttributeKey.text h
  have hu : a.name.namespaceUri.getD [] = b.name.namespaceUri.getD [] :=
    congrArg AttributeKey.uri h
  refine ha.eq_of_text hb ht ?_
  have hane := ha.namespaceUri_ne
  have hbne := hb.namespaceUri_ne
  cases hna : a.name.namespaceUri <;> cases hnb : b.name.namespaceUri <;> simp_all

/-! ### Classes -/

/-- The attribute `xmlns`, which declares the default namespace. -/
def isDefaultDeclaration (a : Attribute) : Bool :=
  a.isDeclaration && a.name.text == xmlnsPrefix

/-- An attribute `xmlns:p`, which declares a prefix. -/
def isPrefixDeclaration (a : Attribute) : Bool :=
  a.isDeclaration && a.name.nsPrefix == some xmlnsPrefix

/-- An attribute that declares nothing; whether it has a prefix, and whether the profile lists
it. -/
def isOrdinary (profile : Profile) (key : ElementKey) (prefixed listed : Bool) (a : Attribute) :
    Bool :=
  !a.isDeclaration && a.name.nsPrefix.isSome == prefixed &&
    (profile.rank? key a.name.text).isSome == listed

/-- The classes in their order: the declaration of the default namespace; attributes without a
prefix, those that are listed and then the others; declarations of prefixes; attributes with a
prefix, those that are listed and then the others. -/
def classes (profile : Profile) (key : ElementKey) : List (Attribute → Bool) :=
  [isDefaultDeclaration, isOrdinary profile key false true, isOrdinary profile key false false,
    isPrefixDeclaration, isOrdinary profile key true true, isOrdinary profile key true false]

/-- The keys grow from each attribute to the next ones. -/
def AreIncreasing (profile : Profile) (key : ElementKey) (attributes : List Attribute) : Prop :=
  attributes.Pairwise fun a b => (a.keyIn profile key).order (b.keyIn profile key) = .lt

instance (profile : Profile) (key : ElementKey) (attributes : List Attribute) :
    Decidable (AreIncreasing profile key attributes) :=
  inferInstanceAs (Decidable (attributes.Pairwise _))

/-- The attributes are in the order in which they are written on an element. -/
structure AreInOrder (profile : Profile) (key : ElementKey) (attributes : List Attribute) :
    Prop where
  /-- The keys grow. -/
  increasing : AreIncreasing profile key attributes
  /-- The attributes are those of the first class, those of the second one, and so on. -/
  classes : attributes = (classes profile key).flatMap attributes.filter
  /-- There is one declaration of the default namespace at most. -/
  default_unique : (attributes.filter isDefaultDeclaration).length ≤ 1
  /-- Listed attributes are in the order of the list. -/
  ranks : ∀ prefixed, (attributes.filter (isOrdinary profile key prefixed true)).Pairwise
    fun a b => (profile.rank? key a.name.text).getD 0 ≤ (profile.rank? key b.name.text).getD 0

/-- Where a number does not fall, those that have it stand after those that have less. -/
theorem filter_lt_succ {α : Type} {number : α → Nat} {l : List α}
    (h : l.Pairwise fun a b => number a ≤ number b) (n : Nat) :
    l.filter (number · < n + 1) = l.filter (number · < n) ++ l.filter (number · == n) := by
  induction l with
  | nil => rfl
  | cons a l ih =>
      obtain ⟨ha, hl⟩ := List.pairwise_cons.1 h
      rw [List.filter_cons, List.filter_cons, List.filter_cons, ih hl]
      rcases Nat.lt_trichotomy (number a) n with hlt | heq | hgt
      · simp [hlt, Nat.lt_succ_of_lt hlt, hlt.ne]
      · have hnone : l.filter (number · < n) = [] := by
          rw [List.filter_eq_nil_iff]
          intro b hb
          have := ha b hb
          simp only [decide_eq_true_eq]
          omega
        simp [heq, hnone]
      · have hsucc : ¬ number a < n + 1 := by omega
        simp [hgt.ne', hsucc, hgt.not_gt]

/-- A list in which a number does not fall consists of those with zero, those with one, and so
on. -/
theorem flatMap_filter_eq {α : Type} {number : α → Nat} {l : List α}
    (h : l.Pairwise fun a b => number a ≤ number b) (n : Nat) :
    ((List.range n).map fun i a => number a == i).flatMap l.filter =
      l.filter (number · < n) := by
  induction n with
  | zero => simp
  | succ n ih =>
      rw [List.range_succ, List.map_append, List.flatMap_append, ih, filter_lt_succ h]
      simp

/-- Tests that agree on the items of a list take the same items from it. -/
theorem flatMap_filter_congr {α : Type} {l : List α} {tests tests' : List (α → Bool)}
    (hlength : tests.length = tests'.length)
    (h : ∀ a ∈ l, tests.map (· a) = tests'.map (· a)) :
    tests.flatMap l.filter = tests'.flatMap l.filter := by
  induction tests generalizing tests' with
  | nil =>
      obtain rfl := List.length_eq_zero_iff.1 hlength.symm
      rfl
  | cons test tests ih =>
      cases tests' with
      | nil => cases hlength
      | cons test' tests' =>
          rw [List.flatMap_cons, List.flatMap_cons,
            List.filter_congr fun a ha => (List.cons.inj (h a ha)).1,
            ih (Nat.succ.inj hlength) fun a ha => (List.cons.inj (h a ha)).2]

/-- The class of an attribute that declares nothing. -/
theorem group_keyIn_of_ordinary {a : Attribute} (h : a.isDeclaration = false) :
    (a.keyIn profile key).group =
      (if a.name.nsPrefix.isSome then 4 else 1) +
        (if (profile.rank? key a.name.text).isSome then 0 else 1) := by
  have hp : a.declaredPrefix? = none := by simp [declaredPrefix?, h]
  rw [keyIn, AttributeKey.ofAttribute, AttributeKey.groupOf, hp]
  cases (profile.rank? key a.name.text).isSome <;> cases a.name.nsPrefix.isSome <;> rfl

/-- The class of an attribute says which test it passes. -/
theorem map_classes {a : Attribute} (h : a.name.IsProper) :
    (classes profile key).map (· a) =
      (List.range 6).map fun i => (a.keyIn profile key).group == i := by
  have hrange : List.range 6 = [0, 1, 2, 3, 4, 5] := rfl
  rw [hrange, classes]
  cases hd : a.isDeclaration with
  | false =>
      simp only [group_keyIn_of_ordinary hd, isDefaultDeclaration, isPrefixDeclaration, isOrdinary,
        hd, List.map_cons, List.map_nil]
      cases (profile.rank? key a.name.text).isSome <;> cases a.name.nsPrefix.isSome <;> rfl
  | true =>
      have hmade : a.name.IsMade := by
        refine h.resolve_right ?_
        rintro ⟨name, hn⟩
        simp [isDeclaration, hn, QName.plain] at hd
      simp only [isDefaultDeclaration, isPrefixDeclaration, isOrdinary, hd, keyIn,
        AttributeKey.ofAttribute, AttributeKey.groupOf, declaredPrefix?, List.map_cons,
        List.map_nil]
      rcases isWellNamed_of_isMade hmade hd with hn | ⟨p, hn⟩
      · simp [hn, QName.text]
      · simp [hn, QName.text, xmlnsPrefix]

theorem group_keyIn_lt (a : Attribute) : (a.keyIn profile key).group < 6 := by
  rw [keyIn, AttributeKey.ofAttribute]
  simp only [AttributeKey.groupOf]
  split <;> decide

/-! ### Sorted attributes -/

/-- What is in order of keys is in order of classes. -/
theorem group_le_of_order {k l : AttributeKey} (h : k.order l = .lt) : k.group ≤ l.group := by
  by_contra hgt
  rw [AttributeKey.order, Nat.compare_eq_gt.2 (Nat.lt_of_not_le hgt)] at h
  cases h

/-- Within a class, what is in order of keys is in order of ranks. -/
theorem rank_le_of_order {k l : AttributeKey} (hg : k.group = l.group) (h : k.order l = .lt) :
    k.rank ≤ l.rank := by
  by_contra hgt
  rw [AttributeKey.order, Nat.compare_eq_eq.2 hg, Nat.compare_eq_gt.2 (Nat.lt_of_not_le hgt)] at h
  cases h

/-- Where keys grow, ranks do not fall among the listed attributes of a class. -/
theorem ranks_of_increasing {attributes : List Attribute}
    (hlt : AreIncreasing profile key attributes) (prefixed : Bool) :
    (attributes.filter (isOrdinary profile key prefixed true)).Pairwise fun a b =>
      (profile.rank? key a.name.text).getD 0 ≤ (profile.rank? key b.name.text).getD 0 := by
  have hkey : ∀ a ∈ attributes.filter (isOrdinary profile key prefixed true),
      (a.keyIn profile key).rank = (profile.rank? key a.name.text).getD 0 ∧
        (a.keyIn profile key).group = if prefixed then 4 else 1 := by
    intro a ha
    have htest := List.of_mem_filter ha
    simp only [isOrdinary, Bool.and_eq_true, Bool.not_eq_true', beq_iff_eq] at htest
    obtain ⟨⟨hd, hp⟩, hl⟩ := htest
    rw [group_keyIn_of_ordinary hd, hp, hl]
    exact ⟨by simp [keyIn, AttributeKey.ofAttribute, hd], rfl⟩
  refine (hlt.filter _).imp_of_mem fun {a b} ha hb hab => ?_
  rw [← (hkey a ha).1, ← (hkey b hb).1]
  exact rank_le_of_order ((hkey a ha).2.trans (hkey b hb).2.symm) hab

namespace AreDistinct

variable {attributes : List Attribute} (h : AreDistinct attributes)
include h

/-- Attributes that are told apart have different keys. -/
theorem eq_of_keyIn {a b : Attribute} (ha : a ∈ attributes) (hb : b ∈ attributes)
    (hk : a.keyIn profile key = b.keyIn profile key) : a = b := by
  have hname := name_eq_of_keyIn (h.proper a ha) (h.proper b hb) hk
  exact h.eq_of_text ha hb (congrArg QName.text hname) (congrArg QName.namespaceUri hname)

/-- Sorted attributes have growing keys. -/
theorem areIncreasing_sorted : AreIncreasing profile key (sorted profile key attributes) := by
  have hperm := sorted_perm profile key attributes
  have hnodup : (sorted profile key attributes).Nodup := hperm.nodup_iff.2 (.of_map _ h.nodup)
  refine ((pairwise_sorted attributes).and hnodup).imp_of_mem fun {a b} ha hb hab => ?_
  have hne : (a.keyIn profile key).order (b.keyIn profile key) ≠ .eq := fun he =>
    hab.2 (h.eq_of_keyIn (hperm.mem_iff.1 ha) (hperm.mem_iff.1 hb)
      (Std.LawfulEqCmp.eq_of_compare he))
  have hle := precedes_iff.1 hab.1
  cases ho : (a.keyIn profile key).order (b.keyIn profile key) with
  | lt => rfl
  | eq => exact absurd ho hne
  | gt => rw [ho] at hle; cases hle

/-- Where keys grow, the attributes are those of one class after those of another. -/
theorem classes_of_increasing (hlt : AreIncreasing profile key attributes) :
    attributes = (classes profile key).flatMap attributes.filter := by
  have hgroups := flatMap_filter_eq (hlt.imp fun hab => group_le_of_order hab) 6
  have hall : attributes.filter (fun a => (a.keyIn profile key).group < 6) = attributes :=
    List.filter_eq_self.2 fun a _ => decide_eq_true (group_keyIn_lt a)
  have htests : (classes profile key).flatMap attributes.filter =
      ((List.range 6).map fun i a => (a.keyIn profile key).group == i).flatMap
        attributes.filter := by
    refine flatMap_filter_congr rfl fun a ha => ?_
    rw [map_classes (h.proper a ha), List.map_map]
    rfl
  rw [htests, hgroups, hall]

/-- There are no two declarations of the default namespace. -/
theorem length_filter_isDefaultDeclaration :
    (attributes.filter isDefaultDeclaration).length ≤ 1 := by
  have hkey : ∀ a ∈ attributes.filter isDefaultDeclaration,
      a.name.text = xmlnsPrefix ∧ a.name.namespaceUri = some xmlnsUri := by
    intro a ha
    have htest := List.of_mem_filter ha
    simp only [isDefaultDeclaration, isDeclaration, Bool.and_eq_true, beq_iff_eq] at htest
    exact htest.symm
  have hnodup : (attributes.filter isDefaultDeclaration).Nodup := (h.nodup.of_map _).filter _
  have heq : ∀ a ∈ attributes.filter isDefaultDeclaration,
      ∀ b ∈ attributes.filter isDefaultDeclaration, a = b := fun a ha b hb =>
    h.eq_of_text (List.mem_of_mem_filter ha) (List.mem_of_mem_filter hb)
      ((hkey a ha).1.trans (hkey b hb).1.symm) ((hkey a ha).2.trans (hkey b hb).2.symm)
  rcases hl : attributes.filter isDefaultDeclaration with _ | ⟨a, _ | ⟨b, rest⟩⟩
  · exact Nat.zero_le 1
  · exact Nat.le_refl 1
  · rw [hl] at hnodup heq
    have hab : a = b := heq a (by simp) b (by simp)
    simp [hab] at hnodup

/-- Sorted attributes are in order. -/
theorem areInOrder_sorted : AreInOrder profile key (sorted profile key attributes) :=
  let hsorted := h.perm (sorted_perm profile key attributes)
  { increasing := h.areIncreasing_sorted
    classes := hsorted.classes_of_increasing h.areIncreasing_sorted
    default_unique := hsorted.length_filter_isDefaultDeclaration
    ranks := ranks_of_increasing h.areIncreasing_sorted }

/-- There is one way only to put the attributes in order. -/
theorem sorted_eq {others : List Attribute} (hperm : others.Perm attributes)
    (ho : AreIncreasing profile key others) : sorted profile key attributes = others := by
  refine List.Perm.eq_of_pairwise (fun a b _ _ hab hba => ?_) h.areIncreasing_sorted ho
    ((sorted_perm profile key attributes).trans hperm.symm)
  rw [Std.OrientedCmp.gt_of_lt hab] at hba
  cases hba

/-- Only the set of attributes counts for their order. -/
theorem sorted_congr {others : List Attribute} (ho : AreDistinct others)
    (hmem : ∀ a, a ∈ attributes ↔ a ∈ others) :
    sorted profile key attributes = sorted profile key others := by
  have hperm : attributes.Perm others :=
    (List.perm_ext_iff_of_nodup (.of_map _ h.nodup) (.of_map _ ho.nodup)).2 hmem
  exact h.sorted_eq ((sorted_perm profile key others).trans hperm.symm) ho.areIncreasing_sorted

end AreDistinct

end Attribute

end XmlScribe
