/-
**The order of attributes.**

Attributes are ordered by a key, part by part, so their order is transitive and total.  What has been
sorted stays as it is when it is sorted again.

Main results:

* `Attribute.pairwise_sorted` — sorted attributes are in order;
* `Attribute.sorted_sorted` — sorting twice is sorting once.
-/

import XmlScribe.Layout.AttributeOrder

set_option autoImplicit false

namespace XmlScribe

namespace AttributeKey

open Std

theorem compareTexts_eq_compareLex :
    compareTexts = List.compareLex (compareOn Char.toNat) := by
  funext s t
  induction s generalizing t with
  | nil => cases t <;> rfl
  | cons c s ih =>
      cases t with
      | nil => rfl
      | cons d t =>
          rw [compareTexts, List.compareLex_cons_cons, ih]
          rfl

instance : TransCmp compareTexts := by
  rw [compareTexts_eq_compareLex]
  infer_instance

/-- Keys are compared part by part. -/
theorem order_eq_compareLex :
    order = compareLex (compareOn group) (compareLex (compareOn rank)
      (compareLex (fun k l => compareTexts k.nsPrefix l.nsPrefix)
        (compareLex (fun k l => compareTexts k.localName l.localName)
          (compareLex (fun k l => compareTexts k.text l.text)
            (fun k l => compareTexts k.uri l.uri))))) :=
  rfl

/-- An order of texts orders all that has one. -/
theorem transCmp_of_texts (text : AttributeKey → Text) :
    TransCmp fun k l => compareTexts (text k) (text l) where
  eq_swap := OrientedCmp.eq_swap
  isLE_trans := TransCmp.isLE_trans

instance : TransCmp order := by
  rw [order_eq_compareLex]
  have hprefix := transCmp_of_texts nsPrefix
  have hlocal := transCmp_of_texts localName
  have htext := transCmp_of_texts AttributeKey.text
  have huri := transCmp_of_texts uri
  infer_instance

end AttributeKey

namespace Attribute

variable {profile : Profile} {key : ElementKey}

theorem precedes_trans (a b c : Attribute) (hab : precedes profile key a b = true)
    (hbc : precedes profile key b c = true) : precedes profile key a c = true :=
  Std.TransCmp.isLE_trans hab hbc

theorem precedes_total (a b : Attribute) :
    (precedes profile key a b || precedes profile key b a) = true := by
  have hswap : ∀ k l : AttributeKey, k.order l = (l.order k).swap :=
    fun _ _ => Std.OrientedCmp.eq_swap
  simp only [precedes, hswap (AttributeKey.ofAttribute a _)]
  cases (AttributeKey.ofAttribute b (profile.rank? key b.name.text)).order
    (AttributeKey.ofAttribute a (profile.rank? key a.name.text)) <;> rfl

/-- Sorted attributes are in order. -/
theorem pairwise_sorted (attributes : List Attribute) :
    (sorted profile key attributes).Pairwise fun a b => precedes profile key a b = true :=
  List.pairwise_mergeSort precedes_trans precedes_total attributes

/-- Sorting twice is sorting once. -/
theorem sorted_sorted (attributes : List Attribute) :
    sorted profile key (sorted profile key attributes) = sorted profile key attributes :=
  List.mergeSort_of_pairwise (pairwise_sorted attributes)

end Attribute

end XmlScribe
