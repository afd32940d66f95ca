import EntityAudit.Proofs.Encoding.Statement
import EntityAudit.Proofs.Json.Unambiguous

namespace EntityAudit

open Json

namespace Json

lemma given_eq_of_record_eq {a b : List (String × Option Json)} (ha : (a.map (·.1)).Nodup)
    (hb : (b.map (·.1)).Nodup) (h : record a = record b) (name : String) : given a name = given b name := by
  rw [← lookup_present ha, ← lookup_present hb]
  exact congrArg (lookup · name) (object.inj h)

lemma float_injective : Function.Injective float := fun _ _ => float.inj

lemma isFinite_record {members : List (String × Option Json)} (h : ∀ m ∈ members, ∀ j ∈ m.2, IsFinite j) :
    IsFinite (record members) := by
  refine .object fun m hm => ?_
  obtain ⟨⟨name, value⟩, hmem, hvalue⟩ := List.mem_filterMap.mp hm
  obtain ⟨j, hj, rfl⟩ := Option.map_eq_some_iff.mp hvalue
  exact h _ hmem j hj

lemma isFinite_some {j : Json} (h : IsFinite j) : ∀ k ∈ some j, IsFinite k := by
  rintro _ ⟨⟩
  exact h

lemma isFinite_map {α : Type} {encode : α → Json} {o : Option α} (h : ∀ a ∈ o, IsFinite (encode a)) :
    ∀ k ∈ o.map encode, IsFinite k := by
  intro k hk
  obtain ⟨a, ha, rfl⟩ := Option.map_eq_some_iff.mp hk
  exact h a ha

end Json

lemma ItemId.toString_injective : Function.Injective toString :=
  fun _ _ h => EntityId.item.inj (EntityId.toString_injective h)

lemma PropertyId.toString_injective : Function.Injective toString :=
  fun _ _ h => EntityId.property.inj (EntityId.toString_injective h)

namespace Quantity

lemma toJson_injective : Function.Injective toJson := by
  intro p q h
  have hgiven := given_eq_of_record_eq (by simp) (by simp) h
  have hamount : p.amount = q.amount := float_injective (Option.some.inj (hgiven "amount"))
  have hlower : p.lowerBound = q.lowerBound := Option.map_injective float_injective (hgiven "lower_bound")
  have hupper : p.upperBound = q.upperBound := Option.map_injective float_injective (hgiven "upper_bound")
  have hunit : p.unit = q.unit :=
    Option.map_injective (fun _ _ hid => ItemId.toString_injective (text.inj hid)) (hgiven "unit")
  cases p
  cases q
  simp only [mk.injEq]
  exact ⟨hamount, hlower, hupper, hunit⟩

lemma isFinite_toJson {q : Quantity} (h : ∀ x ∈ q.numbers, x.isFinite = true) : q.toJson.IsFinite := by
  simp only [numbers, List.forall_mem_cons, List.forall_mem_append, Option.mem_toList] at h
  obtain ⟨hamount, hlower, hupper⟩ := h
  apply isFinite_record
  simp only [List.forall_mem_cons]
  exact ⟨isFinite_some (.float hamount), isFinite_map fun x hx => .float (hlower x hx),
    isFinite_map fun x hx => .float (hupper x hx), isFinite_map fun _ _ => .text, List.forall_mem_nil _⟩

end Quantity

lemma TimeValue.toJson_injective : Function.Injective toJson := by
  intro s t h
  simp only [toJson, object.injEq, List.cons.injEq, Prod.mk.injEq, text.injEq, integer.injEq, true_and, and_true,
    Nat.cast_inj, UInt8.toNat_inj] at h
  cases s
  cases t
  simp only [mk.injEq]
  exact h

lemma MonolingualText.toJson_injective : Function.Injective toJson := by
  intro s t h
  simp only [toJson, object.injEq, List.cons.injEq, Prod.mk.injEq, text.injEq, true_and, and_true] at h
  cases s
  cases t
  simp only [mk.injEq]
  exact h

namespace GlobeCoordinate

lemma toJson_injective : Function.Injective toJson := by
  intro c d h
  have hgiven := given_eq_of_record_eq (by simp) (by simp) h
  have hlatitude : c.latitude = d.latitude := float_injective (Option.some.inj (hgiven "latitude"))
  have hlongitude : c.longitude = d.longitude := float_injective (Option.some.inj (hgiven "longitude"))
  have hprecision : c.precision = d.precision := Option.map_injective float_injective (hgiven "precision")
  cases c
  cases d
  simp only [mk.injEq]
  exact ⟨hlatitude, hlongitude, hprecision⟩

lemma isFinite_toJson {c : GlobeCoordinate} (h : ∀ x ∈ c.numbers, x.isFinite = true) : c.toJson.IsFinite := by
  simp only [numbers, List.forall_mem_cons, Option.mem_toList] at h
  obtain ⟨hlatitude, hlongitude, hprecision⟩ := h
  apply isFinite_record
  simp only [List.forall_mem_cons]
  exact ⟨isFinite_some (.float hlatitude), isFinite_some (.float hlongitude),
    isFinite_map fun x hx => .float (hprecision x hx), List.forall_mem_nil _⟩

end GlobeCoordinate

namespace Value

lemma toJson_injective : Function.Injective toJson := by
  intro v w h
  simp only [toJson, object.injEq, List.cons.injEq, Prod.mk.injEq, text.injEq, true_and, and_true] at h
  obtain ⟨hkind, hcontent⟩ := h
  cases v with
  | string s =>
    cases w with
    | string t => exact congrArg string (text.inj hcontent)
    | _ => exact absurd hkind (by simp [kind])
  | entity id =>
    cases w with
    | entity id' => exact congrArg entity (EntityId.toString_injective (text.inj hcontent))
    | _ => exact absurd hkind (by simp [kind])
  | quantity q =>
    cases w with
    | quantity q' => exact congrArg quantity (Quantity.toJson_injective hcontent)
    | _ => exact absurd hkind (by simp [kind])
  | time t =>
    cases w with
    | time t' => exact congrArg time (TimeValue.toJson_injective hcontent)
    | _ => exact absurd hkind (by simp [kind])
  | monolingual t =>
    cases w with
    | monolingual t' => exact congrArg monolingual (MonolingualText.toJson_injective hcontent)
    | _ => exact absurd hkind (by simp [kind])
  | globe c =>
    cases w with
    | globe c' => exact congrArg globe (GlobeCoordinate.toJson_injective hcontent)
    | _ => exact absurd hkind (by simp [kind])

lemma isFinite_toJson {v : Value} (h : ∀ x ∈ v.numbers, x.isFinite = true) : v.toJson.IsFinite := by
  have hcontent : v.content.IsFinite := by
    cases v with
    | string s => exact .text
    | entity id => exact .text
    | quantity q => exact Quantity.isFinite_toJson h
    | time t =>
      refine .object ?_
      simp only [List.forall_mem_cons]
      exact ⟨.text, .integer, .text, List.forall_mem_nil _⟩
    | monolingual t =>
      refine .object ?_
      simp only [List.forall_mem_cons]
      exact ⟨.text, .text, List.forall_mem_nil _⟩
    | globe c => exact GlobeCoordinate.isFinite_toJson h
  refine .object ?_
  simp only [List.forall_mem_cons]
  exact ⟨.text, hcontent, List.forall_mem_nil _⟩

end Value

namespace Snak

variable {s t : Snak}

lemma toJson_injective : Function.Injective toJson := by
  intro s t h
  have hgiven := given_eq_of_record_eq (by simp) (by simp) h
  have hstate : s.state = t.state := text.inj (Option.some.inj (hgiven "snaktype"))
  have hproperty : s.property = t.property :=
    PropertyId.toString_injective (text.inj (Option.some.inj (hgiven "property")))
  have hvalue : s.value? = t.value? := Option.map_injective Value.toJson_injective (hgiven "datavalue")
  cases s with
  | value p v =>
    cases t with
    | value q w =>
      obtain rfl : p = q := hproperty
      obtain rfl := Option.some.inj hvalue
      rfl
    | _ => cases hvalue
  | someValue p =>
    cases t with
    | someValue q => exact congrArg someValue hproperty
    | value q w => cases hvalue
    | noValue q => exact absurd hstate (by simp [state])
  | noValue p =>
    cases t with
    | noValue q => exact congrArg noValue hproperty
    | value q w => cases hvalue
    | someValue q => exact absurd hstate (by simp [state])

lemma isFinite_toJson (h : ∀ x ∈ s.numbers, x.isFinite = true) : s.toJson.IsFinite := by
  have hvalue : ∀ v ∈ s.value?, v.toJson.IsFinite := by
    refine fun v hv => Value.isFinite_toJson fun x hx => h x ?_
    exact List.mem_flatMap.mpr ⟨v, Option.mem_toList.mpr hv, hx⟩
  apply isFinite_record
  simp only [List.forall_mem_cons]
  exact ⟨isFinite_some .text, isFinite_some .text, isFinite_map hvalue, List.forall_mem_nil _⟩

theorem compact_injective (hs : ∀ x ∈ s.numbers, x.isFinite = true) (ht : ∀ x ∈ t.numbers, x.isFinite = true)
    (h : s.toJson.compact = t.toJson.compact) : s = t :=
  toJson_injective (Json.compact_injective (isFinite_toJson hs) (isFinite_toJson ht) h)

end Snak

end EntityAudit
