import EntityAudit.Proofs.Id
import EntityAudit.Proofs.Json.Reader
import EntityAudit.Proofs.Json.Record
import EntityAudit.Statement

namespace EntityAudit

open Json Record

lemma ItemId.parsed?_toString {id : ItemId} (h : id.number ≠ 0) :
    parsed? ofString? (.text id.toString) = some id := by
  rw [parsed?, ofString?_toString, if_neg h]

lemma PropertyId.parsed?_toString {p : PropertyId} (h : p.number ≠ 0) :
    parsed? ofString? (.text p.toString) = some p := by
  rw [parsed?, ofString?_toString, if_neg h]

lemma EntityId.parsed?_toString {id : EntityId} (h : id.number ≠ 0) :
    parsed? ofString? (.text id.toString) = some id := by
  rw [parsed?, ofString?_toString, if_neg h]

namespace Quantity

def numbers (q : Quantity) : List Float := q.amount :: (q.lowerBound.toList ++ q.upperBound.toList)

lemma ofJson?_toJson {q : Quantity} (h : ∀ id ∈ q.unit, id.number ≠ 0) : ofJson? q.toJson = some q := by
  simp only [ofJson?, Option.bind_eq_bind, Option.bind_eq_some_iff]
  refine ⟨_, record?_record (by simp) _, q.amount, required?_of_get? rfl rfl, q.lowerBound, ?_,
    q.upperBound, ?_, q.unit, ?_, rfl⟩
  · exact optional?_of_map rfl rfl fun _ _ => rfl
  · exact optional?_of_map rfl rfl fun _ _ => rfl
  · exact optional?_of_map rfl rfl fun id hid => ItemId.parsed?_toString (h id hid)

lemma legible_toJson {q : Quantity} (h : ∀ x ∈ q.numbers, ReadsBack x) {n : Nat} : Legible (n + 1) q.toJson := by
  have hamount : ReadsBack q.amount := h _ List.mem_cons_self
  have hlower : ∀ x ∈ q.lowerBound, ReadsBack x := fun x hx => h x (by simp [numbers, Option.mem_def.mp hx])
  have hupper : ∀ x ∈ q.upperBound, ReadsBack x := fun x hx => h x (by simp [numbers, Option.mem_def.mp hx])
  apply legible_record
  simp only [List.forall_mem_cons]
  exact ⟨legible_some (.float hamount), legible_map fun x hx => .float (hlower x hx),
    legible_map fun x hx => .float (hupper x hx), legible_map fun _ _ => .text, nofun⟩

end Quantity

namespace TimeValue

lemma ofJson?_toJson (t : TimeValue) : ofJson? t.toJson = some t := by
  have hprecision : precision? (.integer t.precision.toNat) = some t.precision := by
    rw [precision?, natural?_natCast t.precision.toNat_lt, Option.map_some, UInt8.ofNat_toNat]
  simp only [ofJson?, Option.bind_eq_bind, Option.bind_eq_some_iff]
  exact ⟨_, record?_object (by simp) _, t.time, required?_of_get? rfl rfl, t.precision,
    defaulting?_of_get? rfl hprecision, t.calendarModel, defaulting?_of_get? rfl rfl, rfl⟩

lemma legible_toJson (t : TimeValue) {n : Nat} : Legible (n + 1) t.toJson := by
  have hlt := t.precision.toNat_lt
  have hsize : UInt64.size = 18446744073709551616 := rfl
  refine .object ?_
  simp only [List.forall_mem_cons]
  exact ⟨.text, .integer (by omega) (by omega), .text, nofun⟩

end TimeValue

namespace MonolingualText

lemma ofJson?_toJson (t : MonolingualText) : ofJson? t.toJson = some t := by
  simp only [ofJson?, Option.bind_eq_bind, Option.bind_eq_some_iff]
  exact ⟨_, record?_object (by simp) _, t.language, required?_of_get? rfl rfl, t.text,
    required?_of_get? rfl rfl, rfl⟩

lemma legible_toJson (t : MonolingualText) {n : Nat} : Legible (n + 1) t.toJson := by
  refine .object ?_
  simp only [List.forall_mem_cons]
  exact ⟨.text, .text, nofun⟩

end MonolingualText

namespace GlobeCoordinate

def numbers (c : GlobeCoordinate) : List Float := c.latitude :: c.longitude :: c.precision.toList

lemma ofJson?_toJson (c : GlobeCoordinate) : ofJson? c.toJson = some c := by
  simp only [ofJson?, Option.bind_eq_bind, Option.bind_eq_some_iff]
  refine ⟨_, record?_record (by simp) _, c.latitude, required?_of_get? rfl rfl, c.longitude,
    required?_of_get? rfl rfl, c.precision, ?_, rfl⟩
  exact optional?_of_map rfl rfl fun _ _ => rfl

lemma legible_toJson {c : GlobeCoordinate} (h : ∀ x ∈ c.numbers, ReadsBack x) {n : Nat} :
    Legible (n + 1) c.toJson := by
  simp only [numbers, List.forall_mem_cons, Option.mem_toList] at h
  obtain ⟨hlatitude, hlongitude, hprecision⟩ := h
  apply legible_record
  simp only [List.forall_mem_cons]
  exact ⟨legible_some (.float hlatitude), legible_some (.float hlongitude),
    legible_map fun x hx => .float (hprecision x hx), nofun⟩

end GlobeCoordinate

namespace Value

def ids : Value → List EntityId
  | entity id => [id]
  | quantity q => q.unit.toList.map .item
  | _ => []

def numbers : Value → List Float
  | quantity q => q.numbers
  | globe c => c.numbers
  | _ => []

variable {v : Value}

lemma ofContent?_content (h : ∀ id ∈ v.ids, id.number ≠ 0) : ofContent? v.kind v.content = some v := by
  cases v with
  | string s => rfl
  | entity id =>
    have hid := EntityId.parsed?_toString (h id List.mem_cons_self)
    simp [kind, content, ofContent?, hid]
  | quantity q =>
    have hq : Quantity.ofJson? q.toJson = some q :=
      Quantity.ofJson?_toJson fun id hid => h (.item id) (by simp [ids, Option.mem_def.mp hid])
    simp [kind, content, ofContent?, hq]
  | time t => simp [kind, content, ofContent?, TimeValue.ofJson?_toJson]
  | monolingual t => simp [kind, content, ofContent?, MonolingualText.ofJson?_toJson]
  | globe c => simp [kind, content, ofContent?, GlobeCoordinate.ofJson?_toJson]

lemma ofJson?_toJson (h : ∀ id ∈ v.ids, id.number ≠ 0) : ofJson? v.toJson = some v := by
  simp only [ofJson?, Option.bind_eq_bind, Option.bind_eq_some_iff]
  exact ⟨_, record?_object (by simp) _, v.kind, required?_of_get? rfl rfl, v.content, rfl, ofContent?_content h⟩

lemma legible_content (h : ∀ x ∈ v.numbers, ReadsBack x) {n : Nat} : Legible (n + 1) v.content := by
  cases v with
  | string s => exact .text
  | entity id => exact .text
  | quantity q => exact Quantity.legible_toJson h
  | time t => exact TimeValue.legible_toJson t
  | monolingual t => exact MonolingualText.legible_toJson t
  | globe c => exact GlobeCoordinate.legible_toJson h

lemma legible_toJson (h : ∀ x ∈ v.numbers, ReadsBack x) {n : Nat} : Legible (n + 2) v.toJson := by
  refine .object ?_
  simp only [List.forall_mem_cons]
  exact ⟨.text, legible_content h, nofun⟩

end Value

namespace Snak

def ids (s : Snak) : List EntityId := .property s.property :: s.value?.toList.flatMap Value.ids

def numbers (s : Snak) : List Float := s.value?.toList.flatMap Value.numbers

variable {s : Snak}

lemma ofJson?_toJson (h : ∀ id ∈ s.ids, id.number ≠ 0) : ofJson? s.toJson = some s := by
  have hproperty : parsed? PropertyId.ofString? (.text s.property.toString) = some s.property :=
    PropertyId.parsed?_toString (h (.property s.property) List.mem_cons_self)
  cases s with
  | value p v =>
    have hvalue : Value.ofJson? v.toJson = some v :=
      Value.ofJson?_toJson fun id hid => h id (by simp [ids, value?, hid])
    have htag : (value p v).toJson.tagged? "snaktype" =
        some ("value", .object [("property", .text p.toString), ("datavalue", v.toJson)]) := rfl
    simp only [ofJson?, htag, Option.bind_eq_bind, Option.bind_some, Option.bind_eq_some_iff]
    exact ⟨_, record?_object (by simp) _, p, required?_of_get? rfl hproperty, v, required?_of_get? rfl hvalue, rfl⟩
  | someValue p =>
    have htag : (someValue p).toJson.tagged? "snaktype" =
        some ("somevalue", .object [("property", .text p.toString)]) := rfl
    simp only [ofJson?, htag, Option.bind_eq_bind, Option.bind_some, Option.bind_eq_some_iff]
    exact ⟨_, record?_object (by simp) _, p, required?_of_get? rfl hproperty, rfl⟩
  | noValue p =>
    have htag : (noValue p).toJson.tagged? "snaktype" =
        some ("novalue", .object [("property", .text p.toString)]) := rfl
    simp only [ofJson?, htag, Option.bind_eq_bind, Option.bind_some, Option.bind_eq_some_iff]
    exact ⟨_, record?_object (by simp) _, p, required?_of_get? rfl hproperty, rfl⟩

lemma legible_toJson (h : ∀ x ∈ s.numbers, ReadsBack x) {n : Nat} : Legible (n + 3) s.toJson := by
  have hvalue : ∀ v ∈ s.value?, Legible (n + 2) v.toJson := by
    refine fun v hv => Value.legible_toJson fun x hx => h x ?_
    exact List.mem_flatMap.mpr ⟨v, Option.mem_toList.mpr hv, hx⟩
  apply legible_record
  simp only [List.forall_mem_cons]
  exact ⟨legible_some .text, legible_some .text, legible_map hvalue, nofun⟩

end Snak

namespace Reference

variable {r : Reference}

lemma ofJson?_toJson (h : ∀ s ∈ r.snaks, ∀ id ∈ s.ids, id.number ≠ 0) : ofJson? r.toJson = some r := by
  simp only [ofJson?, Option.bind_eq_bind, Option.bind_eq_some_iff]
  refine ⟨_, record?_object (by simp) _, r.snaks, required?_of_get? rfl ?_, rfl⟩
  exact list?_array fun s hs => Snak.ofJson?_toJson (h s hs)

lemma legible_toJson (h : ∀ s ∈ r.snaks, ∀ x ∈ s.numbers, ReadsBack x) {n : Nat} :
    Legible (n + 5) r.toJson := by
  refine .object ?_
  simp only [List.forall_mem_cons]
  exact ⟨legible_list fun s hs => Snak.legible_toJson (h s hs), nofun⟩

end Reference

namespace Statement

def ids (s : Statement) : List EntityId := s.snaks.flatMap Snak.ids

def numbers (s : Statement) : List Float := s.snaks.flatMap Snak.numbers

variable {s : Statement}

lemma qualifier_mem_snaks {q : Snak} (h : q ∈ s.qualifiers) : q ∈ s.snaks := by
  simp [snaks, h]

lemma reference_mem_snaks {r : Reference} {k : Snak} (hr : r ∈ s.references) (hk : k ∈ r.snaks) :
    k ∈ s.snaks := by
  have hmem : k ∈ s.references.flatMap (·.snaks) := List.mem_flatMap.mpr ⟨r, hr, hk⟩
  simp only [snaks, List.mem_append, hmem, or_true]

lemma ofJson?_toJson (h : ∀ id ∈ s.ids, id.number ≠ 0) : ofJson? s.toJson = some s := by
  have hsnak : ∀ k ∈ s.snaks, ∀ id ∈ k.ids, id.number ≠ 0 :=
    fun k hk id hid => h id (List.mem_flatMap.mpr ⟨k, hk, hid⟩)
  have hrank : choice? Rank.ofString? (.text s.rank.name) = some s.rank := by
    cases s.rank with
    | preferred => rfl
    | normal => rfl
    | deprecated => rfl
  simp only [ofJson?, Option.bind_eq_bind, Option.bind_eq_some_iff]
  refine ⟨_, record?_record (by simp) _, s.guid, required?_of_get? rfl rfl, s.mainSnak,
    required?_of_get? rfl ?_, s.rank, defaulting?_of_get? rfl hrank, s.qualifiers,
    defaulting?_of_ite rfl ?_ ?_, s.references, defaulting?_of_ite rfl ?_ ?_, rfl⟩
  · exact Snak.ofJson?_toJson (hsnak _ List.mem_cons_self)
  · exact fun hempty => (List.isEmpty_iff.mp hempty).symm
  · exact list?_array fun q hq => Snak.ofJson?_toJson (hsnak q (qualifier_mem_snaks hq))
  · exact fun hempty => (List.isEmpty_iff.mp hempty).symm
  · exact list?_array fun r hr => Reference.ofJson?_toJson fun k hk => hsnak k (reference_mem_snaks hr hk)

lemma legible_toJson (h : ∀ x ∈ s.numbers, ReadsBack x) {n : Nat} : Legible (n + 7) s.toJson := by
  have hsnak : ∀ k ∈ s.snaks, ∀ x ∈ k.numbers, ReadsBack x :=
    fun k hk x hx => h x (List.mem_flatMap.mpr ⟨k, hk, hx⟩)
  have hmain : Legible (n + 6) s.mainSnak.toJson := Snak.legible_toJson (hsnak _ List.mem_cons_self)
  have hqualifiers : Legible (n + 6) (.array (s.qualifiers.map (·.toJson))) :=
    legible_list fun q hq => Snak.legible_toJson (hsnak q (qualifier_mem_snaks hq))
  have hreferences : Legible (n + 6) (.array (s.references.map (·.toJson))) :=
    legible_list fun r hr => Reference.legible_toJson fun k hk => hsnak k (reference_mem_snaks hr hk)
  apply legible_record
  simp only [List.forall_mem_cons]
  exact ⟨legible_some .text, legible_some hmain, legible_some .text, legible_unless hqualifiers,
    legible_unless hreferences, nofun⟩

end Statement

namespace Entity

def ids (e : Entity) : List EntityId := e.id :: e.statements.toList.flatMap Statement.ids

def numbers (e : Entity) : List Float := e.statements.toList.flatMap Statement.numbers

def uncounted (e : Entity) : Entity := ⟨e.id, .ofList e.statements.toList⟩

variable {e : Entity}

lemma ofJson?_toJson (h : ∀ id ∈ e.ids, id.number ≠ 0) : ofJson? e.toJson = some e.uncounted := by
  have hid : parsed? EntityId.ofString? (.text e.id.toString) = some e.id :=
    EntityId.parsed?_toString (h e.id List.mem_cons_self)
  have hstatement : ∀ s ∈ e.statements.toList, Statement.ofJson? s.toJson = some s := by
    refine fun s hs => Statement.ofJson?_toJson fun id hid => h id ?_
    exact List.mem_cons_of_mem _ (List.mem_flatMap.mpr ⟨s, hs, hid⟩)
  simp only [ofJson?, Option.bind_eq_bind, Option.bind_eq_some_iff]
  exact ⟨_, record?_object (by simp) _, e.id, required?_of_get? rfl hid, e.statements.toList,
    defaulting?_of_get? rfl (list?_array hstatement), rfl⟩

lemma legible_toJson (h : ∀ x ∈ e.numbers, ReadsBack x) {n : Nat} : Legible (n + 9) e.toJson := by
  refine .object ?_
  simp only [List.forall_mem_cons]
  refine ⟨.text, ?_, nofun⟩
  refine legible_list fun s hs => Statement.legible_toJson fun x hx => h x ?_
  exact List.mem_flatMap.mpr ⟨s, hs, hx⟩

end Entity

end EntityAudit
