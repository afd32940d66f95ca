import EntityAudit.Cache
import EntityAudit.Proofs.Encoding.Statement
import EntityAudit.Proofs.Moment

namespace EntityAudit

open Json Record

namespace ParameterSnaks

def ids (m : ParameterSnaks) : List EntityId :=
  m.entries.flatMap fun e => .property e.1 :: e.2.flatMap Snak.ids

def numbers (m : ParameterSnaks) : List Float := m.entries.flatMap fun e => e.2.flatMap Snak.numbers

variable {m : ParameterSnaks}

lemma ofJson?_toJson (h : ∀ id ∈ m.ids, id.number ≠ 0) : ofJson? m.toJson = some m := by
  have hkey : ∀ e ∈ m.entries, PropertyId.ofString? e.1.toString = some e.1 := by
    intro e he
    have hid : EntityId.property e.1 ∈ m.ids := List.mem_flatMap.mpr ⟨e, he, List.mem_cons_self⟩
    have hnumber : e.1.number ≠ 0 := h _ hid
    rw [PropertyId.ofString?_toString, if_neg hnumber]
  have hsnaks : ∀ e ∈ m.entries, list? Snak.ofJson? (.array (e.2.map (·.toJson))) = some e.2 := by
    refine fun e he => list?_array fun s hs => Snak.ofJson?_toJson fun id hid => h id ?_
    exact List.mem_flatMap.mpr ⟨e, he, List.mem_cons_of_mem _ (List.mem_flatMap.mpr ⟨s, hs, hid⟩)⟩
  exact map?_object PropertyId.toString (fun l => .array (l.map (·.toJson))) hkey hsnaks

lemma legible_toJson (h : ∀ x ∈ m.numbers, ReadsBack x) {n : Nat} : Legible (n + 5) m.toJson := by
  refine .object fun member hmember => ?_
  obtain ⟨e, he, rfl⟩ := List.mem_map.mp hmember
  refine legible_list fun s hs => Snak.legible_toJson fun x hx => h x ?_
  exact List.mem_flatMap.mpr ⟨e, he, List.mem_flatMap.mpr ⟨s, hs, hx⟩⟩

end ParameterSnaks

namespace Constraint

def ids (c : Constraint) : List EntityId := .property c.property :: .item c.type :: c.parameters.ids

variable {c : Constraint}

lemma ofJson?_toJson (h : ∀ id ∈ c.ids, id.number ≠ 0) : ofJson? c.toJson = some c := by
  simp only [ids, List.forall_mem_cons] at h
  obtain ⟨hproperty, htype, hparameters⟩ := h
  simp only [ofJson?, Option.bind_eq_bind, Option.bind_eq_some_iff]
  refine ⟨_, record?_record (by simp) _, c.id, required?_of_get? rfl rfl, c.property,
    required?_of_get? rfl (PropertyId.parsed?_toString hproperty), c.type,
    required?_of_get? rfl (ItemId.parsed?_toString htype), c.parameters,
    defaulting?_of_get? rfl (ParameterSnaks.ofJson?_toJson hparameters), c.deprecated, ?_, rfl⟩
  cases c.deprecated with
  | true => exact defaulting?_of_get? rfl rfl
  | false => rfl

lemma legible_toJson (h : ∀ x ∈ c.parameters.numbers, ReadsBack x) {n : Nat} : Legible (n + 6) c.toJson := by
  apply legible_record
  simp only [List.forall_mem_cons]
  exact ⟨legible_some .text, legible_some .text, legible_some .text,
    legible_some (ParameterSnaks.legible_toJson h), legible_when .bool, nofun⟩

end Constraint

namespace Cursor

def ids (c : Cursor) : List EntityId := [c.entity, .property c.statementProperty, .property c.snakProperty]

lemma ofJson?_toJson {c : Cursor} (h : ∀ id ∈ c.ids, id.number ≠ 0) : ofJson? c.toJson = some c := by
  simp only [ids, List.forall_mem_cons] at h
  obtain ⟨hentity, hstatement, hsnak, -⟩ := h
  have hrole : choice? Role.ofString? (.text c.role.name) = some c.role := by
    cases c.role with
    | statement => rfl
    | qualifier => rfl
    | reference => rfl
  simp only [ofJson?, Option.bind_eq_bind, Option.bind_eq_some_iff]
  refine ⟨_, record?_record (by simp) _, c.role, required?_of_get? rfl hrole, c.entity,
    required?_of_get? rfl (EntityId.parsed?_toString hentity), c.statementProperty,
    required?_of_get? rfl (PropertyId.parsed?_toString hstatement), c.guid, required?_of_get? rfl rfl,
    c.snakProperty, required?_of_get? rfl (PropertyId.parsed?_toString hsnak), c.snakHash,
    required?_of_get? rfl rfl, c.referenceHash, ?_, rfl⟩
  exact optional?_of_map rfl rfl fun _ _ => rfl

lemma legible_toJson (c : Cursor) {n : Nat} : Legible (n + 1) c.toJson := by
  apply legible_record
  simp only [List.forall_mem_cons]
  exact ⟨legible_some .text, legible_some .text, legible_some .text, legible_some .text, legible_some .text,
    legible_some .text, legible_map fun _ _ => .text, nofun⟩

end Cursor

namespace Message

lemma ofJson?_toJson (m : Message) : ofJson? m.toJson = some m := by
  simp only [ofJson?, Option.bind_eq_bind, Option.bind_eq_some_iff]
  exact ⟨_, record?_object (by simp) _, m.key, required?_of_get? rfl rfl, m.text, required?_of_get? rfl rfl, rfl⟩

lemma legible_toJson (m : Message) {n : Nat} : Legible (n + 1) m.toJson := by
  refine .object ?_
  simp only [List.forall_mem_cons]
  exact ⟨.text, .text, nofun⟩

end Message

lemma Moment.parsed?_toString {m : Moment} (h : m.ReadsBack) : parsed? ofString? (.text m.toString) = some m := h

namespace Metadata

variable {m : Metadata}

lemma ofJson?_toJson (hage : ∀ n ∈ m.maxAge, n < UInt64.size) (hids : ∀ id ∈ m.entities.keys, id.number ≠ 0)
    (hfuture : ∀ t ∈ m.future, t.ReadsBack) : ofJson? m.toJson = some m := by
  have hnatural : ∀ n ∈ m.maxAge, natural? UInt64.size (.integer n) = some n :=
    fun n hn => natural?_natCast (hage n hn)
  simp only [ofJson?, Option.bind_eq_bind, Option.bind_eq_some_iff]
  refine ⟨_, record?_object (by simp) _, m.maxAge, defaulting?_of_get? rfl ?_, (m.entities, m.future),
    defaulting?_of_get? rfl ?_, rfl⟩
  · rw [Option.bind_eq_some_iff]
    refine ⟨_, record?_record (by simp) _, ?_⟩
    -- With the limit in sight, `rfl` would compute it in unary.
    generalize natural? UInt64.size = natural? at *
    cases hmax : m.maxAge with
    | none => rfl
    | some n => exact congrArg (Option.map some) (hnatural n hmax)
  · simp only [Option.bind_eq_some_iff]
    refine ⟨_, record?_record (by simp) _, m.entities.keys, defaulting?_of_ite rfl ?_ ?_, m.future, ?_, ?_⟩
    · exact fun hempty => congrArg SortedMap.keys (SortedMap.eq_empty_of_isEmpty hempty)
    · exact list?_array fun id hid => EntityId.parsed?_toString (hids id hid)
    · exact optional?_of_map rfl rfl fun t ht => Moment.parsed?_toString (hfuture t ht)
    · rw [SortedMap.setOf_keys]
      rfl

lemma legible_toJson (hage : ∀ n ∈ m.maxAge, n < UInt64.size) {n : Nat} : Legible (n + 3) m.toJson := by
  have hids : Legible (n + 1) (.array (m.entities.keys.map fun id => .text id.toString)) :=
    legible_list fun _ _ => .text
  refine .object ?_
  simp only [List.forall_mem_cons]
  refine ⟨legible_record ?_, legible_record ?_, nofun⟩
  · simp only [List.forall_mem_cons]
    refine ⟨legible_map fun i hi => ?_, nofun⟩
    obtain ⟨n, hn, hi⟩ := Option.bind_eq_some_iff.mp hi
    obtain rfl := Option.some.inj hi
    have hlt := hage n hn
    exact .integer (by omega) (by omega)
  · simp only [List.forall_mem_cons]
    exact ⟨legible_unless hids, legible_map fun _ _ => .text, nofun⟩

end Metadata

namespace Result

def ids (r : Result) : List EntityId := r.cursor.ids ++ (r.constraint.ids ++ r.metadata.entities.keys)

variable {r : Result}

lemma map?_parameters (m : SortedMap String (List String)) :
    map? some (list? string?) (.object (m.entries.map fun e => (e.1, .array (e.2.map .text)))) = some m :=
  map?_object id (fun values : List String => .array (values.map .text)) (fun _ _ => rfl)
    fun _ _ => list?_array fun _ _ => rfl

lemma ofJson?_toJson (hids : ∀ id ∈ r.ids, id.number ≠ 0) (hage : ∀ n ∈ r.metadata.maxAge, n < UInt64.size)
    (hfuture : ∀ t ∈ r.metadata.future, t.ReadsBack) : ofJson? r.toJson = some r := by
  simp only [ids, List.forall_mem_append] at hids
  obtain ⟨hcursor, hconstraint, hentities⟩ := hids
  have hstatus : Status.ofJson? (.text r.status.name) = some r.status := by
    cases r.status with
    | _ => rfl
  simp only [ofJson?, Option.bind_eq_bind, Option.bind_eq_some_iff]
  refine ⟨_, record?_record (by simp) _, r.cursor, required?_of_get? rfl (Cursor.ofJson?_toJson hcursor),
    r.constraint, required?_of_get? rfl (Constraint.ofJson?_toJson hconstraint), r.parameters,
    defaulting?_of_ite rfl SortedMap.eq_empty_of_isEmpty (map?_parameters r.parameters), r.status,
    required?_of_get? rfl hstatus, r.message, ?_, r.metadata,
    defaulting?_of_get? rfl (Metadata.ofJson?_toJson hage hentities hfuture), rfl⟩
  exact optional?_of_map rfl rfl fun m _ => Message.ofJson?_toJson m

lemma legible_toJson (hnumbers : ∀ x ∈ r.constraint.parameters.numbers, ReadsBack x)
    (hage : ∀ n ∈ r.metadata.maxAge, n < UInt64.size) {n : Nat} : Legible (n + 7) r.toJson := by
  have hparameters : Legible (n + 6) (.object (r.parameters.entries.map fun e =>
      (e.1, .array (e.2.map .text)))) := by
    refine .object fun member hmember => ?_
    obtain ⟨e, -, rfl⟩ := List.mem_map.mp hmember
    exact legible_list fun _ _ => .text
  apply legible_record
  simp only [List.forall_mem_cons]
  exact ⟨legible_some (Cursor.legible_toJson r.cursor), legible_some (Constraint.legible_toJson hnumbers),
    legible_unless hparameters, legible_some .text, legible_map fun m _ => Message.legible_toJson m,
    legible_some (Metadata.legible_toJson hage), nofun⟩

end Result

namespace CacheEntry

/-- What is asked of an entry for its text to be read: every identifier is numbered from 1 on, every number and
moment is read from its own text, and revisions and ages fit into 64 bits. -/
structure Readable (e : CacheEntry) : Prop where
  ids : ∀ r ∈ e.results, ∀ id ∈ r.ids, id.number ≠ 0
  numbers : ∀ r ∈ e.results, ∀ x ∈ r.constraint.parameters.numbers, ReadsBack x
  ages : ∀ r ∈ e.results, ∀ n ∈ r.metadata.maxAge, n < UInt64.size
  futures : ∀ r ∈ e.results, ∀ t ∈ r.metadata.future, t.ReadsBack
  revised : ∀ v ∈ e.revisions.entries, v.1.number ≠ 0 ∧ v.2 < UInt64.size
  future : ∀ t ∈ e.future, t.ReadsBack
  storedAt : e.storedAt.ReadsBack

variable {e : CacheEntry}

lemma ofJson?_toJson (h : e.Readable) : ofJson? e.toJson = some e := by
  have hresults : list? Result.ofJson? (.array (e.results.map (·.toJson))) = some e.results :=
    list?_array fun r hr => Result.ofJson?_toJson (h.ids r hr) (h.ages r hr) (h.futures r hr)
  have hrevisions : map? EntityId.ofString? (natural? UInt64.size) (.object (e.revisions.entries.map fun v =>
      (v.1.toString, .integer v.2))) = some e.revisions := by
    refine map?_object EntityId.toString (fun n : Nat => .integer n) (fun v hv => ?_) fun v hv => ?_
    · rw [EntityId.ofString?_toString, if_neg (h.revised v hv).1]
    · exact natural?_natCast (h.revised v hv).2
  simp only [ofJson?, Option.bind_eq_bind, Option.bind_eq_some_iff]
  refine ⟨_, record?_record (by simp) _, e.results, required?_of_get? rfl hresults, e.revisions,
    required?_of_get? rfl hrevisions, e.future, ?_, e.storedAt,
    required?_of_get? rfl (Moment.parsed?_toString h.storedAt), rfl⟩
  exact optional?_of_map rfl rfl fun t ht => Moment.parsed?_toString (h.future t ht)

lemma legible_toJson (h : e.Readable) {n : Nat} : Legible (n + 9) e.toJson := by
  have hresults : Legible (n + 8) (.array (e.results.map (·.toJson))) :=
    legible_list fun r hr => Result.legible_toJson (h.numbers r hr) (h.ages r hr)
  have hrevisions : Legible (n + 8) (.object (e.revisions.entries.map fun v => (v.1.toString, .integer v.2))) := by
    refine .object fun m hm => ?_
    obtain ⟨v, hv, rfl⟩ := List.mem_map.mp hm
    have hlt := (h.revised v hv).2
    exact .integer (by omega) (by omega)
  apply legible_record
  simp only [List.forall_mem_cons]
  exact ⟨legible_some hresults, legible_some hrevisions, legible_map fun _ _ => .text, legible_some .text, nofun⟩

theorem read_text (h : e.Readable) : read e.text = .ok e := by
  rw [read, text, ofString?_compact (legible_toJson h)]
  simp only [ofJson?_toJson h]

end CacheEntry

end EntityAudit
