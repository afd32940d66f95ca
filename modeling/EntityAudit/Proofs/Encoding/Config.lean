import EntityAudit.Config
import EntityAudit.Proofs.Id
import EntityAudit.Proofs.Json.Record
import EntityAudit.Proofs.Toml.Document

/-!
A configuration that was written to a document is read from it, unless one of its ids has the number zero: the text of
such an id is none.
-/

namespace EntityAudit

open Json Json.Record

lemma bind_ite_eq_some_iff {α β : Type} {p : Prop} [Decidable p] {a : α} {f : α → Option β} {b : β} :
    ((if p then none else some a) >>= f) = some b ↔ ¬ p ∧ f a = some b := by
  by_cases h : p
  · simp [h]
  · simp [h]

lemma bind_some_eq_some_iff {α β : Type} {a : α} {f : α → Option β} {b : β} :
    (some a >>= f) = some b ↔ f a = some b := Iff.rfl

lemma eq_ite_of_forall {α : Type} {o : Option α} {p : Prop} [Decidable p] {a : α}
    (h : ∀ b, o = some b ↔ ¬ p ∧ a = b) : o = if p then none else some a := by
  by_cases hp : p
  · rw [if_pos hp, Option.eq_none_iff_forall_ne_some]
    exact fun b hb => ((h b).mp hb).1 hp
  · rw [if_neg hp]
    exact (h a).mpr ⟨hp, rfl⟩

lemma Json.Record.defaulting?_cons {α : Type} (m : String × Json) (ms : List (String × Json)) (name : String) (value : α)
    (decode : Json → Option α) : defaulting? ⟨lookup (m :: ms)⟩ name value decode =
      if m.1 = name then decode m.2 else defaulting? ⟨lookup ms⟩ name value decode := by
  by_cases h : m.1 = name
  · simp [defaulting?, lookup, h]
  · simp [defaulting?, lookup, h]

lemma Status.ofString?_name (s : Status) : ofString? s.name = some s := by
  cases s
  all_goals decide

lemma ItemId.parsed?_text (id : ItemId) :
    parsed? ofString? (.text id.toString) = if id.number = 0 then none else some id := ofString?_toString id

lemma PropertyId.parsed?_text (id : PropertyId) :
    parsed? ofString? (.text id.toString) = if id.number = 0 then none else some id := ofString?_toString id

/-! ## Tables of ids -/

namespace Toml

lemma isBareKey_of_all {keys : List String} (h : keys.all (fun key => key ≠ "" && key.toList.all isBare) = true) :
    ∀ key ∈ keys, IsBareKey key := by
  intro key hkey
  have hall := List.all_eq_true.mp h key hkey
  rw [Bool.and_eq_true, decide_eq_true_eq, List.all_eq_true] at hall
  exact ⟨hall.1, hall.2⟩

variable {names texts : List String}

lemma inline_of_mem_zip : ∀ m ∈ names.zip (texts.map Json.text), Inline m.2 := by
  intro m hm
  obtain ⟨s, -, hs⟩ := List.mem_map.mp (List.of_mem_zip hm).2
  rw [← hs]
  exact .scalar (.text s)

lemma tabular_zip (hkeys : ∀ key ∈ names, IsBareKey key) (hnodup : names.Nodup)
    (hlength : names.length ≤ texts.length) : Tabular 1 (names.zip (texts.map Json.text)) := by
  refine tabular_of (fun m hm => hkeys m.1 (List.of_mem_zip hm).1) ?_ fun m hm => .inl (inline_of_mem_zip m hm)
  rwa [List.map_fst_zip (by rwa [List.length_map])]

end Toml

namespace ConstraintTypes

def ids (c : ConstraintTypes) : List ItemId := [
  c.conflictsWith, c.item, c.targetRequiredClaim, c.symmetric, c.inverse, c.qualifier, c.qualifiers,
  c.mandatoryQualifiers, c.range, c.diffWithinRange, c.typeOf, c.valueType, c.singleValue, c.multiValue, c.uniqueValue,
  c.format, c.commonsLink, c.oneOf, c.reference, c.noneOf, c.singleBestValue, c.integer, c.noBounds, c.allowedUnits,
  c.allowedEntityTypes, c.propertyScope]

def members (c : ConstraintTypes) : List (String × Json) :=
  names.zip ((c.ids.map ItemId.toString).map Json.text)

lemma toJson_eq (c : ConstraintTypes) : c.toJson = .object c.members := rfl

lemma tabular_members (c : ConstraintTypes) : Toml.Tabular 1 c.members :=
  Toml.tabular_zip (Toml.isBareKey_of_all (by decide)) (by decide) (Nat.le_refl 26)

lemma ofJson?_toJson (c : ConstraintTypes) :
    ofJson? c.toJson = if ∃ id ∈ c.ids, id.number = 0 then none else some c := by
  refine eq_ite_of_forall fun d => ?_
  have hr : c.toJson.record? names = _ := record?_object (by simp) _
  rw [ofJson?, hr, Option.bind_eq_bind, Option.bind_some]
  simp only [defaulting?_cons, String.reduceEq, if_true, if_false, ItemId.parsed?_text]
  simp only [↓bind_ite_eq_some_iff, Option.pure_def, Option.some.injEq]
  simp only [ids, List.exists_mem_cons_iff, List.not_mem_nil, false_and, exists_false, or_false, not_or]
  simp only [and_assoc]

end ConstraintTypes

namespace ParameterProperties

def ids (c : ParameterProperties) : List PropertyId := [
  c.propertyConstraint, c.property, c.item, c.classes, c.relation, c.minimumQuantity, c.maximumQuantity, c.minimumDate,
  c.maximumDate, c.pageNamespace, c.format, c.exception, c.constraintStatus, c.separator, c.constraintScope,
  c.propertyScope]

def members (c : ParameterProperties) : List (String × Json) :=
  names.zip ((c.ids.map PropertyId.toString).map Json.text)

lemma toJson_eq (c : ParameterProperties) : c.toJson = .object c.members := rfl

lemma tabular_members (c : ParameterProperties) : Toml.Tabular 1 c.members :=
  Toml.tabular_zip (Toml.isBareKey_of_all (by decide)) (by decide) (Nat.le_refl 16)

lemma ofJson?_toJson (c : ParameterProperties) :
    ofJson? c.toJson = if ∃ id ∈ c.ids, id.number = 0 then none else some c := by
  refine eq_ite_of_forall fun d => ?_
  have hr : c.toJson.record? names = _ := record?_object (by simp) _
  rw [ofJson?, hr, Option.bind_eq_bind, Option.bind_some]
  simp only [defaulting?_cons, String.reduceEq, if_true, if_false, PropertyId.parsed?_text]
  simp only [↓bind_ite_eq_some_iff, Option.pure_def, Option.some.injEq]
  simp only [ids, List.exists_mem_cons_iff, List.not_mem_nil, false_and, exists_false, or_false, not_or]
  simp only [and_assoc]

end ParameterProperties

namespace ParameterItems

def ids (c : ParameterItems) : List ItemId := [
  c.instanceOfRelation, c.subclassOfRelation, c.instanceOrSubclassOfRelation, c.statusMandatory, c.statusSuggestion,
  c.scopeMainValue, c.scopeQualifiers, c.scopeReferences, c.propertyScopeMainValue, c.propertyScopeQualifiers,
  c.propertyScopeReferences, c.entityTypeItem, c.entityTypeProperty, c.yearUnit]

def members (c : ParameterItems) : List (String × Json) :=
  names.zip ((c.ids.map ItemId.toString).map Json.text)

lemma toJson_eq (c : ParameterItems) : c.toJson = .object c.members := rfl

lemma tabular_members (c : ParameterItems) : Toml.Tabular 1 c.members :=
  Toml.tabular_zip (Toml.isBareKey_of_all (by decide)) (by decide) (Nat.le_refl 14)

lemma ofJson?_toJson (c : ParameterItems) :
    ofJson? c.toJson = if ∃ id ∈ c.ids, id.number = 0 then none else some c := by
  refine eq_ite_of_forall fun d => ?_
  have hr : c.toJson.record? names = _ := record?_object (by simp) _
  rw [ofJson?, hr, Option.bind_eq_bind, Option.bind_some]
  simp only [defaulting?_cons, String.reduceEq, if_true, if_false, ItemId.parsed?_text]
  simp only [↓bind_ite_eq_some_iff, Option.pure_def, Option.some.injEq]
  simp only [ids, List.exists_mem_cons_iff, List.not_mem_nil, false_and, exists_false, or_false, not_or]
  simp only [and_assoc]

end ParameterItems

lemma list?_parsed?_text (l : List ItemId) : list? (parsed? ItemId.ofString?) (.array (l.map fun id => .text id.toString)) =
    if ∃ id ∈ l, id.number = 0 then none else some l := by
  by_cases h : ∃ id ∈ l, id.number = 0
  · rw [if_pos h]
    obtain ⟨id, hid, hzero⟩ := h
    induction l with
    | nil => cases hid
    | cons a l ih =>
      rw [List.map_cons, list?, List.mapM_cons, ItemId.parsed?_text]
      rcases List.mem_cons.mp hid with rfl | hid
      · rw [if_pos hzero]
        rfl
      · rw [list?] at ih
        rw [ih hid]
        split
        · rfl
        · rfl
  · rw [if_neg h]
    refine list?_array fun id hid => ?_
    rw [ItemId.parsed?_text, if_neg fun hzero => h ⟨id, hid, hzero⟩]

namespace Config

variable {c d : Config} {ms : List (String × Json)}

def HasZeroId (c : Config) : Prop :=
  c.instanceOf.number = 0 ∨ c.subclassOf.number = 0 ∨ (∃ id ∈ c.parameters.ids, id.number = 0) ∨
    (∃ id ∈ c.items.ids, id.number = 0) ∨ (∃ id ∈ c.constraintTypes.ids, id.number = 0) ∨
    ∃ id ∈ c.possiblyStaleTypes, id.number = 0

structure Storable (c : Config) : Prop where
  typeCheckMaxDepth : c.typeCheckMaxDepth < UInt32.size
  graphQueryTimeoutMs : c.graphQueryTimeoutMs < 9223372036854775808
  pageExistenceTimeoutMs : c.pageExistenceTimeoutMs < 9223372036854775808
  checkDurationInfoSeconds : c.checkDurationInfoSeconds.isNaN = false
  checkDurationWarningSeconds : c.checkDurationWarningSeconds.isNaN = false

lemma arranged_members (c : Config) (h : c.toJson = .object ms) : Toml.arranged ms = [
    ("instance_of", .text c.instanceOf.toString),
    ("subclass_of", .text c.subclassOf.toString),
    ("type_check_max_depth", .integer c.typeCheckMaxDepth),
    ("use_graph_query_for_types", .bool c.useGraphQueryForTypes),
    ("graph_query_timeout_ms", .integer c.graphQueryTimeoutMs),
    ("check_duration_info_seconds", .float c.checkDurationInfoSeconds),
    ("check_duration_warning_seconds", .float c.checkDurationWarningSeconds),
    ("cached_statuses", .array (c.cachedStatuses.map fun s => .text s.name)),
    ("possibly_stale_constraint_types", .array (c.possiblyStaleTypes.map fun id => .text id.toString)),
    ("commons_base_url", .text c.commonsBaseUrl),
    ("page_existence_timeout_ms", .integer c.pageExistenceTimeoutMs),
    ("parameters", c.parameters.toJson),
    ("items", c.items.toJson),
    ("constraint_types", c.constraintTypes.toJson)] := by
  rw [toJson, c.parameters.toJson_eq, c.items.toJson_eq, c.constraintTypes.toJson_eq] at h
  obtain rfl := Json.object.inj h
  have hparameters : Toml.arranged c.parameters.members = c.parameters.members :=
    Toml.arranged_of_inline Toml.inline_of_mem_zip
  have hitems : Toml.arranged c.items.members = c.items.members := Toml.arranged_of_inline Toml.inline_of_mem_zip
  have htypes : Toml.arranged c.constraintTypes.members = c.constraintTypes.members :=
    Toml.arranged_of_inline Toml.inline_of_mem_zip
  rw [Toml.arranged] at hparameters hitems htypes
  rw [c.parameters.toJson_eq, c.items.toJson_eq, c.constraintTypes.toJson_eq]
  simp only [Toml.arranged, Toml.plainNodes, Toml.tableNodes, Toml.membersJson, Toml.Node.toJson, List.cons_append,
    List.nil_append, hparameters, hitems, htypes]

lemma tabular_members (h : c.toJson = .object ms) (hc : c.Storable) : Toml.Tabular 2 ms := by
  rw [toJson, c.parameters.toJson_eq, c.items.toJson_eq, c.constraintTypes.toJson_eq] at h
  obtain rfl := Json.object.inj h
  have hstatuses : Toml.Inline (.array (c.cachedStatuses.map fun s => .text s.name)) :=
    .array (List.forall_mem_map.mpr fun s _ => .text s.name)
  have htypes : Toml.Inline (.array (c.possiblyStaleTypes.map fun id => .text id.toString)) :=
    .array (List.forall_mem_map.mpr fun id _ => .text id.toString)
  have hkeys : ∀ key ∈ names, Toml.IsBareKey key := Toml.isBareKey_of_all (by decide)
  have hnodup : names.Nodup := by decide
  refine Toml.tabular_of (fun m hm => hkeys m.1 (List.mem_map_of_mem hm)) hnodup ?_
  have hdepth : c.typeCheckMaxDepth < 9223372036854775808 := hc.typeCheckMaxDepth.trans (by decide)
  simp only [List.forall_mem_cons]
  exact ⟨.inl (.scalar (.text _)), .inl (.scalar (.text _)), .inr ⟨_, rfl, c.parameters.tabular_members⟩,
    .inr ⟨_, rfl, c.items.tabular_members⟩, .inr ⟨_, rfl, c.constraintTypes.tabular_members⟩,
    .inl (.scalar (.natural hdepth)), .inl (.scalar (.bool _)),
    .inl (.scalar (.natural hc.graphQueryTimeoutMs)), .inl (.scalar (.number hc.checkDurationInfoSeconds)),
    .inl (.scalar (.number hc.checkDurationWarningSeconds)), .inl hstatuses, .inl htypes, .inl (.scalar (.text _)),
    .inl (.scalar (.natural hc.pageExistenceTimeoutMs)), List.forall_mem_nil _⟩

lemma ofJson?_arranged (h : c.toJson = .object ms) (hc : c.Storable) :
    ofJson? (.object (Toml.arranged ms)) = some d ↔ ¬ c.HasZeroId ∧ c = d := by
  rw [arranged_members c h]
  have hr {ms : List (String × Json)} (hms : (ms.map (·.1)).Nodup) : record? names (.object ms) = some ⟨lookup ms⟩ :=
    record?_object hms names
  have hstatuses : list? Status.ofJson? (.array (c.cachedStatuses.map fun s => .text s.name)) = some c.cachedStatuses :=
    list?_array fun s _ => Status.ofString?_name s
  have hdepth : natural? UInt32.size (.integer c.typeCheckMaxDepth) = some c.typeCheckMaxDepth :=
    natural?_natCast hc.typeCheckMaxDepth
  have hquery : natural? UInt64.size (.integer c.graphQueryTimeoutMs) = some c.graphQueryTimeoutMs :=
    natural?_natCast (hc.graphQueryTimeoutMs.trans (by decide))
  have hpage : natural? UInt64.size (.integer c.pageExistenceTimeoutMs) = some c.pageExistenceTimeoutMs :=
    natural?_natCast (hc.pageExistenceTimeoutMs.trans (by decide))
  have hbool (b : Bool) : Json.bool? (.bool b) = some b := rfl
  have hfloat (x : Float) : Json.float? (.float x) = some x := rfl
  have htext (s : String) : Json.string? (.text s) = some s := rfl
  -- The decoders are rewritten and not unfolded: else all look-ups are evaluated once more when the proof is checked.
  rw [ofJson?, hr (by simp), Option.bind_eq_bind, Option.bind_some]
  simp only [defaulting?_cons, String.reduceEq, if_true, if_false, PropertyId.parsed?_text,
    ParameterProperties.ofJson?_toJson, ParameterItems.ofJson?_toJson, ConstraintTypes.ofJson?_toJson, hdepth,
    hquery, hpage, hbool, hfloat, htext, hstatuses, list?_parsed?_text]
  simp only [↓bind_ite_eq_some_iff, ↓bind_some_eq_some_iff, Option.pure_def, Option.some.injEq]
  simp only [HasZeroId, not_or, and_assoc]

theorem exists_members (hc : c.Storable) : ∃ ms, c.toJson = .object ms ∧ Toml.Tabular 2 ms ∧
    ∀ d, ofJson? (.object (Toml.arranged ms)) = some d ↔ ¬ c.HasZeroId ∧ c = d :=
  ⟨_, rfl, tabular_members rfl hc, fun _ => ofJson?_arranged rfl hc⟩

end Config

end EntityAudit
