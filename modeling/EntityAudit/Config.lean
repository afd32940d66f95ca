import EntityAudit.Result

/-!
The configuration of the checks: which items and properties name constraint types and
parameters, limits, and what the cache holds. Every setting has a default.
-/

namespace EntityAudit

structure ConstraintTypes where
  conflictsWith : ItemId := ⟨21502838⟩
  item : ItemId := ⟨21503247⟩
  targetRequiredClaim : ItemId := ⟨21510864⟩
  symmetric : ItemId := ⟨21510862⟩
  inverse : ItemId := ⟨21510855⟩
  qualifier : ItemId := ⟨21510863⟩
  qualifiers : ItemId := ⟨21510851⟩
  mandatoryQualifiers : ItemId := ⟨21510856⟩
  range : ItemId := ⟨21510860⟩
  diffWithinRange : ItemId := ⟨21510854⟩
  typeOf : ItemId := ⟨21503250⟩
  valueType : ItemId := ⟨21510865⟩
  singleValue : ItemId := ⟨19474404⟩
  multiValue : ItemId := ⟨21510857⟩
  uniqueValue : ItemId := ⟨21502410⟩
  format : ItemId := ⟨21502404⟩
  commonsLink : ItemId := ⟨21510852⟩
  oneOf : ItemId := ⟨21510859⟩
  reference : ItemId := ⟨21528959⟩
  noneOf : ItemId := ⟨52558054⟩
  singleBestValue : ItemId := ⟨52060874⟩
  integer : ItemId := ⟨52848401⟩
  noBounds : ItemId := ⟨51723761⟩
  allowedUnits : ItemId := ⟨21514353⟩
  allowedEntityTypes : ItemId := ⟨52004125⟩
  propertyScope : ItemId := ⟨53869507⟩
  deriving DecidableEq

namespace ConstraintTypes

instance : Inhabited ConstraintTypes := ⟨{}⟩

def toJson (c : ConstraintTypes) : Json :=
  .object [
    ("conflicts_with", .text c.conflictsWith.toString),
    ("item", .text c.item.toString),
    ("target_required_claim", .text c.targetRequiredClaim.toString),
    ("symmetric", .text c.symmetric.toString),
    ("inverse", .text c.inverse.toString),
    ("qualifier", .text c.qualifier.toString),
    ("qualifiers", .text c.qualifiers.toString),
    ("mandatory_qualifiers", .text c.mandatoryQualifiers.toString),
    ("range", .text c.range.toString),
    ("diff_within_range", .text c.diffWithinRange.toString),
    ("type_", .text c.typeOf.toString),
    ("value_type", .text c.valueType.toString),
    ("single_value", .text c.singleValue.toString),
    ("multi_value", .text c.multiValue.toString),
    ("unique_value", .text c.uniqueValue.toString),
    ("format", .text c.format.toString),
    ("commons_link", .text c.commonsLink.toString),
    ("one_of", .text c.oneOf.toString),
    ("reference", .text c.reference.toString),
    ("none_of", .text c.noneOf.toString),
    ("single_best_value", .text c.singleBestValue.toString),
    ("integer", .text c.integer.toString),
    ("no_bounds", .text c.noBounds.toString),
    ("allowed_units", .text c.allowedUnits.toString),
    ("allowed_entity_types", .text c.allowedEntityTypes.toString),
    ("property_scope", .text c.propertyScope.toString)]

def names : List String := [
  "conflicts_with", "item", "target_required_claim", "symmetric", "inverse", "qualifier",
  "qualifiers", "mandatory_qualifiers", "range", "diff_within_range", "type_", "value_type",
  "single_value", "multi_value", "unique_value", "format", "commons_link", "one_of", "reference",
  "none_of", "single_best_value", "integer", "no_bounds", "allowed_units",
  "allowed_entity_types", "property_scope"]

def ofJson? (j : Json) : Option ConstraintTypes := do
  let r ← j.record? names
  let c : ConstraintTypes := {}
  let id? := Json.parsed? ItemId.ofString?
  return {
    conflictsWith := ← r.defaulting? "conflicts_with" c.conflictsWith id?
    item := ← r.defaulting? "item" c.item id?
    targetRequiredClaim := ← r.defaulting? "target_required_claim" c.targetRequiredClaim id?
    symmetric := ← r.defaulting? "symmetric" c.symmetric id?
    inverse := ← r.defaulting? "inverse" c.inverse id?
    qualifier := ← r.defaulting? "qualifier" c.qualifier id?
    qualifiers := ← r.defaulting? "qualifiers" c.qualifiers id?
    mandatoryQualifiers := ← r.defaulting? "mandatory_qualifiers" c.mandatoryQualifiers id?
    range := ← r.defaulting? "range" c.range id?
    diffWithinRange := ← r.defaulting? "diff_within_range" c.diffWithinRange id?
    typeOf := ← r.defaulting? "type_" c.typeOf id?
    valueType := ← r.defaulting? "value_type" c.valueType id?
    singleValue := ← r.defaulting? "single_value" c.singleValue id?
    multiValue := ← r.defaulting? "multi_value" c.multiValue id?
    uniqueValue := ← r.defaulting? "unique_value" c.uniqueValue id?
    format := ← r.defaulting? "format" c.format id?
    commonsLink := ← r.defaulting? "commons_link" c.commonsLink id?
    oneOf := ← r.defaulting? "one_of" c.oneOf id?
    reference := ← r.defaulting? "reference" c.reference id?
    noneOf := ← r.defaulting? "none_of" c.noneOf id?
    singleBestValue := ← r.defaulting? "single_best_value" c.singleBestValue id?
    integer := ← r.defaulting? "integer" c.integer id?
    noBounds := ← r.defaulting? "no_bounds" c.noBounds id?
    allowedUnits := ← r.defaulting? "allowed_units" c.allowedUnits id?
    allowedEntityTypes := ← r.defaulting? "allowed_entity_types" c.allowedEntityTypes id?
    propertyScope := ← r.defaulting? "property_scope" c.propertyScope id? }

end ConstraintTypes

structure ParameterProperties where
  propertyConstraint : PropertyId := ⟨2302⟩
  property : PropertyId := ⟨2306⟩
  item : PropertyId := ⟨2305⟩
  classes : PropertyId := ⟨2308⟩
  relation : PropertyId := ⟨2309⟩
  minimumQuantity : PropertyId := ⟨2313⟩
  maximumQuantity : PropertyId := ⟨2312⟩
  minimumDate : PropertyId := ⟨2310⟩
  maximumDate : PropertyId := ⟨2311⟩
  pageNamespace : PropertyId := ⟨2307⟩
  format : PropertyId := ⟨1793⟩
  exception : PropertyId := ⟨2303⟩
  constraintStatus : PropertyId := ⟨2316⟩
  separator : PropertyId := ⟨4155⟩
  constraintScope : PropertyId := ⟨4680⟩
  propertyScope : PropertyId := ⟨5314⟩
  deriving DecidableEq

namespace ParameterProperties

instance : Inhabited ParameterProperties := ⟨{}⟩

def toJson (c : ParameterProperties) : Json :=
  .object [
    ("property_constraint", .text c.propertyConstraint.toString),
    ("property", .text c.property.toString),
    ("item", .text c.item.toString),
    ("class", .text c.classes.toString),
    ("relation", .text c.relation.toString),
    ("minimum_quantity", .text c.minimumQuantity.toString),
    ("maximum_quantity", .text c.maximumQuantity.toString),
    ("minimum_date", .text c.minimumDate.toString),
    ("maximum_date", .text c.maximumDate.toString),
    ("namespace", .text c.pageNamespace.toString),
    ("format", .text c.format.toString),
    ("exception", .text c.exception.toString),
    ("constraint_status", .text c.constraintStatus.toString),
    ("separator", .text c.separator.toString),
    ("constraint_scope", .text c.constraintScope.toString),
    ("property_scope", .text c.propertyScope.toString)]

def names : List String := [
  "property_constraint", "property", "item", "class", "relation", "minimum_quantity",
  "maximum_quantity", "minimum_date", "maximum_date", "namespace", "format", "exception",
  "constraint_status", "separator", "constraint_scope", "property_scope"]

def ofJson? (j : Json) : Option ParameterProperties := do
  let r ← j.record? names
  let c : ParameterProperties := {}
  let id? := Json.parsed? PropertyId.ofString?
  return {
    propertyConstraint := ← r.defaulting? "property_constraint" c.propertyConstraint id?
    property := ← r.defaulting? "property" c.property id?
    item := ← r.defaulting? "item" c.item id?
    classes := ← r.defaulting? "class" c.classes id?
    relation := ← r.defaulting? "relation" c.relation id?
    minimumQuantity := ← r.defaulting? "minimum_quantity" c.minimumQuantity id?
    maximumQuantity := ← r.defaulting? "maximum_quantity" c.maximumQuantity id?
    minimumDate := ← r.defaulting? "minimum_date" c.minimumDate id?
    maximumDate := ← r.defaulting? "maximum_date" c.maximumDate id?
    pageNamespace := ← r.defaulting? "namespace" c.pageNamespace id?
    format := ← r.defaulting? "format" c.format id?
    exception := ← r.defaulting? "exception" c.exception id?
    constraintStatus := ← r.defaulting? "constraint_status" c.constraintStatus id?
    separator := ← r.defaulting? "separator" c.separator id?
    constraintScope := ← r.defaulting? "constraint_scope" c.constraintScope id?
    propertyScope := ← r.defaulting? "property_scope" c.propertyScope id? }

end ParameterProperties

structure ParameterItems where
  instanceOfRelation : ItemId := ⟨21503252⟩
  subclassOfRelation : ItemId := ⟨21514624⟩
  instanceOrSubclassOfRelation : ItemId := ⟨30208840⟩
  statusMandatory : ItemId := ⟨21502408⟩
  statusSuggestion : ItemId := ⟨62026391⟩
  scopeMainValue : ItemId := ⟨46466787⟩
  scopeQualifiers : ItemId := ⟨46466783⟩
  scopeReferences : ItemId := ⟨46466805⟩
  propertyScopeMainValue : ItemId := ⟨54828448⟩
  propertyScopeQualifiers : ItemId := ⟨54828449⟩
  propertyScopeReferences : ItemId := ⟨54828450⟩
  entityTypeItem : ItemId := ⟨29934200⟩
  entityTypeProperty : ItemId := ⟨29934218⟩
  yearUnit : ItemId := ⟨577⟩
  deriving DecidableEq

namespace ParameterItems

instance : Inhabited ParameterItems := ⟨{}⟩

def toJson (c : ParameterItems) : Json :=
  .object [
    ("instance_of_relation", .text c.instanceOfRelation.toString),
    ("subclass_of_relation", .text c.subclassOfRelation.toString),
    ("instance_or_subclass_of_relation", .text c.instanceOrSubclassOfRelation.toString),
    ("status_mandatory", .text c.statusMandatory.toString),
    ("status_suggestion", .text c.statusSuggestion.toString),
    ("scope_main_value", .text c.scopeMainValue.toString),
    ("scope_qualifiers", .text c.scopeQualifiers.toString),
    ("scope_references", .text c.scopeReferences.toString),
    ("property_scope_main_value", .text c.propertyScopeMainValue.toString),
    ("property_scope_qualifiers", .text c.propertyScopeQualifiers.toString),
    ("property_scope_references", .text c.propertyScopeReferences.toString),
    ("entity_type_item", .text c.entityTypeItem.toString),
    ("entity_type_property", .text c.entityTypeProperty.toString),
    ("year_unit", .text c.yearUnit.toString)]

def names : List String := [
  "instance_of_relation", "subclass_of_relation", "instance_or_subclass_of_relation",
  "status_mandatory", "status_suggestion", "scope_main_value", "scope_qualifiers",
  "scope_references", "property_scope_main_value", "property_scope_qualifiers",
  "property_scope_references", "entity_type_item", "entity_type_property", "year_unit"]

def ofJson? (j : Json) : Option ParameterItems := do
  let r ← j.record? names
  let c : ParameterItems := {}
  let id? := Json.parsed? ItemId.ofString?
  return {
    instanceOfRelation := ← r.defaulting? "instance_of_relation" c.instanceOfRelation id?
    subclassOfRelation := ← r.defaulting? "subclass_of_relation" c.subclassOfRelation id?
    instanceOrSubclassOfRelation := ← r.defaulting? "instance_or_subclass_of_relation" c.instanceOrSubclassOfRelation id?
    statusMandatory := ← r.defaulting? "status_mandatory" c.statusMandatory id?
    statusSuggestion := ← r.defaulting? "status_suggestion" c.statusSuggestion id?
    scopeMainValue := ← r.defaulting? "scope_main_value" c.scopeMainValue id?
    scopeQualifiers := ← r.defaulting? "scope_qualifiers" c.scopeQualifiers id?
    scopeReferences := ← r.defaulting? "scope_references" c.scopeReferences id?
    propertyScopeMainValue := ← r.defaulting? "property_scope_main_value" c.propertyScopeMainValue id?
    propertyScopeQualifiers := ← r.defaulting? "property_scope_qualifiers" c.propertyScopeQualifiers id?
    propertyScopeReferences := ← r.defaulting? "property_scope_references" c.propertyScopeReferences id?
    entityTypeItem := ← r.defaulting? "entity_type_item" c.entityTypeItem id?
    entityTypeProperty := ← r.defaulting? "entity_type_property" c.entityTypeProperty id?
    yearUnit := ← r.defaulting? "year_unit" c.yearUnit id? }

end ParameterItems

structure Config where
  instanceOf : PropertyId := ⟨31⟩
  subclassOf : PropertyId := ⟨279⟩
  parameters : ParameterProperties := {}
  items : ParameterItems := {}
  constraintTypes : ConstraintTypes := {}
  typeCheckMaxDepth : Nat := 20
  useGraphQueryForTypes : Bool := false
  graphQueryTimeoutMs : Nat := 5000
  checkDurationInfoSeconds : Float := 1.0
  checkDurationWarningSeconds : Float := 10.0
  cachedStatuses : List Status := [.violation, .warning, .suggestion, .badParameters]
  possiblyStaleTypes : List ItemId :=
    [({} : ConstraintTypes).commonsLink, ({} : ConstraintTypes).typeOf,
      ({} : ConstraintTypes).valueType, ({} : ConstraintTypes).uniqueValue]
  commonsBaseUrl : String := "https://commons.wikimedia.org/wiki/"
  pageExistenceTimeoutMs : Nat := 5000

namespace Config

instance : Inhabited Config := ⟨{}⟩

def toJson (c : Config) : Json :=
  .object [
    ("instance_of", .text c.instanceOf.toString),
    ("subclass_of", .text c.subclassOf.toString),
    ("parameters", c.parameters.toJson),
    ("items", c.items.toJson),
    ("constraint_types", c.constraintTypes.toJson),
    ("type_check_max_depth", .integer c.typeCheckMaxDepth),
    ("use_graph_query_for_types", .bool c.useGraphQueryForTypes),
    ("graph_query_timeout_ms", .integer c.graphQueryTimeoutMs),
    ("check_duration_info_seconds", .float c.checkDurationInfoSeconds),
    ("check_duration_warning_seconds", .float c.checkDurationWarningSeconds),
    ("cached_statuses", .array (c.cachedStatuses.map fun s => .text s.name)),
    ("possibly_stale_constraint_types", .array (c.possiblyStaleTypes.map fun id => .text id.toString)),
    ("commons_base_url", .text c.commonsBaseUrl),
    ("page_existence_timeout_ms", .integer c.pageExistenceTimeoutMs)]

def names : List String := [
  "instance_of", "subclass_of", "parameters", "items", "constraint_types", "type_check_max_depth",
  "use_graph_query_for_types", "graph_query_timeout_ms", "check_duration_info_seconds",
  "check_duration_warning_seconds", "cached_statuses", "possibly_stale_constraint_types",
  "commons_base_url", "page_existence_timeout_ms"]

def ofJson? (j : Json) : Option Config := do
  let r ← j.record? names
  let c : Config := {}
  let property? := Json.parsed? PropertyId.ofString?
  return {
    instanceOf := ← r.defaulting? "instance_of" c.instanceOf property?
    subclassOf := ← r.defaulting? "subclass_of" c.subclassOf property?
    parameters := ← r.defaulting? "parameters" c.parameters ParameterProperties.ofJson?
    items := ← r.defaulting? "items" c.items ParameterItems.ofJson?
    constraintTypes := ← r.defaulting? "constraint_types" c.constraintTypes ConstraintTypes.ofJson?
    typeCheckMaxDepth :=
      ← r.defaulting? "type_check_max_depth" c.typeCheckMaxDepth (Json.natural? UInt32.size)
    useGraphQueryForTypes :=
      ← r.defaulting? "use_graph_query_for_types" c.useGraphQueryForTypes Json.bool?
    graphQueryTimeoutMs :=
      ← r.defaulting? "graph_query_timeout_ms" c.graphQueryTimeoutMs (Json.natural? UInt64.size)
    checkDurationInfoSeconds :=
      ← r.defaulting? "check_duration_info_seconds" c.checkDurationInfoSeconds Json.float?
    checkDurationWarningSeconds :=
      ← r.defaulting? "check_duration_warning_seconds" c.checkDurationWarningSeconds Json.float?
    cachedStatuses := ← r.defaulting? "cached_statuses" c.cachedStatuses (Json.list? Status.ofJson?)
    possiblyStaleTypes := ← r.defaulting? "possibly_stale_constraint_types" c.possiblyStaleTypes
      (Json.list? (Json.parsed? ItemId.ofString?))
    commonsBaseUrl := ← r.defaulting? "commons_base_url" c.commonsBaseUrl Json.string?
    pageExistenceTimeoutMs :=
      ← r.defaulting? "page_existence_timeout_ms" c.pageExistenceTimeoutMs (Json.natural? UInt64.size) }

end Config

end EntityAudit
