import EntityAudit.Rule.Cardinality
import EntityAudit.Rule.Classes
import EntityAudit.Rule.Format
import EntityAudit.Rule.Link
import EntityAudit.Rule.Placement
import EntityAudit.Rule.Range
import EntityAudit.Rule.Statements
import EntityAudit.Rule.Values

namespace EntityAudit

abbrev Catalog := SortedMap ItemId Rule

namespace Catalog

def entries (types : ConstraintTypes) : List (ItemId × Rule) := [
  (types.conflictsWith, Rule.conflictsWith),
  (types.item, Rule.item),
  (types.targetRequiredClaim, Rule.targetRequiredClaim),
  (types.symmetric, Rule.symmetric),
  (types.inverse, Rule.inverse),
  (types.qualifier, Rule.qualifier),
  (types.qualifiers, Rule.qualifiers),
  (types.mandatoryQualifiers, Rule.mandatoryQualifiers),
  (types.range, Rule.range),
  (types.diffWithinRange, Rule.diffWithinRange),
  (types.typeOf, Rule.typeOf),
  (types.valueType, Rule.valueType),
  (types.singleValue, Rule.singleValue),
  (types.multiValue, Rule.multiValue),
  (types.uniqueValue, Rule.uniqueValue),
  (types.format, Rule.format),
  (types.commonsLink, Rule.commonsLink),
  (types.oneOf, Rule.oneOf),
  (types.reference, Rule.reference),
  (types.noneOf, Rule.noneOf),
  (types.singleBestValue, Rule.singleBestValue),
  (types.integer, Rule.integer),
  (types.noBounds, Rule.noBounds),
  (types.allowedUnits, Rule.allowedUnits),
  (types.allowedEntityTypes, Rule.allowedEntityTypes),
  (types.propertyScope, Rule.propertyScope)]

def ofTypes (types : ConstraintTypes) : Catalog := SortedMap.ofList (entries types)

end Catalog

end EntityAudit
