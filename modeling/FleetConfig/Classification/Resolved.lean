import FleetConfig.Classification.Merge
import FleetConfig.Digest
import FleetConfig.Group.Membership

/-!
# Resolved configurations

The result of classifying a node: the groups it belongs to, what they set
together, conflicts and problems.  A digest of the whole result tells results
apart.
-/

namespace FleetConfig

/-- A group that a node belongs to. -/
structure GroupMatch where
  group : String
  name : String
  depth : Nat
  reason : MatchReason
  matchedRules : List String
  deriving Repr, DecidableEq

/-- The configuration of a node. -/
structure ResolvedConfiguration where
  certname : String
  environment? : Option String
  groups : List GroupMatch
  classes : List String
  parameters : Fields
  globals : Fields
  conflicts : List Conflict
  errors : List RuleError
  version : String
  provenance : String
  deriving Repr

namespace GroupMatch

/-- A group match as a record of plain values. -/
def toPlain (found : GroupMatch) : Value :=
  .ofFields
    [("group_id", .text found.group),
      ("name", .text found.name),
      ("depth", .integer found.depth),
      ("match_type", .text found.reason.name),
      ("matched_rule_ids", .texts found.matchedRules)]

end GroupMatch

namespace ResolvedConfiguration

/-- The fields of a result that its digest covers, as plain values. -/
def coveredFields (resolved : ResolvedConfiguration) : Fields :=
  [("certname", .text resolved.certname),
    ("environment", .optionalText resolved.environment?),
    ("matched_group_ids", .texts (resolved.groups.map (·.group))),
    ("groups", .list (resolved.groups.map GroupMatch.toPlain)),
    ("classes", .texts resolved.classes),
    ("parameters", .ofFields (Value.plainFields resolved.parameters)),
    ("variables", .ofFields (Value.plainFields resolved.globals)),
    ("conflicts", .list (resolved.conflicts.map Conflict.toPlain)),
    ("errors", .list (resolved.errors.map RuleError.toPlain)),
    ("group_set_version", .text resolved.version)]

/-- The digest of a result. -/
def digest (resolved : ResolvedConfiguration) : String :=
  Digest.ofText (Value.ofFields resolved.coveredFields).canonicalJson

/-- A result with its digest. -/
def sealed (resolved : ResolvedConfiguration) : ResolvedConfiguration :=
  { resolved with provenance := resolved.digest }

/-- A result as a record of plain values. -/
def toPlain (resolved : ResolvedConfiguration) : Value :=
  .ofFields (resolved.coveredFields ++ [("provenance_hash", .text resolved.provenance)])

/-- A result as a document for a configuration agent; parameters go over global variables. -/
def toAgentDocument (resolved : ResolvedConfiguration) : Value :=
  .ofFields
    ([("classes", .ofFields (resolved.classes.map fun name => (name, .map []))),
      ("parameters", .ofFields (resolved.globals.overlay resolved.parameters))] ++
      ((resolved.environment?.filter fun environment => !environment.isEmpty).map
        fun environment => ("environment", Value.text environment)).toList)

end ResolvedConfiguration

end FleetConfig
