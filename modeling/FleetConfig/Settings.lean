import FleetConfig.Number.IntegerText
import FleetConfig.Text.Case
import FleetConfig.Value.Basic

/-!
# Settings

How the engine matches, what it keeps and how much it accepts.  Every setting
has a default, which an environment variable can replace.
-/

namespace FleetConfig

/-- The settings of the engine. -/
structure Settings where
  filtersEnvironments : Bool := true
  injectsCertname : Bool := true
  patternCacheSize : Int := 1024
  hierarchyCacheSize : Int := 16
  workers : Int := 1
  groupLimit : Int := 10000
  ruleLimit : Int := 500
  logsRuleErrors : Bool := true
  deriving Repr, DecidableEq

namespace Settings

/-- Read a switch: on for `true`, `1` and `yes` in any letter case, off for any other text. -/
def readSwitch
    (default : Bool) :
    Option String → Bool
  | some text =>
      ["true", "1", "yes"].contains (Text.lower text)
  | none =>
      default

/-- Read a number; a text that is not an integer counts as missing. -/
def readNumber
    (default : Int) :
    Option String → Int
  | some text =>
      match readInteger text with
      | .ok number =>
          number
      | .error _ =>
          default
  | none =>
      default

/-- The name of the environment variable for a setting. -/
def variableFor (name : String) : String :=
  "NODECLASS_" ++ name

/-- The names of all environment variables for settings. -/
def variableNames : List String :=
  ["ENVIRONMENT_FILTER_ENABLED", "INJECT_CLIENTCERT", "PATTERN_CACHE_SIZE",
    "HIERARCHY_CACHE_SIZE", "MAX_WORKERS", "MAX_GROUPS", "MAX_RULES_PER_GROUP",
    "LOG_RULE_ERRORS"].map variableFor

/-- The settings that environment variables give. -/
def ofVariables (lookUp : String → Option String) : Settings :=
  let standard : Settings := {}
  let named := fun name => lookUp (variableFor name)
  { filtersEnvironments :=
      readSwitch standard.filtersEnvironments (named "ENVIRONMENT_FILTER_ENABLED"),
    injectsCertname := readSwitch standard.injectsCertname (named "INJECT_CLIENTCERT"),
    patternCacheSize := readNumber standard.patternCacheSize (named "PATTERN_CACHE_SIZE"),
    hierarchyCacheSize := readNumber standard.hierarchyCacheSize (named "HIERARCHY_CACHE_SIZE"),
    workers := readNumber standard.workers (named "MAX_WORKERS"),
    groupLimit := readNumber standard.groupLimit (named "MAX_GROUPS"),
    ruleLimit := readNumber standard.ruleLimit (named "MAX_RULES_PER_GROUP"),
    logsRuleErrors := readSwitch standard.logsRuleErrors (named "LOG_RULE_ERRORS") }

/-- Settings as a record of plain values. -/
def toPlain (settings : Settings) : Value :=
  .ofFields
    [("environment_filter_enabled", .boolean settings.filtersEnvironments),
      ("inject_clientcert", .boolean settings.injectsCertname),
      ("pattern_cache_size", .integer settings.patternCacheSize),
      ("hierarchy_cache_size", .integer settings.hierarchyCacheSize),
      ("max_workers", .integer settings.workers),
      ("max_groups", .integer settings.groupLimit),
      ("max_rules_per_group", .integer settings.ruleLimit),
      ("log_rule_errors", .boolean settings.logsRuleErrors)]

end Settings

end FleetConfig
