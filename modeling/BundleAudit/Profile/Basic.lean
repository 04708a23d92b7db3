/-!
# Profiles

A profile holds what the rules of a check can be tuned by: a name, the profiles that it inherits from,
and a value for each key. A key holds one text or a list of texts.
-/

namespace BundleAudit

/-- The keys that hold one text. -/
inductive TextKey
  | description
  | bundleMarker
  | bundleExtension
  | exportName
  | buildToken
deriving DecidableEq, Repr

namespace TextKey

def all : List TextKey := [.description, .bundleMarker, .bundleExtension, .exportName, .buildToken]

def name : TextKey → String
  | .description => "description"
  | .bundleMarker => "bundle_marker"
  | .bundleExtension => "bundle_extension"
  | .exportName => "export_name"
  | .buildToken => "build_token"

def ofName? (s : String) : Option TextKey := all.find? (·.name == s)

/-- The value of a key that nothing sets. -/
def default : TextKey → String
  | .description => ""
  | .bundleMarker => ".umd."
  | .bundleExtension => ".js"
  | .exportName => "OptaveJavaScriptSDK"
  | .buildToken => "__WEBPACK_BUILD_TARGET__"

end TextKey

/-- The keys that hold a list of texts. -/
inductive ListKey
  | exportRoots
  | exportAppliesTo
  | evalAppliesTo
  | evalSafeIdentifiers
  | excludedDependencies
  | dependencyAppliesTo
  | buildTargets
  | buildAppliesTo
  | guardPatterns
  | fallbackGuardPatterns
  | guardAppliesTo
deriving DecidableEq, Repr

namespace ListKey

def all : List ListKey :=
  [.exportRoots, .exportAppliesTo, .evalAppliesTo, .evalSafeIdentifiers, .excludedDependencies,
    .dependencyAppliesTo, .buildTargets, .buildAppliesTo, .guardPatterns, .fallbackGuardPatterns,
    .guardAppliesTo]

def name : ListKey → String
  | .exportRoots => "export_roots"
  | .exportAppliesTo => "export_applies_to"
  | .evalAppliesTo => "eval_applies_to"
  | .evalSafeIdentifiers => "eval_safe_identifiers"
  | .excludedDependencies => "excluded_dependencies"
  | .dependencyAppliesTo => "dependency_applies_to"
  | .buildTargets => "build_targets"
  | .buildAppliesTo => "build_applies_to"
  | .guardPatterns => "guard_patterns"
  | .fallbackGuardPatterns => "fallback_guard_patterns"
  | .guardAppliesTo => "guard_applies_to"

def ofName? (s : String) : Option ListKey := all.find? (·.name == s)

/-- The value of a key that nothing sets. -/
def default : ListKey → List String
  | .exportRoots => ["globalThis", "window", "root"]
  | .exportAppliesTo => ["*.umd.js"]
  | .evalAppliesTo => ["*"]
  | .evalSafeIdentifiers => ["availableValidators", "isPayloadSizeValid", "validatePayload"]
  | .excludedDependencies => ["ajv"]
  | .dependencyAppliesTo => ["*browser*"]
  | .buildTargets => ["browser-umd", "server-umd", "browser-esm", "server-esm"]
  | .buildAppliesTo => ["*"]
  | .guardPatterns =>
    [ -- texts of messages, loose enough to survive minification
      "Insecure WebSocket protocol.*ws://",
      "not allowed in UMD builds",
      "Salesforce Lightning Locker.*blocks.*ws://",
      "UMD builds require.*tokenProvider",
      -- names of methods
      "validateWebSocketScheme",
      "enforceWebSocketScheme",
      -- markers
      "__OPTAVE_SECURITY_GUARDS_ACTIVE__",
      "(?i:SECURITY.*guard)",
      "Side effect anchor",
      "ws://.*not allowed",
      "Lightning Locker Service",
      "secure WebSocket protocol.*wss://",
      "tokenProvider.*constrained environments",
      "authRequired.*false.*disable authentication",
      "ws://.*UMD",
      "Salesforce.*Lightning.*ws",
      "wss://.*instead"]
  | .fallbackGuardPatterns =>
    ["startsWith.*ws://", "websocketUrl.*startsWith", "buildTarget.*UMD", "BuildTargetUtils.*isUMD"]
  | .guardAppliesTo => ["*.umd.js"]

end ListKey

/-- The values that a check is tuned by. A document may leave its name out on purpose, so the name can
be absent. -/
structure Profile where
  name : Option String := some "default"
  parents : List String := []
  text : TextKey → String := TextKey.default
  list : ListKey → List String := ListKey.default

namespace Profile

/-- The name as it is shown. -/
def title (p : Profile) : String := p.name.getD "None"

def setText (p : Profile) (key : TextKey) (value : String) : Profile :=
  { p with text := fun k => if k = key then value else p.text k }

def setList (p : Profile) (key : ListKey) (value : List String) : Profile :=
  { p with list := fun k => if k = key then value else p.list k }

/-- The names that a profile document may use as keys. -/
def keyNames : List String :=
  ["name"] ++ TextKey.all.map (·.name) ++ ListKey.all.map (·.name) ++ ["inherit"]

/-- The names of the keys that hold lists. -/
def listKeyNames : List String := ListKey.all.map (·.name) ++ ["inherit"]

end Profile

end BundleAudit
