import TargetingRules.Data.JsonSchema
import TargetingRules.Data.YamlSchema

/-!
# Reading configurations and documents

From texts and files to configurations and documents.
-/

namespace TargetingRules

/-- Why a configuration or a document cannot be read. -/
inductive SourceError where
  /-- The file does not exist. -/
  | missingFile
  /-- The text does not describe what is wanted, as YAML. -/
  | yaml
  /-- The text does not describe what is wanted, as JSON. -/
  | json
  deriving DecidableEq, Repr

/-- The text after the last point of a file name, unless the point comes first or is missing. -/
def fileExtension? (name : String) : Option String :=
  let reversed := name.toList.reverse
  match reversed.dropWhile (· != '.') with
  | _ :: _ :: _ => some (String.ofList (reversed.takeWhile (· != '.')).reverse)
  | _ => none

namespace Configuration

/-- The configuration that a JSON text describes. -/
def ofJson (source : String) : Except SourceError Configuration :=
  match (Json.parse? source).bind Configuration.ofData? with
  | some configuration => .ok configuration
  | none => .error .json

/-- The configuration that a YAML text describes. -/
def ofYaml (source : String) : Except SourceError Configuration :=
  match (Yaml.parse? source).bind Configuration.ofData? with
  | some configuration => .ok configuration
  | none => .error .yaml

/-- The configuration in a file, given its name and, if it exists, its content. Only the extension
`json` means JSON. -/
def ofFile (name : String) (content? : Option String) : Except SourceError Configuration :=
  match content? with
  | none => .error .missingFile
  | some content => if fileExtension? name = some "json" then ofJson content else ofYaml content

end Configuration

namespace RuleDocument

/-- The document that a YAML text describes. -/
def ofYaml (source : String) : Except SourceError RuleDocument :=
  match (Yaml.parse? source).bind RuleDocument.ofData? with
  | some document => .ok document
  | none => .error .yaml

end RuleDocument

end TargetingRules
