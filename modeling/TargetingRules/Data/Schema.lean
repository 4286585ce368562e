import TargetingRules.Validation.Configuration

/-!
# Configurations and documents as data

Which data describe a configuration or a rule document. The formats differ in what they accept as
a truth value, a text, a list or a record; what is built from these is the same for all of them.
Fields that are not known are ignored, a known field must not be repeated, and a field that is
missing has its default.
-/

namespace TargetingRules

/-- What data of a format can be read as. -/
class DataFormat (D : Type) where
  /-- A truth value. -/
  bool? : D → Option Bool
  /-- A text. -/
  text? : D → Option String
  /-- A list. -/
  list? : D → Option (List D)
  /-- Named data, in order. -/
  members? : D → Option (List (String × D))
  /-- The fields of a record whose fields have the given names in this order. -/
  record? : List String → D → Option (List (String × D))
  /-- One of several words. -/
  choice? : D → Option String
  /-- The value of a variable. -/
  boundValue? : D → Option Value

namespace DataFormat

variable {D : Type} [DataFormat D]

/-- A field of a record: `none` if it is repeated, and `some none` if it is missing. -/
def field? (fields : List (String × D)) (name : String) : Option (Option D) :=
  match fields.filter (·.1 == name) with
  | [] => some none
  | [(_, d)] => some (some d)
  | _ => none

/-- A field of a record that has a default. -/
def fieldOr {α : Type} (fields : List (String × D)) (name : String) (default : α)
    (read? : D → Option α) : Option α := do
  match ← field? fields name with
  | none => return default
  | some d => read? d

/-- A field that a record must have. -/
def required {α : Type} (fields : List (String × D)) (name : String) (read? : D → Option α) :
    Option α := do
  match ← field? fields name with
  | none => none
  | some d => read? d

/-- Variables: of several with one name the last one holds. -/
def variables? (d : D) : Option Variables := do
  let members ← members? d
  let bindings ← members.mapM fun (name, d) => (boundValue? d).map fun v => (name, v)
  return Dictionary.ofList bindings

/-- A set of names. -/
def names? (d : D) : Option NameSet := do
  let items ← list? d
  return NameSet.ofList (← items.mapM text?)

/-- A function library. -/
def library? (d : D) : Option FunctionLibrary := do
  match ← choice? d with
  | "standard" => return .standard
  | "none" => return .none
  | _ => none

/-- A rule with its id. -/
def ruleEntry? (d : D) : Option RuleEntry := do
  let fields ← record? ["id", "rule"] d
  let id ← required fields "id" text?
  let rule ← required fields "rule" text?
  return ⟨id, rule⟩

/-- A list of rules. -/
def rules? (d : D) : Option (List RuleEntry) := do
  (← list? d).mapM ruleEntry?

end DataFormat

open DataFormat in
/-- The configuration that data describe. -/
def Configuration.ofData? {D : Type} [DataFormat D] (d : D) : Option Configuration := do
  let fields ← record? ["evaluate", "absent_identifiers", "context", "functions"] d
  let evaluate ← fieldOr fields "evaluate" Configuration.default.evaluate bool?
  let absent ← fieldOr fields "absent_identifiers" Configuration.default.absent names?
  let context ← fieldOr fields "context" Configuration.default.context variables?
  let functions ← fieldOr fields "functions" Configuration.default.functions library?
  return ⟨evaluate, absent, context, functions⟩

open DataFormat in
/-- The rule document that data describe. -/
def RuleDocument.ofData? {D : Type} [DataFormat D] (d : D) : Option RuleDocument := do
  let fields ← record? ["context", "absent_identifiers", "evaluate", "rules"] d
  let context ← fieldOr fields "context" Dictionary.empty variables?
  let absent ← fieldOr fields "absent_identifiers" Dictionary.empty names?
  let evaluate ← fieldOr fields "evaluate" true bool?
  let rules ← required fields "rules" rules?
  return ⟨context, absent, evaluate, rules⟩

end TargetingRules
