import TargetingRules.Validation.Document

/-!
# Configurations

The settings of a validator: its function library and the context that rules are validated against.
-/

namespace TargetingRules

/-- The settings of a validator. -/
structure Configuration where
  /-- Whether rules are evaluated. -/
  evaluate : Bool
  /-- The variables that may be missing. -/
  absent : NameSet
  /-- The variables. -/
  context : Variables
  /-- The functions that rules may call. -/
  functions : FunctionLibrary

namespace Configuration

/-- The settings where nothing else is said: evaluation without variables, with the standard
functions. -/
def default : Configuration :=
  ⟨true, Dictionary.empty, Dictionary.empty, .standard⟩

/-- The context in which rules are validated. -/
def validationContext (configuration : Configuration) : Context :=
  ⟨configuration.context.scope, configuration.absent, configuration.evaluate⟩

/-- The document with the given rules and the context of a configuration. -/
def document (configuration : Configuration) (rules : List RuleEntry) : RuleDocument :=
  ⟨configuration.context, configuration.absent, configuration.evaluate, rules⟩

/-- The validator of a configuration. -/
def validator (configuration : Configuration) : Logged Validator :=
  Validator.build configuration.functions.table

end Configuration

end TargetingRules
