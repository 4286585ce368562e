import TargetingRules.Data.Schema
import TargetingRules.Data.Yaml.Block
import TargetingRules.Number.Reading

/-!
# YAML as a data format

What plain scalars mean, values of rules from YAML, and YAML as a description of configurations
and documents. Where a text is wanted a plain scalar is its own text, and a node that is left out
is an empty collection.
-/

namespace TargetingRules.Yaml

open Data

/-- The whole number that digits in a base spell. -/
def digitsValue? (base : Nat) (digits : List Char) : Option Nat :=
  if digits.isEmpty then none
  else digits.foldlM (fun value c => do
    let digit ← hexDigit? c
    if digit < base then some (base * value + digit) else none) 0

/-- Whether decimal digits are filled up with zeros in front. -/
def isPadded (cs : List Char) : Bool :=
  1 < cs.length && cs.head? == some '0' && cs.all Char.isDigit

/-- The magnitude that an unsigned spelling of a whole number has. -/
def magnitude? : List Char → Option Nat
  | '0' :: 'x' :: cs => digitsValue? 16 cs
  | '0' :: 'o' :: cs => digitsValue? 8 cs
  | '0' :: 'b' :: cs => digitsValue? 2 cs
  | cs => if isPadded cs then none else digitsValue? 10 cs

/-- The whole number that a plain scalar spells, if it fits in 128 bits. -/
def integer? : List Char → Option Int
  | '-' :: cs => (magnitude? cs).bind fun n => if n ≤ Nat.pow 2 127 then some (-n) else none
  | '+' :: cs => (magnitude? cs).bind fun n => if n < Nat.pow 2 128 then some n else none
  | cs => (magnitude? cs).bind fun n => if n < Nat.pow 2 128 then some n else none

/-- The number that a plain scalar spells with a point or an exponent, or by name. Decimal digits
that are filled up with zeros are no number. -/
def float? (cs : List Char) : Option Float :=
  if [".inf", ".Inf", ".INF", "+.inf", "+.Inf", "+.INF"].contains (String.ofList cs) then
    some Number.infinity
  else if ["-.inf", "-.Inf", "-.INF"].contains (String.ofList cs) then some (-Number.infinity)
  else if [".nan", ".NaN", ".NAN"].contains (String.ofList cs) then some Number.nan
  else if isPadded (Number.splitSign cs).2 then none
  else (Number.read? cs).filter Float.isFinite

/-- The truth value that a plain scalar spells. -/
def word? : String → Option Bool
  | "true" => some true
  | "True" => some true
  | "TRUE" => some true
  | "false" => some false
  | "False" => some false
  | "FALSE" => some false
  | _ => none

/-- Whether a plain scalar means null. -/
def isNull (text : String) : Bool :=
  ["", "~", "null", "Null", "NULL"].contains text

/-- The value of a plain scalar. There is none for whole numbers that fit in 128 bits and not in
64. -/
def plainValue? (text : String) : Option Value :=
  if isNull text then some .null
  else match word? text with
    | some b => some (.bool b)
    | none =>
      match integer? text.toList with
      | some n =>
        if -Int.pow 2 63 ≤ n ∧ n < Int.pow 2 64 then some (.number (Float.ofInt n)) else none
      | none =>
        match float? text.toList with
        | some x => some (.number x)
        | none => some (.string text)

/-- The value of a scalar. -/
def scalarValue? (plain : Bool) (text : String) : Option Value :=
  if plain then plainValue? text else some (.string text)

/-- The name that a key is within a value, where it must not mean anything else than a text. -/
def name? : Yaml → Option String
  | .scalar plain text => (scalarValue? plain text).bind Value.asString?
  | _ => none

mutual

/-- The value of a node. -/
def toValue? : Yaml → Option Value
  | .scalar plain text => scalarValue? plain text
  | .sequence items => (toValues? items).map .array
  | .mapping entries => (toFields? entries).map .ofFields

/-- The values of the items of a sequence. -/
def toValues? : List Yaml → Option (List Value)
  | [] => some []
  | item :: items => do return (← toValue? item) :: (← toValues? items)

/-- The named values of the entries of a mapping. -/
def toFields? : List (Yaml × Yaml) → Option (List (String × Value))
  | [] => some []
  | (key, item) :: entries => do
    return (← name? key, ← toValue? item) :: (← toFields? entries)

end

/-- The truth value that a node is. -/
def bool? : Yaml → Option Bool
  | .scalar true text => word? text
  | _ => none

/-- The text of a scalar. -/
def text? : Yaml → Option String
  | .scalar _ text => some text
  | _ => none

/-- The items of a sequence, which may be left out. -/
def list? : Yaml → Option (List Yaml)
  | .sequence items => some items
  | .scalar true "" => some []
  | _ => none

/-- The entries of a mapping, which may be left out, under the texts of their keys. -/
def members? : Yaml → Option (List (String × Yaml))
  | .mapping entries => entries.mapM fun (key, node) => (text? key).map fun name => (name, node)
  | .scalar true "" => some []
  | _ => none

/-- How deep sequences and mappings may be nested where they are used, counted from the outermost
one. -/
def maxNesting : Nat := 128

/-- The value of a variable, which stands within a mapping of variables within a record. -/
def boundValue? (node : Yaml) : Option Value :=
  if node.nesting + 2 ≤ maxNesting then toValue? node else none

instance : DataFormat Yaml where
  bool? := bool?
  text? := text?
  list? := list?
  members? := members?
  record? _ := members?
  choice? := text?
  boundValue? := boundValue?

end TargetingRules.Yaml
