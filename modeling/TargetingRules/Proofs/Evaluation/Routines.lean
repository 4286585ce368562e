import Mathlib.Data.List.Basic
import Mathlib.Data.List.Forall2
import TargetingRules.Evaluation.Method
import TargetingRules.Proofs.Syntax.Scanning
import TargetingRules.Proofs.Text.Occurrence

/-!
# Functions that index their arguments

The standard functions and the methods get a list of values, count it once, and then take arguments from
it by their index. The texts among these are cut by positions that were computed before: the part in
front of an occurrence, and the characters between two bounds. Here an index or a range that is not there
has no outcome.

Each of them does what the function on a vector does that it stands for, whose type leaves no room for a
wrong number of arguments.
-/

namespace TargetingRules

/-! ## Positions in texts -/

namespace Text

/-- The first byte at which a text occurs in another. -/
def find? (needle : List Char) : (haystack : List Char) → Option Nat
  | [] => if needle.isEmpty then some 0 else none
  | c :: cs =>
    if needle.isPrefixOf (c :: cs) then some 0 else (find? needle cs).map (c.utf8Size + ·)

/-- The characters from one position to another; there are none if the range is reversed or too long. -/
def between? (start stop : Nat) (cs : List Char) : Option (List Char) :=
  if start ≤ stop ∧ stop ≤ cs.length then some ((cs.take stop).drop start) else none

theorem find?_eq_map (needle haystack : List Char) :
    find? needle haystack = (indexOf? needle haystack).map fun n => byteLength (haystack.take n) := by
  induction haystack with
  | nil =>
    rw [find?, indexOf?]
    split <;> rfl
  | cons c cs ih =>
    rw [find?, indexOf?]
    split
    next => rfl
    next =>
      rw [ih, Option.map_map, Option.map_map]
      rfl

theorem slice?_take (n : Nat) (cs : List Char) :
    slice? 0 (byteLength (cs.take n)) cs = some (cs.take n) :=
  slice?_eq_some_iff.mpr ⟨[], cs.drop n, (List.take_append_drop n cs).symm, rfl, (Nat.zero_add _).symm⟩

end Text

/-! ## Routines -/

/-- A function on the list of its arguments, whose number is checked before it is run. -/
structure Routine where
  /-- The number of arguments. -/
  arity : Nat
  /-- What is done with them. -/
  run : List Value → ExceptT EvalError Option Value

namespace Routine

/-- The argument at an index. -/
def argument (args : List Value) (index : Nat) : ExceptT EvalError Option Value :=
  liftM args[index]?

/-- The result of a routine on arguments, under the name by which it was called. -/
def call (routine : Routine) (name : String) (args : List Value) : ExceptT EvalError Option Value :=
  if args.length = routine.arity then routine.run args
  else throw (.arity name routine.arity args.length)

/-- A routine has the results of a function, whatever the arguments are. -/
def Does (routine : Routine) (function : Function) : Prop :=
  ∀ name args, routine.call name args = settled (function.call name args)

variable {routine : Routine}

theorem does_fixed {run : Vector Value routine.arity → Evaluated}
    (same : ∀ args (fits : args.length = routine.arity),
      routine.run args = settled (run ⟨args.toArray, by simpa using fits⟩)) :
    routine.Does (.fixed routine.arity run) := by
  intro name args
  rw [call, Function.call]
  by_cases fits : args.length = routine.arity
  · rw [if_pos fits, dif_pos fits, same args fits]
  · rw [if_neg fits, dif_neg fits]
    rfl

variable {body : List Value → ExceptT EvalError Option Value}

theorem does_zero {run : Vector Value 0 → Evaluated} (same : body [] = settled (run ⟨#[], rfl⟩)) :
    Does ⟨0, body⟩ (.fixed 0 run) :=
  does_fixed fun args fits => by
    obtain rfl := List.eq_nil_of_length_eq_zero fits
    exact same

theorem does_one {run : Vector Value 1 → Evaluated}
    (same : ∀ a, body [a] = settled (run ⟨#[a], rfl⟩)) : Does ⟨1, body⟩ (.fixed 1 run) :=
  does_fixed fun args fits => by
    obtain ⟨a, rfl⟩ := List.length_eq_one_iff.mp fits
    exact same a

theorem does_two {run : Vector Value 2 → Evaluated}
    (same : ∀ a b, body [a, b] = settled (run ⟨#[a, b], rfl⟩)) : Does ⟨2, body⟩ (.fixed 2 run) :=
  does_fixed fun args fits => by
    obtain ⟨a, b, rfl⟩ := List.length_eq_two.mp fits
    exact same a b

theorem does_three {run : Vector Value 3 → Evaluated}
    (same : ∀ a b c, body [a, b, c] = settled (run ⟨#[a, b, c], rfl⟩)) :
    Does ⟨3, body⟩ (.fixed 3 run) :=
  does_fixed fun args fits => by
    obtain ⟨a, b, c, rfl⟩ := List.length_eq_three.mp fits
    exact same a b c

end Routine

/-! ## The standard functions -/

/-- The standard functions. -/
inductive Native where
  | contains | containsIgnoreCase | startsWith | endsWith | indexOf | length
  | toLowerCase | toUpperCase | trim | substring | join
  deriving DecidableEq, Repr

namespace Native

open Routine (argument)

/-- The name under which a function is registered in the standard library. -/
def name : Native → String
  | .contains => "fn:contains"
  | .containsIgnoreCase => "fn:containsIgnoreCase"
  | .startsWith => "fn:startsWith"
  | .endsWith => "fn:endsWith"
  | .indexOf => "fn:indexOf"
  | .length => "fn:length"
  | .toLowerCase => "fn:toLowerCase"
  | .toUpperCase => "fn:toUpperCase"
  | .trim => "fn:trim"
  | .substring => "fn:substring"
  | .join => "fn:join"

/-- What the standard library registers under the name. -/
def routine : Native → Routine
  | .contains => .mk 2 fun args => do
    match ← argument args 0 with
    | .array items =>
      let item ← argument args 1
      return .bool (items.any (·.equal item))
    | haystack => return .bool (Text.occursIn (← argument args 1).chars haystack.chars)
  | .containsIgnoreCase => .mk 2 fun args => do
    let haystack := Text.lower (← argument args 0).chars
    let needle := Text.lower (← argument args 1).chars
    return .bool (Text.occursIn needle haystack)
  | .startsWith => .mk 2 fun args => do
    let text := (← argument args 0).chars
    return .bool ((← argument args 1).chars.isPrefixOf text)
  | .endsWith => .mk 2 fun args => do
    let text := (← argument args 0).chars
    return .bool ((← argument args 1).chars.isSuffixOf text)
  | .indexOf => .mk 2 fun args => do
    let haystack := (← argument args 0).chars
    match Text.find? (← argument args 1).chars haystack with
    | some byte => return .ofNat (← liftM (Text.slice? 0 byte haystack)).length
    | none => return .number (-1)
  | .length => .mk 1 fun args => do
    return .ofNat (Library.length (← argument args 0))
  | .toLowerCase => .mk 1 fun args => do
    return .ofChars (Text.lower (← argument args 0).chars)
  | .toUpperCase => .mk 1 fun args => do
    return .ofChars (Text.upper (← argument args 0).chars)
  | .trim => .mk 1 fun args => do
    return .ofChars (Text.trim (← argument args 0).chars)
  | .substring => .mk 3 fun args => do
    let text := (← argument args 0).chars
    let start ← settled (Library.bound text.length 0 (← argument args 1))
    let stop ← settled (Library.bound text.length text.length (← argument args 2))
    if stop ≤ start then return .ofChars []
    else return .ofChars (← liftM (Text.between? start stop text))
  | .join => .mk 2 fun args => do
    match ← argument args 0 with
    | .array items =>
      let separator := (← argument args 1).chars
      return .ofChars (Text.join separator (items.map Value.chars))
    | .null => return .ofChars []
    | other => throw (.typeFault (.notAnArray "fn:join" other.type))

/-- The functions in the order of their registration. -/
def all : List Native :=
  [.contains, .containsIgnoreCase, .startsWith, .endsWith, .indexOf, .length, .toLowerCase,
    .toUpperCase, .trim, .substring, .join]

/-- The function on vectors that a function is. -/
def function (native : Native) : Function :=
  (Library.functions.get ⟨native.ctorIdx, by cases native <;> decide⟩).2

/-- The standard library registers them all, and nothing else. -/
theorem functions_eq_map : Library.functions = all.map fun native => (native.name, native.function) :=
  rfl

theorem routine_indexOf (haystack needle : Value) :
    Native.indexOf.routine.run [haystack, needle] =
      settled (.ok (.number (Library.indexOf haystack needle))) := by
  change (match Text.find? needle.chars haystack.chars with
    | some byte => _
    | none => _ : ExceptT EvalError Option Value) = _
  rw [Text.find?_eq_map, Library.indexOf]
  cases found : Text.indexOf? needle.chars haystack.chars with
  | none => rfl
  | some n =>
    have length : (haystack.chars.take n).length = n :=
      List.length_take_of_le (Text.indexOf?_le_length found)
    simp only [Option.map_some, Text.slice?_take]
    change settled (.ok (Value.ofNat (haystack.chars.take n).length)) = _
    rw [length]
    rfl

/-- A bound lies in the text, whatever the argument is: numbers that are none count as zero, infinite
ones as the end of the text. -/
theorem bound_le {size default : Nat} (inside : default ≤ size) {v : Value} {n : Nat}
    (bounded : Library.bound size default v = .ok n) : n ≤ size := by
  unfold Library.bound at bounded
  split at bounded
  next =>
    cases bounded
    exact inside
  next =>
    cases number : v.numeric with
    | error e =>
      rw [number] at bounded
      cases bounded
    | ok x =>
      rw [number] at bounded
      cases bounded
      split
      next => exact inside
      next => exact Nat.min_le_right _ _

theorem routine_substring (text first last : Value) :
    Native.substring.routine.run [text, first, last] = settled (Library.substring text first last) := by
  change settled (Library.bound text.chars.length 0 first) >>= _ = _
  rw [Library.substring]
  cases Library.bound text.chars.length 0 first with
  | error e => rfl
  | ok start =>
    rw [settled_ok_bind]
    change settled (Library.bound text.chars.length text.chars.length last) >>= _ =
      settled (Library.bound text.chars.length text.chars.length last >>= _)
    cases bounded : Library.bound text.chars.length text.chars.length last with
    | error e => rfl
    | ok stop =>
      have inside := bound_le (Nat.le_refl _) bounded
      rw [settled_ok_bind]
      change _ = settled (.ok (Value.ofChars ((text.chars.take stop).drop start)))
      split
      next reversed =>
        have none : (text.chars.take stop).drop start = [] :=
          List.drop_eq_nil_of_le (Nat.le_trans (List.length_take_le _ _) reversed)
        rw [none]
        rfl
      next ordered =>
        rw [Text.between?, if_pos ⟨Nat.le_of_not_le ordered, inside⟩]
        rfl

/-- Every standard function does what its registration says, and takes no argument that is not there. -/
theorem does (native : Native) : native.routine.Does native.function := by
  cases native with
  | indexOf => exact Routine.does_two routine_indexOf
  | substring => exact Routine.does_three routine_substring
  | length | toLowerCase | toUpperCase | trim => exact Routine.does_one fun _ => rfl
  | containsIgnoreCase | startsWith | endsWith => exact Routine.does_two fun _ _ => rfl
  | contains | join =>
    refine Routine.does_two fun first second => ?_
    cases first <;> rfl

end Native

/-! ## Methods -/

namespace Routine

/-- The methods of a text. -/
def stringMethods (s : String) : List (String × Routine) :=
  let cs := s.toList
  [("contains", .mk 1 fun args => do return .bool (Text.occursIn (← argument args 0).chars cs)),
   ("startsWith", .mk 1 fun args => do return .bool ((← argument args 0).chars.isPrefixOf cs)),
   ("endsWith", .mk 1 fun args => do return .bool ((← argument args 0).chars.isSuffixOf cs)),
   ("equals", .mk 1 fun args => do return .bool ((← argument args 0).asString? == some s)),
   ("equalsIgnoreCase", .mk 1 fun args => do
      return .bool (Text.sameIgnoringAsciiCase cs (← argument args 0).chars)),
   ("toLowerCase", .mk 0 fun _ => return .ofChars (Text.lower cs)),
   ("toUpperCase", .mk 0 fun _ => return .ofChars (Text.upper cs)),
   ("trim", .mk 0 fun _ => return .ofChars (Text.trim cs)),
   ("length", .mk 0 fun _ => return .ofNat cs.length),
   ("isEmpty", .mk 0 fun _ => return .bool s.isEmpty)]

/-- The methods of a list. -/
def arrayMethods (items : List Value) : List (String × Routine) :=
  [("contains", .mk 1 fun args => do
      let item ← argument args 0
      return .bool (items.any (·.equal item))),
   ("size", .mk 0 fun _ => return .ofNat items.length),
   ("isEmpty", .mk 0 fun _ => return .bool items.isEmpty)]

/-- The methods of an object. -/
def objectMethods (fields : List (String × Value)) : List (String × Routine) :=
  [("containsKey", .mk 1 fun args => do
      return .bool (fields.lookup (← argument args 0).display).isSome),
   ("size", .mk 0 fun _ => return .ofNat fields.length),
   ("isEmpty", .mk 0 fun _ => return .bool fields.isEmpty)]

/-- The methods of a value. -/
def methods : Value → List (String × Routine)
  | .string s => stringMethods s
  | .array items => arrayMethods items
  | .object fields => objectMethods fields
  | _ => []

/-- The result of a method call. -/
def callMethod (target : Value) (method : String) (args : List Value) :
    ExceptT EvalError Option Value :=
  if target.isNull then throw (.nullOperand ("." ++ method ++ "()"))
  else
    match (methods target).lookup method with
    | some routine => routine.call method args
    | none => throw (.methodNotFound method target.type)

/-- A binding of a routine is one of a function too. -/
structure Serves (binding : String × Routine) (binding' : String × Function) : Prop where
  name : binding.1 = binding'.1
  does : binding.2.Does binding'.2

theorem serves_methods (target : Value) : List.Forall₂ Serves (methods target) target.methods := by
  have one {name : String} {body : List Value → ExceptT EvalError Option Value}
      {run : Vector Value 1 → Evaluated} (same : ∀ a, body [a] = settled (run ⟨#[a], rfl⟩)) :
      Serves (name, ⟨1, body⟩) (name, .fixed 1 run) := ⟨rfl, does_one same⟩
  have zero {name : String} {body : List Value → ExceptT EvalError Option Value}
      {run : Vector Value 0 → Evaluated} (same : body [] = settled (run ⟨#[], rfl⟩)) :
      Serves (name, ⟨0, body⟩) (name, .fixed 0 run) := ⟨rfl, does_zero same⟩
  cases target with
  | null | bool _ | number _ => exact .nil
  | array items =>
    exact .cons (one fun _ => rfl) (.cons (zero rfl) (.cons (zero rfl) .nil))
  | object fields =>
    exact .cons (one fun _ => rfl) (.cons (zero rfl) (.cons (zero rfl) .nil))
  | string s =>
    refine .cons (one fun _ => rfl) (.cons (one fun _ => rfl) (.cons (one fun _ => rfl) ?_))
    refine .cons (one fun _ => rfl) (.cons (one fun _ => rfl) (.cons (zero rfl) ?_))
    exact .cons (zero rfl) (.cons (zero rfl) (.cons (zero rfl) (.cons (zero rfl) .nil)))

/-- Related tables have related entries for each name. -/
theorem rel_lookup {bindings : List (String × Routine)} {bindings' : List (String × Function)}
    (serves : List.Forall₂ Serves bindings bindings') (name : String) :
    Option.Rel Does (bindings.lookup name) (bindings'.lookup name) := by
  induction serves with
  | nil => exact .none
  | @cons binding binding' _ _ same _ ih =>
    obtain ⟨key, routine⟩ := binding
    obtain ⟨key', function⟩ := binding'
    obtain rfl : key = key' := same.name
    rw [List.lookup_cons, List.lookup_cons]
    split
    next => exact .some same.does
    next => exact ih

/-- No method takes an argument that is not there. -/
theorem callMethod_eq (target : Value) (method : String) (args : List Value) :
    callMethod target method args = settled (target.callMethod method args) := by
  rw [callMethod, Value.callMethod]
  split
  next => rfl
  next =>
    have related := rel_lookup (serves_methods target) method
    generalize (methods target).lookup method = routine, target.methods.lookup method = function at related
    cases related with
    | none => rfl
    | some does => exact does method args

end Routine

/-! ## Registries -/

namespace Dictionary

variable {α β : Type}

/-- The dictionary with a function applied to each value. -/
def map (f : α → β) (d : Dictionary α) : Dictionary β :=
  ⟨d.entries.map fun entry => (entry.1, f entry.2), List.pairwise_map.mpr d.sorted⟩

theorem lookup_map (f : α → β) (entries : List (String × α)) (name : String) :
    (entries.map fun entry => (entry.1, f entry.2)).lookup name = (entries.lookup name).map f := by
  induction entries with
  | nil => rfl
  | cons entry rest ih =>
    rw [List.map_cons, List.lookup_cons, List.lookup_cons]
    split
    next => rfl
    next => exact ih

theorem get?_map (f : α → β) (d : Dictionary α) (name : String) :
    (d.map f).get? name = (d.get? name).map f :=
  lookup_map f d.entries name

theorem insertEntry_map (f : α → β) (name : String) (value : α) (entries : List (String × α)) :
    (insertEntry name value entries).map (fun entry => (entry.1, f entry.2)) =
      insertEntry name (f value) (entries.map fun entry => (entry.1, f entry.2)) := by
  induction entries with
  | nil => rfl
  | cons entry rest ih =>
    simp only [insertEntry, List.map_cons]
    split
    next => rfl
    next =>
      split
      next => rfl
      next => rw [List.map_cons, ih]

theorem map_insert (f : α → β) (d : Dictionary α) (name : String) (value : α) :
    (d.insert name value).map f = (d.map f).insert name (f value) := by
  rw [map, Dictionary.mk.injEq]
  exact insertEntry_map f name value d.entries

theorem map_ofList (f : α → β) (bindings : List (String × α)) :
    (ofList bindings).map f = ofList (bindings.map fun binding => (binding.1, f binding.2)) := by
  have onto (d : Dictionary α) :
      (bindings.foldl (fun d binding => d.insert binding.1 binding.2) d).map f =
        (bindings.map fun binding => (binding.1, f binding.2)).foldl
          (fun d binding => d.insert binding.1 binding.2) (d.map f) := by
    induction bindings generalizing d with
    | nil => rfl
    | cons binding rest ih =>
      rw [List.foldl_cons, ih, List.map_cons, List.foldl_cons, map_insert]
  exact onto empty

end Dictionary

/-- The standard functions that rules may call, by qualified name. -/
abbrev Registry := Dictionary Native

namespace Registry

/-- The result of calling a function by name. -/
def call (registry : Registry) (name : String) (args : List Value) : ExceptT EvalError Option Value :=
  match registry.get? name with
  | some native => native.routine.call name args
  | none => throw (.unknownFunction name)

/-- All of them, under the names of the standard library. -/
def standard : Registry :=
  Dictionary.ofList (Native.all.map fun native => (native.name, native))

/-- The table of the functions of a registry. -/
def table (registry : Registry) : FunctionTable :=
  registry.map Native.function

theorem table_standard : standard.table = FunctionTable.standard := by
  rw [table, standard, Dictionary.map_ofList, List.map_map]
  exact congrArg Dictionary.ofList Native.functions_eq_map.symm

/-- A call of a function that is registered takes no argument that is not there, however many there
are. -/
theorem call_eq (registry : Registry) (name : String) (args : List Value) :
    registry.call name args = settled (registry.table.call name args) := by
  rw [call, FunctionTable.call, table, Dictionary.get?_map]
  cases registry.get? name with
  | none => rfl
  | some native => exact native.does name args

end Registry

namespace Native

theorem get?_standard (native : Native) : Registry.standard.get? native.name = some native := by
  cases native <;> decide +kernel

/-- A call by name is a call of the function that the standard library registers under the name. -/
theorem call_standard (native : Native) (args : List Value) :
    FunctionTable.standard.call native.name args = native.function.call native.name args := by
  rw [FunctionTable.call, ← Registry.table_standard, Registry.table, Dictionary.get?_map, get?_standard,
    Option.map_some]

end Native

end TargetingRules
