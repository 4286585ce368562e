/-!
# Dictionaries

Finite maps from names, kept in increasing order of the names, so that two dictionaries with the
same bindings are equal and every listing of one is sorted. Object values, variables, function
tables and sets of names are dictionaries.
-/

namespace TargetingRules

namespace Dictionary

variable {α : Type}

/-- Bind a name in a sorted list of entries, in place of an earlier binding. -/
def insertEntry (name : String) (value : α) : List (String × α) → List (String × α)
  | [] => [(name, value)]
  | (other, old) :: rest =>
    if name < other then (name, value) :: (other, old) :: rest
    else if name = other then (name, value) :: rest
    else (other, old) :: insertEntry name value rest

theorem fst_of_mem_insertEntry {name : String} {value : α} {entries : List (String × α)}
    {entry : String × α} (member : entry ∈ insertEntry name value entries) :
    entry.1 = name ∨ entry ∈ entries := by
  induction entries with
  | nil => simp_all [insertEntry]
  | cons head rest ih => grind [insertEntry]

theorem pairwise_insertEntry (name : String) (value : α) {entries : List (String × α)}
    (sorted : entries.Pairwise fun a b => a.1 < b.1) :
    (insertEntry name value entries).Pairwise fun a b => a.1 < b.1 := by
  induction entries with
  | nil => simp [insertEntry]
  | cons head rest ih =>
    obtain ⟨other, old⟩ := head
    simp only [List.pairwise_cons] at sorted
    simp only [insertEntry]
    split
    · simp only [List.pairwise_cons]
      grind
    · split
      · simp only [List.pairwise_cons]
        grind
      · simp only [List.pairwise_cons]
        refine ⟨fun entry member => ?_, ih sorted.2⟩
        rcases fst_of_mem_insertEntry member with same | member
        · grind
        · exact sorted.1 entry member

theorem lookup_insertEntry (name other : String) (value : α) (entries : List (String × α)) :
    (insertEntry name value entries).lookup other =
      if other = name then some value else entries.lookup other := by
  induction entries with
  | nil => grind [insertEntry]
  | cons head rest ih => grind [insertEntry]

end Dictionary

/-- A finite map from names. -/
structure Dictionary (α : Type) where
  /-- The bindings in increasing order of the names. -/
  entries : List (String × α)
  /-- No name is bound twice and the order is kept. -/
  sorted : entries.Pairwise fun a b => a.1 < b.1

namespace Dictionary

variable {α : Type}

/-- The dictionary without bindings. -/
def empty : Dictionary α := ⟨[], .nil⟩

instance : Inhabited (Dictionary α) := ⟨empty⟩

/-- Bind a name, in place of an earlier binding. -/
def insert (d : Dictionary α) (name : String) (value : α) : Dictionary α :=
  ⟨insertEntry name value d.entries, pairwise_insertEntry name value d.sorted⟩

/-- Remove the binding of a name, if there is one. -/
def erase (d : Dictionary α) (name : String) : Dictionary α :=
  ⟨d.entries.filter (·.1 != name), d.sorted.filter _⟩

/-- The value bound to a name. -/
def get? (d : Dictionary α) (name : String) : Option α :=
  d.entries.lookup name

/-- Whether a name is bound. -/
def contains (d : Dictionary α) (name : String) : Bool :=
  (d.get? name).isSome

/-- The number of bindings. -/
def size (d : Dictionary α) : Nat :=
  d.entries.length

/-- The bound names in increasing order. -/
def names (d : Dictionary α) : List String :=
  d.entries.map Prod.fst

/-- The bindings of a list; of several for one name the last one holds. -/
def ofList (bindings : List (String × α)) : Dictionary α :=
  bindings.foldl (fun d binding => d.insert binding.1 binding.2) empty

@[simp] theorem get?_insert (d : Dictionary α) (name other : String) (value : α) :
    (d.insert name value).get? other = if other = name then some value else d.get? other :=
  lookup_insertEntry name other value d.entries

@[simp] theorem get?_empty (name : String) : (empty : Dictionary α).get? name = none := rfl

end Dictionary

/-- A finite set of names. -/
abbrev NameSet := Dictionary Unit

namespace NameSet

/-- The set of the names in a list. -/
def ofList (names : List String) : NameSet :=
  Dictionary.ofList (names.map fun name => (name, ()))

/-- The set with one more name. -/
def add (set : NameSet) (name : String) : NameSet :=
  set.insert name ()

end NameSet

end TargetingRules
