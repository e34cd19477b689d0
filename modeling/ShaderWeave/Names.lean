/-! # Names

Things under names of the user's choice. A name can be bound again and then stands for the new thing alone.
-/

namespace ShaderWeave

structure Names (α : Type) where
  /-- In the order in which the names were first bound. -/
  entries : List (String × α) := []
  deriving Repr

namespace Names

variable {α : Type}

def lookup? (names : Names α) (name : String) : Option α := names.entries.lookup name

def put (name : String) (value : α) : List (String × α) → List (String × α)
  | [] => [(name, value)]
  | (other, old) :: rest =>
    if other = name then (name, value) :: rest else (other, old) :: put name value rest

def bind (names : Names α) (name : String) (value : α) : Names α := ⟨put name value names.entries⟩

def unbind (names : Names α) (name : String) : Names α :=
  ⟨names.entries.filter fun (other, _) => other != name⟩

theorem lookup_put (name other : String) (value : α) (entries : List (String × α)) :
    (put name value entries).lookup other = if other = name then some value else entries.lookup other := by
  induction entries with
  | nil => grind [put]
  | cons entry rest ih => grind [put]

/-- A name that is bound reads as its latest value, and no other name is touched. -/
theorem lookup?_bind (names : Names α) (name other : String) (value : α) :
    (names.bind name value).lookup? other = if other = name then some value else names.lookup? other :=
  lookup_put name other value names.entries

end Names

end ShaderWeave
