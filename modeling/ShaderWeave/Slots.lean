/-! # Slot buffers

Chunks contribute code to named slots while a program is generated. Code for one slot is joined in the order it
is contributed, and slots keep the order in which they first received code. A buffer also numbers the resource
bindings that the code declares, and may carry a stamp: the content hash of what produced it.
-/

namespace ShaderWeave

/-- The joined code of one slot. -/
structure SlotCode where
  key : String
  code : String
  deriving DecidableEq, Repr

structure SlotBuffer where
  entries : List SlotCode := []
  /-- How many contributions were made, over all slots. -/
  fragmentCount : Nat := 0
  /-- Content hash of the producer; empty for a buffer filled by hand. -/
  stamp : String := ""
  /-- How many bindings are reserved. They are numbered from zero. -/
  bindingCount : Nat := 0
  deriving DecidableEq, Repr

namespace SlotBuffer

def empty : SlotBuffer := {}

instance : Inhabited SlotBuffer := ⟨empty⟩

def stamped (stamp : String) : SlotBuffer := { stamp }

/-- Joins `code` to the entry for `key`, or opens one behind the others. -/
def join (key code : String) : List SlotCode → List SlotCode
  | [] => [⟨key, code⟩]
  | entry :: rest =>
    if entry.key = key then ⟨key, entry.code ++ code⟩ :: rest else entry :: join key code rest

def add (slots : SlotBuffer) (key code : String) : SlotBuffer :=
  { slots with entries := join key code slots.entries, fragmentCount := slots.fragmentCount + 1 }

/-- The joined code of a slot, if anything was contributed to it. -/
def get? (slots : SlotBuffer) (key : String) : Option String :=
  (slots.entries.find? fun entry => entry.key == key).map (·.code)

/-- How many slots received code. -/
def size (slots : SlotBuffer) : Nat := slots.entries.length

def isEmpty (slots : SlotBuffer) : Bool := slots.entries.isEmpty

/-- Reserves `count` consecutive bindings and gives the first one. -/
def reserve (slots : SlotBuffer) (count : Nat) : Nat × SlotBuffer :=
  (slots.bindingCount, { slots with bindingCount := slots.bindingCount + count })

theorem find?_join (key code other : String) (entries : List SlotCode) :
    (join key code entries).find? (fun entry => entry.key == other) =
      if other = key then
        some ⟨key, ((entries.find? fun entry => entry.key == key).map (·.code)).getD "" ++ code⟩
      else entries.find? fun entry => entry.key == other := by
  induction entries with
  | nil =>
    by_cases same : other = key
    · simp [join, same]
    · simp [join, same, Ne.symm same]
  | cons entry rest ih =>
    by_cases here : entry.key = key
    · by_cases same : other = key
      · simp [join, here, same]
      · have apart : ¬ key = other := Ne.symm same
        simp [join, here, same, apart]
    · by_cases found : entry.key = other
      · have apart : ¬ other = key := fun equal => here (found.trans equal)
        simp [join, found, apart]
      · by_cases same : other = key
        · subst same
          simp [join, here, ih]
        · simp [join, here, found, ih, same]

/-- A contribution is appended to its own slot and leaves all others alone. -/
theorem get?_add (slots : SlotBuffer) (key code other : String) :
    (slots.add key code).get? other =
      if other = key then some ((slots.get? key).getD "" ++ code) else slots.get? other := by
  by_cases same : other = key <;> simp [get?, add, find?_join, same]

end SlotBuffer

end ShaderWeave
