import ShaderWeave.Program.Backend

/-! # The program ledger

Programs are shared: caches and users hold references to them. The ledger keeps every program that was made, in the order
of making, with the number of references to it. A program is in use by others than its cache as long as it
has more than one.
-/

namespace ShaderWeave

/-- Programs are numbered from one, in the order in which they were made. -/
structure ProgramId where
  number : Nat
  deriving DecidableEq, Repr

structure ProgramEntry (P : Type) where
  program : P
  /-- The context that it was made for. -/
  context : ContextId
  references : Nat
  deriving DecidableEq, Repr

structure ProgramLedger (P : Type) where
  entries : List (ProgramEntry P) := []

namespace ProgramLedger

variable {P : Type}

def entry? (ledger : ProgramLedger P) (id : ProgramId) : Option (ProgramEntry P) :=
  match id.number with
  | 0 => none
  | position + 1 => ledger.entries[position]?

def program? (ledger : ProgramLedger P) (id : ProgramId) : Option P :=
  (ledger.entry? id).map (·.program)

/-- How many references there are to a program. -/
def references (ledger : ProgramLedger P) (id : ProgramId) : Nat :=
  ((ledger.entry? id).map (·.references)).getD 0

/-- Enters a new program with some references. -/
def add (ledger : ProgramLedger P) (program : P) (context : ContextId) (references : Nat) :
    ProgramId × ProgramLedger P :=
  (⟨ledger.entries.length + 1⟩, ⟨ledger.entries ++ [⟨program, context, references⟩]⟩)

def modify (ledger : ProgramLedger P) (id : ProgramId) (change : ProgramEntry P → ProgramEntry P) :
    ProgramLedger P :=
  match id.number with
  | 0 => ledger
  | position + 1 => ⟨ledger.entries.modify position change⟩

def modifyProgram (ledger : ProgramLedger P) (id : ProgramId) (change : P → P) : ProgramLedger P :=
  ledger.modify id fun entry => { entry with program := change entry.program }

/-- One more reference. -/
def retain (ledger : ProgramLedger P) (id : ProgramId) : ProgramLedger P :=
  ledger.modify id fun entry => { entry with references := entry.references + 1 }

/-- One reference less. -/
def release (ledger : ProgramLedger P) (id : ProgramId) : ProgramLedger P :=
  ledger.modify id fun entry => { entry with references := entry.references - 1 }

/-- One reference less to each of several programs. -/
def releaseAll (ledger : ProgramLedger P) (ids : List ProgramId) : ProgramLedger P :=
  ids.foldl release ledger

end ProgramLedger

end ShaderWeave
