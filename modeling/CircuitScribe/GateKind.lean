namespace CircuitScribe

/-- The instructions that a circuit can hold. -/
inductive GateKind where
  | h | x | y | z | id | s | sdg | t | tdg
  | cx | cy | cz | ch
  | ccx
  | measure
  | barrier
deriving DecidableEq, Repr

namespace GateKind

/-- All kinds, in the order of their definition. -/
def all : List GateKind :=
  [.h, .x, .y, .z, .id, .s, .sdg, .t, .tdg, .cx, .cy, .cz, .ch, .ccx, .measure, .barrier]

/-- The symbol under which a kind is looked up. -/
def symbol : GateKind → String
  | .h => "H" | .x => "X" | .y => "Y" | .z => "Z" | .id => "ID"
  | .s => "S" | .sdg => "SDG" | .t => "T" | .tdg => "TDG"
  | .cx => "CX" | .cy => "CY" | .cz => "CZ" | .ch => "CH"
  | .ccx => "CCX" | .measure => "MEASURE" | .barrier => "BARRIER"

/-- The name for readers. -/
def label : GateKind → String
  | .h => "Hadamard" | .x => "Pauli-X" | .y => "Pauli-Y" | .z => "Pauli-Z" | .id => "Identity"
  | .s => "S" | .sdg => "S-dagger" | .t => "T" | .tdg => "T-dagger"
  | .cx => "CNOT" | .cy => "Controlled-Y" | .cz => "Controlled-Z" | .ch => "Controlled-H"
  | .ccx => "Toffoli" | .measure => "Measure" | .barrier => "Barrier"

/-- The word that starts the instruction's line. -/
def mnemonic : GateKind → String
  | .h => "h" | .x => "x" | .y => "y" | .z => "z" | .id => "i"
  | .s => "s" | .sdg => "sdg" | .t => "t" | .tdg => "tdg"
  | .cx => "cx" | .cy => "cy" | .cz => "cz" | .ch => "ch"
  | .ccx => "ccx" | .measure => "measure" | .barrier => "barrier"

/-- Gates on one qubit. -/
def isSingle : GateKind → Bool
  | .h | .x | .y | .z | .id | .s | .sdg | .t | .tdg => true
  | _ => false

/-- Gates on a control and a target. -/
def isControlled : GateKind → Bool
  | .cx | .cy | .cz | .ch => true
  | _ => false

/-- The number of qubits an instruction acts on. A barrier takes whole registers
    and counts none. -/
def qubits : GateKind → Nat
  | .cx | .cy | .cz | .ch => 2
  | .ccx => 3
  | .barrier => 0
  | _ => 1

/-- The number of classical bits an instruction writes. -/
def clbits : GateKind → Nat
  | .measure => 1
  | _ => 0

/-- The kind under a symbol. -/
def ofSymbol? (symbol : String) : Option GateKind :=
  all.find? (·.symbol == symbol)

end GateKind

/-- The gates on one qubit. -/
inductive SingleGate where
  | h | x | y | z | id | s | sdg | t | tdg
deriving DecidableEq, Repr

/-- The gates on a control and a target. -/
inductive ControlledGate where
  | cx | cy | cz | ch
deriving DecidableEq, Repr

def SingleGate.kind : SingleGate → GateKind
  | .h => .h | .x => .x | .y => .y | .z => .z | .id => .id
  | .s => .s | .sdg => .sdg | .t => .t | .tdg => .tdg

def ControlledGate.kind : ControlledGate → GateKind
  | .cx => .cx | .cy => .cy | .cz => .cz | .ch => .ch

end CircuitScribe
