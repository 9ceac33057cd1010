import CircuitScribe.Floating
import CircuitScribe.GateKind
import CircuitScribe.Register

namespace CircuitScribe

/-- A list or table that several holders can share, so that all of them see what is put
    into it: one in a numbered cell, all records of an instruction set, or all settings
    of a settings reader. -/
inductive Reference where
  | list (cell : Nat)
  | table (cell : Nat)
  | recordsOf (instructionSet : Nat)
  | settingsOf (config : Nat)
deriving DecidableEq, Repr

/-- Whether a reference leads to a table, and not to a list. -/
def Reference.isTable : Reference → Bool
  | .list _ | .recordsOf _ => false
  | .table _ | .settingsOf _ => true

/-- Anything a caller can pass or receive. Circuits, instruction sets and settings
    readers change over time, so a value only refers to them by number, as it refers to
    shared lists and tables. -/
inductive Value where
  | null
  | bool (b : Bool)
  | int (n : Int)
  | float (x : Floating)
  | str (s : String)
  | list (items : List Value)
  | tuple (items : List Value)
  | dict (entries : List (String × Value))
  | slice (start stop step : Option Int)
  | kind (k : GateKind)
  | register (r : Register)
  | record (kind : GateKind) (qargs cargs : List Value) (rendered : String)
  | instructionSet (id : Nat)
  | circuit (id : Nat)
  | config (id : Nat)
  | shared (ref : Reference)

namespace Value

/-- The pair that designates one bit of a register. -/
def bit (r : Register) (index : Nat) : Value :=
  .tuple [.register r, .int index]

/-- The name of the sort of value, as messages give it. -/
def sortName : Value → String
  | .null => "NoneType"
  | .bool _ => "bool"
  | .int _ => "int"
  | .float _ => "float"
  | .str _ => "str"
  | .list _ => "list"
  | .tuple _ => "tuple"
  | .dict _ => "dict"
  | .slice _ _ _ => "slice"
  | .kind _ => "GateKind"
  | .register r => r.kind.title
  | .record _ _ _ _ => "GateRecord"
  | .instructionSet _ => "InstructionSet"
  | .circuit _ => "QuantumCircuit"
  | .config _ => "UserConfig"
  | .shared ref => if ref.isTable then "dict" else "list"

end Value

end CircuitScribe
