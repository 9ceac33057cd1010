import CircuitScribe.GateKind

namespace CircuitScribe

/-- A position of a register as programs write it, with the name of the register. -/
structure Mention where
  name : String
  index : Nat
deriving DecidableEq, Repr

def Mention.text (m : Mention) : String :=
  m.name ++ "[" ++ toString m.index ++ "]"

/-- A register as programs declare it, behind a word for its kind. -/
structure Declaration where
  name : String
  size : Nat
deriving DecidableEq, Repr

def Declaration.text (word : String) (d : Declaration) : String :=
  word ++ " " ++ d.name ++ "[" ++ toString d.size ++ "];"

/-- The words of the gates on one qubit. -/
def SingleGate.word : SingleGate → String
  | .h => "h" | .x => "x" | .y => "y" | .z => "z" | .id => "i"
  | .s => "s" | .sdg => "sdg" | .t => "t" | .tdg => "tdg"

/-- The words of the gates with one control. -/
def ControlledGate.word : ControlledGate → String
  | .cx => "cx" | .cy => "cy" | .cz => "cz" | .ch => "ch"

/-- The instructions of programs, which know registers by their names only. -/
inductive Statement where
  | single (gate : SingleGate) (target : Mention)
  | controlled (gate : ControlledGate) (control target : Mention)
  | toffoli (legacy : Bool) (control₁ control₂ target : Mention)
  | measure (source target : Mention)
  | barrier (names : List String)
deriving DecidableEq, Repr

namespace Statement

def kind : Statement → GateKind
  | .single gate _ => gate.kind
  | .controlled gate _ _ => gate.kind
  | .toffoli _ _ _ _ => .ccx
  | .measure _ _ => .measure
  | .barrier _ => .barrier

/-- The templates of the instructions, without the line feed. -/
def text : Statement → String
  | .single gate target => gate.word ++ " " ++ target.text ++ ";"
  | .controlled gate control target => gate.word ++ " " ++ control.text ++ ", " ++ target.text ++ ";"
  | .toffoli legacy control₁ control₂ target =>
    "ccx " ++ control₁.text ++ ", " ++ control₂.text ++ (if legacy then " ," else ", ") ++
      target.text ++ ";"
  | .measure source target => "measure " ++ source.text ++ " -> " ++ target.text ++ ";"
  | .barrier names => "barrier " ++ ",".intercalate names ++ ";"

end Statement

/-- A program with the usual header and include: declarations of quantum registers, of
    classical registers, and instructions. -/
structure Program where
  qregs : List Declaration
  cregs : List Declaration
  statements : List Statement
deriving DecidableEq, Repr

namespace Program

/-- The lines of a program, without their line feeds. -/
def lines (p : Program) : List String :=
  ["OPENQASM 2.0;", "include \"qelib1.inc\";"] ++ p.qregs.map (·.text "qreg") ++
    p.cregs.map (·.text "creg") ++ p.statements.map (·.text)

def text (p : Program) : String :=
  String.join (p.lines.map (· ++ "\n"))

end Program

/-- A mention is within declarations if one of them has its name and enough positions. -/
def Mention.Within (m : Mention) (declared : List Declaration) : Prop :=
  ∃ d ∈ declared, d.name = m.name ∧ m.index < d.size

/-- Qubits are within the quantum registers of a program, measured bits go to its classical
    registers, and a barrier names each of its quantum registers once and in their order. -/
def Statement.Scoped (p : Program) : Statement → Prop
  | .single _ target => target.Within p.qregs
  | .controlled _ control target => control.Within p.qregs ∧ target.Within p.qregs
  | .toffoli _ control₁ control₂ target =>
    control₁.Within p.qregs ∧ control₂.Within p.qregs ∧ target.Within p.qregs
  | .measure source target => source.Within p.qregs ∧ target.Within p.cregs
  | .barrier names => names = p.qregs.map (·.name)

/-- A program that declares each name once, and in which every instruction uses what has
    been declared. -/
structure Program.WellScoped (p : Program) : Prop where
  names_nodup : ((p.qregs ++ p.cregs).map (·.name)).Nodup
  statements_scoped : ∀ s ∈ p.statements, s.Scoped p

end CircuitScribe
