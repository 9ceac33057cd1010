import CircuitScribe.Instruction
import CircuitScribe.Keywords

namespace CircuitScribe

/-- Registers and a log of instructions that only grows. Name, header and include may
    be replaced by anything; without a spacing of its own a circuit follows the settings. -/
structure Circuit where
  name : Value
  qregs : List Register
  cregs : List Register
  spacing : Option Bool
  header : Value := .str "OPENQASM 2.0;"
  library : Value := .str "qelib1.inc"
  log : List Instruction := []

namespace Circuit

/-- The registers of one kind, in the order in which they were given. -/
def registers (c : Circuit) : RegisterKind → List Register
  | .quantum => c.qregs
  | .classical => c.cregs
  | .general => []

/-- A circuit takes quantum and classical registers, each name once. The names of the
    registers before are `taken`. -/
def checkRegisters (taken : List String) : List Value → Except Fault (List Register)
  | [] => .ok []
  | .register r :: rest =>
    if r.kind = .general then .error (.usage .notARegister)
    else if r.name ∈ taken then .error (.usage (.registerNameTaken r.name))
    else (checkRegisters (r.name :: taken) rest).map (r :: ·)
  | _ :: _ => .error (.usage .notARegister)

/-- The name of a circuit: the given text, or one generated from the number of circuits. -/
def chooseName (count : Nat) : Value → Except Fault String
  | .null => .ok ("circuit" ++ toString count)
  | .str name => .ok name
  | _ => .error (.usage .circuitNameNotText)

/-- The spacing of a circuit: a switch, or none of its own. -/
def chooseSpacing : Value → Except Fault (Option Bool)
  | .null => .ok none
  | .bool on => .ok (some on)
  | v => do throw (.usage (.spacingNotSwitch (← v.printedLiteral)))

/-- The `count`-th circuit, with an empty log. -/
def make (count : Nat) (registers : List Value) (name spacing : Value) : Except Fault Circuit := do
  let name ← chooseName count name
  let registers ← checkRegisters [] registers
  let spacing ← chooseSpacing spacing
  pure {
    name := .str name
    qregs := registers.filter (·.kind = .quantum)
    cregs := registers.filter (·.kind = .classical)
    spacing := spacing }

/-- Whether a value is a register of the circuit, or equal to one of its kind there. -/
def hasRegister (kw : Keywords) (c : Circuit) : Value → Except Fault Bool
  | .register r => kw.contains (c.registers r.kind) r
  | _ => .ok false

/-- The bit that an operand designates, if the circuit has it and its register is of
    the kind that the operand's place requires. The position is checked first, then
    the register. -/
def bit (kw : Keywords) (c : Circuit) (kind : RegisterKind) (operand : Value) : Except Fault Bit :=
  match operand with
  | .tuple [.register r, .int n] =>
    if h : 0 ≤ n ∧ n.toNat < r.size then do
      if (c.registers kind).isEmpty then
        throw (.operand (.noRegisters (← c.name.printed) kind operand))
      else if r.kind ≠ kind then
        throw (.operand (.wrongKind kind r (← (kw.of r).printed) operand))
      else if !(← kw.contains (c.registers kind) r) then throw (.operand (.foreign r operand))
      else pure ⟨r, n.toNat, h.2⟩
    else r.refuse (.int n)
  | .tuple [.register _, index] => .error (.usage (.operandIndexNotInteger index))
  | .tuple [_, _] => do throw (.usage (.operandNotOnRegister (← operand.printed)))
  | _ => do throw (.usage (.operandNotPair (← operand.printed)))

/-- The records of the log. -/
def records (c : Circuit) : List GateRecord :=
  c.log.map (·.record)

/-- The text of a program: header, include, declarations and lines. A declaration comes
    without its line feed. -/
def programText (header library : String) (declarations lines : List String) : String :=
  header ++ "\n" ++ "include \"" ++ library ++ "\";\n" ++
    String.join (declarations.map (· ++ "\n")) ++ String.join lines

/-- The program of a circuit, with the declarations of the quantum and then of the
    classical registers, and the lines of the log. -/
def program (kw : Keywords) (c : Circuit) : Except Fault String := do
  match c.header with
  | .str header =>
    let library ← c.library.inserted
    (c.qregs ++ c.cregs).forM kw.checkDeclaration
    pure (programText header library ((c.qregs ++ c.cregs).map kw.declaration) (c.log.map (·.line)))
  | _ => throw (.value .wrongSort)

end Circuit

end CircuitScribe
