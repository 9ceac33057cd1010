import CircuitScribe.Circuit
import CircuitScribe.Log

namespace CircuitScribe

/-- A gate on operands that have yet to be checked, for one instruction. -/
inductive Placement where
  | single (gate : SingleGate) (target : Value)
  | controlled (gate : ControlledGate) (control target : Value)
  | toffoli (control₁ control₂ target : Value)
  | measure (source target : Value)

/-- The kind of the instruction that a placement asks for. -/
def Placement.kind : Placement → GateKind
  | .single gate _ => gate.kind
  | .controlled gate _ _ => gate.kind
  | .toffoli _ _ _ => .ccx
  | .measure _ _ => .measure

/-- A call of a gate. A gate on one qubit may be given a register, a measurement two
    registers; a barrier stands for itself. -/
inductive GateCall where
  | place (p : Placement)
  | barrier

/-- A call with each of its operands changed. -/
def GateCall.map (f : Value → Value) : GateCall → GateCall
  | .place (.single gate target) => .place (.single gate (f target))
  | .place (.controlled gate control target) => .place (.controlled gate (f control) (f target))
  | .place (.toffoli control₁ control₂ target) =>
    .place (.toffoli (f control₁) (f control₂) (f target))
  | .place (.measure source target) => .place (.measure (f source) (f target))
  | .barrier => .barrier

/-- What a gate depends on outside of its circuit. -/
structure Surroundings where
  keywords : Keywords
  settings : Except Fault Settings

/-- What a gate call gives back: the instruction it appended, or those that it appended
    for the bits of registers. -/
inductive Applied where
  | one (i : Instruction)
  | each (is : List Instruction)

def Applied.instructions : Applied → List Instruction
  | .one i => [i]
  | .each is => is

/-- The circuit after a gate call, the messages of the call, and its result. -/
structure Outcome (α : Type) where
  circuit : Circuit
  messages : List Message
  result : Except Fault α

def Outcome.map {α β : Type} (f : α → β) (o : Outcome α) : Outcome β :=
  ⟨o.circuit, o.messages, o.result.map f⟩

namespace Circuit

/-- The source of the messages about circuits. -/
def source : String := "qasmgen._quantumcircuit"

def debug (text : String) : Message :=
  ⟨source, .number Severity.debug.number, text⟩

/-- What is logged when an instruction has been appended. -/
def appendedMessage (c : Circuit) (i : Instruction) : Message :=
  debug ("circuit '" ++ c.name.text ++ "': appended " ++ Line.strip i.line)

/-- What is logged when an instruction has failed: the rejection of a well-formed operand,
    and nothing for other faults. -/
def failureMessages (c : Circuit) (kind : GateKind) : Fault → List Message
  | .operand fault =>
    [debug ("circuit '" ++ c.name.text ++ "': " ++ kind.label ++ " rejected: " ++ fault.reason)]
  | _ => []

/-- The spacing of Toffoli lines: the circuit's own, else that of the settings, else
    the regular one. -/
def legacySpacing (env : Surroundings) (c : Circuit) : Except Fault Bool :=
  match c.spacing with
  | some legacy => .ok legacy
  | none => env.settings.map fun s => s.legacySpacing?.getD false

/-- The instruction that a placement asks of a circuit. Operands are checked from left
    to right, and the settings are looked up only for a Toffoli with good operands. -/
def instruction (env : Surroundings) (c : Circuit) : Placement → Except Fault Instruction
  | .single gate target => do
    let target ← c.bit env.keywords .quantum target
    pure (.single gate target)
  | .controlled gate control target => do
    let control ← c.bit env.keywords .quantum control
    let target ← c.bit env.keywords .quantum target
    pure (.controlled gate control target)
  | .toffoli control₁ control₂ target => do
    let control₁ ← c.bit env.keywords .quantum control₁
    let control₂ ← c.bit env.keywords .quantum control₂
    let target ← c.bit env.keywords .quantum target
    let legacy ← c.legacySpacing env
    pure (.toffoli legacy control₁ control₂ target)
  | .measure source target => do
    let source ← c.bit env.keywords .quantum source
    let target ← c.bit env.keywords .classical target
    pure (.measure source target)

/-- Appends instructions to the log and says so, once all their lines can be printed. -/
def attachAll (c : Circuit) (is : List Instruction) : Outcome (List Instruction) :=
  match is.forM Instruction.checkLine with
  | .ok () => ⟨{ c with log := c.log ++ is }, is.map c.appendedMessage, .ok is⟩
  | .error fault => ⟨c, [], .error fault⟩

/-- Appends one instruction, if its line can be printed. -/
def attach (c : Circuit) (i : Instruction) : Outcome Instruction :=
  match i.checkLine with
  | .ok () => ⟨{ c with log := c.log ++ [i] }, [c.appendedMessage i], .ok i⟩
  | .error fault => ⟨c, [], .error fault⟩

/-- Appends one instruction, or nothing if an operand is not accepted. -/
def append (env : Surroundings) (c : Circuit) (p : Placement) : Outcome Instruction :=
  match c.instruction env p with
  | .ok i => c.attach i
  | .error fault => ⟨c, c.failureMessages p.kind fault, .error fault⟩

/-- The instructions of `count` placements from a position on, up to the first that fails,
    behind those in `made`, which holds the last one first. -/
def instructionsFrom (env : Surroundings) (c : Circuit) (place : Nat → Placement) :
    Nat → Nat → List Instruction → List Instruction × Option Fault
  | 0, _, made => (made.reverse, none)
  | count + 1, start, made =>
    match c.instruction env (place start) with
    | .ok i => instructionsFrom env c place count (start + 1) (i :: made)
    | .error fault => (made.reverse, some fault)

/-- Appends `count` instructions one after the other, and stops at the first that is not
    accepted, which does not depend on those before it. A register with a position that cannot be
    printed is refused as a whole: no memory holds the records for the positions before. -/
def appendEach (env : Surroundings) (c : Circuit) (place : Nat → Placement) (count : Nat) :
    Outcome (List Instruction) :=
  match instructionsFrom env c place count 0 [] with
  | (is, none) => c.attachAll is
  | (is, some fault) =>
    ⟨{ c with log := c.log ++ is },
      is.map c.appendedMessage ++ c.failureMessages (place is.length).kind fault, .error fault⟩

/-- The length of a register, which has a bound. -/
def boundedSize (r : Register) : Except Fault Nat :=
  if maxLength < r.size then .error (.value .tooLarge) else .ok r.size

/-- Measures each qubit of a register into the bit at the same position of another of
    the same size. -/
def measureEach (env : Surroundings) (c : Circuit) (q k : Register) : Outcome (List Instruction) :=
  match boundedSize q, boundedSize k with
  | .ok m, .ok n =>
    if m ≠ n then ⟨c, [], .error (.usage (.sizesDiffer q k))⟩
    else c.appendEach env (fun j => .measure (.bit q j) (.bit k j)) q.size
  | .error fault, _ | .ok _, .error fault => ⟨c, [], .error fault⟩

/-- A barrier stands on all quantum registers of the circuit, in their order. -/
def barrier (c : Circuit) : Outcome Instruction :=
  if c.qregs.isEmpty then
    ⟨c, [], do throw (.operand (.noRegisters (← c.name.inserted) .quantum .null))⟩
  else c.attach (.barrier c.qregs)

/-- The effect of a gate call on a circuit. -/
def call (env : Surroundings) (c : Circuit) : GateCall → Outcome Applied
  | .barrier => c.barrier.map .one
  | .place (.single gate (.register r)) =>
    if r.kind = .quantum then
      (c.appendEach env (fun j => .single gate (.bit r j)) r.size).map .each
    else (c.append env (.single gate (.register r))).map .one
  | .place (.measure (.register q) (.register k)) =>
    if q.kind = .quantum ∧ k.kind = .classical then (c.measureEach env q k).map .each
    else (c.append env (.measure (.register q) (.register k))).map .one
  | .place p => (c.append env p).map .one

end Circuit

end CircuitScribe
