import CircuitScribe.GateRecord

namespace CircuitScribe

/-- One bit of a register. -/
structure Bit where
  register : Register
  index : Nat
  index_lt : index < register.size
deriving DecidableEq

namespace Bit

/-- A bit as the pair that designates it. -/
def value (b : Bit) : Value :=
  .bit b.register b.index

/-- A bit as programs name it. -/
def text (b : Bit) : String :=
  Line.bit b.register.name (toString b.index)

end Bit

/-- An instruction on bits of registers, or a barrier on whole registers. The spacing of a
    Toffoli line is settled when the instruction is made. -/
inductive Instruction where
  | single (gate : SingleGate) (target : Bit)
  | controlled (gate : ControlledGate) (control target : Bit)
  | toffoli (legacy : Bool) (control₁ control₂ target : Bit)
  | measure (source target : Bit)
  | barrier (registers : List Register)
deriving DecidableEq

namespace Instruction

def kind : Instruction → GateKind
  | .single gate _ => gate.kind
  | .controlled gate _ _ => gate.kind
  | .toffoli _ _ _ _ => .ccx
  | .measure _ _ => .measure
  | .barrier _ => .barrier

/-- The bits of an instruction in the order of its operands, each with the kind of register
    that its place requires. A barrier has whole registers and no bits. -/
def bits : Instruction → List (RegisterKind × Bit)
  | .single _ target => [(.quantum, target)]
  | .controlled _ control target => [(.quantum, control), (.quantum, target)]
  | .toffoli _ control₁ control₂ target =>
    [(.quantum, control₁), (.quantum, control₂), (.quantum, target)]
  | .measure source target => [(.quantum, source), (.classical, target)]
  | .barrier _ => []

/-- The qubits that an instruction acts on, or the registers of a barrier. -/
def qargs : Instruction → List Value
  | .single _ target => [target.value]
  | .controlled _ control target => [control.value, target.value]
  | .toffoli _ control₁ control₂ target => [control₁.value, control₂.value, target.value]
  | .measure source _ => [source.value]
  | .barrier registers => registers.map .register

/-- The classical bits that an instruction writes. -/
def cargs : Instruction → List Value
  | .measure _ target => [target.value]
  | _ => []

/-- The line of an instruction in a program. -/
def line (i : Instruction) : String :=
  match i with
  | .single _ target => Line.single i.kind.mnemonic target.text
  | .controlled _ control target => Line.controlled i.kind.mnemonic control.text target.text
  | .toffoli legacy control₁ control₂ target =>
    Line.toffoli i.kind.mnemonic legacy control₁.text control₂.text target.text
  | .measure source target => Line.measure i.kind.mnemonic source.text target.text
  | .barrier registers => Line.registers i.kind.mnemonic (registers.map (·.name))

/-- Accepts an instruction whose line can be printed, with the positions of all its bits. -/
def checkLine (i : Instruction) : Except Fault Unit :=
  i.bits.forM fun b => checkDigits b.2.index

/-- The record of an instruction, with its line. -/
def record (i : Instruction) : GateRecord :=
  ⟨i.kind, i.qargs, i.cargs, i.line⟩

end Instruction

end CircuitScribe
