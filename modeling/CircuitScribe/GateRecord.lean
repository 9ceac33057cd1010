import CircuitScribe.Line
import CircuitScribe.Value.Access

namespace CircuitScribe

/-- An instruction with its operands and its line. -/
structure GateRecord where
  kind : GateKind
  qargs : List Value
  cargs : List Value
  rendered : String

namespace GateRecord

/-- A record as a value that a caller holds. -/
def value (r : GateRecord) : Value :=
  .record r.kind r.qargs r.cargs r.rendered

/-- The record that a value is, if it is one. -/
def ofValue? : Value → Option GateRecord
  | .record kind qargs cargs rendered => some ⟨kind, qargs, cargs, rendered⟩
  | _ => none

variable (refs : Referents)

/-- The name of a value, whatever it is. -/
def nameOf (v : Value) : Except Fault Value :=
  refs.attributeOf v "name"

/-- The text of an operand that is a pair of something with a name and a position. Both are
    looked up before they are printed. -/
def bitText (operand : Value) : Except Fault String := do
  let owner ← operand.item refs (.int 0)
  let name ← nameOf refs owner
  let index ← operand.item refs (.int 1)
  let name ← name.printed
  let position ← index.decimal
  pure (Line.bit name position)

/-- The text of one of several operands. -/
def bitTextAt (operands : Value) (n : Nat) : Except Fault String := do
  bitText refs (← operands.item refs (.int n))

/-- Names are looked up first, and then have to be texts. -/
def namesText (operands : Value) : Except Fault (List String) := do
  let names ← (← operands.elements refs).mapM (nameOf refs)
  names.mapM fun
    | .str name => pure name
    | _ => throw (.value .wrongSort)

/-- The line of an instruction on arbitrary operands; surplus operands do not show.
    Anything with a word can stand in for the kind of an instruction on whole registers. -/
def line (kind qargs cargs legacy : Value) : Except Fault String := do
  match kind with
  | .kind k =>
    if k.isSingle then return Line.single k.mnemonic (← bitTextAt refs qargs 0)
    else if k.isControlled then
      return Line.controlled k.mnemonic (← bitTextAt refs qargs 0) (← bitTextAt refs qargs 1)
    else match k with
    | .ccx =>
      let legacy ← legacy.truth refs
      return Line.toffoli k.mnemonic legacy (← bitTextAt refs qargs 0) (← bitTextAt refs qargs 1)
        (← bitTextAt refs qargs 2)
    | .measure =>
      return Line.measure k.mnemonic (← bitTextAt refs qargs 0) (← bitTextAt refs cargs 0)
    | _ => return Line.registers k.mnemonic (← namesText refs qargs)
  | _ =>
    let word ← refs.attributeOf kind "mnemonic"
    let names ← namesText refs qargs
    return Line.registers (← word.printed) names

/-- A record on arbitrary operands, as many as its kind takes. -/
def make (kind qargs cargs legacy : Value) : Except Fault GateRecord := do
  match kind with
  | .kind k =>
    let qubits ← qargs.elements refs
    let clbits ← cargs.elements refs
    if k = .barrier then
      if qubits.isEmpty ∨ !clbits.isEmpty then throw (.usage .barrierOperands)
    else if qubits.length ≠ k.qubits ∨ clbits.length ≠ k.clbits then
      throw (.usage (.operandCount k))
    let rendered ← line refs kind (.tuple qubits) (.tuple clbits) legacy
    pure ⟨k, qubits, clbits, rendered⟩
  | _ => throw (.usage (.notAKind (← kind.printedLiteral)))

end GateRecord

end CircuitScribe
