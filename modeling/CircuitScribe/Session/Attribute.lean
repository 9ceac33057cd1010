import CircuitScribe.Session

namespace CircuitScribe.Session

/-- The data of a kind as a value. -/
def kindData (k : GateKind) : Value :=
  .tuple [.str k.label, .str k.mnemonic, .int k.qubits, .int k.clbits]

/-- The attributes of circuits. The count of circuits is one of each of them. -/
def circuitAttribute (s : Session) (c : Circuit) : String → Except Fault Value
  | "name" => .ok c.name
  | "qregs" => .ok (.tuple (c.qregs.map .register))
  | "cregs" => .ok (.tuple (c.cregs.map .register))
  | "gate_log" => .ok (.tuple (c.records.map (·.value)))
  | "ccx_legacy_spacing" => (c.legacySpacing s.surroundings).map .bool
  | "header" => .ok c.header
  | "include" => .ok c.library
  | "prefix" => .ok (.str "circuit")
  | "instances" => .ok (.int s.circuitCount)
  | _ => .error (.value .noAttribute)

/-- The attributes of registers. -/
def registerAttribute (s : Session) (r : Register) : String → Except Fault Value
  | "name" => .ok (.str r.name)
  | "size" => .ok (.int r.size)
  | "type" => .ok (s.keywords.of r)
  | "prefix" => .ok (.str r.kind.stem)
  | _ => .error (.value .noAttribute)

/-- The attributes of kinds. All kinds can be reached from each of them. -/
def kindAttribute (k : GateKind) : String → Except Fault Value
  | "name" => .ok (.str k.symbol)
  | "value" => .ok (kindData k)
  | "label" => .ok (.str k.label)
  | "mnemonic" => .ok (.str k.mnemonic)
  | "num_qubits" => .ok (.int k.qubits)
  | "num_clbits" => .ok (.int k.clbits)
  | name =>
    match GateKind.ofSymbol? name with
    | some k => .ok (.kind k)
    | none => .error (.value .noAttribute)

/-- The attributes of records. Name and label are those of the kind. -/
def recordAttribute (r : GateRecord) : String → Except Fault Value
  | "kind" => .ok (.kind r.kind)
  | "name" => .ok (.str r.kind.mnemonic)
  | "label" => .ok (.str r.kind.label)
  | "qargs" => .ok (.tuple r.qargs)
  | "cargs" => .ok (.tuple r.cargs)
  | "rendered" => .ok (.str r.rendered)
  | _ => .error (.value .noAttribute)

/-- The attributes of integers, which are fractions and complex numbers too. -/
def integerAttribute (n : Int) : String → Except Fault Value
  | "real" | "numerator" => .ok (.int n)
  | "imag" => .ok (.int 0)
  | "denominator" => .ok (.int 1)
  | _ => .error (.value .noAttribute)

/-- The attributes of floating-point numbers, which are complex numbers too. -/
def floatingAttribute (x : Floating) : String → Except Fault Value
  | "real" => .ok (.float x)
  | "imag" => .ok (.float (.finite "0.0" 0 0))
  | _ => .error (.value .noAttribute)

/-- The attributes of slices. -/
def sliceAttribute (start stop step : Option Int) (name : String) : Except Fault Value :=
  let bound (b : Option Int) : Value := (b.map Value.int).getD .null
  match name with
  | "start" => .ok (bound start)
  | "stop" => .ok (bound stop)
  | "step" => .ok (bound step)
  | _ => .error (.value .noAttribute)

/-- The attributes that a value has from the start. -/
def ownAttribute (s : Session) (on : Value) (name : String) : Except Fault Value :=
  match on with
  | .int n => integerAttribute n name
  | .bool b => integerAttribute (if b then 1 else 0) name
  | .float x => floatingAttribute x name
  | .slice start stop step => sliceAttribute start stop step name
  | .register r => s.registerAttribute r name
  | .record kind qargs cargs rendered => recordAttribute ⟨kind, qargs, cargs, rendered⟩ name
  | .kind k => kindAttribute k name
  | .circuit id =>
    match s.circuits[id]? with
    | some c => s.circuitAttribute c name
    | none => .error (.value .noAttribute)
  | .config id =>
    match name, s.readers[id]? with
    | "filename", some r => .ok r.filename
    | "settings", some _ => .ok (.shared (.settingsOf id))
    | _, _ => .error (.value .noAttribute)
  | .instructionSet id =>
    match name with
    | "instructions" => .ok (.shared (.recordsOf id))
    | _ => .error (.value .noAttribute)
  | _ => .error (.value .noAttribute)

/-- An attribute of a value, by its name: one that has been attached to it, else one that
    it has from the start. -/
def property (s : Session) (on : Value) (name : String) : Except Fault Value :=
  match (Attribute.ofTitle? name).bind (s.attachedTo? on) with
  | some v => .ok v
  | none => s.ownAttribute on name

/-- Attributes that cannot be assigned to. -/
def isFixed : Holder → Attribute → Bool
  | .register _, .name | .register _, .size => true
  | .circuit _, .qregs | .circuit _, .cregs | .circuit _, .gateLog | .circuit _, .spacing => true
  | _, _ => false

/-- Assigns an attribute. The declaration word of a register, the name, header and include
    of a circuit and the file of a settings reader are replaced; any other attribute is
    attached and hides what the value has from the start. -/
def assign (s : Session) (on : Value) (a : Attribute) (value : Value) : Except Fault Session := do
  let some holder := Holder.ofValue? on | throw (.value .noAttribute)
  if isFixed holder a then throw (.value .noAttribute)
  let (value, s) := s.share value
  let changeCircuit (id : Nat) (change : Circuit → Circuit) : Session :=
    { s with circuits := s.circuits.modify id change }
  match holder, a with
  | .register id, .type => pure { s with keywords := s.keywords.put id value }
  | .circuit id, .name => pure (changeCircuit id fun c => { c with name := value })
  | .circuit id, .header => pure (changeCircuit id fun c => { c with header := value })
  | .circuit id, .library => pure (changeCircuit id fun c => { c with library := value })
  | .config id, .filename =>
    pure { s with readers := s.readers.modify id fun r => { r with filename := value } }
  | _, _ => pure { s with attached := s.attached.put (holder, a) value }

/-- An attribute as it is at this moment. -/
def attributeOf (s : Session) (on : Value) (name : String) : Except Fault Value :=
  (s.property on name).map s.settle

/-- What can be found out about values at this moment. -/
def referents (s : Session) : Referents where
  contents := s.contents
  attributeOf := s.attributeOf
  checkRegister := s.words.checkKey

end CircuitScribe.Session
