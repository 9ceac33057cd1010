import CircuitScribe.Circuit.Gate
import CircuitScribe.Settings.Store
import CircuitScribe.Value.Collections

namespace CircuitScribe

/-- How many names have been generated for registers of each kind. -/
structure NameCounts where
  quantum : Nat := 0
  classical : Nat := 0
  general : Nat := 0
deriving DecidableEq, Repr

namespace NameCounts

def of (n : NameCounts) : RegisterKind → Nat
  | .quantum => n.quantum
  | .classical => n.classical
  | .general => n.general

def next (n : NameCounts) : RegisterKind → NameCounts
  | .quantum => { n with quantum := n.quantum + 1 }
  | .classical => { n with classical := n.classical + 1 }
  | .general => { n with general := n.general + 1 }

end NameCounts

/-- The names under which values have data. What values can be asked to do, and what they keep
    to themselves, have other names. -/
inductive Attribute where
  | name | size | type | stem
  | qregs | cregs | gateLog | spacing | header | library | instances
  | instructions
  | filename | settings
  | kind | label | mnemonic | qubits | clbits | qargs | cargs | rendered
deriving DecidableEq, Repr

namespace Attribute

def all : List Attribute :=
  [.name, .size, .type, .stem, .qregs, .cregs, .gateLog, .spacing, .header, .library, .instances,
    .instructions, .filename, .settings, .kind, .label, .mnemonic, .qubits, .clbits, .qargs, .cargs,
    .rendered]

def title : Attribute → String
  | .name => "name" | .size => "size" | .type => "type" | .stem => "prefix"
  | .qregs => "qregs" | .cregs => "cregs" | .gateLog => "gate_log"
  | .spacing => "ccx_legacy_spacing" | .header => "header" | .library => "include"
  | .instances => "instances"
  | .instructions => "instructions"
  | .filename => "filename" | .settings => "settings"
  | .kind => "kind" | .label => "label" | .mnemonic => "mnemonic" | .qubits => "num_qubits"
  | .clbits => "num_clbits" | .qargs => "qargs" | .cargs => "cargs" | .rendered => "rendered"

/-- The attribute of a name. -/
def ofTitle? (title : String) : Option Attribute :=
  all.find? (·.title == title)

end Attribute

/-- What attributes can be given to. Kinds are the same for all, and records do not change. -/
inductive Holder where
  | register (id : Nat)
  | circuit (id : Nat)
  | instructionSet (id : Nat)
  | config (id : Nat)
deriving DecidableEq, Repr

/-- The holder that a value refers to, if it can be given attributes. -/
def Holder.ofValue? : Value → Option Holder
  | .register r => some (.register r.id)
  | .circuit id => some (.circuit id)
  | .instructionSet id => some (.instructionSet id)
  | .config id => some (.config id)
  | _ => none

/-- All that the calls of a session leave behind for later calls. Circuits,
    instruction sets and settings readers are numbered by their place in the lists. The
    records of an instruction set and the settings of a reader are those that it was made
    with; others can take their place among the attached attributes. -/
structure Session where
  nameCounts : NameCounts := {}
  registerCount : Nat := 0
  keywords : Keywords := []
  attached : Table (Holder × Attribute) Value := []
  collections : Collections := {}
  circuitCount : Nat := 0
  circuits : List Circuit := []
  instructionSets : List (List GateRecord) := []
  readers : List SettingsReader := []
  files : FileTree := {}
  settingsPath : Option String := none
  logger : Logger := {}

namespace Session

/-- The settings in force. -/
def settings (s : Session) : Except Fault Settings :=
  Settings.inForce s.files s.settingsPath

/-- The attribute that has been attached to a value. -/
def attachedTo? (s : Session) (v : Value) (a : Attribute) : Option Value :=
  (Holder.ofValue? v).bind fun holder => s.attached.get? (holder, a)

/-- What a reference leads to. -/
def referent? (s : Session) : Reference → Option Value
  | .list cell => s.collections.lists[cell]?.map .list
  | .table cell => s.collections.tables[cell]?.map .dict
  | .recordsOf id => s.instructionSets[id]?.map fun rs => .list (rs.map (·.value))
  | .settingsOf id => s.readers[id]?.map (·.settings.value)

/-- The number of references that lead somewhere. -/
def referenceCount (s : Session) : Nat :=
  s.collections.lists.size + s.collections.tables.size + s.instructionSets.length + s.readers.length

/-- A value as it is at this moment, with references followed for at most `fuel` steps. A
    reference that is met within what it leads to stays. -/
def settleWithin (s : Session) : Nat → List Reference → Value → Value
  | 0, _, v => v
  | fuel + 1, path, v => v.settled fun ref =>
    if ref ∈ path then none
    else (s.referent? ref).map (settleWithin s fuel (ref :: path))

/-- A value as it is at this moment. -/
def settle (s : Session) : Value → Value :=
  s.settleWithin (s.referenceCount + 1) []

/-- A value that can be kept, with its lists and tables in cells of the session. -/
def share (s : Session) (v : Value) : Value × Session :=
  let (v, collections) := s.collections.share v
  (v, { s with collections := collections })

/-- The declaration words of registers as they are at this moment. -/
def words (s : Session) : Keywords :=
  s.keywords.map fun (id, word) => (id, s.settle word)

/-- A circuit, with what has been assigned to it as it is at this moment. -/
def circuit? (s : Session) (id : Nat) : Option Circuit :=
  s.circuits[id]?.map fun c =>
    { c with name := s.settle c.name, header := s.settle c.header, library := s.settle c.library }

/-- What gates depend on at this moment. -/
def surroundings (s : Session) : Surroundings :=
  ⟨s.words, s.settings⟩

/-- What the items of a value are taken from, in at most `fuel` steps. Those of an
    instruction set are taken from what it has for its instructions. -/
def contentsWithin (s : Session) : Nat → Value → Except Fault Value
  | 0, _ => .error (.value .endless)
  | fuel + 1, v =>
    match v with
    | .instructionSet id =>
      match s.attachedTo? v .instructions with
      | some v => contentsWithin s fuel v
      | none => .ok ((s.referent? (.recordsOf id)).getD .null)
    | .circuit id => .ok (.list ((s.circuits[id]?.map (·.records)).getD [] |>.map (·.value)))
    | .shared ref => .ok ((s.referent? ref).getD .null)
    | v => .ok v

/-- What the items of a value are taken from: itself, or the list or table that it leads
    to. Instruction sets that lead to each other without end have no items. -/
def contents (s : Session) : Value → Except Fault Value :=
  s.contentsWithin (s.instructionSets.length + 1)

end Session

/-- The result of a call and the messages that it raised. -/
structure Reply where
  result : Except Fault Value
  messages : List Message := []

/-- A reply that leaves the session as it is. -/
def Session.answer (s : Session) (result : Except Fault Value) : Session × Reply :=
  (s, { result := result })

end CircuitScribe
