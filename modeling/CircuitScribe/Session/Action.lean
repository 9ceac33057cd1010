import CircuitScribe.Fault.Family
import CircuitScribe.Log.Format
import CircuitScribe.Session.Program

namespace CircuitScribe

/-- The calls of a session that depend on its state or change it. -/
inductive Action where
  | createRegister (kind : RegisterKind) (size name : Value)
  | checkRange (on index : Value)
  | createCircuit (registers : List Value) (name spacing : Value)
  | gate (on : Value) (call : GateCall)
  | hasRegister (on register : Value)
  | showProgram (on : Value)
  | generate (on : Value)
  | createRecord (kind qargs cargs legacy : Value)
  | renderLine (kind qargs cargs legacy : Value)
  | createInstructionSet
  | addRecord (on record : Value)
  | showKinds
  | findKind (symbol : Value)
  | identifyKind (data : Value)
  | length (on : Value)
  | item (on index : Value)
  | elements (on : Value)
  | compare (a b : Value)
  | countDistinct (values : List Value)
  | showLiteral (v : Value)
  | showText (v : Value)
  | property (on : Value) (name : String)
  | assign (on : Value) (a : Attribute) (value : Value)
  | saveProgram (on path : Value)
  | saveItself (on path : Value)
  | writeFile (path : Value) (content : ByteArray)
  | showFile (path : Value)
  | deleteFile (path : Value)
  | makeDirectories (path : Value)
  | listFiles
  | chooseSettings (path : Value)
  | showSettings
  | storeSetting (key value sectionValue path : Value)
  | createReader (filename : Value)
  | readSettings (on : Value)
  | takeSettings (on : Value)
  | setLogger (level : Value)
  | unsetLogger
  | log (source level text : Value)
  | layOut (layout : Value) (entry : LogEntry)
  | describeFault (family : FaultFamily) (arguments : List Value)

namespace Session

/-- A register with a checked name and size. The name is checked first. -/
def makeRegister (id : Nat) (kind : RegisterKind) (name size : Value) : Except Fault Register :=
  match name with
  | .str name =>
    if hname : isRegisterName name = true then
      match size with
      | .int n =>
        if hsize : 0 < n.toNat then .ok ⟨id, kind, name, n.toNat, hname, hsize⟩
        else .error (.usage .registerSizeNotPositive)
      | _ => .error (.usage .registerSizeNotInteger)
    else .error (.usage (.registerNameInvalid name))
  | _ => .error (.usage .registerNameNotText)

/-- Without a name, one is generated; this uses up a number even if the size is then
    refused. -/
def createRegister (s : Session) (kind : RegisterKind) (size name : Value) : Session × Reply :=
  let (s, name) := match name with
    | .null => ({ s with nameCounts := s.nameCounts.next kind },
        Value.str (kind.stem ++ toString (s.nameCounts.of kind)))
    | name => (s, name)
  match makeRegister s.registerCount kind name size with
  | .ok r => ({ s with registerCount := s.registerCount + 1 }, { result := .ok (.register r) })
  | .error fault => (s, { result := .error fault })

/-- A circuit counts even if its arguments are then refused. -/
def createCircuit (s : Session) (registers : List Value) (name spacing : Value) : Session × Reply :=
  let s := { s with circuitCount := s.circuitCount + 1 }
  match Circuit.make s.circuitCount registers name spacing with
  | .ok c => ({ s with circuits := s.circuits ++ [c] }, { result := .ok (.circuit s.circuits.length) })
  | .error fault => (s, { result := .error fault })

/-- Replaces the log of a circuit. -/
def withLog (s : Session) (id : Nat) (log : List Instruction) : Session :=
  { s with circuits := s.circuits.modify id fun c => { c with log := log } }

/-- The instructions of a call on registers come back as a new instruction set. -/
def gate (s : Session) (on : Value) (call : GateCall) : Session × Reply :=
  match on with
  | .circuit id =>
    match s.circuit? id with
    | none => (s, { result := .error (.value .noAttribute) })
    | some c =>
      let outcome := c.call s.surroundings call
      let s := s.withLog id outcome.circuit.log
      match outcome.result with
      | .ok (.one i) => (s, ⟨.ok i.record.value, outcome.messages⟩)
      | .ok (.each is) =>
        ({ s with instructionSets := s.instructionSets ++ [is.map (·.record)] },
          ⟨.ok (.instructionSet s.instructionSets.length), outcome.messages⟩)
      | .error fault => (s, ⟨.error fault, outcome.messages⟩)
  | _ => (s, { result := .error (.value .noAttribute) })

/-- Puts a record at the end of a list that a value refers to. -/
def append (s : Session) (target : Value) (r : GateRecord) : Except Fault Session :=
  match target with
  | .shared (.list cell) => .ok { s with collections := s.collections.append cell r.value }
  | .shared (.recordsOf id) =>
    .ok { s with instructionSets := s.instructionSets.modify id (· ++ [r]) }
  | _ => .error (.value .noAttribute)

/-- Adds a record to an instruction set, at the end of its instructions. -/
def addRecord (s : Session) (on record : Value) : Except Fault Session := do
  match on with
  | .instructionSet _ =>
    match GateRecord.ofValue? record with
    | some r => s.append (← s.property on "instructions") r
    | none => throw (.usage .notARecord)
  | _ => throw (.value .noAttribute)

/-- The row of a kind in the table of kinds. -/
def kindRow (k : GateKind) : Value :=
  .list [.str k.symbol, .str k.label, .str k.mnemonic, .int k.qubits, .int k.clbits,
    .bool k.isSingle, .bool k.isControlled]

/-- Whether a value can be a member of a set. -/
def checkKey (s : Session) (v : Value) : Except Fault Unit :=
  v.checkKey s.words.checkKey

/-- The kind under a symbol. -/
def findKind (s : Session) (symbol : Value) : Except Fault Value := do
  s.checkKey symbol
  match symbol with
  | .str symbol =>
    match GateKind.ofSymbol? symbol with
    | some k => pure (.kind k)
    | none => throw (.value .noKey)
  | _ => throw (.value .noKey)

/-- The kind with given data; a kind stands for itself. -/
def identifyKind (s : Session) (data : Value) : Except Fault Value :=
  match data, s.checkKey data with
  | .kind k, _ => .ok (.kind k)
  | _, .error (.value .endless) => .error (.value .endless)
  | v, _ =>
    match GateKind.all.find? fun k => (kindData k).equals s.words.same v with
    | some k => .ok (.kind k)
    | none => do throw (.value (.notAKind (← v.printedLiteral)))

/-- Whether values are equal, which registers may not let be found out. -/
def compare (s : Session) (a b : Value) : Except Fault Bool := do
  s.words.checkComparable a b
  pure (a.equals s.words.same b)

/-- The number of members of a set of values. -/
def countDistinct (s : Session) (values : List Value) : Except Fault Nat := do
  values.forM s.checkKey
  let same := s.words.same
  let members := values.foldl (fun members v =>
    if members.any fun w => w.agrees same v then members else v :: members) []
  pure members.length

/-- The text of a file, and nothing if there is no such file. -/
def showFile (s : Session) : Value → Except Fault Value
  | .str path =>
    match s.files.content? path with
    | none => .ok .null
    | some content =>
      match String.fromUTF8? content with
      | some text => .ok (.str text)
      | none => .error (.document .notText)
  | .int _ | .bool _ => .ok .null
  | _ => .error (.value .wrongSort)

/-- Stores one setting. A path that counts as false stands for the file in force. -/
def storeSetting (s : Session) (key value sectionValue path : Value) : Session × Reply :=
  match path.truth s.referents with
  | .error fault => (s, { result := .error fault })
  | .ok given =>
    let path := if given then path else .str (s.settingsPath.getD SettingsReader.defaultPath)
    match Settings.store s.referents s.files key (s.settle value) sectionValue path with
    | (files, result) => ({ s with files := files }, { result := result.map fun _ => .null })

/-- Puts settings into the table that a value refers to. Nothing else can take settings. -/
def putSettings (s : Session) (target : Value) (settings : Settings) : Except Fault Session :=
  match target with
  | .shared (.table cell) =>
    .ok { s with collections := settings.foldl (fun c t => c.put cell t.key t.value) s.collections }
  | .shared (.settingsOf id) =>
    .ok { s with readers := s.readers.modify id fun r =>
      { r with settings := settings.foldl Settings.put r.settings } }
  | _ => if settings.isEmpty then .ok s else .error (.value .wrongSort)

/-- Lets a settings reader change by a step, and gives the reader back. The settings of the
    step go to what has been attached in their place. -/
def useReader (s : Session) (on : Value) (step : SettingsReader → SettingsReader × Except Fault Unit) :
    Session × Reply :=
  match on with
  | .config id =>
    match s.readers[id]?, s.attachedTo? on .settings with
    | some r, none =>
      let (r, result) := step r
      ({ s with readers := s.readers.set id r }, { result := result.map fun _ => on })
    | some r, some target =>
      let (r', result) := step { r with settings := [] }
      let s := { s with readers := s.readers.set id { r' with settings := r.settings } }
      match s.putSettings target r'.settings with
      | .ok s => (s, { result := result.map fun _ => on })
      | .error fault => (s, { result := .error fault })
    | none, _ => (s, { result := .error (.value .noAttribute) })
  | _ => (s, { result := .error (.value .noAttribute) })

/-- A reply to a change of the session that may fail. -/
def change (s : Session) : Except Fault Session → Session × Reply
  | .ok s' => (s', { result := .ok .null })
  | .error fault => (s, { result := .error fault })

/-- A change of the files at a path. What was done before a refusal stays. -/
def changeFiles (s : Session) (path : Value) (change : String → FileTree × Except FileFault Unit) :
    Session × Reply :=
  match path with
  | .str path =>
    match change path with
    | (files, .ok ()) => ({ s with files := files }, { result := .ok .null })
    | (files, .error fault) => ({ s with files := files }, { result := .error (.file fault) })
  | _ => (s, { result := .error (.value .wrongSort) })

/-- A change that leaves the files as they are if it is refused. -/
def allOrNothing (files : FileTree) : Except FileFault FileTree → FileTree × Except FileFault Unit
  | .ok files' => (files', .ok ())
  | .error fault => (files, .error fault)

/-- Names the settings file, or takes the name away. -/
def chooseSettings (s : Session) : Value → Session × Reply
  | .null => ({ s with settingsPath := none }, { result := .ok .null })
  | .str path =>
    if FileTree.hasNul path then (s, { result := .error (.file .nulInPath) })
    else ({ s with settingsPath := some path }, { result := .ok .null })
  | _ => (s, { result := .error (.value .wrongSort) })

/-- A message from a caller. A source that counts as false is none in particular. If it is let
    through, its level has to have a title. -/
def makeMessage (s : Session) (source level text : Value) : Except Fault Message := do
  let source ← match ← source.truth s.referents, source with
    | false, _ => pure Logger.anonymous
    | true, .str name => pure name
    | true, _ => throw (.value .wrongSort)
  match LogLevel.ofNumber? level with
  | some level =>
    let message : Message := ⟨source, level, (s.settle text).text⟩
    if s.logger.lets message then level.value.checkPrint
    pure message
  | none => throw (.value .wrongSort)

/-- The effect of an action on a session. -/
def act (s : Session) : Action → Session × Reply
  | .createRegister kind size name => s.createRegister kind size name
  | .checkRange on index =>
    match on with
    | .register r => s.answer ((r.checkRange index).map fun _ => .null)
    | _ => s.answer (.error (.value .noAttribute))
  | .createCircuit registers name spacing => s.createCircuit registers name (s.settle spacing)
  | .gate on call => s.gate on (call.map s.settle)
  | .hasRegister on register =>
    s.answer (do pure (.bool (← (← s.circuitAt on).hasRegister s.words register)))
  | .showProgram on => s.answer ((s.showProgram on).map .str)
  | .generate on => s.answer ((s.generate on).map .str)
  | .createRecord kind qargs cargs legacy =>
    let (qargs, s) := s.share qargs
    let (cargs, s) := s.share cargs
    s.answer ((GateRecord.make s.referents (s.settle kind) qargs cargs legacy).map (·.value))
  | .renderLine kind qargs cargs legacy =>
    s.answer ((GateRecord.line s.referents kind qargs cargs legacy).map .str)
  | .createInstructionSet =>
    ({ s with instructionSets := s.instructionSets ++ [[]] },
      { result := .ok (.instructionSet s.instructionSets.length) })
  | .addRecord on record => s.change (s.addRecord on record)
  | .showKinds => s.answer (.ok (.list (GateKind.all.map kindRow)))
  | .findKind symbol => s.answer (s.findKind symbol)
  | .identifyKind data => s.answer (s.identifyKind (s.settle data))
  | .length on => s.answer ((on.length s.referents).map fun n => .int n)
  | .item on index =>
    let (on, s) := s.share on
    s.answer (on.item s.referents index)
  | .elements on =>
    let (on, s) := s.share on
    s.answer ((on.elements s.referents).map .list)
  | .compare a b => s.answer ((s.compare (s.settle a) (s.settle b)).map .bool)
  | .countDistinct values => s.answer ((s.countDistinct (values.map s.settle)).map fun n => .int n)
  | .showLiteral v => s.answer ((s.settle v).printedLiteral.map .str)
  | .showText v => s.answer ((s.settle v).printed.map .str)
  | .property on name => s.answer (s.property on name)
  | .assign on a value => s.change (s.assign on a value)
  | .saveProgram on path => s.saveProgram on path
  | .saveItself on path => s.saveItself on path
  | .writeFile path content => s.changeFiles path (s.files.write · content)
  | .showFile path => s.answer (s.showFile path)
  | .deleteFile path => s.changeFiles path fun path => allOrNothing s.files (s.files.remove path)
  | .makeDirectories path =>
    s.changeFiles path fun path => s.files.makeDirectories false path.toList
  | .listFiles => s.answer (.ok (.list (s.files.listing.map .str)))
  | .chooseSettings path => s.chooseSettings path
  | .showSettings => s.answer (s.settings.map (·.value))
  | .storeSetting key value sectionValue path => s.storeSetting key value sectionValue path
  | .createReader filename =>
    let filename := match filename with
      | .null => .str SettingsReader.defaultPath
      | v => v
    let (filename, s) := s.share filename
    ({ s with readers := s.readers ++ [{ filename := filename }] },
      { result := .ok (.config s.readers.length) })
  | .readSettings on => s.useReader on (·.read s.files)
  | .takeSettings on => s.useReader on (·.takeSettings)
  | .setLogger level =>
    match s.logger.set s.settings level with
    | .ok logger => { s with logger := logger }.answer (.ok logger.value)
    | .error fault => s.answer (.error fault)
  | .unsetLogger => { s with logger := s.logger.unset }.answer (.ok s.logger.unset.value)
  | .log source level text =>
    match s.makeMessage source level text with
    | .ok message => (s, ⟨.ok .null, [message]⟩)
    | .error fault => s.answer (.error fault)
  | .layOut layout entry =>
    let settled : LogEntry :=
      ⟨s.settle entry.source, s.settle entry.level, s.settle entry.message⟩
    s.answer ((Layout.render s.referents layout settled).map .str)
  | .describeFault family arguments => s.answer (family.describe arguments)

/-- Lists and tables in a reply are shared from then on. -/
def shareReply (s : Session) (reply : Reply) : Session × Reply :=
  match reply.result with
  | .ok v =>
    let (v, s) := s.share v
    (s, { reply with result := .ok v })
  | .error _ => (s, reply)

/-- The effect of an action on a session, and its reply. -/
def perform (s : Session) (action : Action) : Session × Reply :=
  let (s, reply) := s.act action
  s.shareReply reply

/-- The effect of actions in turn, with their replies. -/
def run (s : Session) : List Action → Session × List Reply
  | [] => (s, [])
  | action :: rest =>
    let (s, reply) := s.perform action
    let (s, replies) := s.run rest
    (s, reply :: replies)

end Session

end CircuitScribe
