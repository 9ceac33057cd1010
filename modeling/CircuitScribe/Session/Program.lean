import CircuitScribe.Session.Attribute

namespace CircuitScribe.Session

/-- The circuit that a value refers to. -/
def circuitAt (s : Session) (on : Value) : Except Fault Circuit :=
  match on with
  | .circuit id =>
    match s.circuit? id with
    | some c => .ok c
    | none => .error (.value .noAttribute)
  | _ => .error (.value .noAttribute)

/-- The text of a circuit, register or record in a program. -/
def showProgram (s : Session) (on : Value) : Except Fault String := do
  match on with
  | .register r =>
    s.words.checkDeclaration r
    pure (s.words.declaration r)
  | .record _ _ _ rendered => pure (Line.strip rendered)
  | _ => (← s.circuitAt on).program s.words

/-- A text, and no other value. -/
def requireText : Value → Except Fault String
  | .str s => .ok s
  | _ => .error (.value .wrongSort)

/-- The items of an attribute, each as a text in a program. -/
def textsIn (s : Session) (on : Value) (name : String) (text : Value → Except Fault String) :
    Except Fault (List String) := do
  (← (← s.attributeOf on name).elements s.referents).mapM text

/-- The program of a circuit, or of any value that has got the attributes of one. -/
def generate (s : Session) (on : Value) : Except Fault String := do
  match on with
  | .circuit _ => (← s.circuitAt on).program s.words
  | _ =>
    let header ← requireText (← s.attributeOf on "header")
    let library ← (← s.attributeOf on "include").inserted
    let qregs ← s.textsIn on "qregs" s.showProgram
    let cregs ← s.textsIn on "cregs" s.showProgram
    let lines ← s.textsIn on "gate_log" fun v => do requireText (← s.attributeOf v "rendered")
    pure (Circuit.programText header library (qregs ++ cregs) lines)

/-- The source of the messages about written programs. -/
def saveSource : String := "qasmgen.tools.file_io"

/-- The fault of opening what is given in place of a path. A number would have to be that
    of an open file. -/
def pathFault : Value → Fault
  | .int n =>
    if !isFileNumber n then .value .wrongSort
    else if n < 0 then .file .negativeNumber
    else .file .notOpen
  | .bool _ => .file .notOpen
  | _ => .value .wrongSort

/-- Writes a program to a file. The file is emptied before the program is generated,
    and so stays empty if that fails. -/
def saveProgram (s : Session) (on path : Value) : Session × Reply :=
  match path with
  | .str name =>
    match s.files.create name with
    | .error fault => (s, { result := .error (.file fault) })
    | .ok (names, files) =>
      let s := { s with files := files }
      match s.generate on with
      | .error fault => (s, { result := .error fault })
      | .ok program =>
        let (files, written) := s.files.fill names program.toUTF8
        let s := { s with files := files }
        match written, s.attributeOf on "name" with
        | .ok (), .ok title =>
          (s, ⟨.ok path, [⟨saveSource, .number Severity.info.number,
            "circuit '" ++ title.text ++ "' written to " ++ name⟩]⟩)
        | .ok (), .error fault => (s, { result := .error fault })
        | .error fault, _ => (s, { result := .error (.file fault) })
  | _ => (s, { result := .error (pathFault path) })

/-- Writes the program of a circuit; other values have no program, and no file is touched. -/
def saveItself (s : Session) (on path : Value) : Session × Reply :=
  match s.circuitAt on with
  | .ok _ => s.saveProgram on path
  | .error fault => (s, { result := .error fault })

end CircuitScribe.Session
