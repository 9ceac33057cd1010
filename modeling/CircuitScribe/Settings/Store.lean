import CircuitScribe.Document
import CircuitScribe.Settings
import CircuitScribe.Value.Access

namespace CircuitScribe

/-- A reader of one settings file. What it has read stays between readings. -/
structure SettingsReader where
  filename : Value
  settings : Settings := []
  document : Document := {}

namespace SettingsReader

/-- The settings file that is used when no other is named. -/
def defaultPath : String := "home/.qasmgen/settings.conf"

/-- The keys of the settings section. -/
def keys : List String := ["ccx_legacy_spacing", "log_level"]

/-- Merges the bytes of a file into a document. -/
def merge (d : Document) (path : String) (content : ByteArray) : Document × Except Fault Unit :=
  match d.readBytes path content with
  | (d', some fault) => (d', .error (.document fault))
  | (d', none) => (d', .ok ())

/-- Takes the settings of what has been read so far. -/
def takeSettings (r : SettingsReader) : SettingsReader × Except Fault Unit :=
  let (settings, result) := r.settings.takeFrom r.document
  ({ r with settings := settings }, result)

/-- The path and content of the file, if there is one. A number names no file. -/
def source? (r : SettingsReader) (files : FileTree) : Except Fault (Option (String × ByteArray)) :=
  match r.filename with
  | .str path => .ok ((files.content? path).map (path, ·))
  | .int n => if isFileNumber n then .ok none else .error (.value .tooLarge)
  | .bool _ => .ok none
  | _ => .error (.value .wrongSort)

/-- Reads the file into the document, and tells whether there is a file. -/
def readDocument (r : SettingsReader) (files : FileTree) : SettingsReader × Except Fault Bool :=
  match r.source? files with
  | .error fault => (r, .error fault)
  | .ok none => (r, .ok false)
  | .ok (some (path, content)) =>
    let (d, result) := merge r.document path content
    ({ r with document := d }, result.map fun _ => true)

/-- Reads the file, if there is one, and takes its settings. -/
def read (r : SettingsReader) (files : FileTree) : SettingsReader × Except Fault Unit :=
  match r.readDocument files with
  | (r, .ok true) => r.takeSettings
  | (r, .ok false) => (r, .ok ())
  | (r, .error fault) => (r, .error fault)

end SettingsReader

namespace Settings

/-- The settings that are in force: those of the file which the variable names, or of
    the default file. -/
def inForce (files : FileTree) (chosenPath : Option String) : Except Fault Settings :=
  let reader : SettingsReader := { filename := .str (chosenPath.getD SettingsReader.defaultPath) }
  match reader.read files with
  | (reader, .ok ()) => .ok reader.settings
  | (_, .error fault) => .error fault

/-- A key is text, and one of the settings if it is for their section. -/
def checkKey (key sectionValue : Value) : Except Fault String :=
  match key with
  | .str key =>
    match sectionValue with
    | .str name =>
      if name = sectionName ∧ key ∉ SettingsReader.keys then .error (.settings (.keyUnknown key))
      else .ok key
    | _ => .ok key
  | _ => .error (.settings .keyNotText)

/-- The document with one option set to the text of a value. The option of an empty section name
    goes to the defaults, after the section has been made. -/
def edit (d : Document) (sectionValue : Value) (key : String) (value : Value) :
    Except Fault Document := do
  match sectionValue with
  | .str name =>
    if name = Document.defaultsName then throw (.edit .sectionReserved)
    let d := d.withSection name
    let text ← value.printed
    match Document.misplacedPercent? text with
    | some position => throw (.edit (.percentMisplaced text position))
    | none =>
      let name := if name = "" then Document.defaultsName else name
      pure (d.put name (Document.optionName key) text)
  | _ => throw (.value .wrongSort)

/-- The files that a path stands for: itself, or the items of a collection of paths. -/
def sources (refs : Referents) (path : Value) : Except Fault (List Value) :=
  match path with
  | .str _ => .ok [path]
  | v => v.elements refs

/-- A document with the content of a file merged in, if there is that file. A number names
    no file. -/
def mergeFile (files : FileTree) (d : Document) : Value → Except Fault Document
  | .str path =>
    if FileTree.hasNul path then .error (.file .nulInPath)
    else match files.content? path with
      | none => .ok d
      | some content =>
        match SettingsReader.merge d path content with
        | (_, .error fault) => .error fault
        | (d, .ok ()) => .ok d
  | .int n =>
    if !isFileNumber n then .error (.value .wrongSort)
    else if n < 0 then .error (.file .negativeNumber)
    else .ok d
  | .bool _ => .ok d
  | _ => .error (.value .wrongSort)

/-- The document that a store operation is about to write. It is checked as a whole
    before any file is touched. -/
def prepare (files : FileTree) (sources : List Value) (key : String) (value sectionValue : Value) :
    Except Fault Document := do
  let d ← sources.foldlM (mergeFile files) {}
  let d ← edit d sectionValue key value
  match takeFrom [] d with
  | (_, .error fault) => throw fault
  | (_, .ok ()) => pure d

/-- Writes a document to a path, below directories that are made for it. The file is emptied
    before the document is written to it. -/
def writeDocument (files : FileTree) (path : String) (d : Document) : FileTree × Except Fault Unit :=
  let directory := FileTree.leading path.toList
  let (files, made) := if directory.isEmpty then (files, .ok ()) else files.makeDirectories true directory
  let (files, written) := match made with
    | .ok () => files.write path d.render.toUTF8
    | .error cause => (files, .error cause)
  (files, written.mapError fun cause => .settings (.notStored path cause))

/-- Sets one option of a settings file. Without a section the option goes to the
    section of the settings. A collection of paths is read but cannot be written to. -/
def store (refs : Referents) (files : FileTree) (key value sectionValue path : Value) :
    FileTree × Except Fault Unit :=
  let sectionValue := match sectionValue with
    | .null => .str sectionName
    | v => v
  let prepared : Except Fault Document := do
    let key ← checkKey key sectionValue
    prepare files (← sources refs path) key value sectionValue
  match prepared, path with
  | .error fault, _ => (files, .error fault)
  | .ok d, .str path => writeDocument files path d
  | .ok _, _ => (files, .error (.value .wrongSort))

end Settings

end CircuitScribe
