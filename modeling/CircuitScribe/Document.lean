import CircuitScribe.Table

namespace CircuitScribe

/-- The content of a settings file: options with their raw values, in named sections
    and in the section of defaults. A value is read as lines, which are joined when the
    whole file has been read; the options whose lines still wait for that are in
    `unjoined`, each with its section. -/
structure Document where
  defaults : Table String String := []
  sections : Table String (Table String String) := []
  unjoined : List (String × String) := []
deriving DecidableEq, Repr

/-- The raw value of an option: a text, or lines that have not been joined to one. -/
inductive RawValue where
  | text (s : String)
  | lines (all : List String)
deriving DecidableEq, Repr

namespace Document

/-- The name in the header of the section of defaults. -/
def defaultsName : String := "DEFAULT"

def hasSection (d : Document) (name : String) : Bool :=
  d.sections.has name

/-- The options of a section; `DEFAULT` names the defaults. -/
def options (d : Document) (name : String) : Table String String :=
  if name = defaultsName then d.defaults else (d.sections.get? name).getD []

/-- Puts one option, with its section when that is missing. -/
def put (d : Document) (name key value : String) : Document :=
  if name = defaultsName then { d with defaults := d.defaults.put key value }
  else { d with sections := d.sections.put name ((d.options name).put key value) }

/-- The document in which the section is there, empty if it was missing. -/
def withSection (d : Document) (name : String) : Document :=
  if name = defaultsName ∨ d.hasSection name then d
  else { d with sections := d.sections.put name [] }

/-- The value of an option of a section, as far as it has been joined. -/
def rawIn (d : Document) (name key value : String) : RawValue :=
  if d.unjoined.contains (name, key) then .lines (value.splitOn "\n") else .text value

/-- The raw value of an option as seen from a section: its own or the default. -/
def raw? (d : Document) (name key : String) : Option RawValue :=
  match (d.options name).get? key with
  | some value => some (d.rawIn name key value)
  | none => (d.defaults.get? key).map (d.rawIn defaultsName key)

/-- Further lines of a value are indented by a tab. -/
def indentLines (value : String) : String :=
  String.ofList (value.toList.flatMap fun c => if c = '\n' then ['\n', '\t'] else [c])

/-- The line of an option, and the further lines of its value. -/
def renderOption (option : String × String) : String :=
  option.1 ++ " = " ++ indentLines option.2 ++ "\n"

/-- A header, a line for each option and an empty line. -/
def renderSection (name : String) (options : Table String String) : String :=
  "[" ++ name ++ "]\n" ++ String.join (options.map renderOption) ++ "\n"

/-- The text of a settings file. The defaults come first, and only if there are any. -/
def render (d : Document) : String :=
  (if d.defaults.isEmpty then "" else renderSection defaultsName d.defaults) ++
    String.join (d.sections.map fun (name, options) => renderSection name options)

end Document

end CircuitScribe
