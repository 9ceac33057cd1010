import CircuitScribe.Document
import CircuitScribe.Text.Basic
import CircuitScribe.Text.Damaged
import CircuitScribe.Text.LetterCase
import CircuitScribe.Text.Quoted

namespace CircuitScribe

/-- What is wrong with the text of a settings file. Lines are counted from one and
    kept as literals. -/
inductive DocumentFault where
  | headerMissing (file : String) (number : Nat) (line : String)
  | sectionRepeated (file : String) (number : Nat) (name : String)
  | optionRepeated (file : String) (number : Nat) (name key : String)
  | malformed (file : String) (lines : List (Nat × String))
  | notText
deriving DecidableEq, Repr

namespace DocumentFault

/-- The number of a line, to a width of at least two. -/
def lineNumber (n : Nat) : String :=
  if n < 10 then " " ++ toString n else toString n

/-- Where a fault was found. -/
def position (file : String) (number : Nat) : String :=
  "While reading from " ++ Text.quote file ++ " [line " ++ lineNumber number ++ "]: "

def message : DocumentFault → String
  | .headerMissing file number line =>
    "File contains no section headers.\nfile: " ++ Text.quote file ++ ", line: " ++ toString number ++
      "\n" ++ line
  | .sectionRepeated file number name =>
    position file number ++ "section " ++ Text.quote name ++ " already exists"
  | .optionRepeated file number name key =>
    position file number ++ "option " ++ Text.quote key ++ " in section " ++ Text.quote name ++
      " already exists"
  | .malformed file lines =>
    "Source contains parsing errors: " ++ Text.quote file ++
      String.join (lines.map fun (number, line) => "\n\t[line " ++ lineNumber number ++ "]: " ++ line)
  | .notText => ""

end DocumentFault

namespace Document

/-- The name in a header: all between an opening bracket at the start of the line and
    the last closing bracket, at least one character. -/
def header? : List Char → Option (List Char)
  | '[' :: rest =>
    match (rest.reverse.dropWhile (· ≠ ']')).drop 1 with
    | [] => none
    | name => some name.reverse
  | _ => none

/-- An equals sign or a colon ends the name of an option. -/
def isDelimiter (c : Char) : Bool :=
  c == '=' || c == ':'

/-- The name and the value around the first delimiter of a line. -/
def option? (line : List Char) : Option (List Char × List Char) :=
  match line.dropWhile (!isDelimiter ·) with
  | [] => none
  | _ :: value => some (Text.trimEnd (line.takeWhile (!isDelimiter ·)), Text.trim value)

/-- Option names do not depend on letter case. -/
def optionName (name : String) : String :=
  Text.lower name

/-- The value that lines make up, without the blanks at its end. -/
def joinLines (lines : List (List Char)) : String :=
  String.ofList (Text.trimEnd (List.intercalate ['\n'] lines))

/-- The state of reading: the section and the option that the next line may continue,
    the lines of that option, and what has occurred in this text so far. -/
structure Reading where
  document : Document
  current : Option String := none
  collecting : Option (String × List (List Char)) := none
  indent : Nat := 0
  sections : List String := []
  options : List (String × String) := []
  malformed : List (Nat × String) := []

namespace Reading

/-- The document with the lines collected so far put under their option. -/
def close (st : Reading) : Document :=
  match st.current, st.collecting with
  | some name, some (key, lines) => st.document.put name key (joinLines lines)
  | _, _ => st.document

/-- Adds a line to the value that is being collected, if there is one. -/
def collect (st : Reading) (line : List Char) : Reading :=
  { st with collecting := st.collecting.map fun (key, lines) => (key, lines ++ [line]) }

/-- Sections of an earlier text are entered again, those of this text are not. -/
def startSection (st : Reading) (file : String) (number : Nat) (name : String) :
    Except DocumentFault Reading :=
  if st.document.hasSection name ∧ name ∈ st.sections then .error (.sectionRepeated file number name)
  else .ok { st with
    document := st.close.withSection name
    current := some name
    collecting := none
    sections := if name = defaultsName then st.sections else name :: st.sections }

/-- An option without a name is stored, and its line counts as malformed; nothing
    continues it. -/
def startOption (st : Reading) (file : String) (number : Nat) (name : String) (line : String)
    (key : List Char) (value : List Char) : Except DocumentFault Reading :=
  let malformed := if key.isEmpty then st.malformed ++ [(number, line)] else st.malformed
  let key := optionName (String.ofList key)
  if (name, key) ∈ st.options then .error (.optionRepeated file number name key)
  else
    let document := st.close.put name key (String.ofList value)
    .ok { st with
      document := document
      collecting := if key = "" then none else some (key, [value])
      options := (name, key) :: st.options
      malformed := malformed }

/-- One line: a comment, a blank line, the continuation of a value, a header or an
    option. Blank lines belong to the value before them; lines that are indented
    deeper than the start of a value continue it. -/
def readLine (st : Reading) (file : String) (number : Nat) (line : List Char) :
    Except DocumentFault Reading :=
  let body := Text.trim line
  if body.head? = some '#' ∨ body.head? = some ';' then .ok st
  else if body.isEmpty then .ok (st.collect [])
  else if st.collecting.isSome ∧ st.indent < Text.indentation line then .ok (st.collect body)
  else
    let st := { st with indent := Text.indentation line }
    match header? body, st.current with
    | some name, _ => st.startSection file number (String.ofList name)
    | none, none => .error (.headerMissing file number (Text.quote (String.ofList line)))
    | none, some name =>
      let literal := Text.quote (String.ofList line)
      match option? body with
      | some (key, value) => st.startOption file number name literal key value
      | none => .ok { st with malformed := st.malformed ++ [(number, literal)] }

/-- Reads lines until one is refused; the fault is then beside the state before it. -/
def readLines (file : String) : Reading → Nat → List (List Char) → Reading × Option DocumentFault
  | st, _, [] => (st, none)
  | st, number, line :: rest =>
    match st.readLine file number line with
    | .ok st' => readLines file st' (number + 1) rest
    | .error fault => (st, some fault)

end Reading

/-- The document of a reading that a fault has ended: the lines read so far stay, and
    nothing is joined. This is the reader of release 3.11.8 and earlier ones; from 3.11.9 on the
    lines are joined then, too. -/
def Reading.interrupted (st : Reading) : Document :=
  let document := st.close
  { document with unjoined := document.unjoined ++ st.options }

/-- The document of a text read to its end, in which all lines are joined. -/
def Reading.finished (st : Reading) : Document :=
  { st.close with unjoined := [] }

/-- Merges the text of a file into a document. What was read before a fault stays;
    malformed lines alone are reported at the end. -/
def read (d : Document) (file : String) (text : String) : Document × Option DocumentFault :=
  match Reading.readLines file { document := d } 1 (Text.splitLines (Text.unifyLineEnds text.toList)) with
  | (st, some fault) => (st.interrupted, some fault)
  | (st, none) => (st.finished, if st.malformed.isEmpty then none else some (.malformed file st.malformed))

/-- Merges the bytes of a file into a document. Bytes that make up no text end the reading
    where they are noticed, if no fault in the lines before has ended it. -/
def readBytes (d : Document) (file : String) (content : ByteArray) : Document × Option DocumentFault :=
  match String.fromUTF8? content with
  | some text => d.read file text
  | none =>
    let lines := Text.splitLines (Text.unifyLineEnds (Text.soundText content).toList)
    match Reading.readLines file { document := d } 1 lines with
    | (st, fault) => (st.interrupted, some (fault.getD .notText))

end Document

end CircuitScribe
