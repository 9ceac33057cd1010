import CircuitScribe.Settings
import CircuitScribe.Value.Printing

namespace CircuitScribe

/-- A level is a number, or a truth value that counts as one or zero. -/
inductive LogLevel where
  | number (n : Int)
  | truth (b : Bool)
deriving DecidableEq, Repr

namespace LogLevel

def toInt : LogLevel → Int
  | .number n => n
  | .truth b => if b then 1 else 0

def value : LogLevel → Value
  | .number n => .int n
  | .truth b => .bool b

/-- A number or truth value as a level. -/
def ofNumber? : Value → Option LogLevel
  | .int n => some (.number n)
  | .bool b => some (.truth b)
  | _ => none

/-- The names by which levels are chosen. -/
def named : Table String Int :=
  [("CRITICAL", 50), ("FATAL", 50), ("ERROR", 40), ("WARN", 30), ("WARNING", 30), ("INFO", 20),
    ("DEBUG", 10), ("NOTSET", 0)]

/-- The names under which levels are printed. -/
def titles : Table Int String :=
  [(50, "CRITICAL"), (40, "ERROR"), (30, "WARNING"), (20, "INFO"), (10, "DEBUG"), (0, "NOTSET")]

/-- The name under which messages of a level are printed. -/
def title (level : LogLevel) : String :=
  match titles.get? level.toInt with
  | some title => title
  | none => "Level " ++ level.value.text

end LogLevel

/-- A line for the log, from a named source and at a level. -/
structure Message where
  source : String
  level : LogLevel
  text : String
deriving DecidableEq, Repr

namespace Message

/-- Information stands on its own; a message of another level has its time, source
    and level in front. -/
def line (m : Message) : String :=
  if m.level.toInt = Severity.info.number then m.text
  else "TIME:" ++ m.source ++ ":" ++ m.level.title ++ ": " ++ m.text

end Message

namespace LevelReference

/-- Constants that a level can refer to by name. -/
def constants : Table String Value :=
  LogLevel.named.map (fun (name, n) => ("logging." ++ name, .int n)) ++
    ["raiseExceptions", "logThreads", "logProcesses", "logMultiprocessing"].map
      (fun name => ("logging." ++ name, .bool true)) ++
    ["logging.root.level", "logging.lastResort.level"].map
      (fun name => (name, .int Severity.warning.number)) ++
    [("sys.maxsize", .int 0x7fffffffffffffff), ("sys.maxunicode", .int 0x10ffff),
      ("sys.api_version", .int 1013), ("builtins.True", .bool true),
      ("builtins.False", .bool false), ("builtins.__debug__", .bool true), ("builtins.None", .null)]

/-- A text with a line feed at its end loses it; inside it has none. -/
def singleLine? (s : List Char) : Option (List Char) :=
  let s := if s.getLast? = some '\n' then s.dropLast else s
  if s.contains '\n' then none else some s

/-- The level that a text refers to: `cfg://` the version of the log's own description,
    `ext://` a constant. Another value stands for itself. -/
def resolve : Value → Value
  | .str name =>
    match singleLine? name.toList with
    | some ('c' :: 'f' :: 'g' :: ':' :: '/' :: '/' :: rest) =>
      if Text.trim rest = "version".toList then .int 1 else .str name
    | some ('e' :: 'x' :: 't' :: ':' :: '/' :: '/' :: rest) =>
      (constants.get? (String.ofList rest)).getD (.str name)
    | _ => .str name
  | v => v

end LevelReference

/-- What writes messages: the handler that the library attaches to its root, or the one of
    last resort. -/
inductive Handler where
  | standard
  | lastResort
deriving DecidableEq, Repr

namespace Handler

/-- The level from which on a handler writes. -/
def level : Handler → Int
  | .standard => 0
  | .lastResort => Severity.warning.number

/-- What a handler makes of a message. The one of last resort shows the text alone. -/
def shows : Handler → Message → String
  | .standard, m => m.line
  | .lastResort, m => m.text

/-- What a handler writes for a message that reaches it, if anything. -/
def write? (h : Handler) (m : Message) : Option String :=
  if h.level ≤ m.level.toInt then some (h.shows m ++ "\n") else none

end Handler

/-- The state of the log: the level below which messages are dropped, and the handlers that are
    attached. -/
structure Logger where
  level : LogLevel := .number 0
  handlers : List Handler := []
deriving DecidableEq, Repr

namespace Logger

/-- The source above all sources of the library. -/
def root : String := "qasmgen"

/-- The source that stands for no source in particular. -/
def anonymous : String := "root"

/-- The level from which on messages are let through when no level has been set. -/
def fallback : Int := Severity.warning.number

/-- A source belongs to the library if it is the root or below it. -/
def owns (source : String) : Bool :=
  source == root || (root ++ ".").toList.isPrefixOf source.toList

/-- The level from which on messages of a source are let through. A level of zero counts as
    none. -/
def threshold (l : Logger) (source : String) : Int :=
  if owns source ∧ l.level.toInt ≠ 0 then l.level.toInt else fallback

/-- Messages at or below level zero are always dropped. -/
def lets (l : Logger) (m : Message) : Bool :=
  0 < m.level.toInt && l.threshold m.source ≤ m.level.toInt

/-- The handlers that messages of a source reach: those that are attached, for a source of the
    library, and the one of last resort where there are none. -/
def reached (l : Logger) (source : String) : List Handler :=
  match if owns source then l.handlers else [] with
  | [] => [.lastResort]
  | handlers => handlers

/-- What the handlers that a message reaches write for it, in turn. -/
def writings (l : Logger) (m : Message) : List String :=
  if l.lets m then (l.reached m.source).filterMap (·.write? m) else []

/-- All that is printed for a message. -/
def print (l : Logger) (m : Message) : String :=
  String.join (l.writings m)

/-- All that is printed for messages in turn. -/
def transcript (l : Logger) (messages : List Message) : String :=
  String.join (messages.map l.print)

/-- Takes the handlers that are attached away, one after the other. The level stays. -/
def unset (l : Logger) : Logger :=
  { l with handlers := l.handlers.foldl List.erase l.handlers }

/-- The level that a value asks for: a number, a name or a reference. An unknown level is refused,
    and a reference to nothing leaves the level. -/
def chooseLevel (l : Logger) (level : Value) : Except Fault LogLevel :=
  match LevelReference.resolve level with
  | .null => .ok l.level
  | .str name =>
    match LogLevel.named.get? name with
    | some n => .ok (.number n)
    | none => .error (.log .levelUnknown)
  | v =>
    match LogLevel.ofNumber? v with
    | some level => .ok level
    | none => .error (.log .levelUnknown)

/-- The level that is asked for, else the one in the settings, else information. -/
def askedLevel (settings : Except Fault Settings) : Value → Except Fault Value
  | .null => settings.map fun settings =>
    match settings.logLevel? with
    | some severity => .str severity.name
    | none => .int Severity.info.number
  | v => .ok v

/-- Gives the log the level that is asked for, and one handler in place of those that it has. -/
def set (l : Logger) (settings : Except Fault Settings) (level : Value) : Except Fault Logger := do
  let level ← askedLevel settings level
  let level ← l.chooseLevel level
  pure { level := level, handlers := l.unset.handlers ++ [.standard] }

/-- The state of the log as a value. -/
def value (l : Logger) : Value :=
  .dict [("level", l.level.value), ("handlers", .int l.handlers.length)]

end Logger

end CircuitScribe
