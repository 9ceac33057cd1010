import CircuitScribe.Fault

namespace CircuitScribe

/-- The log levels that a settings file can choose. -/
inductive Severity where
  | debug
  | info
  | warning
  | error
  | critical
deriving DecidableEq, Repr

namespace Severity

def all : List Severity :=
  [.debug, .info, .warning, .error, .critical]

def name : Severity → String
  | .debug => "DEBUG"
  | .info => "INFO"
  | .warning => "WARNING"
  | .error => "ERROR"
  | .critical => "CRITICAL"

def number : Severity → Int
  | .debug => 10
  | .info => 20
  | .warning => 30
  | .error => 40
  | .critical => 50

/-- The level of a name, in capitals. -/
def ofName? (name : String) : Option Severity :=
  all.find? (·.name == name)

end Severity

/-- One validated setting. -/
inductive Setting where
  | legacySpacing (on : Bool)
  | logLevel (level : Severity)
deriving DecidableEq, Repr

namespace Setting

def key : Setting → String
  | .legacySpacing _ => "ccx_legacy_spacing"
  | .logLevel _ => "log_level"

def value : Setting → Value
  | .legacySpacing on => .bool on
  | .logLevel level => .str level.name

end Setting

/-- Validated settings, at most one for a key, in the order of their first storing. -/
abbrev Settings := List Setting

namespace Settings

/-- A stored setting takes the place of the one under its key. -/
def put : Settings → Setting → Settings
  | [], setting => [setting]
  | s :: rest, setting => if s.key = setting.key then setting :: rest else s :: put rest setting

def legacySpacing? (s : Settings) : Option Bool :=
  s.findSome? fun
    | .legacySpacing on => some on
    | _ => none

def logLevel? (s : Settings) : Option Severity :=
  s.findSome? fun
    | .logLevel level => some level
    | _ => none

/-- Settings as keys with values. -/
def entries (s : Settings) : List (String × Value) :=
  s.map fun setting => (setting.key, setting.value)

/-- Settings as a table. -/
def value (s : Settings) : Value :=
  .dict s.entries

/-- The section that the settings are taken from. -/
def sectionName : String := "default"

/-- The words for the two states of a switch, in any letter case. -/
def switch? (word : String) : Option Bool :=
  let word := Text.lower word
  if word ∈ ["1", "yes", "true", "on"] then some true
  else if word ∈ ["0", "no", "false", "off"] then some false
  else none

/-- The spacing that a document chooses, if it does. -/
def spacingIn (d : Document) : Except Fault (Option Bool) :=
  match d.value? sectionName "ccx_legacy_spacing" with
  | .error fault => .error (.interpolation fault)
  | .ok none => .ok none
  | .ok (some word) =>
    match switch? word with
    | some on => .ok (some on)
    | none => .error (.settings (.spacingInvalid word))

/-- The log level that a document chooses, if it does; an empty value chooses none. -/
def levelIn (d : Document) : Except Fault (Option Severity) :=
  match d.value? sectionName "log_level" with
  | .error fault => .error (.interpolation fault)
  | .ok none => .ok none
  | .ok (some word) =>
    if word = "" then .ok none
    else match Severity.ofName? (Text.upper word) with
      | some level => .ok (some level)
      | none => .error (.settings (.levelInvalid (Text.upper word)))

/-- Takes the settings of a document over. The spacing is stored before the level is
    looked at, so that an invalid level does not undo it. -/
def takeFrom (s : Settings) (d : Document) : Settings × Except Fault Unit :=
  if !d.hasSection sectionName then (s, .ok ())
  else match spacingIn d with
    | .error fault => (s, .error fault)
    | .ok spacing =>
      let s := match spacing with
        | some on => s.put (.legacySpacing on)
        | none => s
      match levelIn d with
      | .error fault => (s, .error fault)
      | .ok (some level) => (s.put (.logLevel level), .ok ())
      | .ok none => (s, .ok ())

end Settings

end CircuitScribe
