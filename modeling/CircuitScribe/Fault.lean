import CircuitScribe.Document.Interpolation
import CircuitScribe.Files
import CircuitScribe.Value

namespace CircuitScribe

/-- A circuit rejects an operand that designates no bit it owns. The values that its message
    shows are given as texts. -/
inductive OperandFault where
  | outOfRange (register : Register) (index : Value) (position : String)
  | noRegisters (circuit : String) (kind : RegisterKind) (operand : Value)
  | wrongKind (kind : RegisterKind) (register : Register) (keyword : String) (operand : Value)
  | foreign (register : Register) (operand : Value)

namespace OperandFault

/-- The rejected operand; a barrier on a circuit without qubits has none. -/
def operand : OperandFault → Value
  | .outOfRange r index _ => .tuple [.register r, index]
  | .noRegisters _ _ operand | .wrongKind _ _ _ operand | .foreign _ operand => operand

/-- Why an operand is rejected, in words. -/
def reason : OperandFault → String
  | .outOfRange r _ position =>
    "index " ++ position ++ " out of range for register '" ++ r.name ++ "' of size " ++ toString r.size
  | .noRegisters circuit kind _ => "circuit '" ++ circuit ++ "' has no " ++ kind.adjective ++ " registers"
  | .wrongKind kind r keyword _ =>
    "expected " ++ kind.adjective ++ " register, '" ++ r.name ++ "' is a " ++ keyword
  | .foreign r _ => "register '" ++ r.name ++ "' not in this circuit"

end OperandFault

/-- A call that makes no sense for what it is called on. The values that its message shows
    are given as texts. -/
inductive UsageFault where
  | registerNameNotText
  | registerNameInvalid (name : String)
  | registerSizeNotInteger
  | registerSizeNotPositive
  | registerIndexNotInteger
  | circuitNameNotText
  | notARegister
  | registerNameTaken (name : String)
  | spacingNotSwitch (given : String)
  | operandNotPair (operand : String)
  | operandNotOnRegister (operand : String)
  | operandIndexNotInteger (index : Value)
  | sizesDiffer (qubits clbits : Register)
  | notAKind (given : String)
  | barrierOperands
  | operandCount (kind : GateKind)
  | notARecord

def UsageFault.message : UsageFault → String
  | .registerNameNotText => "The register name should be a string (or None to autogenerate a name)."
  | .registerNameInvalid name => name ++ " is an invalid OPENQASM register name."
  | .registerSizeNotInteger => "register size must be an integer"
  | .registerSizeNotPositive => "register size must be positive"
  | .registerIndexNotInteger => "expected integer index into register"
  | .circuitNameNotText => "The circuit name should be a string (or None for autogenerate a name)."
  | .notARegister => "expected a register"
  | .registerNameTaken name => "register name \"" ++ name ++ "\" already exists"
  | .spacingNotSwitch given => "ccx_legacy_spacing should be a bool or None, not " ++ given
  | .operandNotPair operand => operand ++ " is not a (register, index) tuple."
  | .operandNotOnRegister operand => "The first element of " ++ operand ++ " should be a register."
  | .operandIndexNotInteger index =>
    "The second element of a tuple defining a bit should be an int: " ++ index.sortName ++
      " was found instead"
  | .sizesDiffer qubits clbits =>
    "register sizes do not match: " ++ qubits.literal ++ " and " ++ clbits.literal
  | .notAKind given => given ++ " is not a GateKind"
  | .barrierOperands => "barrier expects one or more quantum registers and no classical bits"
  | .operandCount kind =>
    kind.label ++ " expects " ++ toString kind.qubits ++ " qubit(s) and " ++ toString kind.clbits ++
      " clbit(s)"
  | .notARecord => "attempt to add non-GateRecord to InstructionSet"

/-- A setting that is refused, or that cannot be stored. -/
inductive SettingsFault where
  | spacingInvalid (value : String)
  | levelInvalid (value : String)
  | keyNotText
  | keyUnknown (key : String)
  | notStored (path : String) (cause : FileFault)

def SettingsFault.message : SettingsFault → String
  | .spacingInvalid value =>
    "Value assigned to ccx_legacy_spacing is not valid. Not a boolean: " ++ value
  | .levelInvalid value =>
    value ++ " is not a valid log level. Must be one of DEBUG, INFO, WARNING, ERROR, CRITICAL."
  | .keyNotText => "Key must be string type"
  | .keyUnknown key => key ++ " is not a valid user config."
  | .notStored path cause =>
    "Unable to load the config file " ++ path ++ ". Error: '" ++ cause.message ++ "'"

/-- A change that a settings document does not allow. -/
inductive EditFault where
  | sectionReserved
  | percentMisplaced (value : String) (position : Nat)

def EditFault.message : EditFault → String
  | .sectionReserved => "Invalid section name: " ++ Text.quote Document.defaultsName
  | .percentMisplaced value position =>
    "invalid interpolation syntax in " ++ Text.quote value ++ " at position " ++ toString position

/-- An operation that a value of its sort does not have. -/
inductive ValueFault where
  | wrongSort
  | noAttribute
  | outOfBounds
  | noKey
  | tooLarge
  | tooManyDigits
  | tooDeep
  | outOfMemory
  | endlessComparison
  | endless
  | notANumber
  | zeroStep
  | notAKind (data : String)
deriving DecidableEq

def ValueFault.message? : ValueFault → Option String
  | .tooManyDigits => some ("Exceeds the limit (4300 digits) for integer string conversion; " ++
      "use sys.set_int_max_str_digits() to increase the limit")
  | .tooDeep => some "maximum recursion depth exceeded while getting the repr of an object"
  | .outOfMemory => some ""
  | .endlessComparison => some "maximum recursion depth exceeded in comparison"
  | .endless => some "maximum recursion depth exceeded"
  | .notANumber => some "cannot convert float NaN to integer"
  | .zeroStep => some "slice step cannot be zero"
  | .notAKind data => some (data ++ " is not a valid GateKind")
  | _ => none

/-- A refused request to the log. -/
inductive LogFault where
  | levelUnknown
  | formatInvalid (format : String)
  | fieldUnknown (field : String)
  | fieldNameUnfinished
  | fieldUnfinished
  | widthTooLarge
  | precisionTooLarge
  | conversionUnknown (conversion : Char) (position : Nat)

def LogFault.message : LogFault → String
  | .levelUnknown => "Unable to configure logger 'qasmgen'"
  | .formatInvalid format => "Invalid format '" ++ format ++ "' for '%' style"
  | .fieldUnknown field => "Formatting field not found in record: " ++ Text.quote field
  | .fieldNameUnfinished => "incomplete format key"
  | .fieldUnfinished => "incomplete format"
  | .widthTooLarge => "width too big"
  | .precisionTooLarge => "precision too big"
  | .conversionUnknown c position =>
    let shown := if 31 ≤ c.toNat ∧ c.toNat ≤ 126 then c else '?'
    "unsupported format character '" ++ String.singleton shown ++ "' (0x" ++
      String.ofList (Nat.toDigits 16 c.toNat) ++ ") at index " ++ toString position

/-- Why a call failed. -/
inductive Fault where
  | operand (fault : OperandFault)
  | usage (fault : UsageFault)
  | settings (fault : SettingsFault)
  | document (fault : DocumentFault)
  | interpolation (fault : InterpolationFault)
  | edit (fault : EditFault)
  | file (fault : FileFault)
  | value (fault : ValueFault)
  | log (fault : LogFault)

namespace Fault

/-- The text that is shown for a fault, if it has any. The faults of circuits and
    settings show their message as a literal. -/
def message? : Fault → Option String
  | .operand fault => some (Text.quote fault.reason)
  | .usage fault => some (Text.quote fault.message)
  | .settings fault => some (Text.quote fault.message)
  | .document .notText => none
  | .document fault => some fault.message
  | .interpolation fault => fault.message?
  | .edit fault => some fault.message
  | .file fault => some fault.message
  | .value fault => fault.message?
  | .log fault => some fault.message

/-- The operand that a fault carries. -/
def operand? : Fault → Option Value
  | .operand fault => some fault.operand
  | _ => none

end Fault

end CircuitScribe
