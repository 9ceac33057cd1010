import CircuitScribe.Fault

namespace CircuitScribe

/-- The families of the faults that circuits and settings report. -/
inductive FaultFamily where
  | general
  | operand
  | outOfRange
  | unknownRegister
  | noRegisters
  | settings
deriving DecidableEq, Repr

namespace FaultFamily

def all : List FaultFamily :=
  [.general, .operand, .outOfRange, .unknownRegister, .noRegisters, .settings]

def title : FaultFamily → String
  | .general => "QasmGenError"
  | .operand => "CircuitOperandError"
  | .outOfRange => "IndexOutOfRangeError"
  | .unknownRegister => "UnknownRegisterError"
  | .noRegisters => "RegisterSetEmptyError"
  | .settings => "QasmGenUserConfigError"

def ofTitle? (title : String) : Option FaultFamily :=
  all.find? (·.title == title)

/-- What every family belongs to. -/
def roots : List String :=
  ["Exception", "BaseException"]

/-- The family and all families above it, the nearest first. -/
def ancestry (family : FaultFamily) : List String :=
  match family with
  | .general => general.title :: roots
  | .operand => operand.title :: general.title :: roots
  | .outOfRange =>
    outOfRange.title :: operand.title :: general.title :: "IndexError" :: "LookupError" :: roots
  | .unknownRegister => unknownRegister.title :: operand.title :: general.title :: roots
  | .noRegisters =>
    noRegisters.title :: unknownRegister.title :: operand.title :: general.title :: roots
  | .settings => settings.title :: general.title :: roots

/-- Families of faults that carry an operand. -/
def isOperand : FaultFamily → Bool
  | .general | .settings => false
  | _ => true

/-- The texts among values, if all of them are. -/
def texts? : List Value → Option (List String)
  | [] => some []
  | .str s :: rest => (texts? rest).map (s :: ·)
  | _ => none

/-- A description of a fault made from arguments. Operand faults take an operand and a
    reason, the others any number of parts that are joined by blanks. -/
def describe (family : FaultFamily) (arguments : List Value) : Except Fault Value :=
  let entries (message : String) (operand reason : Value) : Value :=
    .dict [("str", .str (Text.quote message)), ("message", .str message),
      ("args", .list [.str message]), ("reason", reason), ("operand", operand),
      ("mro", .list (family.ancestry.map .str))]
  if family.isOperand then
    match arguments with
    | [v, .str reason] => .ok (entries reason v (.str reason))
    | _ => .error (.value .wrongSort)
  else
    match texts? arguments with
    | some parts => .ok (entries (" ".intercalate parts) .null .null)
    | none => .error (.value .wrongSort)

end FaultFamily

/-- The family of a fault, if it is one that circuits or settings report. -/
def Fault.family? : Fault → Option FaultFamily
  | .operand (.outOfRange _ _ _) => some .outOfRange
  | .operand (.noRegisters _ _ _) => some .noRegisters
  | .operand (.wrongKind _ _ _ _) | .operand (.foreign _ _) => some .unknownRegister
  | .usage _ => some .general
  | .settings _ => some .settings
  | _ => none

end CircuitScribe
