namespace CircuitScribe

/-- What a register holds: qubits, classical bits, or nothing that a circuit can use. -/
inductive RegisterKind where
  | quantum
  | classical
  | general
deriving DecidableEq, Repr

namespace RegisterKind

/-- The name under which registers of this kind print themselves. -/
def title : RegisterKind → String
  | .quantum => "QuantumRegister"
  | .classical => "ClassicalRegister"
  | .general => "Register"

/-- The beginning of generated names. -/
def stem : RegisterKind → String
  | .quantum => "q"
  | .classical => "c"
  | .general => "reg"

/-- The word that declares such a register in a program. -/
def keyword? : RegisterKind → Option String
  | .quantum => some "qreg"
  | .classical => some "creg"
  | .general => none

/-- The adjective in messages about registers of this kind. -/
def adjective : RegisterKind → String
  | .quantum => "quantum"
  | .classical => "classical"
  | .general => "general"

end RegisterKind

def isNameStart (c : Char) : Bool :=
  'a' ≤ c && c ≤ 'z'

def isNameLetter (c : Char) : Bool :=
  ('a' ≤ c && c ≤ 'z') || ('A' ≤ c && c ≤ 'Z') || ('0' ≤ c && c ≤ '9') || c == '_'

/-- An identifier: a small letter, then letters, digits and underscores. -/
def isIdentifier : List Char → Bool
  | [] => false
  | c :: rest => isNameStart c && rest.all isNameLetter

/-- A name of a register is an identifier, which one line feed may follow. -/
def isRegisterName (s : String) : Bool :=
  isIdentifier s.toList ||
    (s.toList.getLast? == some '\n' && isIdentifier s.toList.dropLast)

/-- A named row of bits. Two registers with equal data are still told apart by
    their `id`, because attributes can be given to one and not to the other. -/
structure Register where
  id : Nat
  kind : RegisterKind
  name : String
  size : Nat
  isRegisterName_name : isRegisterName name = true
  size_pos : 0 < size
deriving DecidableEq

namespace Register

/-- What a register prints as: its kind, size and raw name. -/
def literal (r : Register) : String :=
  r.kind.title ++ "(" ++ toString r.size ++ ", '" ++ r.name ++ "')"

end Register

end CircuitScribe
