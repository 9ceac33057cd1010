import CircuitScribe.Fault

namespace CircuitScribe

/-- Integers of more digits than this are not turned into text. -/
def maxDigits : Nat := 4300

/-- Values that lie within more lists, tables and tuples than this are not turned into text. The
    stack that bounds it is shared with the calls around, which are not counted here. -/
def maxDepth : Nat := 1000

/-- Whether a number has no digits beyond the last `count`. -/
def fitsDigits : Nat → Nat → Bool
  | 0, n => n == 0
  | count + 1, n => n == 0 || fitsDigits count (n / 10)

/-- Accepts a number that can be turned into text. -/
def checkDigits (n : Nat) : Except Fault Unit :=
  if fitsDigits maxDigits n then .ok () else .error (.value .tooManyDigits)

/-- A number in decimal digits, if it has not too many. -/
def decimalText (n : Int) : Except Fault String := do
  checkDigits n.natAbs
  pure (toString n)

/-- The literal of a truth value. -/
def boolLiteral (b : Bool) : String :=
  if b then "True" else "False"

/-- A tuple of one item keeps a comma after it. -/
def tupleLiteral : List String → String
  | [item] => "(" ++ item ++ ",)"
  | items => "(" ++ ", ".intercalate items ++ ")"

/-- The data of a kind, as a literal of a tuple. -/
def GateKind.dataLiteral (k : GateKind) : String :=
  tupleLiteral [Text.quote k.label, Text.quote k.mnemonic, toString k.qubits, toString k.clbits]

namespace Value

def boundLiteral : Option Int → String
  | some n => toString n
  | none => "None"

mutual

/-- The literal of a value, as it stands inside other values and in messages. What
    changes over time is not looked into. -/
def literal : Value → String
  | .null => "None"
  | .bool b => boolLiteral b
  | .int n => toString n
  | .float x => x.text
  | .str s => Text.quote s
  | .list items => "[" ++ ", ".intercalate (literals items) ++ "]"
  | .tuple items => tupleLiteral (literals items)
  | .dict entries => "\x7b" ++ ", ".intercalate (entryLiterals entries) ++ "\x7d"
  | .slice start stop step =>
    "slice(" ++ boundLiteral start ++ ", " ++ boundLiteral stop ++ ", " ++ boundLiteral step ++ ")"
  | .kind k => "<GateKind." ++ k.symbol ++ ": " ++ k.dataLiteral ++ ">"
  | .register r => r.literal
  | .record k _ _ rendered => "GateRecord(" ++ Text.quote k.label ++ ", " ++ Text.quote rendered ++ ")"
  | .instructionSet _ => "<InstructionSet>"
  | .circuit _ => "<QuantumCircuit>"
  | .config _ => "<UserConfig>"
  | .shared ref => if ref.isTable then "\x7b...\x7d" else "[...]"

def literals : List Value → List String
  | [] => []
  | v :: vs => v.literal :: literals vs

def entryLiterals : List (String × Value) → List String
  | [] => []
  | e :: es => entryLiteral e :: entryLiterals es

def entryLiteral : String × Value → String
  | (key, v) => Text.quote key ++ ": " ++ v.literal

end

/-- The text of a value on its own: a string is itself, a kind its symbol, any
    other value its literal. -/
def text : Value → String
  | .str s => s
  | .kind k => "GateKind." ++ k.symbol
  | v => v.literal

/-- Enters a list, table or tuple, if there is room for one more. -/
def enter (check : Nat → Except Fault Unit) : Nat → Except Fault Unit
  | 0 => .error (.value .tooDeep)
  | room + 1 => check room

def checkBound : Option Int → Except Fault Unit
  | some n => checkDigits n.natAbs
  | none => .ok ()

mutual

/-- Accepts a value whose text can be made when it may lie `room` levels deep. Its parts are
    looked at from left to right. -/
def checkPrintWithin (v : Value) (room : Nat) : Except Fault Unit :=
  match v with
  | .int n => checkDigits n.natAbs
  | .list items | .tuple items => enter (checkPrintAll items) room
  | .dict entries => enter (checkPrintEntries entries) room
  | .slice start stop step => do
    checkBound start
    checkBound stop
    checkBound step
  | .register r => checkDigits r.size
  | _ => .ok ()
termination_by structural v

def checkPrintAll (items : List Value) (room : Nat) : Except Fault Unit :=
  match items with
  | [] => .ok ()
  | v :: vs => do
    v.checkPrintWithin room
    checkPrintAll vs room
termination_by structural items

def checkPrintEntries (entries : List (String × Value)) (room : Nat) : Except Fault Unit :=
  match entries with
  | [] => .ok ()
  | e :: es => do
    checkPrintEntry e room
    checkPrintEntries es room
termination_by structural entries

def checkPrintEntry (entry : String × Value) (room : Nat) : Except Fault Unit :=
  match entry with
  | (_, v) => v.checkPrintWithin room
termination_by structural entry

end

/-- Accepts a value whose literal and text can be made. -/
def checkPrint (v : Value) : Except Fault Unit :=
  v.checkPrintWithin maxDepth

/-- The text of a value on its own, if it can be made. -/
def printed (v : Value) : Except Fault String := do
  v.checkPrint
  pure v.text

/-- The literal of a value, if it can be made. -/
def printedLiteral (v : Value) : Except Fault String := do
  v.checkPrint
  pure v.literal

end Value

end CircuitScribe
