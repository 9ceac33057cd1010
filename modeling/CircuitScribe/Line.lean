import CircuitScribe.GateKind

namespace CircuitScribe.Line

/-- The line of a gate on one bit, from the text of the bit. -/
def single (word target : String) : String :=
  word ++ " " ++ target ++ ";\n"

/-- The line of a gate on a control and a target. -/
def controlled (word control target : String) : String :=
  word ++ " " ++ control ++ ", " ++ target ++ ";\n"

/-- The legacy spacing puts the blank before the last comma. -/
def toffoliSeparator (legacy : Bool) : String :=
  if legacy then " ," else ", "

/-- The line of a gate on two controls and a target. -/
def toffoli (word : String) (legacy : Bool) (control₁ control₂ target : String) : String :=
  word ++ " " ++ control₁ ++ ", " ++ control₂ ++ toffoliSeparator legacy ++ target ++ ";\n"

/-- The line of a measurement of one bit into another. -/
def measure (word source target : String) : String :=
  word ++ " " ++ source ++ " -> " ++ target ++ ";\n"

/-- The line of an instruction on whole registers, which it names. -/
def registers (word : String) (names : List String) : String :=
  word ++ " " ++ ",".intercalate names ++ ";\n"

/-- The text of one bit of a register. -/
def bit (name position : String) : String :=
  name ++ "[" ++ position ++ "]"

/-- A line without the line feeds at its end. -/
def strip (line : String) : String :=
  String.ofList (line.toList.reverse.dropWhile (· == '\n')).reverse

end CircuitScribe.Line
