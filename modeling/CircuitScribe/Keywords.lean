import CircuitScribe.Table
import CircuitScribe.Value.Equality
import CircuitScribe.Value.Printing

namespace CircuitScribe

/-- The declaration words that have been given to single registers, by their `id`. -/
abbrev Keywords := Table Nat Value

namespace Keywords

/-- The word that declares a register: the one given to it, else that of its kind. -/
def of (kw : Keywords) (r : Register) : Value :=
  match kw.get? r.id with
  | some word => word
  | none => match r.kind.keyword? with
    | some word => .str word
    | none => .null

/-- Equality of registers whose declaration words lead through at most `depth` registers. -/
def sameWithin (kw : Keywords) : Nat → Register → Register → Bool
  | 0, _, _ => false
  | depth + 1, r, s =>
    (kw.of r).equals (sameWithin kw depth) (kw.of s) && r.name == s.name && r.size == s.size

/-- The number of registers through which a chain of declaration words can lead without
    coming back: all those that have been given a word, and one that has not. -/
def depth (kw : Keywords) : Nat :=
  kw.length + 1

/-- Registers are equal if their declaration words, names and sizes are. A word may be a
    register in turn. -/
def same (kw : Keywords) : Register → Register → Bool :=
  kw.sameWithin kw.depth

/-- Whether the comparison of two registers goes through more than `depth` pairs of registers, one
    in the declaration words of the other. -/
def endlessWithin (kw : Keywords) : Nat → Register → Register → Bool
  | 0, _, _ => true
  | depth + 1, r, s => (kw.of r).equalsEndlessly kw.same (endlessWithin kw depth) (kw.of s)

/-- Whether the comparison of two registers has no end. Without coming back to a pair it can go
    through no more than there are. -/
def endless (kw : Keywords) : Register → Register → Bool :=
  kw.endlessWithin (kw.depth * kw.depth)

/-- Two values cannot be compared if their comparison has no end. -/
def checkComparable (kw : Keywords) (a b : Value) : Except Fault Unit :=
  if a.equalsEndlessly kw.same kw.endless b then .error (.value .endlessComparison) else .ok ()

/-- A register is a key if its declaration word is. -/
def checkKeyWithin (kw : Keywords) : Nat → Register → Except Fault Unit
  | 0, _ => .error (.value .endless)
  | depth + 1, r => (kw.of r).checkKey (checkKeyWithin kw depth)

def checkKey (kw : Keywords) : Register → Except Fault Unit :=
  kw.checkKeyWithin kw.depth

/-- Whether a register, or one equal to it, is in a list. It is compared with one register
    after the other, up to the first that is the same. -/
def contains (kw : Keywords) : List Register → Register → Except Fault Bool
  | [], _ => .ok false
  | s :: rest, r =>
    if s == r then .ok true
    else do
      kw.checkComparable (.register s) (.register r)
      if kw.same s r then pure true else kw.contains rest r

/-- The line that declares a register, without its line feed. -/
def declaration (kw : Keywords) (r : Register) : String :=
  (kw.of r).text ++ " " ++ r.name ++ "[" ++ toString r.size ++ "];"

/-- Accepts a register whose declaration can be printed, with its declaration word and size. -/
def checkDeclaration (kw : Keywords) (r : Register) : Except Fault Unit := do
  (kw.of r).checkPrint
  checkDigits r.size

end Keywords

end CircuitScribe
