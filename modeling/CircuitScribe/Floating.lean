namespace CircuitScribe

/-- A floating-point number as the caller wrote it. A finite one is exactly
    `numerator / 2 ^ scale`; its text is kept for printing. A not-a-number equals no
    number, and only its `id` tells whether two of them are one and the same. -/
inductive Floating where
  | nan (id : Nat)
  | infinity (negative : Bool)
  | finite (text : String) (numerator : Int) (scale : Nat)
deriving DecidableEq, Repr

namespace Floating

def text : Floating → String
  | .nan _ => "nan"
  | .infinity negative => if negative then "-inf" else "inf"
  | .finite text _ _ => text

/-- Comparison with an integer is exact; a not-a-number is below nothing. -/
def belowInt : Floating → Int → Bool
  | .nan _, _ => false
  | .infinity negative, _ => negative
  | .finite _ numerator scale, n => decide (numerator < n * Int.pow 2 scale)

/-- A not-a-number is not at or above anything either. -/
def atLeastInt : Floating → Int → Bool
  | .nan _, _ => false
  | .infinity negative, _ => !negative
  | .finite _ numerator scale, n => decide (n * Int.pow 2 scale ≤ numerator)

def equalsInt : Floating → Int → Bool
  | .finite _ numerator scale, n => numerator == n * Int.pow 2 scale
  | _, _ => false

/-- Equality of values: the two zeros are equal, a not-a-number differs from itself. -/
def equals : Floating → Floating → Bool
  | .infinity a, .infinity b => a == b
  | .finite _ m a, .finite _ n b => m * Int.pow 2 b == n * Int.pow 2 a
  | _, _ => false

/-- Whether two numbers are taken for one in a collection: they are equal, or one and
    the same not-a-number. -/
def agrees : Floating → Floating → Bool
  | .nan i, .nan j => i == j
  | x, y => x.equals y

/-- The sign bit. Zero has one too. -/
def isNegative : Floating → Bool
  | .nan _ => false
  | .infinity negative => negative
  | .finite text _ _ => text.toList.head? == some '-'

def isZero : Floating → Bool
  | .finite _ numerator _ => numerator == 0
  | _ => false

/-- The number with 64-bit pattern `bits`, printed as `text`. The pattern is not that of
    a not-a-number. -/
def ofBits (text : String) (bits : Nat) : Floating :=
  let negative := bits / 0x8000000000000000 % 2 == 1
  let exponent := bits / 0x10000000000000 % 0x800
  let fraction := bits % 0x10000000000000
  if exponent = 2047 then .infinity negative
  else
    let magnitude : Nat := if exponent = 0 then fraction else 0x10000000000000 + fraction
    let power := max exponent 1
    let signed : Int := if negative then -(magnitude : Int) else magnitude
    if 1075 ≤ power then .finite text (signed * Int.pow 2 (power - 1075)) 0
    else .finite text signed (1075 - power)

def digits? (s : List Char) : Option Nat :=
  if s.all Char.isDigit then some (s.foldl (fun n c => 10 * n + (c.toNat - '0'.toNat)) 0) else none

/-- A decimal exponent with an optional sign; nothing at all stands for zero. -/
def exponent? : List Char → Option Int
  | '-' :: s => (digits? s).map fun n => -(n : Int)
  | '+' :: s => (digits? s).map fun n => (n : Int)
  | s => (digits? s).map fun n => (n : Int)

/-- The number nearest to a decimal notation such as `1.5`, `-0.0` or `1e+20`. A
    not-a-number gets the given `id`. -/
def ofText? (id : Nat) (text : String) : Option Floating :=
  if text = "nan" then some (.nan id)
  else if text = "inf" then some (.infinity false)
  else if text = "-inf" then some (.infinity true)
  else do
    let negative := text.toList.head? == some '-'
    let unsigned := if negative then text.toList.drop 1 else text.toList
    let mantissa := unsigned.takeWhile (· != 'e')
    let whole := mantissa.takeWhile (· != '.')
    let places := (mantissa.dropWhile (· != '.')).drop 1
    let digits ← digits? (whole ++ places)
    let shift ← exponent? ((unsigned.dropWhile (· != 'e')).drop 1)
    let power := shift - places.length
    let magnitude := (Float.ofScientific digits (power < 0) power.natAbs).toBits.toNat
    some (ofBits text (if negative then magnitude + 0x8000000000000000 else magnitude))

end Floating

end CircuitScribe
