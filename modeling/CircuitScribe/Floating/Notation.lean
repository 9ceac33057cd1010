import CircuitScribe.Floating

namespace CircuitScribe.Floating

/-- The whole number nearest to a quotient. A tie goes to the even one. -/
def nearest (num den : Nat) : Nat :=
  let q := num / den
  let r := num % den
  if 2 * r < den ∨ (2 * r = den ∧ q % 2 = 0) then q else q + 1

/-- The integer that the floating-point number nearest to an integer holds, if the
    format reaches that far. -/
def roundInt? (n : Int) : Option Int :=
  let shift := n.natAbs.log2 - 52
  let magnitude := nearest n.natAbs (Nat.pow 2 shift) * Nat.pow 2 shift
  if magnitude < Nat.pow 2 1024 then some (if n < 0 then -(magnitude : Int) else magnitude) else none

/-- Digits with zeros in front up to a width. -/
def padDigits (width : Nat) (digits : List Char) : List Char :=
  List.replicate (width - digits.length) '0' ++ digits

/-- A whole part, and a point with the places after it. Without places the point stands
    only if it is asked for. -/
def withPlaces (keepPoint : Bool) (whole places : List Char) : List Char :=
  if places.isEmpty && !keepPoint then whole else whole ++ '.' :: places

/-- A quotient with a fixed number of places. -/
def fixed (keepPoint : Bool) (places num den : Nat) : List Char :=
  let digits := padDigits (places + 1) (Nat.toDigits 10 (nearest (num * Nat.pow 10 places) den))
  withPlaces keepPoint (digits.take (digits.length - places)) (digits.drop (digits.length - places))

/-- The quotient times a power of ten, as a quotient. -/
def shift10 (k : Int) (num den : Nat) : Nat × Nat :=
  if k < 0 then (num, den * Nat.pow 10 k.natAbs) else (num * Nat.pow 10 k.natAbs, den)

/-- The exponent of the power of ten that a positive quotient reaches. -/
def exponent (num den : Nat) : Int :=
  let guess : Int := (Nat.toDigits 10 num).length - (Nat.toDigits 10 den).length
  let (a, b) := shift10 (-guess) num den
  if b ≤ a then guess else guess - 1

/-- The first digits of a quotient, `count + 1` of them and rounded, and the exponent of
    the first. -/
def significant (count num den : Nat) : Nat × Int :=
  if num = 0 then (0, 0)
  else
    let e := exponent num den
    let (a, b) := shift10 (count - e) num den
    let digits := nearest a b
    if digits = Nat.pow 10 (count + 1) then (Nat.pow 10 count, e + 1) else (digits, e)

/-- The exponent of a notation, with its sign and at least two digits. -/
def exponentText (e : Int) : List Char :=
  (if e < 0 then '-' else '+') :: padDigits 2 (Nat.toDigits 10 e.natAbs)

/-- One digit, places and an exponent. -/
def scientific (keepPoint : Bool) (places num den : Nat) : List Char :=
  let (digits, e) := significant places num den
  let digits := padDigits (places + 1) (Nat.toDigits 10 digits)
  withPlaces keepPoint (digits.take 1) (digits.drop 1) ++ 'e' :: exponentText e

/-- A notation without the zeros at the end of its places. -/
def dropZeros (s : List Char) : List Char :=
  if s.contains '.' then
    let kept := s.reverse.dropWhile (· == '0')
    (if kept.head? == some '.' then kept.drop 1 else kept).reverse
  else s

/-- The shorter of the two notations with a number of significant digits: an exponent
    is shown if it is below -4 or not below that number. Zeros at the end stay only if
    they are asked for. -/
def general (keepZeros : Bool) (precision num den : Nat) : List Char :=
  let count := max precision 1 - 1
  let (digits, e) := significant count num den
  if -4 ≤ e ∧ e ≤ count then
    let s := fixed keepZeros (count - e).toNat num den
    if keepZeros then s else dropZeros s
  else
    let digits := padDigits (count + 1) (Nat.toDigits 10 digits)
    let s := withPlaces keepZeros (digits.take 1) (digits.drop 1)
    (if keepZeros then s else dropZeros s) ++ 'e' :: exponentText e

/-- The three notations of numbers. -/
inductive Notation where
  | fixed
  | scientific
  | general
deriving DecidableEq, Repr

/-- A number without its sign. Infinities and not-a-numbers have names. -/
def unsigned (n : Notation) (alternate : Bool) (precision : Nat) : Floating → List Char
  | .nan _ => "nan".toList
  | .infinity _ => "inf".toList
  | .finite _ numerator scale =>
    match n with
    | .fixed => fixed alternate precision numerator.natAbs (Nat.pow 2 scale)
    | .scientific => scientific alternate precision numerator.natAbs (Nat.pow 2 scale)
    | .general => general alternate precision numerator.natAbs (Nat.pow 2 scale)

end CircuitScribe.Floating
