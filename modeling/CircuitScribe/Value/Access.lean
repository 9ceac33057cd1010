import CircuitScribe.Value.Equality
import CircuitScribe.Value.Printing

namespace CircuitScribe

/-- What can be found out about values at one moment: what their items are taken from
    (a value itself, or the list or table that it refers to), and their attributes.
    Registers are keys as `checkRegister` says. -/
structure Referents where
  contents : Value → Except Fault Value
  attributeOf : Value → String → Except Fault Value
  checkRegister : Register → Except Fault Unit

/-- Lengths and positions beyond this bound cannot be represented. -/
def maxLength : Nat := 0x7fffffffffffffff

/-- The length of the longest list, whose items are references of eight bytes each. -/
def maxItems : Nat := maxLength / 8

namespace Value

/-- The text of a value in the only gap of a template. A tuple fills the gaps with its
    items, so that it has to have one item. -/
def inserted : Value → Except Fault String
  | .tuple [] => .error (.value .wrongSort)
  | .tuple (v :: rest) => do
    let text ← v.printed
    if rest.isEmpty then pure text else throw (.value .wrongSort)
  | v => v.printed

/-- A number without its fraction. -/
def truncated : Value → Except Fault Int
  | .bool b => .ok (if b then 1 else 0)
  | .int n => .ok n
  | .float (.finite _ numerator scale) => .ok (numerator.tdiv (Int.pow 2 scale))
  | .float (.infinity _) => .error (.value .tooLarge)
  | .float (.nan _) => .error (.value .notANumber)
  | _ => .error (.value .wrongSort)

/-- A number as a decimal integer, without its fraction. -/
def decimal (v : Value) : Except Fault String := do
  decimalText (← v.truncated)

end Value

namespace Register

/-- A position is in range unless it is below zero or not below the size. A
    not-a-number is neither. -/
def holds (r : Register) : Value.Number → Bool
  | .int n => 0 ≤ n && n < r.size
  | .float x => !(x.belowInt 0 || x.atLeastInt r.size)

/-- Fails with the fault of a position that the register does not have. -/
def refuse {α : Type} (r : Register) (index : Value) : Except Fault α := do
  let position ← index.decimal
  checkDigits r.size
  throw (.operand (.outOfRange r index position))

/-- Accepts the positions that the register has. Truth values and floating-point numbers
    count as numbers. -/
def checkRange (r : Register) (index : Value) : Except Fault Unit :=
  match index.number? with
  | none => .error (.value .wrongSort)
  | some n => if r.holds n then .ok () else r.refuse index

/-- The pair of the register and a position in it. -/
def item (r : Register) (index : Value) : Except Fault Value := do
  match index with
  | .int n =>
    r.checkRange (.int n)
    pure (.tuple [.register r, .int n])
  | _ => throw (.usage .registerIndexNotInteger)

/-- The pairs of the register with each of its positions, in order. -/
def bits (r : Register) : List Value :=
  (List.range r.size).map (Value.bit r)

end Register

namespace Value

/-- The characters of a text, each as a text. -/
def chars (s : String) : List Value :=
  s.toList.map fun c => .str (String.ofList [c])

/-- A position in a sequence, counted from the end if it is negative. -/
def position (length : Nat) (n : Int) : Except Fault Nat :=
  let n := if n < 0 then n + length else n
  if 0 ≤ n ∧ n < length then .ok n.toNat else .error (.value .outOfBounds)

/-- One bound of a slice, moved into the closed interval from `lo` to `hi`. -/
def clampBound (length : Nat) (lo hi : Int) (n : Int) : Int :=
  if n < 0 then max (n + length) lo else min n hi

/-- The positions that a slice selects, in the order of its steps. -/
def slicePositions (length : Nat) (start stop step : Option Int) : Except Fault (List Nat) :=
  let step := step.getD 1
  if step = 0 then .error (.value .zeroStep)
  else
    let lo : Int := if step < 0 then -1 else 0
    let hi : Int := if step < 0 then length - 1 else length
    let first := (start.map (clampBound length lo hi)).getD (if step < 0 then hi else lo)
    let last := (stop.map (clampBound length lo hi)).getD (if step < 0 then lo else hi)
    let count := if step < 0 then (first - last + -step - 1) / -step else (last - first + step - 1) / step
    .ok ((List.range count.toNat).map fun (k : Nat) => (first + k * step).toNat)

/-- The item at a position of a sequence, or the sequence of the items in a slice. -/
def select (items : List Value) (sequence : List Value → Value) (index : Value) : Except Fault Value := do
  match index with
  | .slice start stop step =>
    let positions ← slicePositions items.length start stop step
    pure (sequence (positions.filterMap (items[·]?)))
  | .int n => pure (items.getD (← position items.length n) .null)
  | .bool b => pure (items.getD (← position items.length (if b then 1 else 0)) .null)
  | _ => throw (.value .wrongSort)

variable (refs : Referents)

/-- The entry of a table under a key. -/
def entryAt (entries : List (String × Value)) (key : Value) : Except Fault Value := do
  key.checkKey refs.checkRegister
  match key with
  | .str key =>
    match entries.lookup key with
    | some v => pure v
    | none => throw (.value .noKey)
  | _ => throw (.value .noKey)

/-- What indexing a value gives. -/
def item (v index : Value) : Except Fault Value := do
  match ← refs.contents v with
  | .register r => r.item index
  | .list items => select items .list index
  | .tuple items => select items .tuple index
  | .str s => select (chars s) (fun cs => .str (String.join (cs.map text))) index
  | .dict entries => entryAt refs entries index
  | _ => throw (.value .wrongSort)

/-- The number of items of a value. -/
def length (v : Value) : Except Fault Nat := do
  match ← refs.contents v with
  | .register r => if maxLength < r.size then throw (.value .tooLarge) else pure r.size
  | .list items | .tuple items => pure items.length
  | .str s => pure s.length
  | .dict entries => pure entries.length
  | _ => throw (.value .wrongSort)

/-- The items of a value, one after the other. -/
def elements (v : Value) : Except Fault (List Value) := do
  match ← refs.contents v with
  | .register r =>
    if maxLength < r.size then throw (.value .tooLarge)
    else if maxItems < r.size then throw (.value .outOfMemory)
    else pure r.bits
  | .list items | .tuple items => pure items
  | .str s => pure (chars s)
  | .dict entries => pure (entries.map fun e => .str e.1)
  | _ => throw (.value .wrongSort)

/-- Whether a value counts as true: zeros and empty values do not. -/
def truth (v : Value) : Except Fault Bool :=
  match v with
  | .null => .ok false
  | .bool b => .ok b
  | .int n => .ok (n != 0)
  | .float x => .ok !x.isZero
  | .kind _ | .record _ _ _ _ | .slice _ _ _ | .config _ => .ok true
  | v => (length refs v).map (· != 0)

end Value

end CircuitScribe
