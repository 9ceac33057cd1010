namespace CircuitScribe.Text

/-- The ranges of the bytes that follow the first byte of a character. -/
def followers? (first : Nat) : Option (List (Nat × Nat)) :=
  let any := (0x80, 0xbf)
  if first < 0x80 then some []
  else if first < 0xc2 then none
  else if first < 0xe0 then some [any]
  else if first = 0xe0 then some [(0xa0, 0xbf), any]
  else if first = 0xed then some [(0x80, 0x9f), any]
  else if first < 0xf0 then some [any, any]
  else if first = 0xf0 then some [(0x90, 0xbf), any, any]
  else if first < 0xf4 then some [any, any, any]
  else if first = 0xf4 then some [(0x80, 0x8f), any, any]
  else none

/-- How many bytes at the start of a text lie in ranges given in turn. -/
def fitting : List (Nat × Nat) → List Nat → Nat
  | (lo, hi) :: ranges, b :: bytes => if lo ≤ b ∧ b ≤ hi then fitting ranges bytes + 1 else 0
  | _, _ => 0

/-- A place at which bytes make up no character: where the character would start, and the
    byte with which it is found out that there is none. -/
structure Defect where
  start : Nat
  noticed : Nat
deriving DecidableEq, Repr

/-- How many bytes of a broken character are let pass, when as many as `fitting` bytes
    after its first are in order: these, and the two bytes that start a surrogate, which
    is refused with its third byte only. -/
def passed (first fitting : Nat) (bytes : List Nat) : Nat :=
  if first = 0xed ∧ bytes.head?.any (fun b => 0xa0 ≤ b ∧ b ≤ 0xbf) then 2 else fitting + 1

/-- The first defect of a text, in at most `fuel` characters, after `offset` bytes. -/
def defectWithin? : Nat → Nat → List Nat → Option Defect
  | 0, _, _ => none
  | _, _, [] => none
  | fuel + 1, offset, b :: bytes =>
    match followers? b with
    | none => some ⟨offset, offset⟩
    | some ranges =>
      let n := fitting ranges bytes
      if n = ranges.length then defectWithin? fuel (offset + n + 1) (bytes.drop n)
      else some ⟨offset, offset + passed b n bytes⟩

/-- The first defect of a text, which may be that it ends within a character. -/
def defect? (bytes : List Nat) : Option Defect :=
  defectWithin? bytes.length 0 bytes

/-- Files are read in blocks of this many bytes. -/
def blockSize : Nat := 8192

/-- The number of bytes before a defect that are turned into text before the block with
    the defect is looked at. -/
def soundLength (size : Nat) (d : Defect) : Nat :=
  if d.noticed = size then d.start else min d.start (d.noticed / blockSize * blockSize)

/-- The whole lines among bytes. A carriage return at the end may yet belong to a longer
    line end. -/
def wholeLines (bytes : List Nat) : List Nat :=
  let backwards := bytes.reverse
  let backwards := if backwards.head? = some 0x0d then backwards.drop 1 else backwards
  (backwards.dropWhile fun b => b ≠ 0x0a ∧ b ≠ 0x0d).reverse

/-- The whole lines of a damaged text that are read before the damage is noticed. -/
def soundText (content : ByteArray) : String :=
  let bytes := content.toList.map UInt8.toNat
  match defect? bytes with
  | none => ""
  | some d =>
    let sound := wholeLines (bytes.take (soundLength bytes.length d))
    (String.fromUTF8? ⟨(sound.map UInt8.ofNat).toArray⟩).getD ""

end CircuitScribe.Text
