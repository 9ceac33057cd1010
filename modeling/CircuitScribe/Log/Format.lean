import CircuitScribe.Floating.Notation
import CircuitScribe.Log
import CircuitScribe.Text.Word
import CircuitScribe.Value.Access

namespace CircuitScribe

/-- What layouts can show of a message. -/
structure LogEntry where
  source : Value
  level : Value
  message : Value

/-- A width or a precision: none, one in digits, or one that the message has to give. -/
inductive Amount where
  | none
  | digits (n : Nat)
  | star
deriving DecidableEq, Repr

/-- How a field of a message is shown. A layout may end before the conversion. `after`
    counts the characters of the layout that follow the field. -/
structure FieldStyle where
  flags : List Char
  width : Amount
  precision : Amount
  conversion : Option Char
  after : Nat
deriving DecidableEq, Repr

/-- A layout is made of characters and fields. A field without a name shows what is left
    of the field before it. -/
inductive LayoutPiece where
  | char (c : Char)
  | field (name : Option (List Char)) (style : FieldStyle)
  | unfinishedName
deriving DecidableEq, Repr

namespace Layout

def isFlag (c : Char) : Bool :=
  c == '#' || c == '0' || c == '+' || c == ' ' || c == '-'

def numberOf (digits : List Char) : Nat :=
  digits.foldl (fun n c => 10 * n + (c.toNat - '0'.toNat)) 0

/-- The name up to the parenthesis that closes it, and the text after it. Parentheses
    in the name are balanced; `depth` of them are open. -/
def name? : Nat → List Char → Option (List Char × List Char)
  | _, [] => none
  | depth, c :: rest =>
    if c = ')' ∧ depth = 0 then some ([], rest)
    else
      let depth := if c = '(' then depth + 1 else if c = ')' then depth - 1 else depth
      (name? depth rest).map fun (name, rest) => (c :: name, rest)

/-- A star or digits at the start of a text, and the text after them. -/
def amount : List Char → Amount × List Char
  | '*' :: rest => (.star, rest)
  | s =>
    if (s.takeWhile Char.isDigit).isEmpty then (.none, s)
    else (.digits (numberOf (s.takeWhile Char.isDigit)), s.dropWhile Char.isDigit)

/-- A precision follows a point; the point alone stands for zero. -/
def precision : List Char → Amount × List Char
  | '.' :: rest =>
    match amount rest with
    | (.none, rest) => (.digits 0, rest)
    | given => given
  | s => (.none, s)

/-- A conversion may follow a length letter, which means nothing. -/
def dropLength : List Char → List Char
  | 'h' :: rest | 'l' :: rest | 'L' :: rest => rest
  | s => s

/-- The style at the start of a text: flags, width, precision and conversion. -/
def style (s : List Char) : FieldStyle × List Char :=
  let flags := s.takeWhile isFlag
  let (width, s) := amount (s.dropWhile isFlag)
  let (precision, s) := precision s
  let s := dropLength s
  (⟨flags, width, precision, s.head?, s.length - 1⟩, s.drop 1)

/-- The piece after a percent sign, and the text after the piece. -/
def pieceAfterPercent : List Char → LayoutPiece × List Char
  | '%' :: s => (.char '%', s)
  | '(' :: s =>
    match name? 0 s with
    | none => (.unfinishedName, [])
    | some (name, s) => ((.field (some name) (style s).1), (style s).2)
  | s => ((.field none (style s).1), (style s).2)

/-- The pieces of a layout, in at most `fuel` steps. -/
def piecesWithin : Nat → List Char → List LayoutPiece
  | 0, _ => []
  | _, [] => []
  | fuel + 1, c :: rest =>
    if c = '%' then
      let (piece, rest) := pieceAfterPercent rest
      piece :: piecesWithin fuel rest
    else .char c :: piecesWithin fuel rest

/-- The pieces of a layout, from left to right. -/
def pieces (layout : List Char) : List LayoutPiece :=
  piecesWithin layout.length layout

/-- The letters that end a field, small or capital, and the percent sign. Letters whose
    other case is one of these count too. -/
def isConversion (c : Char) : Bool :=
  "diouxefgcrsa%\u0130\u0131\u017f".toList.contains c.toLower

/-- The text after a star or digits of any script at its start, and `none` without them. -/
def dropAmount? : List Char → Option (List Char)
  | '*' :: rest => some rest
  | c :: rest => if Text.isAnyDigit c then some (rest.dropWhile Text.isAnyDigit) else none
  | [] => none

/-- A width may be left out, and so may a precision with its point. -/
def endsField (s : List Char) : Bool :=
  let s := s.dropWhile isFlag
  let s := (dropAmount? s).getD s
  match s with
  | '.' :: rest => ((dropAmount? rest).bind (·.head?)).any isConversion
  | s => s.head?.any isConversion

/-- Whether a field with a name of letters, digits and underscores starts a text. -/
def startsField : List Char → Bool
  | '%' :: '(' :: s =>
    match s.takeWhile Text.isWordLetter, s.dropWhile Text.isWordLetter with
    | _ :: _, ')' :: s => endsField s
    | _, _ => false
  | _ => false

/-- A layout has to have the looks of a field at some place. -/
def isLayout : List Char → Bool
  | [] => false
  | c :: rest => startsField (c :: rest) || isLayout rest

/-- The bounds of widths and precisions. -/
def maxWidth : Nat := 0x7fffffffffffffff

def maxPrecision : Nat := 0x7fffffff

/-- What the next field without a name shows: all fields of the message at first, then
    the field that was named last, and nothing once that has been shown. -/
abbrev Supply := Option Value

/-- Takes the value that is left. -/
def Supply.take : Supply → Except Fault Value
  | some v => .ok v
  | none => .error (.value .wrongSort)

/-- Only integers and truth values are whole numbers. -/
def wholeNumber : Value → Except Fault Int
  | .int n => .ok n
  | .bool b => .ok (if b then 1 else 0)
  | _ => .error (.value .wrongSort)

/-- Takes the whole number that a star stands for. -/
def Supply.takeAmount (s : Supply) : Except Fault Int := do
  wholeNumber (← s.take)

/-- A width and whether the text is to stand at its left end. A star with a negative
    number asks for the left, too. -/
def width (s : Supply) (left : Bool) : Amount → Except Fault (Supply × Bool × Nat)
  | .none => .ok (s, left, 0)
  | .digits n => if maxWidth < n then .error (.log .widthTooLarge) else .ok (s, left, n)
  | .star => do
    let n ← s.takeAmount
    if n < -(maxWidth : Int) - 1 ∨ maxWidth < n then throw (.value .tooLarge)
    pure (none, left || n < 0, n.natAbs)

/-- A precision, if there is one. A negative number for a star counts as zero. -/
def limit (s : Supply) : Amount → Except Fault (Supply × Option Nat)
  | .none => .ok (s, none)
  | .digits n => if maxPrecision < n then .error (.log .precisionTooLarge) else .ok (s, some n)
  | .star => do
    let n ← s.takeAmount
    if n < -(maxPrecision : Int) - 1 ∨ maxPrecision < n then throw (.value .tooLarge)
    pure (none, some n.toNat)

/-- The place for a text in a layout: its width, and what fills the room that is left. -/
structure Slot where
  width : Nat
  left : Bool
  zeros : Bool
deriving DecidableEq, Repr

/-- A text behind its sign, in a place. Zeros stand between the two, blanks in front. -/
def Slot.fill (slot : Slot) (front body : List Char) : Except Fault (List Char) :=
  let room := slot.width - (front.length + body.length)
  if maxItems < room then .error (.value .outOfMemory)
  else if slot.left then .ok (front ++ body ++ List.replicate room ' ')
  else if slot.zeros then .ok (front ++ List.replicate room '0' ++ body)
  else .ok (List.replicate room ' ' ++ front ++ body)

/-- The sign of a number. Flags ask for one or for a blank before numbers that are not
    negative. -/
def sign (flags : List Char) (negative : Bool) : List Char :=
  if negative then ['-'] else if flags.contains '+' then ['+']
  else if flags.contains ' ' then [' '] else []

/-- An integer in a base, and the mark of the base if a flag asks for it. Only the decimal
    digits are limited. -/
def integer (flags : List Char) (precision : Option Nat) (base : Nat) (mark : String) (n : Int) :
    Except Fault (List Char × List Char) :=
  let digits := Nat.toDigits base n.natAbs
  let zeros := precision.getD 0 - digits.length
  if maxPrecision - 3 < precision.getD 0 then .error (.value .tooLarge)
  else do
    if base = 10 then checkDigits n.natAbs
    pure (sign flags (n < 0) ++ if flags.contains '#' then mark.toList else [],
      List.replicate zeros '0' ++ digits)

/-- A number as a floating-point number, if it is not too large for one. -/
def floating : Value → Except Fault Floating
  | .float x => .ok x
  | v => do
    let n ← wholeNumber v
    match Floating.roundInt? n with
    | some m => pure (.finite (toString n) m 0)
    | none => throw (.value .tooLarge)

/-- A number in one of the notations with a point. Six places are shown by default. -/
def decimalNumber (flags : List Char) (precision : Option Nat) (n : Floating.Notation) (x : Floating) :
    List Char × List Char :=
  (sign flags x.isNegative, x.unsigned n (flags.contains '#') (precision.getD 6))

/-- A text of one character, or the character with a number. -/
def character : Value → Except Fault (List Char)
  | .str s => if s.length = 1 then .ok s.toList else .error (.value .wrongSort)
  | v => do
    let n ← wholeNumber v
    if 0 ≤ n ∧ n < 0x110000 then pure [Char.ofNat n.toNat] else throw (.value .tooLarge)

/-- A value in a conversion, at the given place of the layout. Capital conversions of
    numbers are shown in capitals. -/
def convert (flags : List Char) (precision : Option Nat) (slot : Slot) (position : Nat) (c : Char)
    (v : Value) : Except Fault (List Char) :=
  let textSlot := { slot with zeros := false }
  let cut (s : String) : List Char := match precision with
    | some n => s.toList.take n
    | none => s.toList
  let number (parts : List Char × List Char) : Except Fault (List Char) :=
    if c.isUpper then slot.fill (parts.1.map Char.toUpper) (parts.2.map Char.toUpper)
    else slot.fill parts.1 parts.2
  match c with
  | 's' => do textSlot.fill [] (cut (← v.printed))
  | 'r' => do textSlot.fill [] (cut (← v.printedLiteral))
  | 'a' => do textSlot.fill [] (cut (Text.toAscii (← v.printedLiteral)))
  | 'd' | 'i' | 'u' => do number (← integer flags precision 10 "" (← v.truncated))
  | 'o' => do number (← integer flags precision 8 "0o" (← wholeNumber v))
  | 'x' | 'X' => do number (← integer flags precision 16 "0x" (← wholeNumber v))
  | 'e' | 'E' => do number (decimalNumber flags precision .scientific (← floating v))
  | 'f' | 'F' => do number (decimalNumber flags precision .fixed (← floating v))
  | 'g' | 'G' => do number (decimalNumber flags precision .general (← floating v))
  | 'c' => do textSlot.fill [] (← character v)
  | c => .error (.log (.conversionUnknown c position))

/-- Moments are not told apart. -/
def moment : Value :=
  .float (.finite "0.0" 0 0)

/-- The fields of a message, whose level has the given title and which is printed as `text`. The
    numbers of thread and process are fixed. -/
def fields (title : Value) (entry : LogEntry) (text : String) : List (String × Value) :=
  [("name", entry.source), ("msg", entry.message), ("args", .tuple []), ("levelname", title),
    ("levelno", entry.level), ("pathname", .str ""), ("filename", .str ""), ("module", .str ""),
    ("exc_info", .null), ("exc_text", .null), ("stack_info", .null), ("lineno", .int 0),
    ("funcName", .null), ("created", moment), ("msecs", moment), ("relativeCreated", moment),
    ("thread", .int 0x400000000000), ("threadName", .str "MainThread"),
    ("processName", .str "MainProcess"), ("process", .int 2), ("message", .str text), ("asctime", .str "TIME")]

/-- The text of a field, in a layout of `size` characters, and what is left for the next
    field without a name. The value is looked up first, then width and precision are
    settled, and only then the end of the layout is noticed. -/
def renderField (size : Nat) (fields : List (String × Value)) (supply : Supply)
    (name : Option (List Char)) (style : FieldStyle) : Except Fault (Supply × List Char) := do
  let supply ← match name with
    | none => pure supply
    | some name =>
      match fields.lookup (String.ofList name) with
      | none => throw (.log (.fieldUnknown (String.ofList name)))
      | some v => pure (some v)
  let (supply, left, width) ← width supply (style.flags.contains '-') style.width
  let (supply, precision) ← limit supply style.precision
  match style.conversion with
  | none => throw (.log .fieldUnfinished)
  | some c =>
    let slot : Slot := ⟨width, left, style.flags.contains '0'⟩
    let v ← supply.take
    pure (none, ← convert style.flags precision slot (size - style.after - 1) c v)

/-- The text of pieces from left to right, up to the first that fails. -/
def renderPieces (size : Nat) (fields : List (String × Value)) :
    Supply → List LayoutPiece → Except Fault (List Char)
  | _, [] => .ok []
  | supply, .char c :: rest => (renderPieces size fields supply rest).map (c :: ·)
  | _, .unfinishedName :: _ => .error (.log .fieldNameUnfinished)
  | supply, .field name style :: rest => do
    let (supply, s) ← renderField size fields supply name style
    (renderPieces size fields supply rest).map (s ++ ·)

/-- The name of a level. Other numbers are shown as they are, and a name that levels are
    chosen by gives its number. -/
def levelTitle (level : Value) : Except Fault Value :=
  let title : Option Value := match level with
    | .str name => (LogLevel.named.get? name).map .int
    | v => v.number?.bind fun n => (LogLevel.titles.find? fun e => n.equals (.int e.1)).map (.str ·.2)
  match title with
  | some title => .ok title
  | none => level.inserted.map fun s => .str ("Level " ++ s)

/-- The layout that a value asks for, if it is one that shows a field. What counts as false
    stands for the text alone. -/
def ofValue (refs : Referents) (v : Value) : Except Fault String := do
  if !(← v.truth refs) then pure "%(message)s"
  else match v with
    | .str layout =>
      if isLayout layout.toList then pure layout else throw (.log (.formatInvalid layout))
    | _ => throw (.value .wrongSort)

/-- The line of a message in a layout. Information is shown bare in every layout. -/
def render (refs : Referents) (layout : Value) (entry : LogEntry) : Except Fault String := do
  entry.level.checkKey refs.checkRegister
  let title ← levelTitle entry.level
  let layout ← ofValue refs layout
  let text ← entry.message.printed
  if (entry.level.number?).any fun n => n.equals (.int Severity.info.number) then
    pure text
  else
    let fields := fields title entry text
    let s ← renderPieces layout.length fields (some (.dict fields)) (pieces layout.toList)
    pure (String.ofList s)

end Layout

end CircuitScribe
