import CircuitScribe.Text.Printable

namespace CircuitScribe.Text

/-- The digit of a value below sixteen, letters in lower case. -/
def hexDigit (n : Nat) : Char :=
  Char.ofNat (if n < 10 then 48 + n else 87 + n)

/-- The last `width` hexadecimal digits of `n`. -/
def hexDigits : Nat → Nat → List Char
  | 0, _ => []
  | width + 1, n => hexDigits width (n / 16) ++ [hexDigit (n % 16)]

/-- A literal is put between apostrophes, unless its text has an apostrophe and no
    quotation mark. -/
def quoteMark (s : List Char) : Char :=
  if s.contains '\x27' && !s.contains '\x22' then '\x22' else '\x27'

/-- The escape of least width that names a character by its code point. -/
def codeEscape (c : Char) : List Char :=
  if c.toNat < 0x100 then '\\' :: 'x' :: hexDigits 2 c.toNat
  else if c.toNat < 0x10000 then '\\' :: 'u' :: hexDigits 4 c.toNat
  else '\\' :: 'U' :: hexDigits 8 c.toNat

/-- How a literal shows one character: the backslash and the surrounding mark take
    a backslash, an unprintable character is named by its escape. -/
def escapeChar (mark c : Char) : List Char :=
  if c = '\\' ∨ c = mark then ['\\', c]
  else if c = '\n' then ['\\', 'n']
  else if c = '\r' then ['\\', 'r']
  else if c = '\t' then ['\\', 't']
  else if isPrintable c then [c]
  else codeEscape c

/-- The characters of the literal of a text. -/
def quoteChars (s : List Char) : List Char :=
  let mark := quoteMark s
  mark :: s.flatMap (escapeChar mark) ++ [mark]

/-- The literal of a text, on one line and between quotes. -/
def quote (s : String) : String :=
  String.ofList (quoteChars s.toList)

/-- A literal in which all characters beyond ASCII are named by their escapes. -/
def toAscii (literal : String) : String :=
  String.ofList (literal.toList.flatMap fun c => if c.toNat < 0x80 then [c] else codeEscape c)

end CircuitScribe.Text
