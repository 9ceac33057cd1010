import CircuitScribe.Text.Basic
import CircuitScribe.Text.LetterCase.Table

namespace CircuitScribe.Text

/-- The partner of a code point in runs that are listed by ascending start. -/
def partner? : List CaseRun → Nat → Option Nat
  | [], _ => none
  | run :: rest, n =>
    if n < run.first then none
    else if n ≤ run.last ∧ (n - run.first) % run.step = 0 then some (run.target + (n - run.first))
    else partner? rest n

/-- Letters that have a case. -/
def isCased (c : Char) : Bool :=
  inRanges casedRanges c.toNat

/-- Characters that do not end a word, such as marks and apostrophes. -/
def isTransparent (c : Char) : Bool :=
  inRanges transparentRanges c.toNat

/-- The first character that is not looked through is a cased letter. -/
def meetsCased (s : List Char) : Bool :=
  match s.dropWhile isTransparent with
  | [] => false
  | c :: _ => isCased c

/-- Small letters of one character, where it is not a capital sigma. The dotted
    capital I keeps its dot as a combining mark. -/
def lowerChar (c : Char) : List Char :=
  if c = '\u0130' then ['i', '\u0307']
  else match partner? lowerRuns c.toNat with
    | some n => [Char.ofNat n]
    | none => [c]

/-- A capital sigma becomes the final form at the end of a word: a cased letter
    stands before it and none after it. `before` lists the text before it backwards. -/
def lowerSigma (before after : List Char) : Char :=
  if meetsCased before && !meetsCased after then '\u03c2' else '\u03c3'

/-- Lower case of a text whose preceding characters, backwards, are `before`. -/
def lowerAfter : List Char → List Char → List Char
  | _, [] => []
  | before, c :: rest =>
    (if c = '\u03a3' then [lowerSigma before rest] else lowerChar c) ++ lowerAfter (c :: before) rest

def lowerChars (s : List Char) : List Char :=
  lowerAfter [] s

/-- Capital letters of one character; some expand to two or three. -/
def upperChar (c : Char) : List Char :=
  match upperExpansions.lookup c.toNat with
  | some codes => codes.map Char.ofNat
  | none => match partner? upperRuns c.toNat with
    | some n => [Char.ofNat n]
    | none => [c]

/-- The text in lower case, by the rules of Unicode that hold in every language. -/
def lower (s : String) : String :=
  String.ofList (lowerChars s.toList)

/-- The text in upper case, by the rules of Unicode that hold in every language. -/
def upper (s : String) : String :=
  String.ofList (s.toList.flatMap upperChar)

end CircuitScribe.Text
