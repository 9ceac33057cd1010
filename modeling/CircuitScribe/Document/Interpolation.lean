import CircuitScribe.Document.Reader

namespace CircuitScribe

/-- The ways in which the references in a raw value fail. The rest of a value starts
    at its percent sign. Lines that have not been joined are neither a value to expand
    nor part of one. -/
inductive InterpolationCause where
  | tooDeep
  | unknownName (name : String)
  | unfinishedReference (rest : String)
  | strayPercent (rest : String)
  | unjoinedValue
  | unjoinedPart
deriving DecidableEq, Repr

/-- A failed look-up of an option, with the raw value at which it started. -/
structure InterpolationFault where
  sectionName : String
  option : String
  raw : String
  cause : InterpolationCause
deriving DecidableEq, Repr

namespace Document

/-- Values refer to values up to this depth. -/
def maxDepth : Nat := 10

/-- A value is made of characters and references to options; a defect ends it. -/
inductive Piece where
  | char (c : Char)
  | reference (name : List Char)
  | unfinished (rest : List Char)
  | stray (rest : List Char)
deriving DecidableEq, Repr

/-- Where a scan of a value stands: outside of references, after a percent sign, in
    the name of a reference (given backwards), or after its closing parenthesis. -/
inductive Scan where
  | outside
  | percent
  | name (before : List Char)
  | closed (before : List Char)

/-- The pieces of a value: `%%` is a percent sign and `%(name)s` a reference. -/
def pieces : Scan → List Char → List Piece
  | .outside, [] => []
  | .outside, c :: rest =>
    if c = '%' then pieces .percent rest else .char c :: pieces .outside rest
  | .percent, [] => [.stray ['%']]
  | .percent, c :: rest =>
    if c = '%' then .char '%' :: pieces .outside rest
    else if c = '(' then pieces (.name []) rest
    else [.stray ('%' :: c :: rest)]
  | .name before, [] => [.unfinished ('%' :: '(' :: before.reverse)]
  | .name before, c :: rest =>
    if c ≠ ')' then pieces (.name (c :: before)) rest
    else if before.isEmpty then [.unfinished ('%' :: '(' :: ')' :: rest)]
    else pieces (.closed before) rest
  | .closed before, [] => [.unfinished ('%' :: '(' :: before.reverse ++ [')'])]
  | .closed before, c :: rest =>
    if c = 's' then .reference before.reverse :: pieces .outside rest
    else [.unfinished ('%' :: '(' :: before.reverse ++ ')' :: c :: rest)]

/-- The text of one piece, and `none` for lines that have not been joined. A referenced
    value is expanded in turn by `expand` if it has a percent sign; of lines, one has to
    be just that. -/
def expandPiece (raw? : String → Option RawValue)
    (expand : RawValue → Except InterpolationCause (Option (List Char))) :
    Piece → Except InterpolationCause (Option (List Char))
  | .char c => .ok (some [c])
  | .reference name =>
    let name := optionName (String.ofList name)
    match raw? name with
    | none => .error (.unknownName name)
    | some (.text value) =>
      if value.toList.contains '%' then expand (.text value) else .ok (some value.toList)
    | some (.lines all) => if "%" ∈ all then expand (.lines all) else .ok none
  | .unfinished rest => .error (.unfinishedReference (String.ofList rest))
  | .stray rest => .error (.strayPercent (String.ofList rest))

/-- The text of pieces from left to right, up to the first that fails. -/
def expandPieces (expandPiece : Piece → Except InterpolationCause (Option (List Char))) :
    List Piece → Except InterpolationCause (Option (List Char))
  | [] => .ok (some [])
  | piece :: rest =>
    match expandPiece piece with
    | .error cause => .error cause
    | .ok s => (expandPieces expandPiece rest).map fun t => s.bind fun s => t.map (s ++ ·)

/-- A raw value with its references replaced, on as many levels as are left. -/
def expand (raw? : String → Option RawValue) :
    Nat → RawValue → Except InterpolationCause (Option (List Char))
  | 0, _ => .error .tooDeep
  | _ + 1, .lines _ => .error .unjoinedValue
  | levels + 1, .text s =>
    expandPieces (expandPiece raw? (expand raw? levels)) (pieces .outside s.toList)

/-- The value of an option as seen from a section, and `none` for an absent option. -/
def value? (d : Document) (sectionName option : String) : Except InterpolationFault (Option String) :=
  match d.raw? sectionName (optionName option) with
  | none => .ok none
  | some raw =>
    let fault (cause : InterpolationCause) : InterpolationFault :=
      ⟨sectionName, option, match raw with
        | .text s => s
        | .lines all => "\n".intercalate all, cause⟩
    match expand (d.raw? sectionName) maxDepth raw with
    | .ok (some s) => .ok (some (String.ofList s))
    | .ok none => .error (fault .unjoinedPart)
    | .error cause => .error (fault cause)

/-- The number of characters of the reference at the start of a value. -/
def referenceLength? : List Char → Option Nat
  | '%' :: '(' :: rest =>
    let name := rest.takeWhile (· ≠ ')')
    match rest.dropWhile (· ≠ ')') with
    | ')' :: 's' :: _ => if name.isEmpty then none else some (name.length + 4)
    | _ => none
  | _ => none

/-- A value without its doubled percent signs. -/
def dropDoubled : List Char → List Char
  | '%' :: '%' :: rest => dropDoubled rest
  | c :: rest => c :: dropDoubled rest
  | [] => []

/-- A value without its references, after `skip` characters that are left out. -/
def dropReferences : Nat → List Char → List Char
  | _, [] => []
  | skip + 1, _ :: rest => dropReferences skip rest
  | 0, c :: rest =>
    match referenceLength? (c :: rest) with
    | some n => dropReferences (n - 1) rest
    | none => c :: dropReferences 0 rest

/-- The place of the first percent sign in a value that is part of neither a doubled
    sign nor a reference, counted after these have been left out. -/
def misplacedPercent? (value : String) : Option Nat :=
  (dropReferences 0 (dropDoubled value.toList)).findIdx? (· == '%')

end Document

namespace InterpolationFault

/-- The text of a failed look-up, if it has one. -/
def message? (f : InterpolationFault) : Option String :=
  match f.cause with
  | .tooDeep => some <|
    "Recursion limit exceeded in value substitution: option " ++ Text.quote f.option ++ " in section " ++
      Text.quote f.sectionName ++ " contains an interpolation key which cannot be substituted in " ++
      toString Document.maxDepth ++ " steps. Raw value: " ++ Text.quote f.raw
  | .unknownName name => some <|
    "Bad value substitution: option " ++ Text.quote f.option ++ " in section " ++
      Text.quote f.sectionName ++ " contains an interpolation key " ++ Text.quote name ++
      " which is not a valid option name. Raw value: " ++ Text.quote f.raw
  | .unfinishedReference rest =>
    some ("bad interpolation variable reference " ++ Text.quote rest)
  | .strayPercent rest =>
    some ("'%' must be followed by '%' or '(', found: " ++ Text.quote rest)
  | .unjoinedValue | .unjoinedPart => none

end InterpolationFault

end CircuitScribe
