import CircuitScribe.Table
import CircuitScribe.Text.Quoted

namespace CircuitScribe

/-- The reasons for which a file operation is refused. -/
inductive FileCode where
  | noEntry
  | exists
  | notDirectory
  | isDirectory
  | nameTooLong
deriving DecidableEq, Repr

namespace FileCode

/-- The number under which a reason is reported. -/
def number : FileCode → Nat
  | .noEntry => 2
  | .exists => 17
  | .notDirectory => 20
  | .isDirectory => 21
  | .nameTooLong => 36

def description : FileCode → String
  | .noEntry => "No such file or directory"
  | .exists => "File exists"
  | .notDirectory => "Not a directory"
  | .isDirectory => "Is a directory"
  | .nameTooLong => "File name too long"

end FileCode

/-- A refused operation on a path, a write beyond the size that files may have, a path that
    names nothing because it holds the character NUL, or a number that stands for no open
    file. -/
inductive FileFault where
  | refused (code : FileCode) (path : String)
  | contentTooLarge
  | nulInPath
  | notOpen
  | negativeNumber
deriving DecidableEq, Repr

/-- The text of a refusal, with the path as a literal. -/
def FileFault.message : FileFault → String
  | .refused code path =>
    "[Errno " ++ toString code.number ++ "] " ++ code.description ++ ": " ++ Text.quote path
  | .contentTooLarge => "[Errno 27] File too large"
  | .nulInPath => "embedded null byte"
  | .notOpen => "[Errno 9] Bad file descriptor"
  | .negativeNumber => "negative file descriptor"

/-- A directory, or a file with its bytes. -/
inductive Node where
  | directory
  | file (content : ByteArray)

/-- The files and directories below the working directory, by the names that lead
    to them. The working directory itself is the empty list of names. There may be a bound
    on the size of files, in bytes. -/
structure FileTree where
  entries : Table (List String) Node := []
  sizeLimit : Option Nat := none

/-- Numbers of open files lie between these bounds, as far as they can be represented. -/
def isFileNumber (n : Int) : Bool :=
  -0x80000000 ≤ n && n < 0x80000000

namespace FileTree

/-- What stands at the end of a list of names. -/
def node? (t : FileTree) : List String → Option Node
  | [] => some .directory
  | names => t.entries.get? names

def put (t : FileTree) (names : List String) (n : Node) : FileTree :=
  { t with entries := t.entries.put names n }

/-- No name is longer than 255 bytes. -/
def nameFits (name : String) : Bool :=
  name.utf8ByteSize ≤ 255

/-- No path is longer than 4095 bytes. -/
def pathFits (path : String) : Bool :=
  path.utf8ByteSize ≤ 4095

/-- The directory that is reached from the directory `at` by following `names`. -/
def enter (t : FileTree) : List String → List String → Except FileCode (List String)
  | place, [] => .ok place
  | place, name :: rest =>
    if name = "." then t.enter place rest
    else if name = ".." then t.enter place.dropLast rest
    else if !nameFits name then .error .nameTooLong
    else match t.node? (place ++ [name]) with
      | none => .error .noEntry
      | some (.file _) => .error .notDirectory
      | some .directory => t.enter (place ++ [name]) rest

/-- The names in a path, from left to right; repeated slashes count as one. -/
def namesOf (path : String) : List String :=
  ((path.splitOn "/").filter (· ≠ ""))

def endsInSlash (path : String) : Bool :=
  path.toList.getLast? == some '/'

/-- Where a path leads: a directory that is there for certain, or a name in a
    directory, at which something may or may not be. -/
inductive Place where
  | directory
  | name (directory : List String) (name : String)

/-- The place that a path designates. Every directory on the way has to be there. -/
def locate (t : FileTree) (path : String) : Except FileCode Place := do
  if path = "" then throw .noEntry
  if !pathFits path then throw .nameTooLong
  match (namesOf path).getLast? with
  | none => pure .directory
  | some last =>
    let parent ← t.enter [] (namesOf path).dropLast
    if last = "." ∨ last = ".." then pure .directory else pure (.name parent last)

/-- What is at a name in a directory, if anything is. -/
def lookUp (t : FileTree) (directory : List String) (name : String) : Except FileCode (Option Node) :=
  if nameFits name then .ok (t.node? (directory ++ [name])) else .error .nameTooLong

/-- What is found at a path. Only a directory is found at a path that ends in a slash. -/
def find (t : FileTree) (path : String) : Except FileCode Node := do
  match ← t.locate path with
  | .directory => pure .directory
  | .name parent last =>
    match ← t.lookUp parent last with
    | none => throw .noEntry
    | some .directory => pure .directory
    | some (.file content) =>
      if endsInSlash path then throw .notDirectory else pure (.file content)

/-- Paths with the character NUL name nothing. -/
def hasNul (path : String) : Bool :=
  path.toList.contains '\x00'

/-- The bytes of the file at a path, if there is one. -/
def content? (t : FileTree) (path : String) : Option ByteArray :=
  if hasNul path then none
  else match t.find path with
    | .ok (.file content) => some content
    | _ => none

def isFile (t : FileTree) (path : String) : Bool :=
  (t.content? path).isSome

def isDirectory (t : FileTree) (path : String) : Bool :=
  !hasNul path && match t.find path with
    | .ok .directory => true
    | _ => false

def exists? (t : FileTree) (path : String) : Bool :=
  t.isFile path || t.isDirectory path

/-- The names that lead to the file which an opening for writing empties or creates. -/
def target (t : FileTree) (path : String) : Except FileFault (List String) := do
  if hasNul path then throw .nulInPath
  match t.locate path with
  | .error code => throw (.refused code path)
  | .ok .directory => throw (.refused .isDirectory path)
  | .ok (.name parent last) =>
    if endsInSlash path then throw (.refused .isDirectory path)
    else match t.lookUp parent last with
      | .error code => throw (.refused code path)
      | .ok (some .directory) => throw (.refused .isDirectory path)
      | .ok _ => pure (parent ++ [last])

/-- The tree in which the file at a path has been opened for writing, and the names that lead
    to the file. It is empty, whatever it held before. Its directory has to be there. -/
def create (t : FileTree) (path : String) : Except FileFault (List String × FileTree) :=
  (t.target path).map fun names => (names, t.put names (.file ByteArray.empty))

/-- Writes to a file that has been opened. What goes beyond the bound on its size is not
    written, but all before it is. -/
def fill (t : FileTree) (names : List String) (content : ByteArray) :
    FileTree × Except FileFault Unit :=
  match t.sizeLimit with
  | none => (t.put names (.file content), .ok ())
  | some limit =>
    if content.size ≤ limit then (t.put names (.file content), .ok ())
    else (t.put names (.file (content.extract 0 limit)), .error .contentTooLarge)

/-- Gives the file at a path a content, which replaces what it had. -/
def write (t : FileTree) (path : String) (content : ByteArray) : FileTree × Except FileFault Unit :=
  match t.create path with
  | .ok (names, opened) => opened.fill names content
  | .error fault => (t, .error fault)

/-- The tree without the file at a path. Directories are not removed. -/
def remove (t : FileTree) (path : String) : Except FileFault FileTree := do
  if hasNul path then throw .nulInPath
  match t.locate path with
  | .error code => throw (.refused code path)
  | .ok .directory => throw (.refused .isDirectory path)
  | .ok (.name parent last) =>
    match t.lookUp parent last with
    | .error code => throw (.refused code path)
    | .ok none => throw (.refused .noEntry path)
    | .ok (some .directory) => throw (.refused .isDirectory path)
    | .ok (some (.file _)) =>
      if endsInSlash path then throw (.refused .notDirectory path)
      else pure { t with entries := t.entries.filter (·.1 ≠ parent ++ [last]) }

/-- The tree with one new directory, in a directory that is there. -/
def makeDirectory (t : FileTree) (path : String) : Except FileFault FileTree := do
  if hasNul path then throw .nulInPath
  match t.locate path with
  | .error code => throw (.refused code path)
  | .ok .directory => throw (.refused .exists path)
  | .ok (.name parent last) =>
    match t.lookUp parent last with
    | .error code => throw (.refused code path)
    | .ok (some _) => throw (.refused .exists path)
    | .ok none => pure (t.put (parent ++ [last]) .directory)

/-- The part of a path after its last slash. -/
def lastName (path : List Char) : List Char :=
  (path.reverse.takeWhile (· ≠ '/')).reverse

/-- The part of a path before its last name, without the slashes at its end unless
    it consists of slashes. -/
def leading (path : List Char) : List Char :=
  let front := (path.reverse.dropWhile (· ≠ '/')).reverse
  if front.all (· == '/') then front else (front.reverse.dropWhile (· == '/')).reverse

theorem length_leading_add_length_lastName (path : List Char) :
    (leading path).length + (lastName path).length ≤ path.length := by
  have hsplit : (path.reverse.dropWhile (· ≠ '/')).length + (lastName path).length = path.length := by
    have h := congrArg List.length (List.takeWhile_append_dropWhile
      (p := fun c : Char => decide (c ≠ '/')) (l := path.reverse))
    simp only [List.length_append, List.length_reverse] at h
    simp only [lastName, List.length_reverse]
    omega
  have hfront : (leading path).length ≤ (path.reverse.dropWhile (· ≠ '/')).length := by
    unfold leading
    simp only
    split
    · simp
    · have h := (List.dropWhile_suffix (l := (path.reverse.dropWhile (· ≠ '/')).reverse.reverse)
        (fun c : Char => c == '/')).length_le
      simpa using h
  omega

/-- A path as the path of its directory and the name in it; slashes at the end of
    the path do not count. -/
def split (path : List Char) : List Char × List Char :=
  if (lastName path).isEmpty then (leading (leading path), lastName (leading path))
  else (leading path, lastName path)

theorem length_split_lt {path : List Char} (hname : (split path).2 ≠ []) :
    (split path).1.length < path.length := by
  have hpath := length_leading_add_length_lastName path
  have hleading := length_leading_add_length_lastName (leading path)
  have hpos := List.length_pos_iff.mpr hname
  unfold split at hpos ⊢
  split at hpos <;> simp_all only [if_true, if_false, Bool.false_eq_true] <;> omega

/-- Makes a directory and those above it that are missing. Directories made before
    a refusal stay. Whether a directory may be there already is up to `mayExist`. -/
def makeDirectories (t : FileTree) (mayExist : Bool) (path : List Char) :
    FileTree × Except FileFault Unit :=
  let finish (t : FileTree) : FileTree × Except FileFault Unit :=
    match t.makeDirectory (String.ofList path) with
    | .ok t' => (t', .ok ())
    | .error fault =>
      (t, if mayExist && t.isDirectory (String.ofList path) then .ok () else .error fault)
  if _hmissing : (split path).1 ≠ [] ∧ (split path).2 ≠ [] ∧
      ¬ t.exists? (String.ofList (split path).1) then
    match makeDirectories t mayExist (split path).1 with
    | (t', .ok ()) | (t', .error (.refused .exists _)) =>
      if (split path).2 = ['.'] then (t', .ok ()) else finish t'
    | (t', .error fault) => (t', .error fault)
  else finish t
termination_by path.length
decreasing_by exact length_split_lt _hmissing.2.1

/-- The paths of all files and directories in the order of their code points. The
    path of a directory ends in a slash. -/
def listing (t : FileTree) : List String :=
  let path : List String × Node → String
    | (names, .directory) => "/".intercalate names ++ "/"
    | (names, .file _) => "/".intercalate names
  (t.entries.map path).mergeSort (fun a b => decide (a ≤ b))

end FileTree

end CircuitScribe
