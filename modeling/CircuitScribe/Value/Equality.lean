import CircuitScribe.Fault

namespace CircuitScribe.Value

/-- Truth values, integers and floating-point numbers compare as numbers. -/
inductive Number where
  | int (n : Int)
  | float (x : Floating)

/-- The number that a value is, if it is one. -/
def number? : Value → Option Number
  | .bool b => some (.int (if b then 1 else 0))
  | .int n => some (.int n)
  | .float x => some (.float x)
  | _ => none

namespace Number

def equals : Number → Number → Bool
  | .int m, .int n => m == n
  | .int n, .float x => x.equalsInt n
  | .float x, .int n => x.equalsInt n
  | .float x, .float y => x.equals y

/-- One and the same not-a-number is taken for itself. -/
def agrees : Number → Number → Bool
  | .float x, .float y => x.agrees y
  | m, n => m.equals n

end Number

mutual

/-- Whether two values stand for the same member of a collection, when registers are
    compared by `same`. A register is always the same as itself. -/
def agrees (same : Register → Register → Bool) (a b : Value) : Bool :=
  match a with
  | .null => match b with
    | .null => true
    | _ => false
  | .bool _ | .int _ | .float _ => match a.number?, b.number? with
    | some m, some n => m.agrees n
    | _, _ => false
  | .str s => match b with
    | .str t => s == t
    | _ => false
  | .list items => match b with
    | .list others => agreesAll same items others
    | _ => false
  | .tuple items => match b with
    | .tuple others => agreesAll same items others
    | _ => false
  | .dict entries => match b with
    | .dict others => entries.length == others.length && agreesEntries same entries others
    | _ => false
  | .slice start stop step => match b with
    | .slice start' stop' step' => start == start' && stop == stop' && step == step'
    | _ => false
  | .kind k => match b with
    | .kind k' => k == k'
    | _ => false
  | .register r => match b with
    | .register s => r == s || same r s
    | _ => false
  | .record k qargs cargs rendered => match b with
    | .record k' qargs' cargs' rendered' =>
      k == k' && agreesAll same qargs qargs' && agreesAll same cargs cargs' && rendered == rendered'
    | _ => false
  | .instructionSet i => match b with
    | .instructionSet j => i == j
    | _ => false
  | .circuit i => match b with
    | .circuit j => i == j
    | _ => false
  | .config i => match b with
    | .config j => i == j
    | _ => false
  | .shared r => match b with
    | .shared s => r == s
    | _ => false
termination_by structural a

def agreesAll (same : Register → Register → Bool) (items others : List Value) : Bool :=
  match items with
  | [] => others.isEmpty
  | v :: vs => match others with
    | [] => false
    | w :: ws => v.agrees same w && agreesAll same vs ws
termination_by structural items

def agreesEntries (same : Register → Register → Bool) (entries others : List (String × Value)) : Bool :=
  match entries with
  | [] => true
  | e :: es => agreesEntry same e others && agreesEntries same es others
termination_by structural entries

def agreesEntry (same : Register → Register → Bool) (entry : String × Value)
    (others : List (String × Value)) : Bool :=
  match entry with
  | (key, v) => match others.lookup key with
    | some w => v.agrees same w
    | none => false
termination_by structural entry

end

/-- Equality of values as the caller asks for it. Unlike a member of a collection,
    a register is compared with itself by `same` too, and a not-a-number differs from
    itself. -/
def equals (same : Register → Register → Bool) : Value → Value → Bool
  | .register r, .register s => same r s
  | .float x, .float y => x.equals y
  | a, b => a.agrees same b

mutual

/-- Whether the comparison of two values as members of a collection has no end, where that of
    registers has none as `endless` tells. Items are compared one after the other, up to the
    first that differ. -/
def agreesEndlessly (same endless : Register → Register → Bool) (a b : Value) : Bool :=
  match a with
  | .list items => match b with
    | .list others => items.length == others.length && agreesAllEndlessly same endless items others
    | _ => false
  | .tuple items => match b with
    | .tuple others => agreesAllEndlessly same endless items others
    | _ => false
  | .dict entries => match b with
    | .dict others =>
      entries.length == others.length && agreesEntriesEndlessly same endless entries others
    | _ => false
  | .register r => match b with
    | .register s => r != s && endless r s
    | _ => false
  | .record k qargs cargs _ => match b with
    | .record k' qargs' cargs' _ =>
      k == k' && (agreesAllEndlessly same endless qargs qargs' ||
        agreesAll same qargs qargs' && agreesAllEndlessly same endless cargs cargs')
    | _ => false
  | _ => false
termination_by structural a

def agreesAllEndlessly (same endless : Register → Register → Bool) (items others : List Value) : Bool :=
  match items with
  | [] => false
  | v :: vs => match others with
    | [] => false
    | w :: ws =>
      v.agreesEndlessly same endless w || v.agrees same w && agreesAllEndlessly same endless vs ws
termination_by structural items

def agreesEntriesEndlessly (same endless : Register → Register → Bool)
    (entries others : List (String × Value)) : Bool :=
  match entries with
  | [] => false
  | e :: es => agreesEntryEndlessly same endless e others ||
    agreesEntry same e others && agreesEntriesEndlessly same endless es others
termination_by structural entries

def agreesEntryEndlessly (same endless : Register → Register → Bool) (entry : String × Value)
    (others : List (String × Value)) : Bool :=
  match entry with
  | (key, v) => match others.lookup key with
    | some w => v.agreesEndlessly same endless w
    | none => false
termination_by structural entry

end

/-- Whether their comparison as the caller asks for it has no end. -/
def equalsEndlessly (same endless : Register → Register → Bool) : Value → Value → Bool
  | .register r, .register s => endless r s
  | a, b => a.agreesEndlessly same endless b

mutual

/-- Whether a value can be a member of a set or the key of a table: lists, tables and
    slices cannot, a tuple or record only if its items can, and a register as `check`
    says. -/
def checkKey (check : Register → Except Fault Unit) : Value → Except Fault Unit
  | .list _ | .dict _ | .slice _ _ _ | .shared _ => .error (.value .wrongSort)
  | .tuple items => checkKeys check items
  | .record _ qargs cargs _ => do
    checkKeys check qargs
    checkKeys check cargs
  | .register r => check r
  | _ => .ok ()

def checkKeys (check : Register → Except Fault Unit) : List Value → Except Fault Unit
  | [] => .ok ()
  | v :: vs => do
    v.checkKey check
    checkKeys check vs

end

end CircuitScribe.Value
