import CircuitScribe.Table
import CircuitScribe.Value

namespace CircuitScribe

/-- The lists and tables that values share, each in a cell. A cell is never given up. -/
structure Collections where
  lists : Array (List Value) := #[]
  tables : Array (Table String Value) := #[]

namespace Collections

/-- A new cell with a list. -/
def shareList (items : List Value) (c : Collections) : Value × Collections :=
  (.shared (.list c.lists.size), { c with lists := c.lists.push items })

/-- A new cell with a table. -/
def shareTable (entries : Table String Value) (c : Collections) : Value × Collections :=
  (.shared (.table c.tables.size), { c with tables := c.tables.push entries })

mutual

/-- A value with all its lists and tables in new cells, so that it can be kept and
    passed on: whoever holds it then holds the same lists and tables. -/
def share (v : Value) (c : Collections) : Value × Collections :=
  match v with
  | .list items =>
    let (items, c) := shareAll items [] c
    c.shareList items
  | .dict entries =>
    let (entries, c) := shareEntries entries [] c
    c.shareTable entries
  | .tuple items =>
    let (items, c) := shareAll items [] c
    (.tuple items, c)
  | .record k qargs cargs rendered =>
    let (qargs, c) := shareAll qargs [] c
    let (cargs, c) := shareAll cargs [] c
    (.record k qargs cargs rendered, c)
  | v => (v, c)
termination_by structural v

/-- Shares values one after the other, behind those in `done`, which holds the last one
    first. -/
def shareAll (items done : List Value) (c : Collections) : List Value × Collections :=
  match items with
  | [] => (done.reverse, c)
  | v :: vs =>
    let (v, c) := share v c
    shareAll vs (v :: done) c
termination_by structural items

def shareEntries (entries done : List (String × Value)) (c : Collections) :
    List (String × Value) × Collections :=
  match entries with
  | [] => (done.reverse, c)
  | e :: es =>
    let (e, c) := shareEntry e c
    shareEntries es (e :: done) c
termination_by structural entries

def shareEntry (entry : String × Value) (c : Collections) : (String × Value) × Collections :=
  match entry with
  | (key, v) =>
    let (v, c) := share v c
    ((key, v), c)
termination_by structural entry

end

/-- Puts a value at the end of a list. -/
def append (c : Collections) (cell : Nat) (v : Value) : Collections :=
  { c with lists := c.lists.modify cell (· ++ [v]) }

/-- Puts a value under a key of a table. -/
def put (c : Collections) (cell : Nat) (key : String) (v : Value) : Collections :=
  { c with tables := c.tables.modify cell (·.put key v) }

end Collections

namespace Value

mutual

/-- A value in which shared lists and tables are replaced by what they hold at one moment,
    as far as `find` knows it. -/
def settled (find : Reference → Option Value) (v : Value) : Value :=
  match v with
  | .list items => .list (settledAll find items)
  | .tuple items => .tuple (settledAll find items)
  | .dict entries => .dict (settledEntries find entries)
  | .record k qargs cargs rendered =>
    .record k (settledAll find qargs) (settledAll find cargs) rendered
  | .shared ref => (find ref).getD (.shared ref)
  | v => v
termination_by structural v

def settledAll (find : Reference → Option Value) (items : List Value) : List Value :=
  match items with
  | [] => []
  | v :: vs => v.settled find :: settledAll find vs
termination_by structural items

def settledEntries (find : Reference → Option Value) (entries : List (String × Value)) :
    List (String × Value) :=
  match entries with
  | [] => []
  | e :: es => settledEntry find e :: settledEntries find es
termination_by structural entries

def settledEntry (find : Reference → Option Value) (entry : String × Value) : String × Value :=
  match entry with
  | (key, v) => (key, v.settled find)
termination_by structural entry

end

end Value

end CircuitScribe
