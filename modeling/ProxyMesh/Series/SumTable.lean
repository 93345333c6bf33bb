import ProxyMesh.Series.Query
import ProxyMesh.Number.Reading
import ProxyMesh.Text.Lines

/-!
# Tables of sums

The answer to a sum query is a sequence of tables with cells between commas.  A blank line or one
that begins with `#` ends a table, and the line after it is a header.

* `TableState.step`   one line read;
* `readSums`          the value of every row added to the sum of its field, `none` without rows.
-/

namespace ProxyMesh

/-- the positions of field and value in the table being read, and the sums so far -/
structure TableState where
  columns : Option (Nat × Nat)
  sums : FieldSums

/-- a whole number, or a binary64 value rounded to one -/
def cellValue (cell : String) : Option Int :=
  (Text.readSigned cell.toList).or ((Binary64.read? cell.toList).map Binary64.roundToInt64)

/-- the positions that a header gives -/
def readHeader (line : String) (cells : List String) : Except TableError (Nat × Nat) :=
  match cells.idxOf? "_field", cells.idxOf? "_value" with
  | some field, some value => .ok (field, value)
  | _, _ => .error (.unexpectedHeader line)

/-- the field and the value of a row -/
def readRow (columns : Nat × Nat) (line : String) (cells : List String) :
    Except TableError (String × Int) :=
  match cells[columns.1]?, cells[columns.2]? with
  | some field, some cell =>
    match cellValue cell with
    | some n => .ok (field, n)
    | none => .error (.notNumeric cell)
  | _, _ => .error (.shortRow line)

/-- a line without the carriage returns at its end -/
def dropReturns (line : String) : String :=
  String.ofList (Text.dropEndWhile (· = '\r') line.toList)

/-- a line that ends a table -/
def endsTable (line : String) : Bool := line.isEmpty || line.toList.head? == some '#'

def TableState.step (t : TableState) (rawLine : String) : Except TableError TableState :=
  let line := dropReturns rawLine
  if endsTable line then .ok { t with columns := none }
  else
    let cells := Text.splitAt ',' line
    match t.columns with
    | none => (readHeader line cells).map fun columns => { t with columns := some columns }
    | some columns => (readRow columns line cells).map fun (field, n) =>
      { t with sums := t.sums.add field n }

def readSums (text : String) : Except TableError (Option FieldSums) :=
  ((Text.lines text).foldlM TableState.step ⟨none, .empty⟩).map fun t =>
    if t.sums.records.isEmpty then none else some t.sums

end ProxyMesh
