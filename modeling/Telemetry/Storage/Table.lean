import Telemetry.Storage.Backend
import Telemetry.Storage.Cell

namespace Telemetry

open Telemetry

/-! Metrics as rows of a table with the columns id, kind, value and delta. Id and kind together are
the key. -/

structure Row where
  id : String
  kind : String
  value : Cell
  delta : Cell
  deriving DecidableEq, Repr

namespace Row

def hasKey (row : Row) (id kind : String) : Bool := row.id = id && row.kind = kind

def gauge (id : String) (value : Binary64) : Row :=
  ⟨id, Kind.gauge.name, .ofBinary64 value, .null⟩

def counter (id : String) (delta : Int64) : Row :=
  ⟨id, Kind.counter.name, .null, .integer delta⟩

/-- The metric that a row holds; an empty column counts as zero. -/
def toMetric (row : Row) : Except Failure Metric :=
  match Kind.ofName row.kind with
  | .gauge =>
    match row.value with
    | .null => .ok (.gauge row.id .zero)
    | .real value => .ok (.gauge row.id value)
    | .integer _ => .error (.database .columnType)
  | .counter =>
    match row.delta with
    | .null => .ok (.counter row.id 0)
    | .integer delta => .ok (.counter row.id delta)
    | .real _ => .error (.database .columnType)
  | .unknown kind => .error (.storage (.unknownRowKind row.id kind))

def takeValue (written row : Row) : Option Row := some { row with value := written.value }

/-- The least integer, which cannot be written as the negation of one. -/
def least : Cell := .sub (.integer (-9223372036854775807)) (.integer 1)

def greatest : Cell := .integer 9223372036854775807

/-- Whether a written delta can be added to a stored one without leaving the integers. -/
def admits (stored written : Cell) : Bool :=
  let sum := stored.orElse (.integer 0)
  ((Cell.integer 0).le written && sum.le (greatest.sub written)) ||
    (written.lt (.integer 0) && (least.sub written).le sum)

/-- Adds the delta of a written row, unless the sum would leave the integers. -/
def addDelta (written row : Row) : Option Row :=
  if admits row.delta written.delta then
    some { row with delta := (row.delta.orElse (.integer 0)).add written.delta }
  else none

end Row

/-- Rows in the order in which they were inserted. -/
structure Table where
  rows : List Row
  /-- A table that can only be read. -/
  isReadOnly : Bool
  deriving DecidableEq, Repr

namespace Table

def empty : Table := ⟨[], false⟩

def row? (table : Table) (id kind : String) : Option Row :=
  table.rows.find? fun row => row.hasKey id kind

/-- Puts a row at the end or, where its key is taken, changes the row that holds it. The answer is
the number of rows written: none if the change is refused. -/
def upsert (onConflict : Row → Row → Option Row) (written : Row) (table : Table) : Nat × Table :=
  match table.row? written.id written.kind with
  | none => (1, { table with rows := table.rows ++ [written] })
  | some row =>
    match onConflict written row with
    | none => (0, table)
    | some changed =>
      let rows := table.rows.map fun row =>
        if row.hasKey written.id written.kind then changed else row
      (1, { table with rows := rows })

/-- Puts a row at the end in place of the one with its key. -/
def replace (written : Row) (table : Table) : Table :=
  let others := table.rows.filter fun row => !row.hasKey written.id written.kind
  { table with rows := others ++ [written] }

def apply (table : Table) (metric : Metric) : Except Failure Table :=
  let guarded (table : Table) : Except Failure Table :=
    if table.isReadOnly then .error (.database .readOnly) else .ok table
  match metric.kind, metric.value, metric.delta with
  | .gauge, some value, _ => do
    let table ← guarded table
    return (table.upsert Row.takeValue (.gauge metric.id value)).2
  | .counter, _, some delta => do
    let table ← guarded table
    match table.upsert Row.addDelta (.counter metric.id delta) with
    | (0, _) => .error (.badRequest (.overflow metric.id))
    | (_, table) => .ok table
  | _, _, _ => metric.validate.map fun _ => table

def save (metric : Metric) (key : String) (table : Table) : Except Failure Unit × Table :=
  let saved := do
    metric.admit key
    table.apply metric
  match saved with
  | .ok table => (.ok (), table)
  | .error failure => (.error failure, table)

def find (table : Table) (query : Metric) (key : String) : Except Failure Metric := do
  query.admitQuery
  query.answer (← (table.row? query.id query.kind.name).mapM Row.toMetric) key

/-- All metrics in the order of their rows, unless there is a row that holds none. -/
def all (table : Table) : Except Failure (List Metric) := table.rows.mapM Row.toMetric

def backend : Backend Table where
  name _ := "database"
  save := save
  find query key table := table.find query key
  all := all
  check _ := .ok ()

end Table

end Telemetry
