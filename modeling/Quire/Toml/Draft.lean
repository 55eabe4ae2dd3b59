import Quire.Toml.Value

set_option autoImplicit false

/-!
Tables under construction. How a table came about decides what may still be added to it: a table
that headers so far only passed through may be opened by a header or extended by dotted keys,
whichever comes first, dotted keys may extend what dotted keys began, and values are closed.
-/

namespace Quire.Toml

inductive Origin where
  | header
  | passage
  /-- A dotted key made it, or added to it after headers had only passed through it. -/
  | dotted
  deriving DecidableEq

inductive Draft where
  | closed (value : Value)
  | table (origin : Origin) (entries : List (String × Draft))
  /-- Tables that share a header, the newest apart from the older ones, newest first. -/
  | tables (newest : List (String × Draft)) (older : List (List (String × Draft)))

abbrev Draft.Entries := List (String × Draft)

namespace Draft

mutual

def finish : Draft → Value
  | .closed value => value
  | .table _ entries => .table (finishEntries entries)
  | .tables newest older => .array (finishTables older [.table (finishEntries newest)])
termination_by structural draft => draft

def finishEntries : Entries → List (String × Value)
  | [] => []
  | (key, draft) :: entries => (key, draft.finish) :: finishEntries entries
termination_by structural entries => entries

def finishTables : List Entries → List Value → List Value
  | [], later => later
  | entries :: older, later => finishTables older (.table (finishEntries entries) :: later)
termination_by structural older => older

end

def alter (key : String) (change : Option Draft → Option Draft) : Entries → Option Entries
  | [] => (change none).map fun draft => [(key, draft)]
  | (other, draft) :: entries =>
      if other = key then (change (some draft)).map fun draft => (other, draft) :: entries
      else (alter key change entries).map ((other, draft) :: ·)

def assign (value : Value) (key : String) : List String → Entries → Option Entries
  | [] => alter key fun
      | none => some (.closed value)
      | some _ => none
  | step :: path => alter step fun
      | none => (assign value key path []).map (.table .dotted)
      | some (.table .dotted entries) | some (.table .passage entries) =>
          (assign value key path entries).map (.table .dotted)
      | some (.tables newest older) =>
          if path.isEmpty then none
          else (assign value key path newest).map fun newest => .tables newest older
      | some (.table .header _) | some (.closed _) => none

/-- Changes the table that the path of a header leads to; of tables that share a header, the
newest. -/
def inside (change : Entries → Option Entries) : List String → Entries → Option Entries
  | [] => change
  | step :: path => alter step fun
      | none => (inside change path []).map (.table .passage)
      | some (.table origin entries) => (inside change path entries).map (.table origin)
      | some (.tables newest older) =>
          (inside change path newest).map fun newest => .tables newest older
      | some (.closed _) => none

def openTable (path : List String) (key : String) : Entries → Option Entries :=
  inside (alter key fun
    | none => some (.table .header [])
    | some (.table .passage entries) => some (.table .header entries)
    | some _ => none) path

def openNext (path : List String) (key : String) : Entries → Option Entries :=
  inside (alter key fun
    | none => some (.tables [] [])
    | some (.tables newest older) => some (.tables [] (newest :: older))
    | some _ => none) path

end Draft
end Quire.Toml
