import StatementMapper.Rows

set_option autoImplicit false

namespace StatementMapper.Rows

def cells (width : Nat) (row : List Value) : List String := (row.take width).map Value.display

def widen : List Nat → List String → List Nat
  | width :: widths, cell :: rest => max width cell.utf8ByteSize :: widen widths rest
  | widths, _ => widths

def widths (rows : Rows) : List Nat :=
  rows.rows.foldl (fun widths row => widen widths (cells rows.columns.length row))
    (rows.columns.map String.utf8ByteSize)

def fill (width : Nat) (text : String) : String := text ++ String.ofList (List.replicate (width - text.length) ' ')

def line (widths : List Nat) (texts : List String) : String :=
  String.intercalate " | " (List.zipWith fill widths texts) ++ "\n"

def rule (widths : List Nat) : String :=
  String.intercalate "-+-" (widths.map fun width => String.ofList (List.replicate width '-')) ++ "\n"

def display (rows : Rows) : String :=
  if rows.columns.isEmpty then "Empty result set\n"
  else
    let widths := rows.widths
    let body := rows.rows.map fun row => line widths (cells rows.columns.length row)
    line widths rows.columns ++ rule widths ++ String.join body ++ "\n" ++ toString rows.count ++ " row(s)"

end StatementMapper.Rows
