import StatementMapper.Bounds
import StatementMapper.Value

set_option autoImplicit false

namespace StatementMapper

structure Rows where
  columns : List String
  rows : List (List Value)
deriving DecidableEq

namespace Rows

def empty : Rows := ⟨[], []⟩

def count (rows : Rows) : Nat := rows.rows.length

def isEmpty (rows : Rows) : Bool := rows.rows.isEmpty

def sameColumn (a b : String) : Bool := a.toList.map Char.toLower == b.toList.map Char.toLower

def columnIndex? (name : String) (rows : Rows) : Option Nat := rows.columns.findIdx? (sameColumn name)

def get? (row : Nat) (column : String) (rows : Rows) : Option Value := do
  let position ← rows.columnIndex? column
  let cells ← rows.rows[row]?
  cells[position]?

def window (bounds : Bounds) (rows : Rows) : Rows :=
  if bounds.offset = 0 ∧ rows.count ≤ bounds.limit then rows
  else { rows with rows := (rows.rows.drop bounds.offset).take bounds.limit }

theorem window_rows (bounds : Bounds) (rows : Rows) :
    (rows.window bounds).rows = (rows.rows.drop bounds.offset).take bounds.limit := by
  unfold window
  split
  · rename_i whole
    obtain ⟨start, enough⟩ := whole
    rw [start, List.drop_zero, List.take_of_length_le enough]
  · rfl

theorem window_columns (bounds : Bounds) (rows : Rows) : (rows.window bounds).columns = rows.columns := by
  unfold window
  split <;> rfl

end Rows

end StatementMapper
