import StatementMapper.Execution.Direct

set_option autoImplicit false

namespace StatementMapper

namespace Direct

def keyFor (settings : Settings) (id : String) (bounds : Bounds) (sql : String) (inputs : List Value) : Cache.Key :=
  ⟨[.text id, boundValue bounds.offset, boundValue bounds.limit, .text sql] ++ inputs ++ [.text settings.environment]⟩

theorem key_of_eq (settings : Settings) (statement : Statement) (bounds : Bounds) (command : Command) :
    keyOf settings statement bounds command =
      keyFor settings statement.id bounds command.sql (command.inputs.map Prod.snd) := rfl

theorem bound_value_eq (bound other : Nat) (same : boundValue bound = boundValue other) :
    min bound (Word.signedBound - 1) = min other (Word.signedBound - 1) := by
  have small (n : Nat) : (Int64.ofNat (min n (Word.signedBound - 1))).toInt = ((min n (Word.signedBound - 1) : Nat) : Int) :=
    Int64.toInt_ofNat_of_lt (by unfold Word.signedBound; omega)
  have words := congrArg Int64.toInt (Value.integer.inj same)
  rw [small, small] at words
  omega

theorem key_for_inj (settings : Settings) (id other : String) (bounds window : Bounds) (sql text : String)
    (inputs values : List Value) (same : keyFor settings id bounds sql inputs = keyFor settings other window text values) :
    id = other ∧ boundValue bounds.offset = boundValue window.offset ∧
      boundValue bounds.limit = boundValue window.limit ∧ sql = text ∧ inputs = values := by
  have parts := congrArg Cache.Key.parts same
  simp only [keyFor, List.cons_append, List.nil_append, List.cons.injEq] at parts
  obtain ⟨first, offset, limit, words, rest⟩ := parts
  exact ⟨Value.text.inj first, offset, limit, Value.text.inj words, List.append_cancel_right rest⟩

end Direct

namespace Rows

-- Bounds beyond what can be counted skip all or take all.
theorem window_congr (rows : Rows) (bounds window : Bounds) (countable : rows.count < Word.signedBound)
    (offset : Direct.boundValue bounds.offset = Direct.boundValue window.offset)
    (limit : Direct.boundValue bounds.limit = Direct.boundValue window.limit) :
    rows.window bounds = rows.window window := by
  have skip := Direct.bound_value_eq _ _ offset
  have take := Direct.bound_value_eq _ _ limit
  unfold count at countable
  have skipped : rows.rows.drop bounds.offset = rows.rows.drop window.offset := by
    by_cases same : bounds.offset = window.offset
    · rw [same]
    · rw [List.drop_eq_nil_of_le (by omega), List.drop_eq_nil_of_le (by omega)]
  have taken : (rows.rows.drop window.offset).take bounds.limit = (rows.rows.drop window.offset).take window.limit := by
    by_cases same : bounds.limit = window.limit
    · rw [same]
    · rw [List.take_of_length_le (by rw [List.length_drop]; omega),
        List.take_of_length_le (by rw [List.length_drop]; omega)]
  have shape (bounds : Bounds) : rows.window bounds = ⟨rows.columns, (rows.rows.drop bounds.offset).take bounds.limit⟩ := by
    rw [← window_rows, ← window_columns bounds]
  rw [shape, shape, skipped, taken]

end Rows

end StatementMapper
