import StatementMapper.Parameter
import StatementMapper.Proofs.Text
import StatementMapper.Proofs.Value.Fields

set_option autoImplicit false

namespace StatementMapper

namespace Value

theorem get_segments_append (first second : List String) (value : Value) :
    getSegments? (first ++ second) value = (getSegments? first value).bind (getSegments? second) := by
  induction first generalizing value with
  | nil => rfl
  | cons segment rest ih =>
      rw [List.cons_append, getSegments?, getSegments?, Option.bind_assoc]
      apply congrArg
      funext found
      exact ih found

theorem segments_dotted (path rest : String) : segments (path ++ "." ++ rest) = segments path ++ segments rest := by
  have text : (path ++ "." ++ rest).toList = path.toList ++ '.' :: rest.toList := by simp
  rw [segments, text, Text.split_append, List.map_append]
  rfl

theorem get_path_dotted (path rest : String) (value : Value) :
    value.getPath? (path ++ "." ++ rest) = (value.getPath? path).bind (getPath? rest) := by
  rw [getPath?, segments_dotted, get_segments_append]
  rfl

theorem get_path_split (path : String) (value : Value) :
    value.getPath? path = (value.get? (splitPath path).1).bind (Parameter.follow? (splitPath path).2) := by
  rw [getPath?, segments, Text.split_at_first, splitPath]
  rcases Text.splitFirst '.' path.toList with ⟨head, rest⟩
  rw [List.map_cons, getSegments?]
  apply congrArg
  funext found
  cases rest with
  | none => rfl
  | some text => simp [Parameter.follow?, getPath?, segments]

end Value

namespace Document

theorem get_to_value (segment : String) (document : Document) :
    Value.get? segment document.toValue = (document.get? segment).map toValue := by
  cases document with
  | object fields => exact get_object segment fields
  | array items =>
      rw [toValue, to_values_eq, Value.get?, get?]
      cases Text.bounded? Word.bound64 segment.toList with
      | none => rfl
      | some index => exact List.getElem?_map
  | integer n =>
      rw [toValue]
      by_cases fits : Word.fits n
      · rw [if_pos fits]
        rfl
      · rw [if_neg fits]
        rfl
  | _ =>
      rw [toValue]
      rfl

theorem get_segments_to_value (segments : List String) (document : Document) :
    Value.getSegments? segments document.toValue = (getSegments? segments document).map toValue := by
  induction segments generalizing document with
  | nil => rfl
  | cons segment rest ih =>
      rw [Value.getSegments?, getSegments?, get_to_value]
      cases document.get? segment with
      | none => rfl
      | some found => exact ih found

theorem get_path_to_value (path : String) (document : Document) :
    document.toValue.getPath? path = (document.getPath? path).map toValue :=
  get_segments_to_value (Value.segments path) document

theorem is_scalar_to_value (document : Document) : document.toValue.isScalar = document.isScalar := by
  cases document with
  | integer n =>
      rw [toValue]
      by_cases fits : Word.fits n
      · rw [if_pos fits]
        rfl
      · rw [if_neg fits]
        rfl
  | _ =>
      rw [toValue]
      rfl

end Document

end StatementMapper
