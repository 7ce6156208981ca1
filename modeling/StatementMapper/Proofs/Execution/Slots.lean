import Mathlib
import StatementMapper.Proofs.Execution.Requests
import StatementMapper.Proofs.Template.Segments

set_option autoImplicit false

/-! The markers, mappings, values and slots of a request are those of the tokens of its text, in their order. -/

namespace StatementMapper

open Outcome (map_ok)

namespace Slot

theorem get_number (index position : Nat) (pairs : List (Mapping × Value)) :
    (number index pairs)[position]? = pairs[position]?.map fun pair => ofMapping (index + position) pair.1 pair.2 := by
  induction pairs generalizing index position with
  | nil => rfl
  | cons pair rest ih =>
      cases position with
      | zero => rfl
      | succ earlier =>
          have moved : index + 1 + earlier = index + (earlier + 1) := by omega
          rw [number, List.getElem?_cons_succ, List.getElem?_cons_succ, ih, moved]

theorem length_number (index : Nat) (pairs : List (Mapping × Value)) : (number index pairs).length = pairs.length := by
  induction pairs generalizing index with
  | nil => rfl
  | cons pair rest ih => exact congrArg (· + 1) (ih (index + 1))

structure Fits (position : Nat) (mapping : Mapping) (value : Value) (slot : Slot) : Prop where
  index : slot.index = position + 1
  hints : slot.hints = mapping.hints
  absent : slot.value = none ↔ mapping.mode = .output
  sent : ∀ given, slot.value = some given → given = value

theorem fits_of_mapping (position : Nat) (mapping : Mapping) (value : Value) :
    Fits position mapping value (ofMapping (1 + position) mapping value) where
  index := Nat.add_comm 1 position
  hints := rfl
  absent := by
    rw [ofMapping]
    cases mapping.mode with
    | input => simp [Mode.isInput]
    | output => simp [Mode.isInput]
    | both => simp [Mode.isInput]
  sent given found := by
    by_cases input : mapping.mode.isInput = true
    · rw [ofMapping, if_pos input, Option.some.injEq] at found
      exact found.symm
    · rw [ofMapping, if_neg input] at found
      cases found

end Slot

-- A request with one slot for each token, in their order.
structure Request.Carries (tokens : List (List Char)) (command : Command) (request : Request) : Prop where
  count : request.slots.length = tokens.length
  each : ∀ (position : Nat) (token : List Char), tokens[position]? = some token →
    ∃ mapping value slot, Mapping.parse token = .ok mapping ∧ command.values[position]? = some value ∧
      request.slots[position]? = some slot ∧ slot.Fits position mapping value
  inputs : request.inputs = command.inputs.map Prod.snd

theorem Request.carries_of_command (tokens : List (List Char)) (command : Command) (request : Request)
    (parsed : tokens.map Mapping.parse = command.mappings.map .ok)
    (valued : command.values.length = command.mappings.length) :
    Carries tokens command { request with slots := Slot.ofCommand command } where
  count := by
    have same := congrArg List.length parsed
    rw [List.length_map, List.length_map] at same
    rw [Slot.ofCommand, Slot.length_number, List.length_zip, valued, same, Nat.min_self]
  each := by
    intro position token found
    have answered : (command.mappings[position]?).map Except.ok = some (Mapping.parse token) := by
      rw [← List.getElem?_map, ← parsed, List.getElem?_map, found, Option.map_some]
    obtain ⟨mapping, placed, answer⟩ := Option.map_eq_some_iff.mp answered
    obtain ⟨within, _⟩ := List.getElem?_eq_some_iff.mp placed
    have sent : command.values[position]? = some command.values[position] :=
      List.getElem?_eq_getElem (valued ▸ within)
    have paired : (command.mappings.zip command.values)[position]? = some (mapping, command.values[position]) :=
      List.getElem?_zip_eq_some.mpr ⟨placed, sent⟩
    refine ⟨mapping, _, _, answer.symm, sent, ?_, Slot.fits_of_mapping position mapping _⟩
    rw [Slot.ofCommand, Slot.get_number, paired, Option.map_some]
  inputs := Slot.inputs_of_command command

namespace Template

theorem markers_aligned (squeeze : Bool) (text : List Char) :
    (∀ sql mappings, bindPlaceholders squeeze text = .ok (sql, mappings) ↔
      (tokensOf text).map Mapping.parse = mappings.map .ok ∧
        sql = if squeeze then Text.squeeze (shownOf text) else shownOf text) ∧
    (∀ cause, bindPlaceholders squeeze text = .error cause ↔ FailsFirst cause (tokensOf text)) ∧
    ∀ sql mappings parameter bindings command, bindPlaceholders squeeze text = .ok (sql, mappings) →
      Command.bind (String.ofList sql) mappings parameter bindings = .ok command →
        command.sql = String.ofList sql ∧ command.mappings = mappings ∧ command.values.length = mappings.length ∧
        (∀ (position : Nat) (mapping : Mapping) (value : Value), mappings[position]? = some mapping →
          command.values[position]? = some value → Command.valueOf parameter bindings mapping = .ok value) ∧
        ∀ (S : Type) (request : Request) (state : S), ∃ sent,
          ((ParameterHandler.ofCommand command).setParameters request).run state = (.ok sent, state) ∧
            sent = { request with slots := sent.slots } ∧ sent.Carries (tokensOf text) command := by
  constructor
  · exact bind_ok_iff squeeze text
  constructor
  · exact bind_error_iff squeeze text
  · intro sql mappings parameter bindings command bound made
    obtain ⟨parsed, _⟩ := (bind_ok_iff squeeze text sql mappings).mp bound
    obtain ⟨values, found, rfl⟩ := (map_ok _ _ _).mp made
    obtain ⟨valued, each⟩ := Command.values_of_get parameter bindings mappings values found
    refine ⟨rfl, rfl, valued, each, fun S request state => ?_⟩
    exact ⟨_, rfl, rfl, Request.carries_of_command (tokensOf text) _ request parsed valued⟩

-- A call with an input, an escaped placeholder, a question mark of its own and an output.
def callText : List Char :=
  "\x7bcall total(#\x7bid\x7d, '\\#\x7bno\x7d?', #\x7bsum, mode=OUT, jdbcType=DECIMAL\x7d)\x7d".toList

def callMappings : List Mapping :=
  [{ property := "id" }, { property := "sum", mode := .output, jdbcType := some "DECIMAL" }]

theorem call_aligned :
    tokensOf callText = ["id".toList, "sum, mode=OUT, jdbcType=DECIMAL".toList] ∧
      shownOf callText = "\x7bcall total(?, '#\x7bno\x7d?', ?)\x7d".toList ∧
      bindPlaceholders false callText = .ok (shownOf callText, callMappings) ∧
      ∃ command, Command.bind (String.ofList (shownOf callText)) callMappings (.value (.integer 3)) [] = .ok command ∧
        command.values = [.integer 3, .null] ∧
        ∀ request, ∃ sent, ((ParameterHandler.ofCommand command).setParameters request).run () = (.ok sent, ()) ∧
          sent.Carries (tokensOf callText) command := by
  have tokens : tokensOf callText = ["id".toList, "sum, mode=OUT, jdbcType=DECIMAL".toList] := by decide +kernel
  have shown : shownOf callText = "\x7bcall total(?, '#\x7bno\x7d?', ?)\x7d".toList := by decide +kernel
  obtain ⟨binds, _, aligned⟩ := markers_aligned false callText
  have bound : bindPlaceholders false callText = .ok (shownOf callText, callMappings) :=
    (binds _ _).mpr ⟨by rw [tokens]; cbv, rfl⟩
  have made : Command.bind (String.ofList (shownOf callText)) callMappings (.value (.integer 3)) [] = .ok
      ⟨String.ofList (shownOf callText), callMappings, [.integer 3, .null], [], .value (.integer 3)⟩ := rfl
  refine ⟨tokens, shown, bound, _, made, rfl, fun request => ?_⟩
  obtain ⟨_, _, _, _, carries⟩ := aligned _ _ _ _ _ bound made
  obtain ⟨sent, ran, _, carried⟩ := carries Unit request ()
  exact ⟨sent, ran, carried⟩

end Template

end StatementMapper
