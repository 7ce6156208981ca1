import StatementMapper.Command
import StatementMapper.Proofs.Outcome

set_option autoImplicit false

namespace StatementMapper.Command

open Outcome (bind_ok bind_error)

def Unanswered (parameter : Parameter) (bindings : Table String Value) (mappings : List Mapping) : Prop :=
  ∃ mapping ∈ mappings, mapping.mode.isInput = true ∧ resolve? parameter bindings mapping.property = none

theorem value_of_error_iff (parameter : Parameter) (bindings : Table String Value) (mapping : Mapping) (fault : Fault) :
    valueOf parameter bindings mapping = .error fault ↔
      mapping.mode.isInput = true ∧ resolve? parameter bindings mapping.property = none ∧
        fault = .unboundProperty mapping.property := by
  unfold valueOf
  by_cases input : mapping.mode.isInput = true
  · rw [if_pos input]
    cases found : resolve? parameter bindings mapping.property with
    | none => simp [input, eq_comm]
    | some value => simp
  · rw [if_neg input]
    simp [input]

theorem value_of_ok_iff (parameter : Parameter) (bindings : Table String Value) (mapping : Mapping) (value : Value)
    (input : mapping.mode.isInput = true) :
    valueOf parameter bindings mapping = .ok value ↔ resolve? parameter bindings mapping.property = some value := by
  rw [valueOf, if_pos input]
  cases resolve? parameter bindings mapping.property with
  | none => simp
  | some found => simp

theorem values_of_cons_ok (parameter : Parameter) (bindings : Table String Value) (mapping : Mapping)
    (rest : List Mapping) (values : List Value) :
    valuesOf parameter bindings (mapping :: rest) = .ok values ↔
      ∃ value more, values = value :: more ∧ valueOf parameter bindings mapping = .ok value ∧
        valuesOf parameter bindings rest = .ok more := by
  rw [valuesOf, bind_ok]
  constructor
  · rintro ⟨value, first, found⟩
    obtain ⟨more, others, made⟩ := (bind_ok _ _ _).mp found
    cases made
    exact ⟨value, more, rfl, first, others⟩
  · rintro ⟨value, more, rfl, first, others⟩
    exact ⟨value, first, (bind_ok _ _ _).mpr ⟨more, others, rfl⟩⟩

theorem values_of_get (parameter : Parameter) (bindings : Table String Value) (mappings : List Mapping)
    (values : List Value) (found : valuesOf parameter bindings mappings = .ok values) :
    values.length = mappings.length ∧ ∀ (position : Nat) (mapping : Mapping) (value : Value),
      mappings[position]? = some mapping → values[position]? = some value →
        valueOf parameter bindings mapping = .ok value := by
  induction mappings generalizing values with
  | nil =>
      cases found
      exact ⟨rfl, fun _ _ _ there => nomatch there⟩
  | cons first rest ih =>
      obtain ⟨answer, more, rfl, first_found, rest_found⟩ := (values_of_cons_ok _ _ _ _ _).mp found
      obtain ⟨length, each⟩ := ih more rest_found
      refine ⟨congrArg (· + 1) length, fun position mapping value placed sent => ?_⟩
      cases position with
      | zero =>
          cases placed
          cases sent
          exact first_found
      | succ earlier => exact each earlier mapping value placed sent

theorem values_of_fails (parameter : Parameter) (bindings : Table String Value) (mappings : List Mapping)
    (unanswered : Unanswered parameter bindings mappings) :
    ∃ property, valuesOf parameter bindings mappings = .error (.unboundProperty property) := by
  obtain ⟨mapping, member, input, missing⟩ := unanswered
  have failing := (value_of_error_iff parameter bindings mapping _).mpr ⟨input, missing, rfl⟩
  induction mappings with
  | nil => exact nomatch member
  | cons first rest ih =>
      rw [valuesOf]
      cases answer : valueOf parameter bindings first with
      | error fault => exact ⟨first.property, by rw [((value_of_error_iff _ _ _ _).mp answer).2.2]; rfl⟩
      | ok value =>
          rcases List.mem_cons.mp member with same | later
          · rw [← same, failing] at answer
            exact nomatch answer
          · obtain ⟨property, others⟩ := ih later
            exact ⟨property, by rw [others]; rfl⟩

theorem values_of_error (parameter : Parameter) (bindings : Table String Value) (mappings : List Mapping)
    (fault : Fault) (failed : valuesOf parameter bindings mappings = .error fault) :
    ∃ mapping ∈ mappings, mapping.mode.isInput = true ∧ resolve? parameter bindings mapping.property = none ∧
      fault = .unboundProperty mapping.property := by
  induction mappings with
  | nil => cases failed
  | cons first rest ih =>
      rw [valuesOf] at failed
      obtain own | ⟨value, _, failed⟩ := (bind_error _ _ _).mp failed
      · exact ⟨first, List.mem_cons_self, (value_of_error_iff _ _ _ _).mp own⟩
      · obtain others | ⟨more, _, failed⟩ := (bind_error _ _ _).mp failed
        · obtain ⟨mapping, member, reason⟩ := ih others
          exact ⟨mapping, List.mem_cons_of_mem _ member, reason⟩
        · cases failed

theorem unanswered_of_error (parameter : Parameter) (bindings : Table String Value) (mappings : List Mapping)
    (fault : Fault) (failed : valuesOf parameter bindings mappings = .error fault) :
    Unanswered parameter bindings mappings := by
  obtain ⟨mapping, member, input, missing, _⟩ := values_of_error parameter bindings mappings fault failed
  exact ⟨mapping, member, input, missing⟩

theorem values_of_each (parameter other : Parameter) (bindings others : Table String Value) (mappings : List Mapping)
    (same : ∀ mapping ∈ mappings, valueOf parameter bindings mapping = valueOf other others mapping) :
    valuesOf parameter bindings mappings = valuesOf other others mappings := by
  induction mappings with
  | nil => rfl
  | cons first rest ih =>
      have first_same := same first List.mem_cons_self
      have rest_same := ih fun mapping member => same mapping (List.mem_cons_of_mem _ member)
      rw [valuesOf, valuesOf, first_same, rest_same]

theorem values_of_congr (parameter : Parameter) (bindings others : Table String Value) (mappings : List Mapping)
    (same : ∀ mapping ∈ mappings, valueOf parameter bindings mapping = valueOf parameter others mapping) :
    valuesOf parameter bindings mappings = valuesOf parameter others mappings :=
  values_of_each parameter parameter bindings others mappings same

theorem value_of_same (parameter : Parameter) (bindings others : Table String Value) (mappings : List Mapping)
    (values : List Value) (here : valuesOf parameter bindings mappings = .ok values)
    (there : valuesOf parameter others mappings = .ok values) :
    ∀ mapping ∈ mappings, valueOf parameter bindings mapping = valueOf parameter others mapping := by
  induction mappings generalizing values with
  | nil => exact fun mapping member => nomatch member
  | cons first rest ih =>
      obtain ⟨value, more, rfl, first_here, rest_here⟩ := (values_of_cons_ok _ _ _ _ _).mp here
      obtain ⟨other, tail, shape, first_there, rest_there⟩ := (values_of_cons_ok _ _ _ _ _).mp there
      cases shape
      intro mapping member
      rcases List.mem_cons.mp member with rfl | later
      · rw [first_here, first_there]
      · exact ih more rest_here rest_there mapping later

end StatementMapper.Command
