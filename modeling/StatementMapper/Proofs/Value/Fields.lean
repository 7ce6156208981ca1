import StatementMapper.Document
import StatementMapper.Proofs.Table

set_option autoImplicit false

namespace StatementMapper

namespace Value

def Ordered (fields : List (String × Value)) : Prop := fields.Pairwise fun field other => field.1 < other.1

theorem get_put_field (name : String) (value : Value) (fields : List (String × Value)) :
    (fun query => Table.get? query (putField name value fields)) =
      Table.assign (fun query => Table.get? query fields) (name, value) := by
  funext query
  induction fields with
  | nil => rfl
  | cons field rest ih =>
      rcases field with ⟨other, old⟩
      by_cases same : name = other
      · subst same
        by_cases asked : query = name
        · simp [putField, Table.get?, Table.assign, asked]
        · simp [putField, Table.get?, Table.assign, asked]
      · by_cases before : name < other
        · simp [putField, Table.get?, Table.assign, same, before]
        · rw [putField, if_neg same, if_neg before]
          by_cases asked : query = other
          · have differs : query ≠ name := fun here => same (here.symm.trans asked)
            simp [Table.get?, Table.assign, asked, Ne.symm same]
          · simpa [Table.get?, Table.assign, asked] using ih

theorem mem_put_field (name : String) (value : Value) (fields : List (String × Value)) (field : String × Value)
    (member : field ∈ putField name value fields) : field = (name, value) ∨ field ∈ fields := by
  induction fields with
  | nil => exact Or.inl (List.mem_singleton.mp member)
  | cons first rest ih =>
      rcases first with ⟨other, old⟩
      by_cases same : name = other
      · rw [putField, if_pos same] at member
        exact (List.mem_cons.mp member).imp_right (List.mem_cons_of_mem _)
      · by_cases before : name < other
        · rw [putField, if_neg same, if_pos before] at member
          exact List.mem_cons.mp member
        · rw [putField, if_neg same, if_neg before] at member
          rcases List.mem_cons.mp member with here | later
          · exact Or.inr (here ▸ List.mem_cons_self)
          · exact (ih later).imp_right (List.mem_cons_of_mem _)

theorem ordered_put_field (name : String) (value : Value) (fields : List (String × Value)) (ordered : Ordered fields) :
    Ordered (putField name value fields) := by
  induction fields with
  | nil => exact List.pairwise_singleton _ _
  | cons first rest ih =>
      rcases first with ⟨other, old⟩
      obtain ⟨above, below⟩ := List.pairwise_cons.mp ordered
      by_cases same : name = other
      · rw [putField, if_pos same]
        exact List.pairwise_cons.mpr ⟨fun field member => same ▸ above field member, below⟩
      · by_cases before : name < other
        · rw [putField, if_neg same, if_pos before]
          apply List.Pairwise.cons _ ordered
          intro field member
          rcases List.mem_cons.mp member with rfl | later
          · exact before
          · exact String.lt_trans before (above field later)
        · rw [putField, if_neg same, if_neg before]
          apply List.Pairwise.cons _ (ih below)
          intro field member
          rcases mem_put_field name value rest field member with rfl | later
          · exact Std.lt_of_le_of_ne (String.not_lt.mp before) (Ne.symm same)
          · exact above field later

theorem get_below (name : String) (fields : List (String × Value)) (below : ∀ field ∈ fields, name < field.1) :
    Table.get? name fields = none := by
  apply (Table.get_none_iff name fields).mpr
  intro member
  obtain ⟨field, there, same⟩ := List.mem_map.mp member
  exact String.lt_irrefl name (same ▸ below field there)

theorem ordered_first (name : String) (value : Value) (first : String × Value) (rest : List (String × Value))
    (ordered : Ordered (first :: rest)) (found : Table.get? name (first :: rest) = some value) : first.1 ≤ name := by
  apply String.not_lt.mp
  intro before
  have missing := get_below name (first :: rest) fun field member => by
    rcases List.mem_cons.mp member with rfl | later
    · exact before
    · exact String.lt_trans before ((List.pairwise_cons.mp ordered).1 field later)
  exact nomatch missing.symm.trans found

-- Ordered fields are told by what they answer.
theorem ordered_ext (first second : List (String × Value)) (ordered : Ordered first) (sorted : Ordered second)
    (same : ∀ name, Table.get? name first = Table.get? name second) : first = second := by
  induction first generalizing second with
  | nil =>
      cases second with
      | nil => rfl
      | cons field rest => exact nomatch (same field.1).trans (if_pos rfl)
  | cons field rest ih =>
      rcases field with ⟨name, value⟩
      have found : Table.get? name second = some value := (same name).symm.trans (if_pos rfl)
      cases second with
      | nil => exact nomatch found
      | cons field more =>
          rcases field with ⟨other, held⟩
          have answered : Table.get? other ((name, value) :: rest) = some held := (same other).trans (if_pos rfl)
          have names : name = other := by
            apply String.le_antisymm
            · exact ordered_first other held _ rest ordered answered
            · exact ordered_first name value _ more sorted found
          subst names
          have values : held = value := Option.some.inj ((if_pos rfl).symm.trans found)
          subst values
          obtain ⟨above, below⟩ := List.pairwise_cons.mp ordered
          obtain ⟨beyond, tail⟩ := List.pairwise_cons.mp sorted
          rw [ih more below tail]
          intro query
          by_cases here : query = name
          · rw [here, get_below name rest above, get_below name more beyond]
          · simpa [Table.get?, here] using same query

def written (fields : List (String × Value)) : List (String × Value) :=
  fields.foldl (fun sorted field => putField field.1 field.2 sorted) []

theorem ordered_written (fields : List (String × Value)) : Ordered (written fields) := by
  have kept (before : List (String × Value)) (ordered : Ordered before) :
      Ordered (fields.foldl (fun sorted field => putField field.1 field.2 sorted) before) := by
    induction fields generalizing before with
    | nil => exact ordered
    | cons field rest ih => exact ih _ (ordered_put_field field.1 field.2 before ordered)
  exact kept [] List.Pairwise.nil

theorem get_of_fields (name : String) (fields : List (String × Value)) :
    get? name (ofFields fields) = fields.foldl Table.assign (fun _ => none) name := by
  have answers (before : List (String × Value)) :
      (fun query => Table.get? query (fields.foldl (fun sorted field => putField field.1 field.2 sorted) before)) =
        fields.foldl Table.assign (fun query => Table.get? query before) := by
    induction fields generalizing before with
    | nil => rfl
    | cons field rest ih =>
        rw [List.foldl_cons, ih, get_put_field]
        rfl
  exact congrFun (answers []) name

theorem of_fields_congr (first second : List (String × Value))
    (same : ∀ name, get? name (ofFields first) = get? name (ofFields second)) : ofFields first = ofFields second :=
  congrArg map (ordered_ext (written first) (written second) (ordered_written first) (ordered_written second) same)

end Value

namespace Document

theorem to_fields_eq (fields : List (String × Document)) :
    toFields fields = fields.map fun field => (field.1, field.2.toValue) := by
  induction fields with
  | nil => rw [toFields, List.map_nil]
  | cons field rest ih =>
      rcases field with ⟨name, item⟩
      rw [toFields, ih, List.map_cons]

theorem to_values_eq (items : List Document) : toValues items = items.map toValue := by
  induction items with
  | nil => rw [toValues, List.map_nil]
  | cons item rest ih => rw [toValues, ih, List.map_cons]

-- A field of an object, looked up before or after the object has become a map.
theorem get_object (name : String) (fields : List (String × Document)) :
    Value.get? name (object fields).toValue = (field? name fields).map toValue := by
  have follows (found : Option Document) (lookup : String → Option Value) (same : lookup name = found.map toValue) :
      (toFields fields).foldl Table.assign lookup name =
        (fields.foldl (fun found field => if field.1 = name then some field.2 else found) found).map toValue := by
    rw [to_fields_eq]
    induction fields generalizing found lookup with
    | nil => exact same
    | cons field rest ih =>
        apply ih
        by_cases here : field.1 = name
        · simp [Table.assign, here]
        · simp [Table.assign, here, Ne.symm here, same]
  rw [toValue, Value.get_of_fields]
  exact follows none (fun _ => none) rfl

end Document

end StatementMapper
