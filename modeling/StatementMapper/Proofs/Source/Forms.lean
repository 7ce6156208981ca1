import Mathlib
import StatementMapper.Proofs.Command
import StatementMapper.Proofs.Template.Parameters
import StatementMapper.Proofs.Value.Paths
import StatementMapper.Source

set_option autoImplicit false

/-! A document, its value and a table of its fields make the same commands and fail for the same reasons. -/

namespace StatementMapper

open Outcome (Related related_refl related_bind related_map)

structure Document.Tabled (fields : List (String × Document)) (table : Table String Value) : Prop where
  distinct : table.Distinct
  fields : ∀ name, Table.get? name table = (Document.field? name fields).map Document.toValue

theorem Document.tabled_of_list (fields : List (String × Document)) :
    Document.Tabled fields (Table.ofList (Document.toFields fields)) := by
  have put (entries : List (String × Value)) (table : Table String Value) (distinct : table.Distinct) :
      (entries.foldl (fun table entry => Table.put entry.1 entry.2 table) table).Distinct ∧
        (fun name => Table.get? name (entries.foldl (fun table entry => Table.put entry.1 entry.2 table) table)) =
          entries.foldl Table.assign (fun name => Table.get? name table) := by
    induction entries generalizing table with
    | nil => exact ⟨distinct, rfl⟩
    | cons entry rest ih =>
        obtain ⟨once, answers⟩ := ih _ (Table.distinct_put entry.1 entry.2 table distinct)
        exact ⟨once, by rw [List.foldl_cons, answers, Table.get_put]; rfl⟩
  obtain ⟨distinct, answers⟩ := put (Document.toFields fields) [] Table.distinct_nil
  constructor
  · exact distinct
  · intro name
    rw [← Document.get_object, Document.toValue, Value.get_of_fields]
    exact congrFun answers name

namespace Parameter

-- Parameter objects that answer alike to all that is asked of them.
structure Alike (parameter other : Parameter) : Prop where
  absent : parameter.isNone = other.isNone
  scalar : parameter.isScalar = other.isScalar
  whole : parameter.toValue = other.toValue
  lookup : ∀ path, parameter.lookup? path = other.lookup? path

theorem document_alike (document : Document) : Alike (.document document) (.value document.toValue) where
  absent := rfl
  scalar := (Document.is_scalar_to_value document).symm
  whole := rfl
  lookup path := (Document.get_path_to_value path document).symm

theorem table_alike (fields : List (String × Document)) (table : Table String Value)
    (tabled : Document.Tabled fields table) : Alike (.document (.object fields)) (.table table) where
  absent := rfl
  scalar := rfl
  whole := by
    rw [toValue, toValue, Document.toValue]
    apply Value.of_fields_congr
    intro name
    rw [← Document.toValue, Document.get_object, ← tabled.fields, Value.get_of_fields,
      Table.foldl_assign table tabled.distinct, Option.or_none]
  lookup path := by
    rw [lookup?, ← Document.get_path_to_value, Value.get_path_split, Document.get_object, ← tabled.fields]
    rfl

end Parameter

namespace Command

variable {parameter other : Parameter} (alike : Parameter.Alike parameter other)

include alike

theorem resolve_in_alike (property : String) : resolveIn? parameter property = resolveIn? other property := by
  rw [resolveIn?, resolveIn?, alike.absent, alike.scalar, alike.whole, alike.lookup]

theorem value_of_alike (bindings : Table String Value) (mapping : Mapping) :
    valueOf parameter bindings mapping = valueOf other bindings mapping := by
  have resolved : resolve? parameter bindings mapping.property = resolve? other bindings mapping.property := by
    rw [resolve?, resolve?, resolve_in_alike alike]
  rw [valueOf, valueOf, resolved]

end Command

structure Command.Alike (command other : Command) : Prop where
  sql : command.sql = other.sql
  mappings : command.mappings = other.mappings
  values : command.values = other.values
  bindings : command.bindings = other.bindings

theorem Command.bind_alike {parameter other : Parameter} (alike : Parameter.Alike parameter other) (sql : String)
    (mappings : List Mapping) (bindings : Table String Value) :
    Related Command.Alike (Command.bind sql mappings parameter bindings) (Command.bind sql mappings other bindings) := by
  have values := values_of_each parameter other bindings bindings mappings fun mapping _ =>
    value_of_alike alike bindings mapping
  rw [Command.bind, Command.bind, values]
  apply related_map (related_refl _)
  rintro sent _ rfl
  exact ⟨rfl, rfl, rfl, rfl⟩

namespace Source

open Template

variable {parameter other : Parameter} (alike : Parameter.Alike parameter other) (database : Option String)

include alike

theorem root_alike : Scope.Alike (Scope.root parameter database) (Scope.root other database) := by
  have base : Scope.Alike ⟨[[]], parameter⟩ ⟨[[]], other⟩ := ⟨rfl, alike.lookup⟩
  rw [Scope.root, Scope.root, alike.scalar, alike.whole]
  apply Scope.alike_set
  apply Scope.alike_set
  by_cases scalar : other.isScalar = true
  · rw [if_pos scalar, if_pos scalar]
    exact Scope.alike_set base _ _
  · rw [if_neg scalar, if_neg scalar]
    exact base

theorem rendered_alike (root : Node) :
    rendered root (start parameter database) = rendered root (start other database) := by
  have begun : Rendering.Alike (start parameter database) (start other database) :=
    ⟨by rw [start, start, alike.whole], root_alike alike database⟩
  have same := Node.render_alike root _ _ begun
  rw [rendered, rendered]
  generalize root.render (start parameter database) = first at same ⊢
  generalize root.render (start other database) = second at same ⊢
  cases same with
  | ok carried => simp only [carried.2.draft]
  | error cause => rfl

theorem command_alike (source : Source) :
    Related Command.Alike (source.command parameter database) (source.command other database) := by
  cases source with
  | fixed sql mappings => exact Command.bind_alike alike sql mappings []
  | dynamic root squeeze =>
      rw [command, command, render, render, rendered_alike alike database root]
      apply related_bind (related_refl _)
      rintro ⟨text, bindings⟩ _ rfl
      apply related_bind (related_refl _)
      rintro ⟨sql, mappings⟩ _ rfl
      exact Command.bind_alike alike sql mappings bindings

end Source

namespace Parameter

def Interchangeable (parameter other : Parameter) : Prop :=
  (∀ (source : Source) (database : Option String),
    Related Command.Alike (source.command parameter database) (source.command other database)) ∧
  ∀ path, parameter.lookup? path = other.lookup? path

theorem interchangeable (parameter other : Parameter) (alike : Alike parameter other) :
    Interchangeable parameter other :=
  ⟨fun source database => Source.command_alike alike database source, alike.lookup⟩

theorem forms_interchangeable (document : Document) :
    Interchangeable (.document document) (.value document.toValue) ∧
    (∀ (fields : List (String × Document)) (table : Table String Value), document = .object fields →
      Document.Tabled fields table → Interchangeable (.document document) (.table table)) ∧
    ∀ (value : Value) (path rest : String),
      value.getPath? (path ++ "." ++ rest) = (value.getPath? path).bind (Value.getPath? rest) := by
  constructor
  · exact interchangeable _ _ (document_alike document)
  constructor
  · rintro fields table rfl tabled
    exact interchangeable _ _ (table_alike fields table tabled)
  · intro value path rest
    exact Value.get_path_dotted path rest value

def account : List (String × Document) :=
  [("name", .text "a"), ("owner", .object [("tags", .array [.text "b", .text "c"])])]

def accountTable : Table String Value :=
  [("owner", .map [("tags", .list [.text "b", .text "c"])]), ("name", .text "a")]

theorem account_tabled : Document.Tabled account accountTable where
  distinct := by simp [Table.Distinct, Table.keys, accountTable]
  fields name := by
    by_cases owner : name = "owner"
    · subst owner
      rfl
    · by_cases named : name = "name"
      · subst named
        rfl
      · simp [account, accountTable, Table.get?, Document.field?, owner, named, Ne.symm owner, Ne.symm named]

theorem account_interchangeable :
    Interchangeable (.document (.object account)) (.table accountTable) ∧
      lookup? "owner.tags.1" (.document (.object account)) = some (.text "c") := by
  constructor
  · exact (forms_interchangeable (.object account)).2.1 account accountTable rfl account_tabled
  · cbv

end Parameter

end StatementMapper
