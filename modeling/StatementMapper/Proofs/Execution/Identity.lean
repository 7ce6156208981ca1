import StatementMapper.Cache.Fingerprint
import StatementMapper.Proofs.Execution.Requests

set_option autoImplicit false

/-! Two queries have one key exactly when they agree in statement, window, SQL, values sent and environment. -/

namespace StatementMapper

namespace Cache

namespace HashedKey

variable {hash : Value → Int64}

-- Keys that were built part by part from an empty one.
inductive Built (hash : Value → Int64) : HashedKey → Prop where
  | empty : Built hash {}
  | add (part : Value) {key : HashedKey} (built : Built hash key) : Built hash (key.add hash part)

theorem hashed_add (part : Value) (parts : List Value) :
    Key.hashed hash ⟨parts ++ [part]⟩ = (Key.hashed hash ⟨parts⟩).add hash part := by
  simp only [Key.hashed, addAll, List.foldl_append, List.foldl_cons, List.foldl_nil]

theorem built_hashed {key : HashedKey} (built : Built hash key) : key = Key.hashed hash ⟨key.parts⟩ := by
  induction built with
  | empty => rfl
  | @add part key _ ih =>
      calc
        key.add hash part = (Key.hashed hash ⟨key.parts⟩).add hash part := by rw [← ih]
        _ = Key.hashed hash ⟨key.parts ++ [part]⟩ := (hashed_add part key.parts).symm

theorem built_add_all (parts : List Value) {key : HashedKey} (built : Built hash key) :
    Built hash (key.addAll hash parts) ∧ (key.addAll hash parts).parts = key.parts ++ parts := by
  induction parts generalizing key with
  | nil => exact ⟨built, (List.append_nil _).symm⟩
  | cons part rest ih =>
      obtain ⟨made, all⟩ := ih (built.add part)
      refine ⟨made, all.trans ?_⟩
      rw [add, List.append_assoc]
      rfl

theorem same_iff {one other : HashedKey} (built : Built hash one) (made : Built hash other) :
    one.same other = true ↔ one.parts = other.parts := by
  rw [same, decide_eq_true_iff]
  constructor
  · exact And.right
  · intro parts
    have numbers : one.numbers = other.numbers := by rw [built_hashed built, built_hashed made, parts]
    exact ⟨numbers, parts⟩

theorem hashed_same_iff (one other : Key) : (one.hashed hash).same (other.hashed hash) = true ↔ one = other := by
  obtain ⟨built, parts⟩ := built_add_all one.parts (.empty : Built hash {})
  obtain ⟨made, others⟩ := built_add_all other.parts (.empty : Built hash {})
  rw [Key.hashed, Key.hashed, same_iff built made, parts, others]
  exact Key.mk.injEq one.parts other.parts ▸ Iff.rfl

end HashedKey

end Cache

namespace Direct

open Cache (HashedKey)

variable {T W : Type}

theorem bound_value_iff (bound other : Nat) :
    boundValue bound = boundValue other ↔ min bound (Word.signedBound - 1) = min other (Word.signedBound - 1) := by
  constructor
  · exact bound_value_eq bound other
  · intro same
    rw [boundValue, same, boundValue]

structure Agree (settings other : Settings) (statement against : Statement) (bounds window : Bounds)
    (command sent : Command) : Prop where
  statement : statement.id = against.id
  offset : min bounds.offset (Word.signedBound - 1) = min window.offset (Word.signedBound - 1)
  limit : min bounds.limit (Word.signedBound - 1) = min window.limit (Word.signedBound - 1)
  sql : command.sql = sent.sql
  inputs : command.inputs.map Prod.snd = sent.inputs.map Prod.snd
  environment : settings.environment = other.environment

-- The values sent are as many as they may be; what ends them is that the environment is the one part behind them.
theorem key_of_eq_iff (settings other : Settings) (statement against : Statement) (bounds window : Bounds)
    (command sent : Command) :
    keyOf settings statement bounds command = keyOf other against window sent ↔
      Agree settings other statement against bounds window command sent := by
  constructor
  · intro same
    have parts := congrArg Cache.Key.parts same
    simp only [keyOf, List.cons_append, List.nil_append, List.cons.injEq] at parts
    obtain ⟨id, offset, limit, sql, rest⟩ := parts
    obtain ⟨inputs, last⟩ := List.append_inj' rest rfl
    exact ⟨Value.text.inj id, bound_value_eq _ _ offset, bound_value_eq _ _ limit, Value.text.inj sql, inputs,
      Value.text.inj (List.cons.inj last).1⟩
  · intro agree
    rw [keyOf, keyOf, agree.statement, (bound_value_iff _ _).mpr agree.offset, (bound_value_iff _ _).mpr agree.limit,
      agree.sql, agree.inputs, agree.environment]

theorem keys_identify (hash : Value → Int64) (configuration other : Configuration (Stage T W))
    (database against : Database (Stage T W)) (statement second : Statement) (parameter rest : Parameter)
    (bounds window : Bounds) (command sent : Command) (stage later : Stage T W) (opened : stage.own.closed = false)
    (still : later.own.closed = false) :
    (∃ key again,
      ((executor configuration database).createKey statement parameter bounds command).run stage = (.ok key, stage) ∧
      ((executor other against).createKey second rest window sent).run later = (.ok again, later) ∧
      ((key.hashed hash).same (again.hashed hash) = true ↔
        Agree configuration.settings other.settings statement second bounds window command sent)) ∧
    ∀ one two : HashedKey, one.Built hash → two.Built hash → (one.same two = true ↔ one.parts = two.parts) := by
  refine ⟨⟨_, _, run_create_key configuration statement bounds command stage opened,
    run_create_key other second window sent later still, ?_⟩, fun one two built made => HashedKey.same_iff built made⟩
  rw [HashedKey.hashed_same_iff, key_of_eq_iff]

end Direct

namespace Typed

def sending (value : Value) : Command := ⟨"?", [mapping true], [value], [], .none⟩

-- Values that all have one hash are told apart by the parts; a limit beyond 63 bits and none are one part.
theorem keys_told_apart :
    (∃ key again,
      ((Direct.executor configuration database).createKey statement .none .all (sending (.integer 1))).run stage =
        (.ok key, stage) ∧
      ((Direct.executor configuration database).createKey statement .none ⟨0, Word.signedBound - 1⟩
        (sending (.integer 1))).run stage = (.ok again, stage) ∧
      (key.hashed fun _ => 0).same (again.hashed fun _ => 0) = true) ∧
    ∃ key again,
      ((Direct.executor configuration database).createKey statement .none .all (sending (.integer 1))).run stage =
        (.ok key, stage) ∧
      ((Direct.executor configuration database).createKey statement .none .all (sending (.text "1"))).run stage =
        (.ok again, stage) ∧
      (key.hashed fun _ => 0).numbers = (again.hashed fun _ => 0).numbers ∧
      (key.hashed fun _ => 0).same (again.hashed fun _ => 0) = false := by
  have identify (window : Bounds) (other : Value) := (Direct.keys_identify (fun _ => 0) configuration configuration
    database database statement statement .none .none .all window (sending (.integer 1)) (sending other) stage stage
    rfl rfl).1
  constructor
  · obtain ⟨key, again, made, remade, same⟩ := identify ⟨0, Word.signedBound - 1⟩ (.integer 1)
    exact ⟨key, again, made, remade, same.mpr ⟨rfl, rfl, by decide, rfl, rfl, rfl⟩⟩
  · obtain ⟨key, again, made, remade, same⟩ := identify .all (.text "1")
    refine ⟨key, again, made, remade, ?_, Bool.eq_false_iff.mpr fun told => ?_⟩
    · cases made
      cases remade
      rfl
    · have sent := (same.mp told).inputs
      exact nomatch sent

end Typed

end StatementMapper
