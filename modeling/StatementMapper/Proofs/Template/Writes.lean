import StatementMapper.Proofs.Template.Nesting

set_option autoImplicit false

namespace StatementMapper.Template

namespace Loop

-- A generated name tells the variable and the number, whatever the variable is called.
theorem bound_name_iff (name other : String) (number next : Nat) :
    boundName name number = boundName other next ↔ name = other ∧ number = next := by
  constructor
  · intro same
    obtain rfl := bound_name_number name other number next same
    have lists := congrArg String.toList same
    rw [bound_name_list, bound_name_list, List.append_left_inj, List.append_left_inj, List.append_right_inj] at lists
    exact ⟨String.toList_inj.mp lists, rfl⟩
  · rintro ⟨rfl, rfl⟩
    rfl

def Generated (name : String) : Prop := "__frch_".toList <+: name.toList

theorem bound_name_generated (name : String) (number : Nat) : Generated (boundName name number) := by
  rw [Generated, bound_name_list, List.append_assoc, List.append_assoc]
  exact List.prefix_append _ _

end Loop

open Loop (boundName Generated)

-- A value that is bound on the way: for a variable of the iteration with a number, or by a bind.
inductive Write where
  | loop (name : String) (number : Nat) (value : Value)
  | bind (name : String) (value : Value)

namespace Write

def key : Write → String
  | loop name number _ => boundName name number
  | bind name _ => name

def value : Write → Value
  | loop _ _ value => value
  | bind _ value => value

def number? : Write → Option Nat
  | loop _ number _ => some number
  | bind _ _ => none

def Apart (one other : Write) : Prop := one.number?.isSome = true ∨ other.number?.isSome = true → one.key ≠ other.key

theorem key_generated {write : Write} {number : Nat} (own : write.number? = some number) : Generated write.key := by
  cases write with
  | loop name number value => exact Loop.bound_name_generated name number
  | bind name value => cases own

theorem key_number {one other : Write} {number next : Nat} (first : one.number? = some number)
    (second : other.number? = some next) (same : one.key = other.key) : number = next := by
  cases one with
  | bind name value => cases first
  | loop name number value =>
      cases other with
      | bind name value => cases second
      | loop other next value =>
          cases first
          cases second
          exact ((Loop.bound_name_iff _ _ _ _).mp same).2

def applied (writes : List Write) (before : Table String Value) : Table String Value :=
  writes.foldl (fun table write => Table.put write.key write.value table) before

theorem applied_append (first second : List Write) (before : Table String Value) :
    applied (first ++ second) before = applied second (applied first before) := List.foldl_append

theorem get_applied_other (writes : List Write) (before : Table String Value) (key : String)
    (absent : ∀ write ∈ writes, key ≠ write.key) : Table.get? key (applied writes before) = Table.get? key before := by
  induction writes generalizing before with
  | nil => rfl
  | cons write rest ih =>
      have later := ih (Table.put write.key write.value before) fun other member =>
        absent other (List.mem_cons_of_mem _ member)
      exact later.trans (Table.get_put_other (absent write List.mem_cons_self) write.value before)

theorem get_applied_loop (writes : List Write) (before : Table String Value) (apart : writes.Pairwise Apart)
    (write : Write) (member : write ∈ writes) (looped : write.number?.isSome = true) :
    Table.get? write.key (applied writes before) = some write.value := by
  induction writes generalizing before with
  | nil => cases member
  | cons first rest ih =>
      obtain ⟨alone, later⟩ := List.pairwise_cons.mp apart
      rcases List.mem_cons.mp member with rfl | there
      · have kept := get_applied_other rest (Table.put write.key write.value before) write.key fun other among =>
          alone other among (Or.inl looped)
        exact kept.trans (Table.get_put_same write.key write.value before)
      · exact ih _ later there

end Write

open Write (Apart applied)

-- What some writes are that are made on the way from a draft, to one of those that the way may end with.
structure Logged (writes : List Write) (start : Draft) (ends : Draft → Prop) : Prop where
  ungenerated : ∀ write ∈ writes, write.number? = none → ¬ Generated write.key
  above : ∀ write ∈ writes, ∀ number, write.number? = some number → start.next ≤ number
  apart : writes.Pairwise Apart
  later : ∀ draft, ends draft → start.next ≤ draft.next
  below : ∀ draft, ends draft → ∀ write ∈ writes, ∀ number, write.number? = some number → number < draft.next
  bindings : ∀ draft, ends draft → draft.bindings = applied writes start.bindings

namespace Logged

theorem none {start : Draft} {ends : Draft → Prop}
    (still : ∀ draft, ends draft → start.next ≤ draft.next ∧ draft.bindings = start.bindings) : Logged [] start ends where
  ungenerated := fun _ member => nomatch member
  above := fun _ member => nomatch member
  apart := .nil
  later := fun draft ended => (still draft ended).1
  below := fun _ _ _ member => nomatch member
  bindings := fun draft ended => (still draft ended).2

theorem reach {writes : List Write} {start : Draft} {ends other : Draft → Prop} (logged : Logged writes start ends)
    (reached : ∀ draft, other draft → ∃ last, ends last ∧ draft.next = last.next ∧ draft.bindings = last.bindings) :
    Logged writes start other where
  ungenerated := logged.ungenerated
  above := logged.above
  apart := logged.apart
  later draft ended := by
    obtain ⟨last, there, next, _⟩ := reached draft ended
    rw [next]
    exact logged.later last there
  below draft ended := by
    obtain ⟨last, there, next, _⟩ := reached draft ended
    rw [next]
    exact logged.below last there
  bindings draft ended := by
    obtain ⟨last, there, _, bindings⟩ := reached draft ended
    rw [bindings]
    exact logged.bindings last there

theorem since {writes : List Write} {start other : Draft} {ends : Draft → Prop} (logged : Logged writes start ends)
    (next : other.next = start.next) (bindings : other.bindings = start.bindings) : Logged writes other ends where
  ungenerated := logged.ungenerated
  above := next ▸ logged.above
  apart := logged.apart
  later := next ▸ logged.later
  below := logged.below
  bindings := bindings ▸ logged.bindings

theorem weaken {writes : List Write} {start : Draft} {ends other : Draft → Prop} (logged : Logged writes start ends)
    (reached : ∀ draft, other draft → ends draft) : Logged writes start other :=
  logged.reach fun draft ended => ⟨draft, reached draft ended, rfl, rfl⟩

theorem failed {writes : List Write} {start : Draft} {ends other : Draft → Prop} (logged : Logged writes start ends)
    (never : ∀ draft, ¬ other draft) : Logged writes start other :=
  logged.weaken fun draft ended => absurd ended (never draft)

theorem append {first second : List Write} {start middle : Draft} {reaches ends : Draft → Prop}
    (one : Logged first start reaches) (there : reaches middle) (other : Logged second middle ends) :
    Logged (first ++ second) start ends where
  ungenerated := List.forall_mem_append.mpr ⟨one.ungenerated, other.ungenerated⟩
  above := List.forall_mem_append.mpr ⟨one.above, fun write member number own =>
    Nat.le_trans (one.later middle there) (other.above write member number own)⟩
  apart := by
    refine List.pairwise_append.mpr ⟨one.apart, other.apart, fun write member next among looped same => ?_⟩
    cases left : write.number? with
    | none =>
        cases right : next.number? with
        | none => simp [left, right] at looped
        | some number => exact one.ungenerated write member left (same ▸ Write.key_generated right)
    | some number =>
        cases right : next.number? with
        | none => exact other.ungenerated next among right (same ▸ Write.key_generated left)
        | some behind =>
            have less := one.below middle there write member number left
            have more := other.above next among behind right
            exact absurd (Write.key_number left right same) (by omega)
  later := fun draft ended => Nat.le_trans (one.later middle there) (other.later draft ended)
  below := fun draft ended => List.forall_mem_append.mpr ⟨fun write member number own =>
    Nat.lt_of_lt_of_le (one.below middle there write member number own) (other.later draft ended), other.below draft ended⟩
  bindings := fun draft ended => by
    rw [other.bindings draft ended, one.bindings middle there, Write.applied_append]

end Logged

end StatementMapper.Template
