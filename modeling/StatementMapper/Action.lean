import StatementMapper.Fault

set_option autoImplicit false

/-! Actions on a state: each answers or fails, and what it did to the state before it failed stays done. -/

namespace StatementMapper

def Action (S A : Type) : Type := S → Except Fault A × S

namespace Action

variable {S T A B : Type}

def run (action : Action S A) (state : S) : Except Fault A × S := action state

def answer (a : A) : Action S A := fun state => (.ok a, state)

def fail (cause : Fault) : Action S A := fun state => (.error cause, state)

def andThen (first : Action S A) (second : A → Action S B) : Action S B := fun state =>
  match first state with
  | (.ok a, after) => second a after
  | (.error cause, after) => (.error cause, after)

instance : Monad (Action S) where
  pure := answer
  bind := andThen

def ofExcept : Except Fault A → Action S A
  | .ok a => answer a
  | .error cause => fail cause

def look (view : S → A) : Action S A := fun state => (.ok (view state), state)

def change (f : S → S) : Action S Unit := fun state => (.ok (), f state)

def revise (f : S → Except Fault (A × S)) : Action S A := fun state =>
  match f state with
  | .ok (a, after) => (.ok a, after)
  | .error cause => (.error cause, state)

def attempt (action : Action S A) : Action S (Except Fault A) := fun state =>
  match action state with
  | (outcome, after) => (.ok outcome, after)

def within (part : S → T) (replace : T → S → S) (action : Action T A) : Action S A := fun state =>
  match action (part state) with
  | (outcome, after) => (outcome, replace after state)

def trace {C D : Type} (action : C → Action S A) (write : Except Fault A → S → D) : List C → S → List D × S
  | [], state => ([], state)
  | item :: rest, state =>
    match action item state with
    | (outcome, after) =>
      match trace action write rest after with
      | (lines, last) => (write outcome after :: lines, last)

@[simp] theorem run_pure (a : A) (state : S) : run (pure a) state = (.ok a, state) := rfl

@[simp] theorem run_answer (a : A) (state : S) : run (answer a) state = (.ok a, state) := rfl

@[simp] theorem run_fail (cause : Fault) (state : S) :
    run (fail cause : Action S A) state = (.error cause, state) := rfl

@[simp] theorem run_look (view : S → A) (state : S) : run (look view) state = (.ok (view state), state) := rfl

@[simp] theorem run_change (f : S → S) (state : S) : run (change f) state = (.ok (), f state) := rfl

@[simp] theorem run_attempt (action : Action S A) (state : S) :
    run (attempt action) state = (.ok (run action state).1, (run action state).2) := rfl

@[simp] theorem run_within (part : S → T) (replace : T → S → S) (action : Action T A) (state : S) :
    run (within part replace action) state =
      ((run action (part state)).1, replace (run action (part state)).2 state) := rfl

theorem run_bind_ok {first : Action S A} {second : A → Action S B} {state after : S} {a : A}
    (ran : run first state = (.ok a, after)) : run (first >>= second) state = run (second a) after := by
  change andThen first second state = second a after
  unfold andThen
  rw [show first state = (.ok a, after) from ran]

theorem run_bind_error {first : Action S A} {second : A → Action S B} {state after : S} {cause : Fault}
    (ran : run first state = (.error cause, after)) : run (first >>= second) state = (.error cause, after) := by
  change andThen first second state = (.error cause, after)
  unfold andThen
  rw [show first state = (.error cause, after) from ran]

theorem andThen_pure (action : Action S A) : andThen action answer = action := by
  funext state
  unfold andThen answer
  rcases action state with ⟨outcome | outcome, after⟩ <;> rfl

theorem andThen_assoc {C : Type} (first : Action S A) (second : A → Action S B) (third : B → Action S C) :
    andThen (andThen first second) third = andThen first fun a => andThen (second a) third := by
  funext state
  unfold andThen
  rcases first state with ⟨outcome | outcome, after⟩ <;> rfl

instance : LawfulMonad (Action S) := .mk' _ andThen_pure (fun _ _ => rfl) andThen_assoc

end Action

end StatementMapper
