import StatementMapper.Action

set_option autoImplicit false

namespace StatementMapper.Action

variable {S A B : Type}

def Triple (pre : S → Prop) (action : Action S A) (post : A → S → Prop) (broken : S → Prop) : Prop :=
  ∀ state, pre state → match action.run state with
    | (.ok a, after) => post a after
    | (.error _, after) => broken after

variable {pre : S → Prop} {post : A → S → Prop} {broken : S → Prop}

theorem run_attempt_of {action : Action S A} {state after : S} {outcome : Except Fault A}
    (ran : action.run state = (outcome, after)) : (attempt action).run state = (.ok outcome, after) := by
  rw [run_attempt, ran]

theorem run_of_except (outcome : Except Fault A) (state : S) : (ofExcept outcome).run state = (outcome, state) := by
  cases outcome <;> rfl

theorem run_bind_congr {first other : Action S A} {second next : A → Action S B} {state : S}
    (begins : first.run state = other.run state)
    (goes : ∀ a after, other.run state = (.ok a, after) → (second a).run after = (next a).run after) :
    (first >>= second).run state = (other >>= next).run state := by
  rcases ran : other.run state with ⟨outcome, after⟩
  rw [ran] at begins
  cases outcome with
  | ok a => rw [run_bind_ok begins, run_bind_ok ran, goes a after ran]
  | error cause => rw [run_bind_error begins, run_bind_error ran]

theorem triple_pure {a : A} (holds : ∀ state, pre state → post a state) : Triple pre (pure a) post broken := holds

theorem triple_fail {cause : Fault} (holds : ∀ state, pre state → broken state) :
    Triple pre (fail cause : Action S A) post broken := holds

theorem triple_look {view : S → A} (holds : ∀ state, pre state → post (view state) state) :
    Triple pre (look view) post broken := holds

theorem triple_change {f : S → S} {done : Unit → S → Prop} (holds : ∀ state, pre state → done () (f state)) :
    Triple pre (change f) done broken := holds

theorem triple_of_except {outcome : Except Fault A} (answered : ∀ a, outcome = .ok a → ∀ state, pre state → post a state)
    (failed : ∀ state, pre state → broken state) : Triple pre (ofExcept outcome) post broken := by
  cases outcome with
  | ok a => exact answered a rfl
  | error cause => exact failed

theorem triple_bind {first : Action S A} {second : A → Action S B} {last : B → S → Prop} (post : A → S → Prop)
    (begins : Triple pre first post broken) (goes : ∀ a, Triple (post a) (second a) last broken) :
    Triple pre (first >>= second) last broken := by
  intro state holds
  have middle := begins state holds
  rcases ran : first.run state with ⟨outcome, after⟩
  rw [ran] at middle
  cases outcome with
  | ok a =>
      rw [run_bind_ok ran]
      exact goes a after middle
  | error cause =>
      rw [run_bind_error ran]
      exact middle

theorem triple_weaken {weaker : S → Prop} {action : Action S A} {stronger : A → S → Prop} {narrow : S → Prop}
    (triple : Triple weaker action stronger narrow) (before : ∀ state, pre state → weaker state)
    (after : ∀ a state, stronger a state → post a state) (failed : ∀ state, narrow state → broken state) :
    Triple pre action post broken := by
  intro state holds
  have left := triple state (before state holds)
  rcases ran : action.run state with ⟨outcome, last⟩
  rw [ran] at left
  cases outcome with
  | ok a => exact after a last left
  | error cause => exact failed last left

theorem triple_false {action : Action S A} : Triple (fun _ => False) action post broken := fun _ never => never.elim

theorem Triple.answered {action : Action S A} (triple : Triple pre action post broken) {state after : S} {a : A}
    (holds : pre state) (ran : action.run state = (.ok a, after)) : post a after := by
  have left := triple state holds
  rwa [ran] at left

theorem triple_attempt {action : Action S A} {ended : S → Prop} (triple : Triple pre action post broken) :
    Triple pre (attempt action) (fun outcome state => match outcome with
      | .ok a => post a state
      | .error _ => broken state) ended := by
  intro state holds
  have left := triple state holds
  rcases ran : action.run state with ⟨outcome, after⟩
  rw [ran] at left
  rw [run_attempt_of ran]
  cases outcome with
  | ok a => exact left
  | error cause => exact left

theorem triple_after {action : Action S A} {fixed : S → Prop} (triple : Triple pre action (fun _ => fixed) fixed)
    (state : S) (holds : pre state) : fixed (action.run state).2 := by
  have left := triple state holds
  rcases ran : action.run state with ⟨outcome, after⟩
  rw [ran] at left
  cases outcome with
  | ok a => exact left
  | error cause => exact left

theorem triple_of_after {action : Action S A} {fixed : S → Prop}
    (left : ∀ state, pre state → fixed (action.run state).2) : Triple pre action (fun _ => fixed) fixed := by
  intro state holds
  have after := left state holds
  rcases ran : action.run state with ⟨outcome, last⟩
  rw [ran] at after
  cases outcome with
  | ok a => exact after
  | error cause => exact after

theorem triple_try {action : Action S A} {fixed ended : S → Prop} (triple : Triple pre action (fun _ => fixed) fixed) :
    Triple pre (attempt action) (fun _ => fixed) ended := fun state holds => triple_after triple state holds

def Keeps (good : S → Prop) (action : Action S A) : Prop := Triple good action (fun _ => good) good

def Refuses (good : S → Prop) (action : Action S A) : Prop := Triple good action (fun _ _ => False) good

theorem Refuses.keeps {action : Action S A} (refuses : Refuses pre action) : Keeps pre action :=
  triple_weaken refuses (fun _ holds => holds) (fun _ _ never => never.elim) fun _ holds => holds

theorem Refuses.before {action : Action S A} (refuses : Refuses pre action) (next : A → Action S B) :
    Refuses pre (action >>= next) :=
  triple_bind (fun _ _ => False) refuses fun _ => triple_false

theorem Keeps.before {action : Action S A} {next : A → Action S B} {last : B → S → Prop} (keeps : Keeps pre action)
    (goes : ∀ a, Triple pre (next a) last pre) : Triple pre (action >>= next) last pre :=
  triple_bind (fun _ => pre) keeps goes

theorem keeps_pure (a : A) : Keeps pre (pure a : Action S A) := triple_pure fun _ holds => holds

theorem keeps_look (view : S → A) : Keeps pre (look view) := triple_look fun _ holds => holds

theorem keeps_outcome (outcome : Except Fault A) : Keeps pre (ofExcept outcome) :=
  triple_of_except (fun _ _ _ holds => holds) fun _ holds => holds

theorem Refuses.run {action : Action S A} (refuses : Refuses pre action) {state : S} (holds : pre state) :
    ∃ cause after, action.run state = (.error cause, after) ∧ pre after := by
  have left := refuses state holds
  rcases ran : action.run state with ⟨outcome, after⟩
  rw [ran] at left
  cases outcome with
  | ok a => exact left.elim
  | error cause => exact ⟨cause, after, rfl, left⟩

def Answers (pre : S → Prop) (action : Action S A) (post : A → S → Prop) : Prop := Triple pre action post fun _ => False

theorem Answers.run {action : Action S A} (answers : Answers pre action post) {state : S} (holds : pre state) :
    ∃ a after, action.run state = (.ok a, after) ∧ post a after := by
  have left := answers state holds
  rcases ran : action.run state with ⟨outcome, after⟩
  rw [ran] at left
  cases outcome with
  | ok a => exact ⟨a, after, rfl, left⟩
  | error cause => exact left.elim

end StatementMapper.Action
