import StatementMapper.Proofs.Expr.Dispatch
import StatementMapper.Proofs.Expr.Equality

set_option autoImplicit false

/-! `in` gives what equalities with the candidates give that are joined by `or`. -/

namespace StatementMapper

namespace Expr

-- The equalities of a needle with the candidates, joined as they are read: from the left.
def joinedTests (needle tests : Expr) (candidates : List Expr) : Expr :=
  candidates.foldl (fun tests candidate => binary .or tests (binary .eq needle candidate)) tests

def anyEqual (needle first : Expr) (others : List Expr) : Expr := joinedTests needle (binary .eq needle first) others

variable (scope : Scope)

theorem or_evaluated (left right : Expr) (b c : Bool) (first : left.evaluate scope = .ok (.boolean b))
    (second : right.evaluate scope = .ok (.boolean c)) :
    (binary .or left right).evaluate scope = .ok (.boolean (b || c)) := by
  rw [evaluate, first, second]
  cases b <;> rfl

theorem all_cons_iff (e : Expr) (rest : List Expr) (values : List Value) :
    evaluateAll scope (e :: rest) = .ok values ↔
      ∃ value more, e.evaluate scope = .ok value ∧ evaluateAll scope rest = .ok more ∧ values = value :: more := by
  rw [evaluateAll, Outcome.bind_ok]
  simp only [Outcome.bind_ok, Except.ok.injEq, eq_comm (b := values), exists_and_left]

theorem all_evaluated (candidates : List Expr) (evaluated : ∀ e ∈ candidates, ∃ value, e.evaluate scope = .ok value) :
    ∃ values, evaluateAll scope candidates = .ok values := by
  induction candidates with
  | nil => exact ⟨[], by rw [evaluateAll]⟩
  | cons e rest ih =>
      obtain ⟨value, first⟩ := evaluated e List.mem_cons_self
      obtain ⟨values, others⟩ := ih fun other member => evaluated other (List.mem_cons_of_mem _ member)
      exact ⟨value :: values, (all_cons_iff scope e rest _).mpr ⟨value, values, first, others, rfl⟩⟩

theorem joined_evaluated (needle : Expr) (subject : Value) (found : needle.evaluate scope = .ok subject)
    (candidates : List Expr) (values : List Value) (all : evaluateAll scope candidates = .ok values) (tests : Expr) (b : Bool)
    (before : tests.evaluate scope = .ok (.boolean b)) :
    (joinedTests needle tests candidates).evaluate scope =
      .ok (.boolean (b || values.any fun value => value.looselyEquals subject)) := by
  induction candidates generalizing values tests b with
  | nil =>
      rw [evaluateAll] at all
      cases all
      simpa [joinedTests] using before
  | cons e rest ih =>
      obtain ⟨value, more, first, others, rfl⟩ := (all_cons_iff scope e rest values).mp all
      have equal := equality_evaluated scope needle e subject value found first
      have next := ih more others _ _ (or_evaluated scope tests _ b _ before equal)
      rw [joinedTests, List.foldl_cons, ← joinedTests, next, List.any_cons, Value.loosely_equals_comm value subject,
        Bool.or_assoc]

theorem any_equal_evaluated (needle first : Expr) (others : List Expr) (subject : Value) (values : List Value)
    (found : needle.evaluate scope = .ok subject) (all : evaluateAll scope (first :: others) = .ok values) :
    (anyEqual needle first others).evaluate scope =
      .ok (.boolean (values.any fun value => value.looselyEquals subject)) := by
  obtain ⟨value, more, head, rest, rfl⟩ := (all_cons_iff scope first others values).mp all
  have equal := equality_evaluated scope needle first subject value found head
  rw [anyEqual, joined_evaluated scope needle subject found others more rest _ _ equal, List.any_cons,
    Value.loosely_equals_comm value subject]

theorem searched_plain (first : Expr) (others : List Expr) (values : List Value)
    (all : evaluateAll scope (first :: others) = .ok values)
    (plain : others ≠ [] ∨ ∀ items, first.evaluate scope ≠ .ok (.list items)) : searched values = values := by
  obtain ⟨value, more, head, rest, rfl⟩ := (all_cons_iff scope first others values).mp all
  cases others with
  | cons next later =>
      obtain ⟨second, final, _, _, rfl⟩ := (all_cons_iff scope next later more).mp rest
      exact Evaluator.searched_several value second final
  | nil =>
      have unlisted : ∀ items, first.evaluate scope ≠ .ok (.list items) := plain.resolve_left fun several => several rfl
      rw [evaluateAll] at rest
      cases rest
      cases value with
      | list items => exact absurd head (unlisted items)
      | _ => rfl

theorem membership_plain (needle first : Expr) (others : List Expr) (subject : Value) (values : List Value)
    (found : needle.evaluate scope = .ok subject) (all : evaluateAll scope (first :: others) = .ok values)
    (plain : others ≠ [] ∨ ∀ items, first.evaluate scope ≠ .ok (.list items)) (negated : Bool) :
    (isIn needle (first :: others) negated).evaluate scope =
      .ok (.boolean ((values.any fun value => value.looselyEquals subject) != negated)) := by
  rw [membership_evaluated scope needle _ negated subject values found all, isMember,
    searched_plain scope first others values all plain]

theorem membership_listed (needle listed : Expr) (subject : Value) (items : List Value)
    (found : needle.evaluate scope = .ok subject) (list : listed.evaluate scope = .ok (.list items)) (negated : Bool) :
    (isIn needle [listed] negated).evaluate scope =
      .ok (.boolean ((items.any fun item => item.looselyEquals subject) != negated)) :=
  membership_evaluated scope needle [listed] negated subject _ found (single_evaluated scope listed _ list)

theorem element_equals (needle : Expr) (subject item : Value) (found : needle.evaluate scope = .ok subject) :
    (binary .eq needle (literal item)).evaluate scope = .ok (.boolean (item.looselyEquals subject)) := by
  rw [equality_evaluated scope needle (literal item) subject item found (by rw [evaluate]),
    Value.loosely_equals_comm item subject]

-- All candidates have a value, though the tests that are joined evaluate them only up to the first that is equal.
theorem membership_is_disjunction (needle first : Expr) (others : List Expr)
    (asked : ∃ subject, needle.evaluate scope = .ok subject)
    (evaluated : ∀ e ∈ first :: others, ∃ value, e.evaluate scope = .ok value) :
    ((others ≠ [] ∨ ∀ items, first.evaluate scope ≠ .ok (.list items)) →
      ∃ member : Bool, (isIn needle (first :: others) false).evaluate scope = .ok (.boolean member) ∧
        (isIn needle (first :: others) true).evaluate scope = .ok (.boolean !member) ∧
        (anyEqual needle first others).evaluate scope = .ok (.boolean member)) ∧
      ∀ items, others = [] → first.evaluate scope = .ok (.list items) →
        ∃ member : Bool, (isIn needle [first] false).evaluate scope = .ok (.boolean member) ∧
          (isIn needle [first] true).evaluate scope = .ok (.boolean !member) ∧
          (member = true ↔ ∃ item ∈ items, (binary .eq needle (literal item)).evaluate scope = .ok (.boolean true)) := by
  obtain ⟨subject, found⟩ := asked
  constructor
  · intro plain
    obtain ⟨values, all⟩ := all_evaluated scope (first :: others) evaluated
    have member := membership_plain scope needle first others subject values found all plain
    refine ⟨_, ?_, ?_, any_equal_evaluated scope needle first others subject values found all⟩
    · simpa using member false
    · simpa using member true
  · intro items alone list
    have member := membership_listed scope needle first subject items found list
    refine ⟨_, by simpa using member false, by simpa using member true, ?_⟩
    simp [element_equals scope needle subject _ found]

-- Null, no number, the number that the text denotes: the last of these is a member, and so it is of their list.
theorem text_is_member :
    (isIn (literal (.text "2")) [literal .null, literal (.boolean true), literal (.integer 2)] false).evaluate Scope.empty =
        (anyEqual (literal (.text "2")) (literal .null) [literal (.boolean true), literal (.integer 2)]).evaluate
          Scope.empty ∧
      ((isIn (literal (.text "2")) [literal (.list [.null, .integer 2])] false).evaluate Scope.empty =
          .ok (.boolean true) ↔
        ∃ item ∈ [Value.null, .integer 2],
          (binary .eq (literal (.text "2")) (literal item)).evaluate Scope.empty = .ok (.boolean true)) := by
  have evaluated (value : Value) : (literal value).evaluate Scope.empty = .ok value := by rw [evaluate]
  have several := (membership_is_disjunction Scope.empty (literal (.text "2")) (literal .null)
    [literal (.boolean true), literal (.integer 2)] ⟨_, evaluated _⟩ (by simp [evaluated])).1
  obtain ⟨member, found, _, joined⟩ := several (Or.inl (by simp))
  have single := (membership_is_disjunction Scope.empty (literal (.text "2")) (literal (.list [.null, .integer 2])) []
    ⟨_, evaluated _⟩ (by simp [evaluated])).2
  obtain ⟨listed, whether, _, elements⟩ := single _ rfl (evaluated _)
  refine ⟨by rw [found, joined], ?_⟩
  rw [whether, ← elements]
  simp

end Expr

end StatementMapper
