import StatementMapper.Expr.Evaluation
import StatementMapper.Proofs.Outcome

set_option autoImplicit false

/-! An expression of integers has its exact value, or a part of it divides by zero or leaves the range. -/

namespace StatementMapper

namespace Word

theorem fits_iff (n : Int) : fits n = true ↔ -(signedBound : Int) ≤ n ∧ n < signedBound := by
  simp [fits]

-- Of all quotients only the opposite of the least number leaves the range.
theorem fits_tdiv_iff {a b : Int} (dividend : fits a = true) (nonzero : b ≠ 0) :
    fits (a.tdiv b) = true ↔ ¬ (a = -(signedBound : Int) ∧ b = -1) := by
  rw [fits_iff] at dividend ⊢
  by_cases opposite : b = -1
  · subst opposite
    rw [Int.tdiv_neg, Int.tdiv_one]
    unfold signedBound at dividend ⊢
    omega
  · by_cases one : b = 1
    · subst one
      rw [Int.tdiv_one]
      simpa using dividend
    · -- Any other divisor halves the magnitude at least.
      have halved : (a.tdiv b).natAbs ≤ a.natAbs / 2 := by
        rw [Int.natAbs_tdiv]
        exact Nat.div_le_div_left (by omega) (by decide)
      unfold signedBound at dividend ⊢
      omega

end Word

namespace Operator

def divides : Operator → Bool
  | divide | modulo => true
  | _ => false

-- Over unbounded integers: the quotient is cut toward zero, the remainder takes the dividend's sign.
def exactly? (operator : Operator) (a b : Int) : Option Int :=
  match operator with
  | add => some (a + b)
  | subtract => some (a - b)
  | multiply => some (a * b)
  | divide => if b = 0 then none else some (a.tdiv b)
  | modulo => if b = 0 then none else some (a.tmod b)
  | _ => none

-- The result leaves the range. The remainder of the least integer by minus one counts, as its quotient does.
def Leaves (operator : Operator) (a b : Int) : Prop :=
  (∃ n, operator.exactly? a b = some n ∧ Word.fits n = false) ∨
    (operator.divides = true ∧ a = -(Word.signedBound : Int) ∧ b = -1)

inductive Breaks (operator : Operator) (a b : Int) : EvaluationFault → Prop where
  | zero (divides : operator.divides = true) (divisor : b = 0) : Breaks operator a b .divisionByZero
  | overflow (leaves : operator.Leaves a b) : Breaks operator a b (.overflow operator)

end Operator

def Settled (outcome : Except EvaluationFault Value) (exactly? : Option Int) (Fails : EvaluationFault → Prop) : Prop :=
  (∃ n : Int64, outcome = .ok (.integer n) ∧ exactly? = some n.toInt ∧ ∀ cause, ¬ Fails cause) ∨
    (∃ cause, outcome = .error cause ∧ Fails cause)

namespace Value

theorem exact_settled (fault : EvaluationFault) (n : Int) (exactly? : Option Int) (Fails : EvaluationFault → Prop)
    (found : Word.fits n = true → exactly? = some n) (fails : Word.fits n = false → Fails fault)
    (sound : Word.fits n = true → ∀ cause, ¬ Fails cause) : Settled (exact fault n) exactly? Fails := by
  rw [exact]
  cases inside : Word.fits n with
  | false => exact Or.inr ⟨fault, rfl, fails inside⟩
  | true => exact Or.inl ⟨Int64.ofInt n, rfl, by rw [found inside, Word.toInt_ofInt inside], sound inside⟩

theorem apply_exact_settled (operator : Operator) (a b n : Int) (found : operator.exactly? a b = some n)
    (divisor : operator.divides = true → b ≠ 0)
    (least : operator.divides = true → a = -(Word.signedBound : Int) → b = -1 → Word.fits n = false) :
    Settled (exact (.overflow operator) n) (operator.exactly? a b) (operator.Breaks a b) := by
  refine exact_settled _ n _ _ (fun _ => found) (fun outside => .overflow (Or.inl ⟨n, found, outside⟩)) ?_
  intro inside cause broken
  cases broken with
  | zero divides zero => exact divisor divides zero
  | overflow leaves =>
      obtain ⟨other, given, outside⟩ | ⟨divides, first, second⟩ := leaves
      · cases found.symm.trans given
        cases inside.symm.trans outside
      · cases inside.symm.trans (least divides first second)

theorem apply_integers_settled (operator : Operator) (arithmetic : operator.isArithmetic = true) (a b : Int)
    (dividend : Word.fits a = true) :
    Settled (applyIntegers operator a b) (operator.exactly? a b) (operator.Breaks a b) := by
  cases operator with
  | add => exact apply_exact_settled .add a b (a + b) rfl (by simp [Operator.divides]) (by simp [Operator.divides])
  | subtract =>
      exact apply_exact_settled .subtract a b (a - b) rfl (by simp [Operator.divides]) (by simp [Operator.divides])
  | multiply =>
      exact apply_exact_settled .multiply a b (a * b) rfl (by simp [Operator.divides]) (by simp [Operator.divides])
  | divide =>
      by_cases zero : b = 0
      · exact Or.inr ⟨_, by simp [applyIntegers, zero], .zero rfl zero⟩
      · have quotient := Word.fits_tdiv_iff dividend zero
        have applied : applyIntegers .divide a b = exact (.overflow .divide) (a.tdiv b) := by simp [applyIntegers, zero]
        rw [applied]
        refine apply_exact_settled .divide a b (a.tdiv b) (by simp [Operator.exactly?, zero]) (fun _ => zero) ?_
        intro _ first second
        exact Bool.eq_false_iff.mpr fun inside => quotient.mp inside ⟨first, second⟩
  | modulo =>
      by_cases zero : b = 0
      · exact Or.inr ⟨_, by simp [applyIntegers, zero], .zero rfl zero⟩
      · have quotient := Word.fits_tdiv_iff dividend zero
        by_cases least : a = -(Word.signedBound : Int) ∧ b = -1
        · have outside : Word.fits (a.tdiv b) = false := Bool.eq_false_iff.mpr fun inside => quotient.mp inside least
          exact Or.inr ⟨_, by simp [applyIntegers, zero, outside], .overflow (Or.inr ⟨rfl, least⟩)⟩
        · have inside : Word.fits (a.tdiv b) = true := quotient.mpr least
          have applied : applyIntegers .modulo a b = exact (.overflow .modulo) (a.tmod b) := by
            simp [applyIntegers, zero, inside]
          rw [applied]
          refine apply_exact_settled .modulo a b (a.tmod b) (by simp [Operator.exactly?, zero]) (fun _ => zero) ?_
          exact fun _ first second => absurd ⟨first, second⟩ least
  | _ => cases arithmetic

theorem arithmetic_integers (operator : Operator) (a b : Int64) :
    arithmetic operator (integer a) (integer b) = applyIntegers operator a.toInt b.toInt := by
  simp [arithmetic, isText, applyNumbers]

end Value

namespace Expr

variable (scope : Scope)

-- Expressions made of integers, properties that hold integers, signs and arithmetic operators.
inductive Whole : Expr → Prop where
  | literal (n : Int64) : Whole (.literal (.integer n))
  | property {path : String} {n : Int64} (held : scope.resolve? path = some (.integer n)) : Whole (.property path)
  | negate {operand : Expr} (inner : Whole operand) : Whole (.negate operand)
  | binary {operator : Operator} {left right : Expr} (arithmetic : operator.isArithmetic = true) (first : Whole left)
      (second : Whole right) : Whole (.binary operator left right)

def exactly? : Expr → Option Int
  | literal (.integer n) => some n.toInt
  | property path =>
    match scope.resolve? path with
    | some (.integer n) => some n.toInt
    | _ => none
  | negate operand => (exactly? operand).map fun n => -n
  | binary operator left right =>
    (exactly? left).bind fun a => (exactly? right).bind fun b => operator.exactly? a b
  | _ => none

def parts : Expr → List Expr
  | negate operand => negate operand :: parts operand
  | binary operator left right => binary operator left right :: (parts left ++ parts right)
  | other => [other]

inductive Breaks : Expr → EvaluationFault → Prop where
  | negation {operand : Expr} {n : Int64} (evaluated : operand.evaluate scope = .ok (.integer n))
      (leaves : Word.fits (-n.toInt) = false) : Breaks (.negate operand) .negationOverflow
  | operation {operator : Operator} {left right : Expr} {a b : Int64} {cause : EvaluationFault}
      (first : left.evaluate scope = .ok (.integer a)) (second : right.evaluate scope = .ok (.integer b))
      (broken : operator.Breaks a.toInt b.toInt cause) : Breaks (.binary operator left right) cause

def Broken (e : Expr) (cause : EvaluationFault) : Prop := ∃ part ∈ e.parts, Breaks scope part cause

variable {scope}

theorem broken_negate (operand : Expr) (cause : EvaluationFault) :
    Broken scope (.negate operand) cause ↔ Breaks scope (.negate operand) cause ∨ Broken scope operand cause := by
  simp [Broken, parts]

theorem broken_binary (operator : Operator) (left right : Expr) (cause : EvaluationFault) :
    Broken scope (.binary operator left right) cause ↔
      Breaks scope (.binary operator left right) cause ∨ Broken scope left cause ∨ Broken scope right cause := by
  simp [Broken, parts, or_and_right, exists_or]

theorem evaluate_arithmetic (operator : Operator) (arithmetic : operator.isArithmetic = true) (left right : Expr) :
    (binary operator left right).evaluate scope =
      (left.evaluate scope).bind fun a => (right.evaluate scope).bind fun b => Value.arithmetic operator a b := by
  have other : operator.isLogical = false ∧ operator.isComparison = false := by
    cases operator <;> simp [Operator.isArithmetic] at arithmetic <;> exact ⟨rfl, rfl⟩
  rw [evaluate]
  simp [other, bind]

theorem settled_negate (operand : Expr)
    (inner : Settled (operand.evaluate scope) (operand.exactly? scope) (Broken scope operand)) :
    Settled ((negate operand).evaluate scope) ((negate operand).exactly? scope) (Broken scope (negate operand)) := by
  rw [evaluate]
  obtain ⟨n, evaluated, exactly, sound⟩ | ⟨cause, failed, broken⟩ := inner
  · rw [evaluated]
    refine Value.exact_settled .negationOverflow (-n.toInt) _ _ (fun _ => by rw [exactly?, exactly]; rfl) ?_ ?_
    · exact fun outside => (broken_negate _ _).mpr (Or.inl (.negation evaluated outside))
    · intro inside cause broken
      obtain own | deeper := (broken_negate _ _).mp broken
      · cases own with
        | negation again leaves =>
            cases evaluated.symm.trans again
            cases inside.symm.trans leaves
      · exact sound cause deeper
  · rw [failed]
    exact Or.inr ⟨cause, rfl, (broken_negate _ _).mpr (Or.inr broken)⟩

theorem settled_binary (operator : Operator) (arithmetic : operator.isArithmetic = true) (left right : Expr)
    (first : Settled (left.evaluate scope) (left.exactly? scope) (Broken scope left))
    (second : Settled (right.evaluate scope) (right.exactly? scope) (Broken scope right)) :
    Settled ((binary operator left right).evaluate scope) ((binary operator left right).exactly? scope)
      (Broken scope (binary operator left right)) := by
  rw [evaluate_arithmetic operator arithmetic, exactly?]
  obtain ⟨a, leftValue, leftExactly, leftSound⟩ | ⟨cause, failed, broken⟩ := first
  · obtain ⟨b, rightValue, rightExactly, rightSound⟩ | ⟨cause, failed, broken⟩ := second
    · rw [leftValue, rightValue, leftExactly, rightExactly]
      simp only [Except.bind, Option.bind_some, Value.arithmetic_integers]
      obtain ⟨n, applied, exactly, sound⟩ | ⟨cause, failed, broken⟩ :=
        Value.apply_integers_settled operator arithmetic a.toInt b.toInt (Word.fits_toInt a)
      · refine Or.inl ⟨n, applied, exactly, fun cause broken => ?_⟩
        obtain own | before | behind := (broken_binary _ _ _ _).mp broken
        · cases own with
          | operation first second broken =>
              cases leftValue.symm.trans first
              cases rightValue.symm.trans second
              exact sound cause broken
        · exact leftSound cause before
        · exact rightSound cause behind
      · exact Or.inr ⟨cause, failed, (broken_binary _ _ _ _).mpr (Or.inl (.operation leftValue rightValue broken))⟩
    · rw [leftValue, failed]
      exact Or.inr ⟨cause, rfl, (broken_binary _ _ _ _).mpr (Or.inr (Or.inr broken))⟩
  · rw [failed]
    exact Or.inr ⟨cause, rfl, (broken_binary _ _ _ _).mpr (Or.inr (Or.inl broken))⟩

theorem settled_alone (e : Expr) (n : Int64) (alone : e.parts = [e]) (sound : ∀ cause, ¬ Breaks scope e cause)
    (evaluated : e.evaluate scope = .ok (.integer n)) (exactly : e.exactly? scope = some n.toInt) :
    Settled (e.evaluate scope) (e.exactly? scope) (Broken scope e) := by
  refine Or.inl ⟨n, evaluated, exactly, fun cause broken => ?_⟩
  obtain ⟨part, member, own⟩ := broken
  rw [alone, List.mem_singleton] at member
  rw [member] at own
  exact sound cause own

theorem whole_settled (e : Expr) (whole : Whole scope e) :
    Settled (e.evaluate scope) (e.exactly? scope) (Broken scope e) := by
  induction whole with
  | literal n => exact settled_alone _ n rfl (fun cause broken => by cases broken) (by rw [evaluate]) rfl
  | @property path n held =>
      refine settled_alone _ n rfl (fun cause broken => by cases broken) ?_ (by rw [exactly?, held])
      rw [evaluate, held]
      rfl
  | negate inner ih => exact settled_negate _ ih
  | binary arithmetic first second left right => exact settled_binary _ arithmetic _ _ left right

theorem integers_exact_or_refused (scope : Scope) (e : Expr) (whole : Whole scope e) :
    (∀ value, e.evaluate scope = .ok value → ∃ n : Int64, value = .integer n ∧ e.exactly? scope = some n.toInt) ∧
      (∀ cause, e.evaluate scope = .error cause → Broken scope e cause) ∧
      (∀ cause, Broken scope e cause → ∃ fault, e.evaluate scope = .error fault) := by
  obtain ⟨n, evaluated, exactly, sound⟩ | ⟨fault, failed, broken⟩ := whole_settled e whole
  · refine ⟨fun value given => ?_, fun cause failed => ?_, fun cause broken => absurd broken (sound cause)⟩
    · cases evaluated.symm.trans given
      exact ⟨n, rfl, exactly⟩
    · cases evaluated.symm.trans failed
  · refine ⟨fun value given => ?_, fun cause again => ?_, fun _ _ => ⟨fault, failed⟩⟩
    · cases failed.symm.trans given
    · cases failed.symm.trans again
      exact broken

def limits : Scope := Scope.root (.table [("least", .integer Int64.minValue)]) none

def greatest : Expr := negate (binary .add (property "least") (literal (.integer 1)))

def refused : Expr := binary .subtract (literal (.integer 5)) (binary .modulo (property "least") (negate (literal (.integer 1))))

theorem least_refused :
    greatest.exactly? limits = some 9223372036854775807 ∧ Broken limits refused (.overflow .modulo) := by
  have held : limits.resolve? "least" = some (.integer Int64.minValue) := by rfl
  have first : Whole limits greatest := .negate (.binary rfl (.property held) (.literal 1))
  have second : Whole limits refused := .binary rfl (.literal 5) (.binary rfl (.property held) (.negate (.literal 1)))
  have value : greatest.evaluate limits = .ok (.integer Int64.maxValue) := by rfl
  have failed : refused.evaluate limits = .error (.overflow .modulo) := by rfl
  obtain ⟨n, same, exactly⟩ := (integers_exact_or_refused limits greatest first).1 _ value
  cases same
  exact ⟨exactly, (integers_exact_or_refused limits refused second).2.1 _ failed⟩

end Expr

end StatementMapper
