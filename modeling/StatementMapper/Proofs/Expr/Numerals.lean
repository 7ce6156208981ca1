import StatementMapper.Expr.Evaluation
import StatementMapper.Proofs.Expr.ReadBack

set_option autoImplicit false

/-! The text of an integer has its value, but for the least one, which becomes a float. -/

namespace StatementMapper.Expr

open Phrase (Operand Alone)

theorem respell_digits (digits : List Char) (all : ∀ c ∈ digits, c.isDigit = true) : respell none digits = digits := by
  have kept := respell_run digits [] fun c member => part_plain c (digit_part c (all c member))
  simpa [respell] using kept

theorem quote_paths_digits (last : Option Char) (digits : List Char) (nonempty : digits ≠ [])
    (all : ∀ c ∈ digits, c.isDigit = true) : quotePaths none last digits = digits := by
  have kept := quote_paths_number last digits [] nonempty all fun c member => by cases member
  simpa [quotePaths] using kept

theorem prepare_digits (digits : List Char) (nonempty : digits ≠ []) (all : ∀ c ∈ digits, c.isDigit = true) :
    prepare digits = digits := by
  rw [prepare, respell_digits digits all, quote_paths_digits none digits nonempty all]

theorem prepare_negative (digits : List Char) (nonempty : digits ≠ []) (all : ∀ c ∈ digits, c.isDigit = true) :
    prepare ('-' :: digits) = '-' :: digits := by
  rw [prepare, respell_plain '-' digits (by decide), respell_digits digits all, quote_paths_sign none '-' digits (by decide),
    quote_paths_digits _ digits nonempty all]

theorem lexed_digits (digits : List Char) (nonempty : digits ≠ []) (all : ∀ c ∈ digits, c.isDigit = true) :
    Lexeme.all? digits = some [.number digits] := by
  have read := Lexeme.all_number digits [] nonempty all fun c member => by cases member
  simpa [Lexeme.all_nil] using read

theorem skip_minus (next : Char) (rest : List Char) (other : next ≠ '-') : Lexeme.skip? '-' (next :: rest) = none := by
  unfold Lexeme.skip?
  split
  · simp [Text.isBlank] at *
  · split <;> simp_all

theorem take_minus (next : Char) (rest : List Char) :
    Lexeme.take? '-' (next :: rest) = some (.mark .minus, next :: rest) := by
  simp [Lexeme.take?, Lexeme.isNameStart, Lexeme.startsMarked, Lexeme.takeMark, Text.isLetter]

-- A digit behind the sign starts no comment.
theorem lexed_negative (digits : List Char) (nonempty : digits ≠ []) (all : ∀ c ∈ digits, c.isDigit = true) :
    Lexeme.all? ('-' :: digits) = some [.mark .minus, .number digits] := by
  have read := lexed_digits digits nonempty all
  cases digits with
  | nil => exact absurd rfl nonempty
  | cons next rest =>
      have other : next ≠ '-' := by
        rintro rfl
        exact absurd (all '-' List.mem_cons_self) (by decide)
      rw [Lexeme.all_taken '-' _ _ _ (skip_minus next rest other) (take_minus next rest) (Nat.le_refl _), read]
      rfl

theorem number_operand (digits : List Char) : Operand (.number digits) [.number digits] 1 :=
  Phrase.single_operand _ _ fun sub rest loose => by simp [Phrase.operand]

theorem parse_number (value : Nat) (e : Expr) (literal : numberLiteral (toString value).toList = .ok e) :
    parse (toString value) = .ok e := by
  have nonempty := Text.number_nonempty value
  have digits := Text.digits_of_number value
  have lexed : Lexeme.all? (prepare (toString value).toList) = some [.number (toString value).toList] := by
    rw [prepare_digits _ nonempty digits, lexed_digits _ nonempty digits]
  have read := Phrase.operand_alone _ _ _ (number_operand (toString value).toList) Phrase.nestingLimit [] (by decide)
    fun next member => by cases member
  exact parse_lexed _ _ e (.number (toString value).toList) lexed (by rw [ofPhrase, literal]) read

theorem parse_negative (value : Nat) (e : Expr) (literal : numberLiteral (toString value).toList = .ok e) :
    parse ("-" ++ toString value) = .ok (negate e) := by
  have nonempty := Text.number_nonempty value
  have digits := Text.digits_of_number value
  have text : ("-" ++ toString value).toList = '-' :: (toString value).toList := by simp
  have lexed : Lexeme.all? (prepare ("-" ++ toString value).toList) =
      some [.mark .minus, .number (toString value).toList] := by
    rw [text, prepare_negative _ nonempty digits, lexed_negative _ nonempty digits]
  have read := Phrase.minus_alone _ _ _ (number_operand (toString value).toList) Phrase.nestingLimit [] (by decide)
    fun next member => by cases member
  refine parse_lexed _ _ _ (.signed .minus (.number (toString value).toList)) lexed ?_ read
  rw [ofPhrase, ofPhrase, literal]
  rfl

-- The magnitude of the least integer as a literal: one too much for an integer, and exact as a float.
theorem least_magnitude_literal :
    numberLiteral (toString Word.signedBound).toList = .ok (literal (.float 9223372036854775808)) := by
  rw [numberLiteral, Text.bounded_number, if_neg (Nat.lt_irrefl _)]
  rfl

theorem magnitude_integer (magnitude : Nat) (small : magnitude < Word.signedBound) :
    (Int64.ofNat magnitude).toInt = magnitude := Int64.toInt_ofNat_of_lt small

theorem natural_text (n : Int64) (signless : 0 ≤ n.toInt) :
    ∃ magnitude < Word.signedBound, n = Int64.ofNat magnitude ∧ (Value.integer n).display = toString magnitude := by
  have high := Int64.toInt_lt n
  obtain ⟨magnitude, same⟩ := Int.eq_ofNat_of_zero_le signless
  have small : magnitude < Word.signedBound := by
    unfold Word.signedBound
    omega
  refine ⟨magnitude, small, Int64.toInt_inj.mp (by rw [same, magnitude_integer _ small]), ?_⟩
  rw [Value.display, same]
  rfl

theorem negative_text (n : Int64) (negative : n.toInt < 0) :
    ∃ magnitude ≤ Word.signedBound, n.toInt = -(magnitude : Int) ∧
      (Value.integer n).display = "-" ++ toString magnitude := by
  have low := Int64.le_toInt n
  obtain ⟨less, same⟩ := Int.eq_negSucc_of_lt_zero negative
  refine ⟨less + 1, ?_, by rw [same]; rfl, ?_⟩
  · unfold Word.signedBound
    omega
  · rw [Value.display, same]
    rfl

theorem negative_evaluated (magnitude : Nat) (small : magnitude < Word.signedBound) (n : Int64)
    (same : n.toInt = -(magnitude : Int)) (scope : Scope) :
    (negate (literal (.integer (Int64.ofNat magnitude)))).evaluate scope = .ok (.integer n) := by
  have inside : Word.fits n.toInt = true := Word.fits_toInt n
  rw [evaluate, evaluate]
  change Value.exact .negationOverflow (-(Int64.ofNat magnitude).toInt) = _
  rw [magnitude_integer magnitude small, ← same, Value.exact, if_pos inside, Int64.ofInt_toInt]

theorem integer_evaluated (n : Int64) (scope : Scope) :
    ∃ e, parse (Value.integer n).display = .ok e ∧
      e.evaluate scope = .ok (if n = Int64.minValue then .float (-9223372036854775808) else .integer n) := by
  by_cases signless : 0 ≤ n.toInt
  · obtain ⟨magnitude, small, same, text⟩ := natural_text n signless
    have other : n ≠ Int64.minValue := by
      rintro rfl
      exact absurd signless (by decide)
    refine ⟨_, by rw [text, parse_number magnitude _ (number_literal magnitude small)], ?_⟩
    rw [if_neg other, evaluate, ← same]
  · obtain ⟨magnitude, most, same, text⟩ := negative_text n (Int.lt_of_not_ge signless)
    by_cases least : magnitude = Word.signedBound
    · have lowest : n = Int64.minValue := Int64.toInt_inj.mp (by rw [same, least]; rfl)
      refine ⟨_, by rw [text, least, parse_negative _ _ least_magnitude_literal], ?_⟩
      rw [if_pos lowest, evaluate, evaluate]
      rfl
    · have small : magnitude < Word.signedBound := Nat.lt_of_le_of_ne most least
      have other : n ≠ Int64.minValue := by
        rintro rfl
        have lowest : Int64.minValue.toInt = -(Word.signedBound : Int) := rfl
        omega
      refine ⟨_, by rw [text, parse_negative magnitude _ (number_literal magnitude small)], ?_⟩
      rw [if_neg other, negative_evaluated magnitude small n same]

theorem integers_written (n : Int64) (scope : Scope) :
    ∃ expression, Expression.parse (Value.integer n).display = .ok expression ∧
      expression.evaluate scope = .ok (if n = Int64.minValue then .float (-9223372036854775808) else .integer n) := by
  obtain ⟨e, parsed, evaluated⟩ := integer_evaluated n scope
  refine ⟨⟨_, e⟩, by rw [Expression.parse, parsed]; rfl, ?_⟩
  rw [Expression.evaluate, evaluated]
  rfl

end StatementMapper.Expr
