import StatementMapper.Expr.Reader
import StatementMapper.Proofs.Expr.Dispatch

set_option autoImplicit false

namespace StatementMapper.Expr

open Outcome (map_error_bind map_error_ok)

abbrev Narrowed := Except (Stop Obstacle) Expr

-- A phrase that needs a converter, and what the phrases inside it come to.
inductive Conversion where
  | group (inner : Narrowed)
  | signed (sign : Sign) (operand : Narrowed)
  | binary (operator : Option Operator) (left right : Narrowed)
  | nullCheck (operand : Narrowed) (negated : Bool)
  | membership (needle : Narrowed) (candidates : List Narrowed) (negated : Bool)
  | call (segments : List String) (hasArguments : Bool)
  | foreign

inductive Converter where
  | nested
  | unary
  | binary
  | nullCheck
  | membership
  | call
deriving DecidableEq

namespace Converter

def registered : List Converter := [nested, unary, binary, nullCheck, membership, call]

def accepts : Converter → Phrase → Bool
  | nested, .group _ => true
  | unary, .signed _ _ => true
  | binary, .binary _ _ _ => true
  | nullCheck, .nullCheck _ _ => true
  | membership, .membership _ _ _ => true
  | call, .call _ _ => true
  | _, _ => false

def gather : List Narrowed → Except (Stop Obstacle) (List Expr)
  | [] => .ok []
  | first :: rest => do
    let e ← first
    let more ← gather rest
    .ok (e :: more)

def apply : Converter → Conversion → Narrowed
  | nested, .group inner => inner
  | unary, .signed sign operand => do
    let e ← operand
    match sign with
    | .plus => .ok e
    | .minus => .ok (.negate e)
    | .not => .ok (.not e)
    | .complement => .error (.fault .foreign)
  | binary, .binary operator left right => do
    let a ← left
    match operator with
    | none => .error (.fault .foreign)
    | some known => right.map fun b => .binary known a b
  | nullCheck, .nullCheck operand negated => operand.map fun e => .isNull e negated
  | membership, .membership needle candidates negated => do
    let e ← needle
    (gather candidates).map fun found => .isIn e found negated
  | call, .call segments hasArguments => (ofCall (dotted segments) hasArguments).mapError .fault
  | _, _ => .error .unreachable

end Converter

mutual
def convert (registered : List Converter) : Phrase → Narrowed
  | .number digits => (numberLiteral digits).mapError .fault
  | .text content => .ok (literal (.text content))
  | .boolean b => .ok (literal (.boolean b))
  | .null => .ok (literal .null)
  | .name name .doubleQuotes => .ok (literal (.text name))
  | .name name _ => .ok (property name)
  | .path segments => .ok (property (dotted segments))
  | .call segments hasArguments =>
    handled registered (·.accepts (.call segments hasArguments)) (·.apply (.call segments hasArguments)) .foreign
  | .group inner => handled registered (·.accepts (.group inner)) (·.apply (.group (convert registered inner))) .foreign
  | .signed sign inner =>
    handled registered (·.accepts (.signed sign inner)) (·.apply (.signed sign (convert registered inner))) .foreign
  | .binary operator left right =>
    handled registered (·.accepts (.binary operator left right))
      (·.apply (.binary operator (convert registered left) (convert registered right))) .foreign
  | .nullCheck inner negated =>
    handled registered (·.accepts (.nullCheck inner negated))
      (·.apply (.nullCheck (convert registered inner) negated)) .foreign
  | .membership needle candidates negated =>
    handled registered (·.accepts (.membership needle candidates negated))
      (·.apply (.membership (convert registered needle) (convertAll registered candidates) negated)) .foreign
  | .foreign => handled registered (·.accepts .foreign) (·.apply .foreign) .foreign
def convertAll (registered : List Converter) : List Phrase → List Narrowed
  | [] => []
  | phrase :: rest => convert registered phrase :: convertAll registered rest
end

namespace Converter

def of? : Phrase → Option Converter
  | .group _ => some nested
  | .signed _ _ => some unary
  | .binary _ _ _ => some binary
  | .nullCheck _ _ => some nullCheck
  | .membership _ _ _ => some membership
  | .call _ _ => some call
  | _ => none

theorem accepted_by (phrase : Phrase) : registered.filter (·.accepts phrase) = (of? phrase).toList := by
  cases phrase <;> rfl

theorem gather_all (phrases : List Phrase) :
    gather (phrases.map fun phrase => (ofPhrase phrase).mapError Stop.fault) = (ofPhrases phrases).mapError .fault := by
  induction phrases with
  | nil => rw [ofPhrases]; rfl
  | cons phrase rest ih =>
      rw [ofPhrases, List.map_cons, gather, ih, map_error_bind]
      simp only [map_error_bind]
      rfl

end Converter

mutual
theorem convert_narrows (phrase : Phrase) : convert Converter.registered phrase = (ofPhrase phrase).mapError .fault := by
  cases phrase with
  | number digits => rw [convert, ofPhrase]
  | text content => rw [convert, ofPhrase]; rfl
  | boolean b => rw [convert, ofPhrase]; rfl
  | null => rw [convert, ofPhrase]; rfl
  | name name quotation =>
      cases quotation with
      | doubleQuotes => rw [convert, ofPhrase]; rfl
      | bare => rw [convert, ofPhrase, map_error_ok] <;> simp
      | backticks => rw [convert, ofPhrase, map_error_ok] <;> simp
  | path segments => rw [convert, ofPhrase]; rfl
  | call segments hasArguments => rw [convert, ofPhrase]; rfl
  | group inner => rw [convert, convert_narrows inner, ofPhrase]; rfl
  | signed sign inner =>
      rw [convert, convert_narrows inner, ofPhrase]
      cases ofPhrase inner with
      | error obstacle => rfl
      | ok e => cases sign <;> rfl
  | binary operator left right =>
      rw [convert, convert_narrows left, convert_narrows right, ofPhrase]
      cases ofPhrase left with
      | error obstacle => rfl
      | ok a =>
          cases operator with
          | none => rfl
          | some known => cases ofPhrase right <;> rfl
  | nullCheck inner negated =>
      rw [convert, convert_narrows inner, ofPhrase]
      cases ofPhrase inner <;> rfl
  | membership needle candidates negated =>
      rw [convert, convert_narrows needle, convert_all_narrows candidates, ofPhrase,
        handled_found _ _ _ _ .membership rfl]
      simp only [Converter.apply, Converter.gather_all]
      cases ofPhrase needle with
      | error obstacle => rfl
      | ok e => cases ofPhrases candidates <;> rfl
  | foreign => rw [convert, ofPhrase]; rfl
theorem convert_all_narrows (phrases : List Phrase) :
    convertAll Converter.registered phrases = phrases.map fun phrase => (ofPhrase phrase).mapError .fault := by
  cases phrases with
  | nil => rw [convertAll]; rfl
  | cons phrase rest => rw [convertAll, convert_narrows phrase, convert_all_narrows rest, List.map_cons]
end

theorem convert_reachable (phrase : Phrase) : convert Converter.registered phrase ≠ .error .unreachable := by
  rw [convert_narrows]
  exact fault_reachable _

end StatementMapper.Expr
