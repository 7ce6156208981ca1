import StatementMapper.Expr
import StatementMapper.Expr.Spelling
import StatementMapper.Expr.Phrase
import StatementMapper.Number.Decimal
import StatementMapper.Text.Blank
import StatementMapper.Fault

set_option autoImplicit false

namespace StatementMapper.Expr

inductive Obstacle where
  | foreign
  | unknownMethod (name : String)
  | hasArguments (name : String)
deriving DecidableEq, Repr

def numberLiteral (digits : List Char) : Except Obstacle Expr :=
  match Text.bounded? Word.signedBound digits with
  | some n => .ok (literal (.integer (Int64.ofNat n)))
  | none =>
    match Number.decimal? digits with
    | some x => .ok (literal (.float x))
    | none => .error .foreign

def dotted (segments : List String) : String := String.intercalate "." segments

def splitLast? (text : List Char) : Option (List Char × List Char) :=
  if text.contains '.' then
    some ((text.reverse.dropWhile (· != '.')).tail.reverse, (text.reverse.takeWhile (· != '.')).reverse)
  else none

def ofCall (name : String) (hasArguments : Bool) : Except Obstacle Expr :=
  if hasArguments then .error (.hasArguments name)
  else match splitLast? name.toList with
    | none => .ok (property name)
    | some (target, method) =>
      match Method.ofName? (String.ofList method) with
      | some found => .ok (call (String.ofList target) found)
      | none => .error (.unknownMethod (String.ofList method))

mutual
def ofPhrase : Phrase → Except Obstacle Expr
  | .number digits => numberLiteral digits
  | .text content => .ok (literal (.text content))
  | .boolean b => .ok (literal (.boolean b))
  | .null => .ok (literal .null)
  | .name name .doubleQuotes => .ok (literal (.text name))
  | .name name _ => .ok (property name)
  | .path segments => .ok (property (dotted segments))
  | .call segments hasArguments => ofCall (dotted segments) hasArguments
  | .group inner => ofPhrase inner
  | .signed sign inner => do
    let operand ← ofPhrase inner
    match sign with
    | .plus => .ok operand
    | .minus => .ok (negate operand)
    | .not => .ok (not operand)
    | .complement => .error .foreign
  | .binary operator left right => do
    let leftExpr ← ofPhrase left
    match operator with
    | none => .error .foreign
    | some known =>
      let rightExpr ← ofPhrase right
      .ok (binary known leftExpr rightExpr)
  | .nullCheck inner negated => do .ok (isNull (← ofPhrase inner) negated)
  | .membership needle candidates negated => do
    let subject ← ofPhrase needle
    let found ← ofPhrases candidates
    .ok (isIn subject found negated)
  | .foreign => .error .foreign
def ofPhrases : List Phrase → Except Obstacle (List Expr)
  | [] => .ok []
  | phrase :: rest => do
    let first ← ofPhrase phrase
    let more ← ofPhrases rest
    .ok (first :: more)
end

def Obstacle.fault (source : String) : Obstacle → TemplateFault
  | foreign => .malformedExpression source
  | unknownMethod name => .unknownMethod source name
  | hasArguments name => .methodArguments source name

def parse (source : String) : Except TemplateFault Expr :=
  let prepared := prepare source.toList
  if Text.allBlank prepared then .error (.emptyExpression source)
  else match (Lexeme.all? prepared).bind Phrase.all? with
    | none => .error (.malformedExpression source)
    | some phrase => (ofPhrase phrase).mapError (Obstacle.fault source)

end StatementMapper.Expr
