import StatementMapper.Expr.Evaluation
import StatementMapper.Template.Trimming

set_option autoImplicit false

namespace StatementMapper.Template

inductive Part where
  | literal (text : List Char)
  | substitution (expression : Expression)

inductive TrimTag where
  | trim
  | where
  | set
deriving DecidableEq, Repr

structure Loop where
  collection : Expression
  item : Option String
  index : Option String
  opening : String
  closing : String
  separator : String
  nullable : Bool

inductive Node where
  | static (text : List Char)
  | parameterized (text : List Char)
  | text (parts : List Part)
  | when (test : Expression) (body : Node)
  | choose (branches : List (Expression × Node)) (otherwise : Option Node)
  | trim (tag : TrimTag) (trimming : Trimming) (body : Node)
  | loop (head : Loop) (body : Node)
  | bind (name : String) (value : Expression)
  | sequence (children : List Node)

namespace Node

mutual
-- Whether rendering the node may depend on the parameter beyond its placeholders.
def isDynamic : Node → Bool
  | static _ => false
  | parameterized _ => false
  | sequence children => anyDynamic children
  | _ => true
def anyDynamic : List Node → Bool
  | [] => false
  | child :: rest => child.isDynamic || anyDynamic rest
end

end Node

end StatementMapper.Template
