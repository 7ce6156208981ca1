import StatementMapper.Interception.Argument
import StatementMapper.Text.Visible

set_option autoImplicit false

namespace StatementMapper

def quotedChar (c : Char) : List Char :=
  match c with
  | '"' => ['\\', '"']
  | '\\' => ['\\', '\\']
  | '\n' => ['\\', 'n']
  | '\r' => ['\\', 'r']
  | '\t' => ['\\', 't']
  | '\x00' => ['\\', '0']
  | _ => if Text.isVisible c then [c] else ['\\', 'u', '\x7b'] ++ Nat.toDigits 16 c.toNat ++ ['\x7d']

def quoted (text : String) : String := "\"" ++ String.ofList (text.toList.flatMap quotedChar) ++ "\""

def ArgumentKind.describe {S : Type} : (kind : ArgumentKind) → kind.Carrier S → String
  | .statement, (s : Statement) => "Statement(" ++ s.id ++ ")"
  | .parameter, (p : Parameter) => "Parameter(" ++ p.toValue.display ++ ")"
  | .bounds, (b : Bounds) => "RowBounds(" ++ toString b.offset ++ ", " ++ toString b.limit ++ ")"
  | .rowHandler, (some _ : Option (RowHandler S)) => "ResultHandler(Some)"
  | .rowHandler, (none : Option (RowHandler S)) => "ResultHandler(None)"
  | .key, (k : Cache.Key) => "CacheKey(" ++ k.display ++ ")"
  | .command, (c : Command) => "Command(" ++ quoted c.sql ++ ")"
  | .flag, (b : Bool) => if b then "Flag(true)" else "Flag(false)"
  | .request, (r : Request) => "Request(" ++ quoted r.sql ++ ")"
  | .rows, (r : Rows) => "Result(" ++ toString r.count ++ " rows)"

def Argument.describe {S : Type} (argument : Argument S) : String := argument.kind.describe argument.content

end StatementMapper
