import StatementMapper.Expr.Keyword

set_option autoImplicit false

/-! The lexemes of a prepared expression: those of the expression grammar in section G of the specification, and those of
the query language around it, which have no place there. -/

namespace StatementMapper

-- Signs of an expression. The last two stand for literals and characters without a place in the grammar.
inductive Mark where
  | period
  | comma
  | opening
  | closing
  | plus
  | minus
  | star
  | slash
  | percent
  | eq
  | notEq
  | lt
  | ltEq
  | gt
  | gtEq
  | spaceship
  | shift
  | pipe
  | caret
  | ampersand
  | wholeDivision
  | tilde
  | arrow
  | placeholder
  | stray
deriving DecidableEq, Repr

inductive Quotation where
  | bare
  | backticks
  | doubleQuotes
deriving DecidableEq, Repr

inductive Lexeme where
  | word (name : String) (quotation : Quotation)
  | text (content : String)
  | number (digits : List Char)
  | mark (mark : Mark)
deriving DecidableEq, Repr

namespace Lexeme

def keyword? : Lexeme → Option Keyword
  | word name .bare => Keyword.ofWord? name.toList
  | _ => none

def quoted? (quote : Char) : List Char → Option (List Char × List Char)
  | [] => none
  | [c] => if c = quote then some ([], []) else none
  | c :: next :: rest =>
    if c = quote then
      if next = quote then (quoted? quote rest).map fun (content, tail) => (quote :: content, tail)
      else some ([], next :: rest)
    else (quoted? quote (next :: rest)).map fun (content, tail) => (c :: content, tail)

def comment? : Nat → List Char → Option (List Char)
  | 0, rest => some rest
  | depth + 1, '*' :: '/' :: rest => comment? depth rest
  | depth + 1, '/' :: '*' :: rest => comment? (depth + 2) rest
  | depth + 1, _ :: rest => comment? (depth + 1) rest
  | _ + 1, [] => none

def takeExponent (source : List Char) : List Char × List Char :=
  let (start, body) := match source with
    | 'e' :: '+' :: rest => (['e', '+'], rest)
    | 'e' :: '-' :: rest => (['e', '-'], rest)
    | 'e' :: rest => (['e'], rest)
    | 'E' :: '+' :: rest => (['E', '+'], rest)
    | 'E' :: '-' :: rest => (['E', '-'], rest)
    | 'E' :: rest => (['E'], rest)
    | rest => ([], rest)
  let digits := body.takeWhile Char.isDigit
  if start.isEmpty || digits.isEmpty then ([], source) else (start ++ digits, body.dropWhile Char.isDigit)

def isHexDigit (c : Char) : Bool := c.isDigit || ('a' ≤ c && c ≤ 'f') || ('A' ≤ c && c ≤ 'F')

-- A number at a digit or a point; a point without digits is a mark. A suffix `L` is skipped.
def takeNumber (source : List Char) : Lexeme × List Char :=
  let whole := source.takeWhile Char.isDigit
  match whole, source.dropWhile Char.isDigit with
  | ['0'], 'x' :: rest => (.mark .placeholder, rest.dropWhile isHexDigit)
  | _, afterWhole =>
    let (point, rest) := match afterWhole with
      | '.' :: tail => (['.'], tail)
      | tail => ([], tail)
    let fraction := rest.takeWhile Char.isDigit
    if whole.isEmpty && fraction.isEmpty then (.mark .period, rest)
    else
      let (power, tail) := takeExponent (rest.dropWhile Char.isDigit)
      let digits := whole ++ point ++ fraction ++ power
      match tail with
      | 'L' :: more => (.number digits, more)
      | more => (.number digits, more)

def isNameStart (c : Char) : Bool := Text.isLetter c || c == '_'

def isNamePart (c : Char) : Bool :=
  Text.isLetter c || c.isDigit || c == '_' || c == '@' || c == '$' || c == '#'

def takeWord (start rest : List Char) : Lexeme × List Char :=
  (.word (String.ofList (start ++ rest.takeWhile isNamePart)) .bare, rest.dropWhile isNamePart)

def takeMark (c : Char) (rest : List Char) : Lexeme × List Char :=
  let one (m : Mark) := (Lexeme.mark m, rest)
  match c, rest with
  | ',', _ => one .comma
  | '(', _ => one .opening
  | ')', _ => one .closing
  | '+', _ => one .plus
  | '-', _ => one .minus
  | '*', _ => one .star
  | '/', '/' :: tail => (.mark .wholeDivision, tail)
  | '/', _ => one .slash
  | '%', _ => one .percent
  | '=', '>' :: tail => (.mark .arrow, tail)
  | '=', '=' :: tail => (.mark .eq, tail)
  | '=', _ => one .eq
  | '!', '=' :: tail => (.mark .notEq, tail)
  | '<', '=' :: '>' :: tail => (.mark .spaceship, tail)
  | '<', '=' :: tail => (.mark .ltEq, tail)
  | '<', '>' :: tail => (.mark .notEq, tail)
  | '<', '<' :: tail => (.mark .shift, tail)
  | '<', '@' :: tail => (.mark .stray, tail)
  | '<', _ => one .lt
  | '>', '=' :: tail => (.mark .gtEq, tail)
  | '>', '>' :: tail => (.mark .shift, tail)
  | '>', _ => one .gt
  | '|', '/' :: tail => (.mark .stray, tail)
  | '|', '|' :: tail => (.mark .stray, tail)
  | '|', _ => one .pipe
  | '^', '@' :: tail => (.mark .stray, tail)
  | '^', _ => one .caret
  | '&', '&' :: tail => (.mark .stray, tail)
  | '&', _ => one .ampersand
  | '~', '*' :: tail => (.mark .stray, tail)
  | '~', '~' :: tail => (.mark .stray, tail)
  | '~', _ => one .tilde
  | '?', _ => (.mark .placeholder, rest.dropWhile Char.isDigit)
  | '$', '$' :: tail => (.mark .stray, tail)
  | '$', _ => (.mark .placeholder, rest.dropWhile fun c => Text.isAlphanumeric c || c == '_')
  | _, _ => one .stray

def startsMarked (c next : Char) : Bool :=
  (c == '#' && !(next == ' ' || next == '-' || next == '>')) ||
    (c == '@' && !(next == ' ' || next == '-' || next == '>' || next == '@' || next == '?' ||
      next == '\'' || next == '"' || next == '`'))

def takeQuoted? (make : String → Lexeme) (quote : Char) (rest : List Char) : Option (Lexeme × List Char) :=
  (quoted? quote rest).map fun (content, tail) => (make (String.ofList content), tail)

def take? (c : Char) (rest : List Char) : Option (Lexeme × List Char) :=
  if c = '\'' then takeQuoted? .text c rest
  else if c = '"' then takeQuoted? (.word · .doubleQuotes) c rest
  else if c = '`' then takeQuoted? (.word · .backticks) c rest
  else if c.isDigit || c == '.' then some (takeNumber (c :: rest))
  else if isNameStart c then some (takeWord [c] rest)
  else match rest with
    | next :: tail => if startsMarked c next then some (takeWord [c, next] tail) else some (takeMark c rest)
    | [] => some (takeMark c rest)

def skip? (c : Char) (rest : List Char) : Option (Option (List Char)) :=
  if Text.isBlank c then some (some rest)
  else match c, rest with
    | '-', '-' :: tail => some (some (tail.dropWhile (· != '\n')))
    | '/', '*' :: tail => some (comment? 1 tail)
    | _, _ => none

def all? : List Char → Option (List Lexeme)
  | [] => some []
  | c :: rest =>
    match skip? c rest with
    | some none => none
    | some (some tail) => if tail.length ≤ rest.length then all? tail else none
    | none =>
      match take? c rest with
      | none => none
      | some (lexeme, tail) => if tail.length ≤ rest.length then (all? tail).map (lexeme :: ·) else none
termination_by source => source.length

end Lexeme

end StatementMapper
