import StatementMapper.Expr.Keyword

set_option autoImplicit false

/-! `respell` respells operators outside quotation marks; `quotePaths` puts every path segment between backticks. -/

namespace StatementMapper.Expr

def isQuotation (c : Char) : Bool := c == '\'' || c == '"'

def respell (quote : Option Char) : List Char → List Char
  | [] => []
  | c :: rest =>
    match quote with
    | some mark => c :: respell (if c = mark then none else some mark) rest
    | none =>
      if isQuotation c then c :: respell (some c) rest
      else match c, rest with
        | '&', '&' :: tail => " AND ".toList ++ respell none tail
        | '|', '|' :: tail => " OR ".toList ++ respell none tail
        | '=', '=' :: tail => " = ".toList ++ respell none tail
        | '!', '=' :: tail => "!=".toList ++ respell none tail
        | '!', tail => " NOT ".toList ++ respell none tail
        | c, tail => c :: respell none tail

def isRegionMark (c : Char) : Bool := isQuotation c || c == '`'

def isWordStart (c : Char) : Bool := Text.isLetter c || c == '_'

def isWordPart (c : Char) : Bool := Text.isAlphanumeric c || c == '_'

def isNumberPart (c : Char) : Bool := c.isAlphanum || c == '.'

-- A word behind a dot and in front of an opening parenthesis is the name of a called method.
def isCalled (last : Option Char) (rest : List Char) : Bool :=
  last == some '.' && (rest.dropWhile Text.isBlank).head? == some '('

-- A keyword counts as one only away from dots.
def isKeyword (last : Option Char) (word rest : List Char) : Bool :=
  last != some '.' && rest.head? != some '.' && (Keyword.ofWord? word).isSome

def quoteWord (last : Option Char) (word rest : List Char) : List Char :=
  if isCalled last rest || isKeyword last word rest then word else '`' :: word ++ ['`']

def quotePaths (quote last : Option Char) (text : List Char) : List Char :=
  match text with
  | [] => []
  | c :: rest =>
    match quote with
    | some mark => c :: quotePaths (if c = mark then none else some mark) (some c) rest
    | none =>
      if isRegionMark c then c :: quotePaths (some c) (some c) rest
      else if c.isDigit then
        let run := c :: rest.takeWhile isNumberPart
        run ++ quotePaths none run.getLast? (rest.dropWhile isNumberPart)
      else if isWordStart c then
        let word := c :: rest.takeWhile isWordPart
        let tail := rest.dropWhile isWordPart
        let written := quoteWord last word tail
        written ++ quotePaths none written.getLast? tail
      else c :: quotePaths none (some c) rest
termination_by text.length
decreasing_by
  all_goals simp only [List.length_cons]
  · omega
  · omega
  · exact Nat.lt_succ_of_le (List.dropWhile_sublist isNumberPart).length_le
  · exact Nat.lt_succ_of_le (List.dropWhile_sublist isWordPart).length_le
  · omega

def prepare (source : List Char) : List Char := quotePaths none none (respell none source)

end StatementMapper.Expr
