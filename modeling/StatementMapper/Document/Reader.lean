import StatementMapper.Document
import StatementMapper.Number.Decimal

set_option autoImplicit false

/-! Numbers too large for a double, lone surrogates and arrays or objects nested more than 127 deep are refused. -/

namespace StatementMapper.Document

abbrev Reading := Option (Document × List Char)

def isSpace (c : Char) : Bool := c == ' ' || c == '\t' || c == '\n' || c == '\r'

def skipSpace (text : List Char) : List Char := text.dropWhile isSpace

def codeUnit? : List Char → Option (Nat × List Char)
  | a :: b :: c :: d :: rest => (Text.hexadecimal? [a, b, c, d]).map (·, rest)
  | _ => none

-- A high surrogate needs a low one behind it.
def unicode? (text : List Char) : Option (Char × List Char) := do
  let (unit, rest) ← codeUnit? text
  if 0xD800 ≤ unit ∧ unit < 0xDC00 then
    match rest with
    | '\\' :: 'u' :: more =>
      let (low, tail) ← codeUnit? more
      if 0xDC00 ≤ low ∧ low < 0xE000 then
        some (Char.ofNat (0x10000 + (unit - 0xD800) * 0x400 + (low - 0xDC00)), tail)
      else none
    | _ => none
  else if 0xDC00 ≤ unit ∧ unit < 0xE000 then none
  else some (Char.ofNat unit, rest)

def simpleEscape? : Char → Option Char
  | '"' => some '"'
  | '\\' => some '\\'
  | '/' => some '/'
  | 'b' => some '\x08'
  | 'f' => some '\x0c'
  | 'n' => some '\n'
  | 'r' => some '\r'
  | 't' => some '\t'
  | _ => none

def string? (text : List Char) : Option (List Char × List Char) :=
  match text with
  | [] => none
  | '"' :: rest => some ([], rest)
  | '\\' :: 'u' :: rest =>
    match unicode? rest with
    | none => none
    | some (c, tail) =>
      if tail.length ≤ rest.length then (string? tail).map fun (content, more) => (c :: content, more) else none
  | '\\' :: escape :: rest =>
    match simpleEscape? escape with
    | none => none
    | some c => (string? rest).map fun (content, more) => (c :: content, more)
  | c :: rest =>
    if c.toNat < 0x20 || c == '\\' then none
    else (string? rest).map fun (content, more) => (c :: content, more)
termination_by text.length

def exponentPart? : List Char → Option (Int × List Char)
  | [] => some (0, [])
  | mark :: rest =>
    if mark = 'e' ∨ mark = 'E' then
      let (negative, body) := match rest with
        | '-' :: tail => (true, tail)
        | '+' :: tail => (false, tail)
        | tail => (false, tail)
      let digits := body.takeWhile Char.isDigit
      if digits.isEmpty then none
      else
        let value : Int := Text.digitsValue digits
        some (if negative then -value else value, body.dropWhile Char.isDigit)
    else some (0, mark :: rest)

def finite? (negative : Bool) (x : Float) : Option Document :=
  if x.isFinite then some (real (if negative then -x else x)) else none

-- A number, without its sign. A fraction or an exponent makes it real, and so does a negative zero.
def number? (negative : Bool) (text : List Char) : Reading := do
  let whole := text.takeWhile Char.isDigit
  if whole.isEmpty || (whole.length > 1 && whole.head? == some '0') then none
  else
    let afterWhole := text.dropWhile Char.isDigit
    match afterWhole with
    | '.' :: tail =>
      let fraction := tail.takeWhile Char.isDigit
      if fraction.isEmpty then none
      else
        let (exponent, rest) ← exponentPart? (tail.dropWhile Char.isDigit)
        let document ← finite? negative (Number.nearest (whole ++ fraction) (exponent - fraction.length))
        some (document, rest)
    | 'e' :: _ | 'E' :: _ =>
      let (exponent, rest) ← exponentPart? afterWhole
      let document ← finite? negative (Number.nearest whole exponent)
      some (document, rest)
    | rest =>
      let value := Text.digitsValue whole
      let document ←
        if negative then
          if value = 0 ∨ Word.signedBound < value then finite? true (Number.nearest whole 0) else some (integer (-value))
        else if value < Word.bound64 then some (integer value)
        else finite? false (Number.nearest whole 0)
      some (document, rest)

def items? (element : List Char → Reading) (text : List Char) : Option (List Document × List Char) :=
  match element (skipSpace text) with
  | none => none
  | some (item, rest) =>
    match skipSpace rest with
    | ']' :: tail => some ([item], tail)
    | ',' :: tail =>
      if tail.length < text.length then (items? element tail).map fun (more, after) => (item :: more, after)
      else none
    | _ => none
termination_by text.length

def fields? (element : List Char → Reading) (text : List Char) :
    Option (List (String × Document) × List Char) :=
  match skipSpace text with
  | '"' :: start =>
    match string? start with
    | none => none
    | some (name, afterName) =>
      match skipSpace afterName with
      | ':' :: body =>
        match element (skipSpace body) with
        | none => none
        | some (item, rest) =>
          let field := (String.ofList name, item)
          match skipSpace rest with
          | '\x7d' :: tail => some ([field], tail)
          | ',' :: tail =>
            if tail.length < text.length then
              (fields? element tail).map fun (more, after) => (field :: more, after)
            else none
          | _ => none
      | _ => none
  | _ => none
termination_by text.length

def array? (element : List Char → Reading) (text : List Char) : Reading :=
  match skipSpace text with
  | ']' :: rest => some (array [], rest)
  | body => (items? element body).map fun (items, rest) => (array items, rest)

def object? (element : List Char → Reading) (text : List Char) : Reading :=
  match skipSpace text with
  | '\x7d' :: rest => some (object [], rest)
  | body => (fields? element body).map fun (fields, rest) => (object fields, rest)

def scalar? (text : List Char) : Reading :=
  match text with
  | 'n' :: 'u' :: 'l' :: 'l' :: rest => some (null, rest)
  | 't' :: 'r' :: 'u' :: 'e' :: rest => some (boolean true, rest)
  | 'f' :: 'a' :: 'l' :: 's' :: 'e' :: rest => some (boolean false, rest)
  | '"' :: rest => (string? rest).map fun (content, tail) => (Document.text (String.ofList content), tail)
  | '-' :: rest => number? true rest
  | _ => number? false text

def read? : Nat → List Char → Reading
  | 0, source =>
    match source with
    | '[' :: _ | '\x7b' :: _ => none
    | _ => scalar? source
  | depth + 1, source =>
    match source with
    | '[' :: rest => array? (read? depth) rest
    | '\x7b' :: rest => object? (read? depth) rest
    | _ => scalar? source

def parse? (source : String) : Option Document :=
  match read? 127 (skipSpace source.toList) with
  | some (document, rest) => if (skipSpace rest).isEmpty then some document else none
  | none => none

end StatementMapper.Document
