import StatementMapper.Text.Blank
import StatementMapper.Text.Search
import StatementMapper.Text.Numeral
import StatementMapper.Fault
import StatementMapper.Number.Word

set_option autoImplicit false

namespace StatementMapper

inductive Mode where
  | input
  | output
  | both
deriving DecidableEq, Repr

namespace Mode

def name : Mode → String
  | input => "IN"
  | output => "OUT"
  | both => "INOUT"

def isInput : Mode → Bool
  | output => false
  | _ => true

def parse (text : List Char) : Except TemplateFault Mode :=
  match String.ofList (Text.upper (Text.trim text)) with
  | "IN" => .ok input
  | "OUT" => .ok output
  | "INOUT" => .ok both
  | other => .error (.unknownMode other)

end Mode

structure Mapping where
  property : String
  mode : Mode := .input
  javaType : Option String := none
  jdbcType : Option String := none
  jdbcTypeName : Option String := none
  numericScale : Option Nat := none
  typeHandler : Option String := none
  resultMap : Option String := none
deriving DecidableEq, Repr

namespace Mapping

def withOption (content : String) (mapping : Mapping) (name : String) (value : List Char) :
    Except TemplateFault Mapping :=
  let text := String.ofList value
  match name with
  | "javaType" => .ok { mapping with javaType := some text }
  | "jdbcType" => .ok { mapping with jdbcType := some text }
  | "jdbcTypeName" => .ok { mapping with jdbcTypeName := some text }
  | "mode" => (Mode.parse value).map fun mode => { mapping with mode }
  | "numericScale" =>
    match Text.bounded? Word.bound32 value with
    | some scale => .ok { mapping with numericScale := some scale }
    | none => .error (.numericScale content)
  | "typeHandler" => .ok { mapping with typeHandler := some text }
  | "resultMap" => .ok { mapping with resultMap := some text }
  | other => .error (.unknownOption other content)

def withOptions (content : String) (mapping : Mapping) : List (List Char) → Except TemplateFault Mapping
  | [] => .ok mapping
  | option :: rest =>
    match Text.splitFirst '=' option with
    | (_, none) => .error (.optionWithoutValue content (String.ofList (Text.trim option)))
    | (name, some value) => do
      let next ← withOption content mapping (String.ofList (Text.trim name)) (Text.trim value)
      withOptions content next rest

def ofHead (content : String) (head : List Char) : Except TemplateFault Mapping :=
  let (property, type) := Text.splitFirst ':' (Text.trim head)
  let name := Text.trim property
  let hint := (type.map Text.trim).filter (!·.isEmpty)
  if name.isEmpty then .error (.namelessMapping content)
  else .ok { property := String.ofList name, jdbcType := hint.map String.ofList }

def parse (content : List Char) : Except TemplateFault Mapping :=
  let whole := String.ofList content
  match Text.split ',' content with
  | [] => .error (.namelessMapping whole)
  | head :: options => do
    let mapping ← ofHead whole head
    withOptions whole mapping options

end Mapping

end StatementMapper
