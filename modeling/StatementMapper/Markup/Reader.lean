import StatementMapper.Markup
import StatementMapper.Markup.Event

set_option autoImplicit false

namespace StatementMapper.Markup

structure Frame where
  name : String
  attributes : List (String × String)
  before : List Markup

-- Open elements innermost first, finished nodes last first, and the character data behind them.
structure Building where
  frames : List Frame
  nodes : List Markup
  pending : List Char

namespace Building

def empty : Building := ⟨[], [], []⟩

def flushed (b : Building) : List Markup :=
  if b.pending.isEmpty then b.nodes else .text (String.ofList b.pending) :: b.nodes

def add (b : Building) (event : Event) : Except TemplateFault Building :=
  match event with
  | .data content => .ok { b with pending := b.pending ++ content }
  | .opening name attributes true => .ok { b with nodes := .element name attributes [] :: b.flushed, pending := [] }
  | .opening name attributes false => .ok ⟨⟨name, attributes, b.flushed⟩ :: b.frames, [], []⟩
  | .closing name =>
    match b.frames with
    | [] => .error (.unexpectedClosing name)
    | frame :: outer =>
      if frame.name = name then
        .ok ⟨outer, .element frame.name frame.attributes b.flushed.reverse :: frame.before, []⟩
      else .error (.mismatchedClosing frame.name name)
  | .fault cause => .error cause

def addAll (b : Building) : List Event → Except TemplateFault Building
  | [] => .ok b
  | event :: rest =>
    match b.add event with
    | .ok next => next.addAll rest
    | .error cause => .error cause

def finish (b : Building) : Except TemplateFault (List Markup) :=
  match b.frames with
  | [] => .ok b.flushed.reverse
  | frame :: _ => .error (.unclosedElement frame.name)

end Building

def parse (source : String) : Except TemplateFault (List Markup) :=
  match Building.empty.addAll (events source.toList) with
  | .ok built => built.finish
  | .error cause => .error cause

end StatementMapper.Markup
