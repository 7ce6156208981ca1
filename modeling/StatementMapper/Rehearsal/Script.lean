import StatementMapper.Interception.Plugin

set_option autoImplicit false

namespace StatementMapper.Rehearsal

variable {S : Type}

inductive Script (S : Type) where
  | proceed
  | twice
  | skip (reply : Reply)
  | after (reply : Reply)
  | fail (text : String)
  | swallow (reply : Reply)
  | inspect
  | appendSql (text : String)
  | appendReply (text : Option String)
  | keepRows (count : Nat)
  | replace (position : Nat) (argument : Argument S)
  | pass (arguments : List (Argument S))

structure Scripted (S : Type) where
  script : Script S := .proceed
  only : Option String := none

structure Desk (S : Type) where
  name : String
  write : String → S → S
  faultName : Fault → String
  ending : String := ""

namespace Desk

def note (desk : Desk S) (line : String) : Action S Unit := Action.change (desk.write (desk.name ++ " " ++ line))

def flagText (b : Bool) : String := if b then "true" else "false"

def sight (state : S) : Invocation S → String
  | ⟨.executor, _, _, target⟩ => "closed=" ++ flagText (Executor.closed target state)
  | ⟨.statementHandler, _, _, target⟩ => "sql=" ++ (StatementHandler.command target state).sql
  | ⟨.parameterHandler, _, _, target⟩ => "param=" ++ (ParameterHandler.parameter target state).toValue.display
  | ⟨.resultSetHandler, _, _, _⟩ => "results"

def inspect (desk : Desk S) (invocation : Invocation S) : Action S Unit := do
  let sight ← Action.look fun state => sight state invocation
  let flags := Capability.all.map fun capability => flagText (capability = invocation.capability)
  desk.note ("sees " ++ invocation.capability.name ++ " " ++ sight ++ " [" ++ String.intercalate ", " flags ++ "]")

end Desk

def extend (text : String) (request : Request) : Request := { request with sql := request.sql ++ text }

namespace Script

def extendFirst (text : String) (arguments : List (Argument S)) : List (Argument S) :=
  match arguments with
  | [] => []
  | argument :: rest =>
    match argument.as? .request with
    | some request => ⟨.request, extend text request⟩ :: rest
    | none => arguments

def extendReply (text : String) (reply : Reply) : Reply :=
  match reply.as? .request with
  | some request => ⟨.request, extend text request⟩
  | none => reply

def cutReply (count : Nat) (reply : Reply) : Reply :=
  match (reply.as? .rows : Option Rows) with
  | some rows => ⟨.rows, { rows with rows := rows.rows.take count }⟩
  | none => reply

def run (desk : Desk S) (invocation : Invocation S) : Script S → Action S Reply
  | proceed => invocation.proceed
  | twice => do
    let _ ← invocation.proceed
    invocation.proceed
  | skip reply => pure reply
  | after reply => do
    let _ ← invocation.proceed
    pure reply
  | fail text => Action.fail (.execution (.reported text))
  | swallow reply => do
    let outcome ← Action.attempt invocation.proceed
    match outcome with
    | .ok own => pure own
    | .error _ => pure reply
  | inspect => do
    desk.inspect invocation
    invocation.proceed
  | appendSql text => invocation.proceedWith (extendFirst text invocation.arguments)
  | appendReply text => do
    let reply ← invocation.proceed
    pure (extendReply (text.getD desk.ending) reply)
  | keepRows count => do
    let reply ← invocation.proceed
    pure (cutReply count reply)
  | replace position argument => invocation.proceedWith (invocation.arguments.set position argument)
  | pass arguments => invocation.proceedWith arguments

end Script

namespace Scripted

def applies (scripted : Scripted S) (invocation : Invocation S) : Bool :=
  match scripted.only with
  | none => true
  | some ending =>
    match invocation.arguments.head?.bind (Argument.as? .statement) with
    | some statement => Text.endsWith (Statement.id statement).toList ending.toList
    | none => false

def run (desk : Desk S) (scripted : Scripted S) (invocation : Invocation S) : Action S Reply :=
  if scripted.applies invocation then scripted.script.run desk invocation else invocation.proceed

end Scripted

def replyName (desk : Desk S) : Except Fault Reply → String
  | .ok reply => reply.kind.name
  | .error cause => desk.faultName cause

def interceptor (desk : Desk S) (signatures : List Signature) (scripts : Table String (Scripted S)) :
    Interceptor S where
  name := desk.name
  signatures := signatures
  intercept invocation := do
    let kinds := invocation.arguments.map fun argument => argument.kind.name
    desk.note ("in " ++ invocation.step.display ++ " <" ++ String.intercalate "," kinds ++ ">")
    let scripted := (Table.get? invocation.step.name scripts).getD {}
    let outcome ← Action.attempt (scripted.run desk invocation)
    desk.note ("out " ++ replyName desk outcome)
    Action.ofExcept outcome

def configured (desk : Desk S) (signatures : List Signature) (scripts : Table String (Scripted S))
    (properties : Table String String) : Except Fault (Interceptor S) :=
  match Table.get? "reject" properties with
  | some reason => .error (.plugin (.reported reason))
  | none => .ok (interceptor { desk with ending := (Table.get? "suffix" properties).getD "" } signatures scripts)

end StatementMapper.Rehearsal
