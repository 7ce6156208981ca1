import StatementMapper.Interception.Component
import StatementMapper.Interception.Signature
import StatementMapper.Table

set_option autoImplicit false

/-! A chain puts its plugins around a component one after the other, so that the last is the outermost. -/

namespace StatementMapper

variable {S : Type} {capability : Capability}

structure Invocation (S : Type) where
  capability : Capability
  step : Step capability
  arguments : List (Argument S)
  target : Component S capability

namespace Invocation

def proceedWith (invocation : Invocation S) (arguments : List (Argument S)) : Action S Reply := do
  let typed ← Action.ofExcept (Arguments.read invocation.step arguments)
  let content ← invocation.target.call invocation.step typed
  pure ⟨invocation.step.reply, content⟩

def proceed (invocation : Invocation S) : Action S Reply := invocation.proceedWith invocation.arguments

end Invocation

structure Interceptor (S : Type) where
  name : String
  signatures : List Signature
  intercept : Invocation S → Action S Reply

structure Plugin (S : Type) where
  interceptor : Interceptor S
  binding : Binding

namespace Plugin

def ofSignatures (interceptor : Interceptor S) (signatures : List Signature) : Except Fault (Plugin S) :=
  (Binding.resolve interceptor.name signatures).map fun binding => ⟨interceptor, binding⟩

def ofInterceptor (interceptor : Interceptor S) : Except Fault (Plugin S) :=
  ofSignatures interceptor interceptor.signatures

def answer (plugin : Plugin S) (step : Step capability) (reply : Reply) : Except Fault step.reply.Carrier :=
  match reply.as? step.reply with
  | some content => .ok content
  | none => .error (.plugin (.wrongReply plugin.interceptor.name reply.kind.name step.display))

def route (plugin : Plugin S) (target : Component S capability) (step : Step capability)
    (arguments : Arguments S step.parameters) : Action S step.reply.Carrier := do
  let reply ← plugin.interceptor.intercept ⟨capability, step, Arguments.tag step arguments, target⟩
  Action.ofExcept (plugin.answer step reply)

def around (plugin : Plugin S) (target : Component S capability) : Component S capability where
  view := target.view
  call step arguments :=
    if plugin.binding.intercepts ⟨capability, step⟩ then plugin.route target step arguments
    else target.call step arguments

def wraps (plugin : Plugin S) (implemented : List Capability) : Bool :=
  !(plugin.binding.intersect implemented).isEmpty

def wrap (plugin : Plugin S) (target : Component S capability) : Component S capability :=
  if plugin.wraps [capability] then plugin.around target else target

end Plugin

structure Chain (S : Type) where
  plugins : List (Plugin S)

namespace Chain

def empty : Chain S := ⟨[]⟩

def size (chain : Chain S) : Nat := chain.plugins.length

def isEmpty (chain : Chain S) : Bool := chain.plugins.isEmpty

def names (chain : Chain S) : List String := chain.plugins.map fun plugin => plugin.interceptor.name

def add (interceptor : Interceptor S) (chain : Chain S) : Except Fault (Chain S) :=
  (Plugin.ofInterceptor interceptor).map fun plugin => ⟨chain.plugins ++ [plugin]⟩

def addConfigured (make : Table String String → Except Fault (Interceptor S)) (properties : Table String String)
    (chain : Chain S) : Except Fault (Chain S) := do
  let interceptor ← make properties
  chain.add interceptor

def wrap (chain : Chain S) (target : Component S capability) : Component S capability :=
  chain.plugins.foldl (fun inner plugin => plugin.wrap inner) target

end Chain

end StatementMapper
