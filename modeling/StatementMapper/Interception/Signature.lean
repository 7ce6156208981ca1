import StatementMapper.Interception.Step

set_option autoImplicit false

namespace StatementMapper

structure AnyStep where
  capability : Capability
  step : Step capability
deriving DecidableEq, Repr

def AnyStep.all : List AnyStep :=
  Capability.all.flatMap fun capability => (Step.all capability).map (AnyStep.mk capability)

structure Signature where
  capability : Capability
  name : String
  parameters : List String
deriving DecidableEq, Repr

namespace Signature

def display (signature : Signature) : String :=
  describeStep signature.capability signature.name signature.parameters

def declares (signature : Signature) (step : Step signature.capability) : Bool :=
  step.name = signature.name ∧ step.parameterNames = signature.parameters

def step? (signature : Signature) : Option AnyStep :=
  ((Step.all signature.capability).find? signature.declares).map (AnyStep.mk signature.capability)

def resolve (interceptor : String) (signature : Signature) : Except Fault AnyStep :=
  match signature.step? with
  | some step => .ok step
  | none => .error (.plugin
      (.noMethod signature.capability.name signature.name interceptor signature.display))

end Signature

structure Binding where
  steps : List AnyStep

namespace Binding

def resolveAll (interceptor : String) : List Signature → Except Fault (List AnyStep)
  | [] => .ok []
  | signature :: rest => do
    let step ← signature.resolve interceptor
    let more ← resolveAll interceptor rest
    .ok (step :: more)

-- The steps that declarations name; the first that names none is refused.
def resolve (interceptor : String) (signatures : List Signature) : Except Fault Binding :=
  (resolveAll interceptor signatures).map Binding.mk

def intercepts (binding : Binding) (step : AnyStep) : Bool := binding.steps.contains step

def covers (binding : Binding) (capability : Capability) : Bool :=
  binding.steps.any fun step => step.capability = capability

def intersect (binding : Binding) (implemented : List Capability) : List Capability :=
  implemented.filter binding.covers

def isEmpty (binding : Binding) : Bool := binding.steps.isEmpty

end Binding

end StatementMapper
