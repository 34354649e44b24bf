import Telemetry.Processor.Basic
import Telemetry.Resource
import Telemetry.Sampler

/-! # Settings of a tracer provider

Everything that a tracer provider is made from. Customizers change the settings; the provider is
made once, after all of them. -/

namespace Telemetry

inductive AttributeLimit
  | unlimited
  | atMost (n : Nat)

structure TracerSettings (ε ι τ : Type) where
  resource : Option Resource := none
  /-- Whether the resource is another one than the settings started with. -/
  resourceReplaced : Bool := false
  sampler : Option (Customized τ Sampler) := none
  idGenerator : Option ι := none
  attributeLimit : Option AttributeLimit := none
  processors : List (Processor ε τ) := []

namespace TracerSettings
variable {ε ι τ : Type}

def ofResource (r : Resource) : TracerSettings ε ι τ := { resource := some r }

def setResource (s : TracerSettings ε ι τ) (r : Resource) : TracerSettings ε ι τ :=
  { s with resource := some r, resourceReplaced := true }

def setSampler (s : TracerSettings ε ι τ) (sampler : Customized τ Sampler) : TracerSettings ε ι τ :=
  { s with sampler := some sampler }

def addProcessor (s : TracerSettings ε ι τ) (p : Processor ε τ) : TracerSettings ε ι τ :=
  { s with processors := s.processors ++ [p] }

/-- New settings that share nothing but the resource. -/
def fresh (s : TracerSettings ε ι τ) : TracerSettings ε ι τ :=
  { resource := s.resource, resourceReplaced := s.resourceReplaced }

end TracerSettings

end Telemetry
