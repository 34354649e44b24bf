import Telemetry.Scripted.Host

/-! # Chains of data

Chains applied to plain data, where the components they are meant for do not matter. -/

namespace Telemetry.Scripted

def applyLink (p : Properties) (link : Link stage) (s : Subject) : Run Subject :=
  match link with
  | .customizer fn => Prod.fst <$> applyTo fn s p
  | .configurer (.configurer fn) => runOn fn s p
  | .configurer plugin => throw (.noMember plugin.typeName "configure")

def applyChain (p : Properties) (links : List (Link stage)) (value : Datum) :
    Assembly stage Subject :=
  Assembly.thread (fun link s => Assembly.visit (applyLink p link s)) links (.datum value)

/-- A registry at work, with a chain beside it, and the chains that were resolved so far by name. -/
structure Workshop where
  scene : Scene stage
  properties : Properties
  chain : List (Link stage) := []
  resolved : OrderedMap String (List (Link stage)) := .empty

namespace Workshop

def setRegistry (w : Workshop) (registry : Registry stage) : Workshop :=
  { w with scene := { w.scene with registry } }

def offer (w : Workshop) (kind : Datum) (fn : Fn) : Except Fault Workshop :=
  (w.scene.registry.offer kind fn.offer).map w.setRegistry

/-- Registers by the operation that belongs to a kind, if there is one. -/
def offerTyped (w : Workshop) (kind : Datum) (fn : Fn) : Except Fault Workshop :=
  (offerByName "CustomizerRegistry" w.scene.registry kind fn).map w.setRegistry

def offerSupplier (w : Workshop) (supplier : Offer Supplier) : Except Fault Workshop :=
  (w.scene.registry.offerSupplier supplier).map w.setRegistry

def count (w : Workshop) (kind : Datum) : Except Fault Nat :=
  (Kind.ofDatum kind).map w.scene.registry.count

/-- The chain of a kind as it is now. -/
def links (w : Workshop) (kind : Datum) : Except Fault (List (Link stage)) :=
  (Kind.ofDatum kind).map w.scene.registry.resolve

def keep (w : Workshop) (name : String) (links : List (Link stage)) : Workshop :=
  { w with resolved := w.resolved.insert name links }

def resolve (w : Workshop) (name : String) (kind : Datum) : Except Fault Workshop :=
  (w.links kind).map (w.keep name)

def append (w : Workshop) (fn : Fn) : Except Fault Workshop :=
  (fn.offer.accept "customizer").map fun f => { w with chain := w.chain ++ [.customizer f] }

def run {α : Type} (w : Workshop) (act : Assembly stage α) : Except Fault α × Workshop :=
  let (result, scene) := (StateT.run (ExceptT.run act) w.scene : Except Fault α × Scene stage)
  (result, { w with scene })

def apply (w : Workshop) (links : List (Link stage)) (value : Datum) :
    Except Fault Subject × Workshop :=
  w.run (applyChain w.properties links value)

def applyResolved (w : Workshop) (name : String) (value : Datum) :
    Except Fault Subject × Workshop :=
  match w.resolved.get? name with
  | some links => w.apply links value
  | none => (.error (fault "KeyError" name), w)

def applyKind (w : Workshop) (kind value : Datum) : Except Fault Subject × Workshop :=
  match w.links kind with
  | .ok links => w.apply links value
  | .error f => (.error f, w)

def takeCalls (w : Workshop) : List Call × Workshop :=
  let (calls, own) := w.scene.own.takeCalls
  (calls, { w with scene := { w.scene with own } })

/-- Adds a plugin to those that its loader serves. -/
def addPlugin (w : Workshop) (group : String) (plugin : Plugin) : Workshop :=
  let own := w.scene.own
  { w with scene := { w.scene with own := { own with loader := own.loader.add group plugin } } }

end Workshop

end Telemetry.Scripted
