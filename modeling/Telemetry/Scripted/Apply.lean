import Telemetry.Scripted.Arithmetic
import Telemetry.Scripted.Script

/-! # Applying scripted functions

What a scripted function makes of a value, with the settings at hand. -/

namespace Telemetry.Scripted

abbrev Run (α : Type) := Foreign stage α

def modifyOwn (f : State → State) : Run Unit := modify fun v => { v with own := f v.own }

namespace Subject

def stray : Subject → Stray Subject
  | datum value => .datum value
  | s => .object s.typeName s

def ofArtifact : (k : Kind) → Artifact stage k → Subject
  | .tracerProvider, .proper value => settings value
  | .propagator, .proper value => propagator value
  | .spanExporter, .proper value => exporter value
  | .resource, .proper value => resource value
  | .sampler, .proper value => sampler value
  | _, .stray (.datum value) => datum value
  | _, .stray (.object _ s) => s

/-- A subject where something of this kind is expected. -/
def asArtifact : (k : Kind) → Subject → Artifact stage k
  | .tracerProvider, settings value => .proper value
  | .propagator, propagator value => .proper value
  | .spanExporter, exporter value => .proper value
  | .resource, resource value => .proper value
  | .sampler, sampler value => .proper value
  | _, s => .stray s.stray

/-- Whether two subjects are the same one, made apart from each other. This can only be of those
that are never made twice: nothing, truth values, small numbers, texts of at most one character, and
samplers without a rate. -/
def isSame : Subject → Subject → Bool
  | datum .null, datum .null => true
  | datum (.bool a), datum (.bool b) => a == b
  | datum (.int m), datum (.int n) => m == n && -5 ≤ m && m ≤ 256
  | datum (.text s), datum (.text t) =>
    s == t && s.length ≤ 1 && s.toList.all fun c => c.toNat < 256
  | sampler .alwaysOn, sampler .alwaysOn => true
  | sampler .alwaysOff, sampler .alwaysOff => true
  | _, _ => false

def plus (s : Subject) (d : Datum) : Except Fault Datum :=
  match s with
  | datum value => joined value d
  | s => .error (.unsupportedOperands "+" s.typeName d.typeName)

def multiplied (s : Subject) (d : Datum) : Except Fault Datum :=
  match s with
  | datum value => times value d
  | s =>
    .error (if isSequence d then cannotRepeat s.typeName
      else .unsupportedOperands "*" s.typeName d.typeName)

end Subject

/-- What a function works on and what it returns: the very thing that was handed in, which is kept
in the state, or one that was made since. -/
inductive Held
  | given
  | made (s : Subject)

namespace Held

def look : Held → Run Subject
  | given => return (← get).own.handed
  | made s => return s

/-- The outcome of a calculation. A text that comes out as it went in is still the same. -/
def recalculated (h : Held) (before : Subject) (after : Datum) : Held :=
  match before, after with
  | .datum (.text s), .text t => if s = t then h else made (.datum after)
  | _, _ => made (.datum after)

end Held

/-- A sampler by its name, or by the share of traces to sample. -/
def samplerOf (name : String) : Except Fault Sampler :=
  if name = "always_on" then .ok .alwaysOn
  else if name = "always_off" then .ok .alwaysOff
  else
    match readReal? name.toList with
    | some rate => Sampler.ofRate rate
    | none => .error (.notReal name)

def setting (p : Properties) (key : String) : Datum :=
  match p.string? key with
  | some s => .text s
  | none => .null

def equalsSetting (d : Datum) (value : Option String) : Bool :=
  match d, value with
  | .null, none => true
  | .text s, some t => s == t
  | _, _ => false

def liftResult {α : Type} : Except Fault α → Run α
  | .ok a => pure a
  | .error f => throw f

def asResource (h : Held) (member : String) : Run Resource := do
  match ← h.look with
  | .resource r => return r
  | s => throw (.noMember s.typeName member)

def settingsOf (h : Held) (member : String) : Run Settings := do
  match ← h.look with
  | .settings value => return value
  | s => throw (.noMember s.typeName member)

/-- Changes tracer settings, where they are. -/
def changeSettings (h : Held) (member : String) (f : Settings → Run Settings) : Run Held := do
  let changed ← f (← settingsOf h member)
  match h with
  | .given =>
    modifyOwn fun own => { own with handed := .settings changed }
    return .given
  | .made _ => return .made (.settings changed)

def negativeLimit (limit : Datum) : Fault :=
  .raised "ValueError"
    s!"OTEL_SPAN_ATTRIBUTE_COUNT_LIMIT must be a non-negative integer but got {limit.shown}" false

/-- The limit of attributes that a value stands for. One below zero is no limit, and every other
negative number is refused; a span keeps as many attributes as it takes to reach a limit between two
whole numbers. Nothing leaves the limit as it is without a setting. -/
def attributeLimit : Datum → Except Fault (Option AttributeLimit)
  | .null => .ok none
  | .float x =>
    match x.toRat? with
    | some r =>
      if r = -1 then .ok (some .unlimited)
      else if r < 0 then .error (negativeLimit (.float x))
      else .ok (some (.atMost r.ceil.toNat))
    | none =>
      if x.isNegative then .error (negativeLimit (.float x)) else .ok (some .unlimited)
  | d =>
    match whole? d with
    | some n =>
      if n = -1 then .ok (some .unlimited)
      else if n < 0 then .error (negativeLimit d)
      else .ok (some (.atMost n.toNat))
    | none =>
      .error (typeError ("'<' not supported between instances of " ++ Text.quoted d.typeName ++
        " and 'int'"))

/-- Registers a function by an operation that is named for the kind of its customizers, if its owner
has that operation. -/
def offerByName (owner : String) (registry : Registry stage) (kind : Datum) (fn : Fn) :
    Except Fault (Registry stage) :=
  let name := match kind with
    | .text s => s
    | d => d.shown
  match Kind.ofName? name with
  | some k => registry.offerTyped k fn.offer
  | none => .error (.noMember owner s!"add_{name}_customizer")

/-- Registers a function while others run. -/
def addCustomizer (kind : Datum) (fn : Fn) : Run Unit := do
  let addition ← liftResult (Addition.ofCustomizer kind fn.offer)
  modify fun v => { v with added := v.added ++ [addition] }

def addSupplier (supplier : Offer Supplier) : Run Unit := do
  let addition ← liftResult (Addition.ofSupplier supplier)
  modify fun v => { v with added := v.added ++ [addition] }

def newGenerator (ids : List Nat) : Run Nat := do
  let n := (← get).own.generators.length
  modifyOwn fun own => { own with generators := own.generators ++ [(ids, 0)] }
  return n

mutual

def Fn.apply (p : Properties) : Fn → Held → Run Held
  | .append item, h => do
    return .made (.datum (← liftResult ((← h.look).plus (.list [item]))))
  | .add n, h => do
    let s ← h.look
    return h.recalculated s (← liftResult (s.plus n))
  | .mul n, h => do
    let s ← h.look
    return h.recalculated s (← liftResult (s.multiplied n))
  | .const value, _ => return .made (.datum value)
  | .get key, h => do
    return .made (.datum (← liftResult ((← h.look).plus (.list [setting p key]))))
  | .raise f, _ => throw f
  | .register kind fn, h => do
    addCustomizer kind fn
    return h
  | .seq fns, h => Fn.applyAll p fns h
  | .when key equals fn, h =>
    if equalsSetting equals (p.string? key) then fn.apply p h else pure h
  | .tag text, h => do
    modifyOwn fun own => { own with calls := own.calls ++ [.tagged text] }
    return h
  | .describe text, h => do
    let s ← h.look
    modifyOwn fun own => { own with calls := own.calls ++ [.described text s] }
    return h
  | .merge attributes, h => do
    return .made (.resource ((← asResource h "merge").merge (.ofAttributes attributes)))
  | .extendAttribute name text, h => do
    let r ← asResource h "merge"
    let old := ((r.get? name).map Attribute.asText).getD ""
    return .made (.resource (r.merge (.ofAttributes [(name, .text (old ++ text))])))
  | .settingAttribute name key, h => do
    let r ← asResource h "merge"
    let value := (p.string? key).getD "(unset)"
    return .made (.resource (r.merge (.ofAttributes [(name, .text value)])))
  | .resource attributes, _ => return .made (.resource (.ofAttributes attributes))
  | .sampler name, _ => do return .made (.sampler (← liftResult (samplerOf name)))
  | .wrap id, h => do return .made (.exporter (.outside (.wrapper id (← h.look))))
  | .memory id behavior, _ => return .made (.exporter (.outside (.recorder id behavior)))
  | .propagator id fields, _ => return .made (.propagator (.custom id fields))
  | .setSampler name, h =>
    changeSettings h "set_sampler" fun t => do
      return t.setSampler (.proper (← liftResult (samplerOf name)))
  | .setResource attributes, h =>
    changeSettings h "set_resource" fun t => return t.setResource (.ofAttributes attributes)
  | .addMemory id behavior, h =>
    changeSettings h "add_span_processor" fun t =>
      return t.addProcessor (.immediate (.proper (.outside (.recorder id behavior))))
  | .fresh, h => do return .made (.settings (← settingsOf h "resource").fresh)
  | .idGenerator ids, h =>
    changeSettings h "set_id_generator" fun t => do
      return { t with idGenerator := some (← newGenerator ids) }
  | .spanLimits limit, h =>
    changeSettings h "set_span_limits" fun t => do
      return { t with attributeLimit := ← liftResult (attributeLimit limit) }
  | .notAFunction value, _ => throw (notCallable value)

def Fn.applyAll (p : Properties) : List Fn → Held → Run Held
  | [], h => pure h
  | f :: fs, h => do Fn.applyAll p fs (← f.apply p h)

end

/-- Applies a function to a subject: what it returned, and whether this is what was handed in. What
was handed in, with its changes, is left in the state. -/
def applyTo (f : Fn) (s : Subject) (p : Properties) : Run (Subject × Bool) := do
  modifyOwn fun own => { own with handed := s }
  match ← f.apply p .given with
  | .given => return ((← get).own.handed, true)
  | .made result => return (result, result.isSame s)

/-- What is left of a subject after a function was applied whose result is of no account. -/
def runOn (f : Fn) (s : Subject) (p : Properties) : Run Subject := do
  let _ ← applyTo f s p
  return (← get).own.handed

end Telemetry.Scripted
