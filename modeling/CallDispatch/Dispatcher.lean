import CallDispatch.Caller.Registry
import CallDispatch.Caller.Snapshot
import CallDispatch.Config

namespace CallDispatch

inductive Event
  | declared (usage : Caller.Usage) (batch : String) (fields : Caller.FieldSet)
    (needsFrame needsScope : Bool)
  | marked (context : Caller.Context) (names : List String)
  | selected (name : String) (kind : CallSite.Kind)

namespace Log

inductive Level
  | debug
  | trace
deriving DecidableEq, Repr

def Level.name : Level → String
  | .debug => "DEBUG"
  | .trace => "TRACE"

inductive Value
  | text (value : String)
  | flag (value : Bool)
deriving DecidableEq, Repr

structure Entry where
  level : Level
  fields : List (String × Value)
deriving DecidableEq, Repr

end Log

def Caller.FieldSet.display (fields : Caller.FieldSet) : String :=
  Text.braced (", ".intercalate (fields.toList.map Caller.Field.label))

open Log in
def Event.entry : Event → Entry
  | .declared usage batch fields needsFrame needsScope =>
    ⟨.debug,
      [("message", .text "adding method frame fields"),
        ("usage", .text usage.name),
        ("methods", .text batch),
        ("fields", .text (Caller.FieldSet.display fields)),
        ("needs_frame", .flag needsFrame),
        ("needs_scope", .flag needsScope)]⟩
  | .marked context names =>
    ⟨.debug,
      [("message", .text (match context with
          | .frame => "adding frame-aware method names"
          | .scope => "adding scope-aware method names")),
        ("names", .text (Text.quoteAll names))]⟩
  | .selected name kind =>
    ⟨.trace,
      [("message", .text "selected call site"),
        ("method", .text name),
        ("kind", .text kind.display)]⟩

/-- What is logged when fields are declared by a word, even if the word holds no field. -/
def Caller.Codec.event (codec : Caller.Codec) (usage : Caller.Usage) (batch : String)
    (bits : Caller.Bits) : Event :=
  .declared usage batch (codec.unpack bits) (codec.needs .frame bits) (codec.needs .scope bits)

def Caller.Declaration.event (codec : Caller.Codec) : Caller.Declaration → Event
  | .packed usage batch bits => codec.event usage batch bits
  | .listed usage batch fields => codec.event usage batch (codec.pack fields)
  | .aware context names => .marked context names

def Config.selectionEvent (config : Config) (name : String) : Event :=
  .selected name (config.callSite name)


structure Dispatcher where
  config : Config := {}
  codec : Caller.Codec := .packed
  registry : Caller.Registry := {}

/-- What can be done with a dispatcher. -/
inductive Action
  | declare (declaration : Caller.Declaration)
  | select (name : String)
  | query (name : String)

namespace Dispatcher

def callSite (dispatcher : Dispatcher) (name : String) : CallSite.Kind :=
  dispatcher.config.callSite name

def buildSite {σ : Type} (dispatcher : Dispatcher) (factory : CallSite.Factory σ)
    (name : String) : σ :=
  factory.forCall dispatcher.config name

def perform (dispatcher : Dispatcher) : Action → Dispatcher
  | .declare declaration =>
    { dispatcher with registry := dispatcher.registry.declare dispatcher.codec declaration }
  | .select _ => dispatcher
  | .query _ => dispatcher

def events (dispatcher : Dispatcher) : Action → List Event
  | .declare declaration => [declaration.event dispatcher.codec]
  | .select name => [dispatcher.config.selectionEvent name]
  | .query _ => []

end Dispatcher
end CallDispatch
