import CallDispatch.Basic
import CallDispatch.CallSite
import CallDispatch.Json.Record
import CallDispatch.Text

namespace CallDispatch

structure Config where
  fastOps : Bool := true
  /-- Whether every call must go through a normal call site, where it can be traced. -/
  fullTrace : Bool := false
deriving DecidableEq, Repr

def Config.allowsFast (config : Config) : Bool :=
  config.fastOps && !config.fullTrace

def Config.callSite (config : Config) (name : String) : CallSite.Kind :=
  if name = CallSite.respondToName then .respondTo
  else if config.allowsFast then CallSite.integerCallSite name
  else .normal name

namespace CallSite

structure Factory (σ : Type) where
  build : Kind → σ

namespace Factory
variable {σ : Type}

def forCall (factory : Factory σ) (config : Config) (name : String) : σ :=
  factory.build (config.callSite name)

def forFunctional (factory : Factory σ) (name : String) : σ :=
  factory.build (.functional name)

def forVariable (factory : Factory σ) (name : String) : σ :=
  factory.build (.variable name)

def forSuper (factory : Factory σ) : σ :=
  factory.build .super

/-- Numbers its call sites in the order in which they are built, and remembers their kinds. -/
def recording : Factory (StateM (Array Kind) Nat) where
  build kind := do
    let built ← get
    set (built.push kind)
    return built.size

end Factory
end CallSite

/-- The bytes of the variables of the two switches, as far as they are set. -/
structure Environment where
  fastOps : Option ByteArray := none
  fullTrace : Option ByteArray := none

def offTexts : List String :=
  ["", "0", "false", "FALSE", "False"]

def turnsOn (text : String) : Bool :=
  !offTexts.contains (Text.trim text)

/-- The switch that a variable asks for, if it is set to a text. -/
def flagOf? (bytes? : Option ByteArray) : Option Bool :=
  (bytes?.bind String.fromUTF8?).map turnsOn

def Config.ofEnvironment (environment : Environment) : Config where
  fastOps := (flagOf? environment.fastOps).getD ({} : Config).fastOps
  fullTrace := (flagOf? environment.fullTrace).getD ({} : Config).fullTrace

namespace Config
open CallDispatch.Json

def toJson (config : Config) : String :=
  Text.braced ("\"fastops_compile\":" ++ toString config.fastOps ++ ",\"full_trace\":" ++
    toString config.fullTrace)

structure Draft where
  fastOps : Option Bool := none
  fullTrace : Option Bool := none

def Draft.finish (draft : Draft) : Config where
  fastOps := draft.fastOps.getD ({} : Config).fastOps
  fullTrace := draft.fullTrace.getD ({} : Config).fullTrace

def record : Record Draft Config where
  name := "DispatchConfig"
  members :=
    [⟨"fastops_compile", (·.fastOps.isSome),
        Reader.boolean.map fun value draft => { draft with fastOps := some value }⟩,
      ⟨"full_trace", (·.fullTrace.isSome),
        Reader.boolean.map fun value draft => { draft with fullTrace := some value }⟩]
  blank := {}
  finish draft := .ok draft.finish

def ofJson (source : String) : Except Error Config :=
  if Text.trim source = "" then .error (.generic "empty dispatch configuration")
  else (record.reader.parse source).mapError .configuration

end Config
end CallDispatch
