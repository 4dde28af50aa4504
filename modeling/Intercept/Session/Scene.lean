import Intercept.Adapter
import Intercept.Session.Action
import Intercept.Session.Rack
import Intercept.Table

/-!
# The scene of a session

The world of a session, whose handler code is scripts, with a desk of named objects: registries,
chains, pools, frames, functions under advice and counters.  The desk also keeps the transcript of the
scripts that ran, and the first fault of an action that asked for something that is not there.
-/

namespace Intercept.Session

structure Wrapped where
  registry : RegistryId
  shape : Shape
  body : Script

/-- Why an action cannot be carried out. -/
inductive Fault where
  | tooDeep
  | noFrame
  | unknown (name : String)
  | wrongArguments (function : String)
  deriving DecidableEq, Repr

namespace Fault

def text : Fault → String
  | .tooDeep => "scripts are nested too deeply"
  | .noFrame => "there is no current frame"
  | .unknown name => "nothing is named '" ++ name ++ "'"
  | .wrongArguments function => "wrong arguments for '" ++ function ++ "'"

end Fault

structure Desk where
  registries : Table String RegistryId
  chains : Table String ChainId
  pools : Table String Pool
  rack : Rack
  functions : Table String Wrapped
  counters : Table String Nat
  /-- The newest entry is kept in front. -/
  transcript : List (String × Json)
  fault : Option Fault

namespace Desk

def empty : Desk :=
  { registries := .empty
    chains := .empty
    pools := .empty
    rack := .empty
    functions := .empty
    counters := .empty
    transcript := []
    fault := none }

end Desk

abbrev Scene := World Script Desk

namespace Scene

def setDesk (scene : Scene) (desk : Desk) : Scene :=
  { scene with extra := desk }

def mainRegistry : String :=
  "main"

def standardRegistry : String :=
  "default"

/-- The registry that builders use when they are given none is the first one made. -/
def standardId : RegistryId :=
  0

def nameRegistry (scene : Scene) (name : String) (id : RegistryId) : Scene :=
  scene.setDesk { scene.extra with registries := scene.extra.registries.insert name id }

/-- The standard registry and one that pools by the policy given, both empty. -/
def startWith (policy : Policy) : Scene :=
  let scene : Scene := World.new .empty
  let (standard, scene) := scene.newRegistry .standard
  let (main, scene) := scene.newRegistry policy
  Scene.nameRegistry (Scene.nameRegistry scene standardRegistry standard) mainRegistry main

def start : Scene :=
  startWith .standard

def nameChain (scene : Scene) (name : String) (id : ChainId) : Scene :=
  scene.setDesk { scene.extra with chains := scene.extra.chains.insert name id }

def keepChain (scene : Scene) (name : Option String) (id : ChainId) : Scene :=
  match name with
  | none => scene
  | some name => nameChain scene name id

def putPool (scene : Scene) (name : String) (pool : Pool) : Scene :=
  scene.setDesk { scene.extra with pools := scene.extra.pools.insert name pool }

def setRack (scene : Scene) (rack : Rack) : Scene :=
  scene.setDesk { scene.extra with rack }

def putFunction (scene : Scene) (name : String) (function : Wrapped) : Scene :=
  scene.setDesk { scene.extra with functions := scene.extra.functions.insert name function }

def increment (scene : Scene) (name : String) : Nat × Scene :=
  let count := (scene.extra.counters.find? name).getD 0 + 1
  (count, scene.setDesk { scene.extra with counters := scene.extra.counters.insert name count })

def transcribe (scene : Scene) (label : String) (answer : Json) : Scene :=
  scene.setDesk { scene.extra with transcript := (label, answer) :: scene.extra.transcript }

/-- Only the first fault is kept. -/
def noteFault (scene : Scene) (fault : Fault) : Scene :=
  scene.setDesk { scene.extra with fault := scene.extra.fault.or (some fault) }

def withdrawFault (scene : Scene) : Scene :=
  scene.setDesk { scene.extra with fault := none }

def plannedSignal (scene : Scene) (plan : SignalPlan) : Signal :=
  plan.timeouts.foldl (fun signal timeout => signal.withTimeout scene.clock timeout)
    ((plan.token.map Signal.ofToken).getD .never)

def plannedFrame (scene : Scene) (plan : FramePlan) : Frame :=
  .new plan.function plan.args (scene.plannedSignal plan.signal)

end Scene

end Intercept.Session
