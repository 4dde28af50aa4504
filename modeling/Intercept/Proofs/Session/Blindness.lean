import Intercept.Proofs.Pool.Twins
import Intercept.Session.Script

/-!
# Scripts that read no pool

A request for the number of idle frames, for the outline of a registry, or for a pool shows what a
pool holds.  A script without any of them, however deep, is blind.  Scenes that differ in their pools,
and hold blind scripts only, are twins; a blind script that stands in for a handler, a target or a
function answers twins alike, if the actions it is made of do.
-/

namespace Intercept.Session

namespace Action

def parts : Action → List Action
  | .branch condition _ yes no => condition :: (yes ++ no).map Prod.snd
  | .addAdvice _ _ advice => advice.handler.map Prod.snd
  | .build _ _ advice => advice.flatMap fun advice => advice.handler.map Prod.snd
  | .addToChain _ advice => advice.handler.map Prod.snd
  | .invoke _ _ script _ _ => script.map Prod.snd
  | .wrap _ _ _ body => body.map Prod.snd
  | .inFrame _ script => script.map Prod.snd
  | _ => []

def readsPool : Action → Bool
  | .registry _ .idleCount => true
  | .registry _ .outline => true
  | .pool _ => true
  | _ => false

inductive Blind : Action → Prop
  | intro {action : Action} (here : action.readsPool = false)
      (within : ∀ part ∈ action.parts, Blind part) : Blind action

theorem Blind.here {action : Action} (h : action.Blind) : action.readsPool = false := by
  cases h with
  | intro here within => exact here

theorem Blind.within {action : Action} (h : action.Blind) : ∀ part ∈ action.parts, part.Blind := by
  cases h with
  | intro here within => exact within

/-- Checks actions whose scripts are nested less than `depth` deep. -/
def isBlind : Nat → Action → Bool
  | 0, _ => false
  | depth + 1, action => !action.readsPool && action.parts.all (isBlind depth)

theorem Blind.of_isBlind {depth : Nat} {action : Action} (h : action.isBlind depth = true) :
    action.Blind := by
  induction depth generalizing action with
  | zero => cases h
  | succ depth ih =>
      rw [isBlind, Bool.and_eq_true, Bool.not_eq_true', List.all_eq_true] at h
      exact ⟨h.1, fun part hmem => ih (h.2 part hmem)⟩

end Action

def BlindScript (script : Script) : Prop :=
  ∀ entry ∈ script, entry.2.Blind

theorem blindScript_of_map {script : Script} (h : ∀ part ∈ script.map Prod.snd, part.Blind) :
    BlindScript script :=
  fun _ hmem => h _ (List.mem_map_of_mem hmem)

/-! ## Scenes -/

structure Desk.Twins (desk other : Desk) : Prop where
  registries : desk.registries = other.registries
  chains : desk.chains = other.chains
  pools : ∀ name, (desk.pools.find? name).isSome = (other.pools.find? name).isSome
  rack : desk.rack = other.rack
  functions : desk.functions = other.functions
  counters : desk.counters = other.counters
  transcript : desk.transcript = other.transcript
  fault : desk.fault = other.fault
  blind : ∀ name function, desk.functions.find? name = some function → BlindScript function.body

def Scene.Twins (scene other : Scene) : Prop :=
  World.Twins BlindScript Desk.Twins scene other

structure Turn.Twins (turn other : Turn) : Prop where
  reply : turn.reply = other.reply
  frame : turn.frame = other.frame
  scene : Scene.Twins turn.scene other.scene

structure ScriptRun.Twins (run other : ScriptRun) : Prop where
  exit : run.exit = other.exit
  frame : run.frame = other.frame
  scene : Scene.Twins run.scene other.scene

namespace Scene.Twins

variable {scene other : Scene}

theorem setDesk (h : scene.Twins other) {desk desk' : Desk} (hdesk : desk.Twins desk') :
    Scene.Twins (scene.setDesk desk) (other.setDesk desk') :=
  { h with extra := hdesk }

theorem nameRegistry (h : scene.Twins other) (name : String) (id : RegistryId) :
    Scene.Twins (scene.nameRegistry name id) (other.nameRegistry name id) :=
  h.setDesk { h.extra with registries := congrArg (·.insert name id) h.extra.registries }

theorem nameChain (h : scene.Twins other) (name : String) (id : ChainId) :
    Scene.Twins (scene.nameChain name id) (other.nameChain name id) :=
  h.setDesk { h.extra with chains := congrArg (·.insert name id) h.extra.chains }

theorem keepChain (h : scene.Twins other) (name : Option String) (id : ChainId) :
    Scene.Twins (scene.keepChain name id) (other.keepChain name id) := by
  cases name with
  | none => exact h
  | some name => exact h.nameChain name id

theorem putPool (h : scene.Twins other) (name : String) (pool pool' : Pool) :
    Scene.Twins (scene.putPool name pool) (other.putPool name pool') := by
  apply h.setDesk
  refine { h.extra with pools := ?_ }
  intro name'
  rw [Table.find?_insert, Table.find?_insert]
  split
  · rfl
  · exact h.extra.pools name'

theorem setRack (h : scene.Twins other) (rack : Rack) :
    Scene.Twins (scene.setRack rack) (other.setRack rack) :=
  h.setDesk { h.extra with rack := rfl }

theorem putFunction (h : scene.Twins other) (name : String) {function : Wrapped}
    (hbody : BlindScript function.body) :
    Scene.Twins (scene.putFunction name function) (other.putFunction name function) := by
  apply h.setDesk
  refine { h.extra with
    functions := congrArg (·.insert name function) h.extra.functions
    blind := ?_ }
  intro name' function' hfind
  rw [Table.find?_insert] at hfind
  split at hfind
  · cases hfind
    exact hbody
  · exact h.extra.blind name' function' hfind

theorem increment (h : scene.Twins other) (name : String) :
    (scene.increment name).1 = (other.increment name).1 ∧
      Scene.Twins (scene.increment name).2 (other.increment name).2 := by
  have hcount : (scene.extra.counters.find? name).getD 0 + 1 =
      (other.extra.counters.find? name).getD 0 + 1 := by
    rw [h.extra.counters]
  refine ⟨hcount, h.setDesk { h.extra with counters := ?_ }⟩
  rw [h.extra.counters]

theorem transcribe (h : scene.Twins other) (label : String) (answer : Json) :
    Scene.Twins (scene.transcribe label answer) (other.transcribe label answer) :=
  h.setDesk { h.extra with transcript := congrArg ((label, answer) :: ·) h.extra.transcript }

theorem noteFault (h : scene.Twins other) (fault : Fault) :
    Scene.Twins (scene.noteFault fault) (other.noteFault fault) :=
  h.setDesk { h.extra with fault := congrArg (·.or (some fault)) h.extra.fault }

theorem withdrawFault (h : scene.Twins other) :
    Scene.Twins scene.withdrawFault other.withdrawFault :=
  h.setDesk { h.extra with fault := rfl }

theorem plannedSignal (h : scene.Twins other) (plan : SignalPlan) :
    scene.plannedSignal plan = other.plannedSignal plan := by
  rw [Scene.plannedSignal, Scene.plannedSignal, h.clock]

end Scene.Twins

/-! ## Blind scripts -/

/-- Blind actions come out alike in twins. -/
def Act.Blind (act : Act) : Prop :=
  ∀ ⦃action : Action⦄, action.Blind → ∀ (frame : Option Frame) ⦃scene other : Scene⦄,
    scene.Twins other → (act action frame scene).Twins (act action frame other)

namespace Act.Blind

variable {act : Act} (hact : act.Blind) {script : Script} (hscript : BlindScript script)

include hact

theorem runScript (hscript : BlindScript script) (frame : Option Frame) {scene other : Scene}
    (h : scene.Twins other) :
    (runScript act script frame scene).Twins (runScript act script frame other) := by
  induction script generalizing frame scene other with
  | nil => exact ⟨rfl, rfl, h⟩
  | cons entry script ih =>
      obtain ⟨label, action⟩ := entry
      obtain ⟨hreply, hframe, hscene⟩ := hact (hscript _ List.mem_cons_self) frame h
      simp only [Session.runScript, ← hreply, ← hframe]
      cases (act action frame scene).reply with
      | answered found =>
          exact ih (fun entry hmem => hscript entry (List.mem_cons_of_mem _ hmem)) _
            (hscene.transcribe label found)
      | failed cause => exact ⟨rfl, rfl, hscene⟩
      | unwound payload => exact ⟨rfl, rfl, hscene⟩

theorem handle (hscript : BlindScript script) :
    Intercept.Blind Scene.Twins (handle act) script := by
  intro frame scene other h
  obtain ⟨hexit, hframe, hscene⟩ := hact.runScript hscript (some frame) h
  refine ⟨hexit, ?_, hscene⟩
  simp only [Session.handle, hframe]

theorem indifference : Indifference Scene.Twins (Session.handle act) :=
  World.Twins.indifference fun _ hscript => hact.handle hscript

include hscript

theorem target : (target act script).Blind Scene.Twins := by
  intro scene other h frame
  obtain ⟨hexit, hframe, hscene⟩ := hact.runScript hscript (some frame) h
  simp only [Session.target, ← hexit, ← hframe]
  cases (Session.runScript act script (some frame) scene).exit with
  | done => exact ⟨rfl, rfl, hscene⟩
  | failed cause => exact ⟨rfl, rfl, hscene⟩
  | unwound payload => exact ⟨rfl, rfl, hscene⟩

end Act.Blind

section

variable {act : Act} (hact : act.Blind) {function : Wrapped}
  (hbody : BlindScript function.body)

include hact hbody

theorem blind_plainFunction : (plainFunction act function).Blind Scene.Twins := by
  intro scene other h args
  obtain ⟨hexit, -, hscene⟩ := hact.runScript hbody none h
  simp only [plainFunction, ← hexit]
  cases (runScript act function.body none scene).exit with
  | done => exact ⟨rfl, hscene⟩
  | failed cause => exact ⟨rfl, hscene⟩
  | unwound payload => exact ⟨rfl, hscene⟩

theorem blind_fallibleFunction : (fallibleFunction act function).Blind Scene.Twins := by
  intro scene other h args
  obtain ⟨hexit, -, hscene⟩ := hact.runScript hbody none h
  simp only [fallibleFunction, ← hexit]
  cases (runScript act function.body none scene).exit with
  | done => exact ⟨rfl, hscene⟩
  | failed cause => exact ⟨rfl, hscene⟩
  | unwound payload => exact ⟨rfl, hscene⟩

end

end Intercept.Session
