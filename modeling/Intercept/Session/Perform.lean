import Intercept.Session.Script

/-!
# Carrying out actions

`performWith` carries out one action and hands the actions of its scripts to the function it is given.
`perform` ties the knot with a bound on how deep scripts may be nested.
-/

namespace Intercept.Session

/-! ## Turns -/

def answer (frame : Option Frame) (answer : Json) (scene : Scene) : Turn :=
  ⟨.answered answer, frame, scene⟩

/-- An action that cannot be carried out unwinds, and the fault is noted. -/
def refuse (frame : Option Frame) (scene : Scene) (fault : Fault) : Turn :=
  ⟨.unwound (.ofText fault.text), frame, scene.noteFault fault⟩

def unwoundDocument (payload : Payload) : Json :=
  .obj [("panic", payload.document)]

/-- A caught unwinding is an answer. -/
def unwindUnless (catches : Bool) (frame : Option Frame) (scene : Scene) (payload : Payload) :
    Turn :=
  if catches then answer frame (unwoundDocument payload) scene
  else ⟨.unwound payload, frame, scene⟩

def withNamed {α : Type} (table : Table String α) (name : String) (frame : Option Frame) (scene : Scene)
    (next : α → Turn) : Turn :=
  match table.find? name with
  | none => refuse frame scene (.unknown name)
  | some a => next a

def withFrame (frame : Option Frame) (scene : Scene) (next : Frame → Turn) : Turn :=
  match frame with
  | none => refuse none scene .noFrame
  | some frame => next frame

/-- Goes on with the frames put by.  The complaint of a spoiled rack unwinds, and stands in for the
fault that spoiled it. -/
def withRack (frame : Option Frame) (scene : Scene) (next : Table String Frame → Turn) : Turn :=
  match scene.extra.rack with
  | .spoiled => ⟨.unwound (.value (.text Rack.complaint)), frame, scene.withdrawFault⟩
  | .sound frames => next frames

/-- Asking for a frame that is not there spoils the rack. -/
def withKept (name : String) (frame : Option Frame) (scene : Scene)
    (next : Frame → Table String Frame → Turn) : Turn :=
  withRack frame scene fun frames =>
    match frames.find? name with
    | none => refuse frame (scene.setRack .spoiled) (.unknown name)
    | some kept => next kept frames

def takingFrame (name : String) (frame : Option Frame) (scene : Scene)
    (next : Frame → Scene → Turn) : Turn :=
  withKept name frame scene fun taken frames =>
    next taken (scene.setRack (.sound (frames.erase name)))

def keepingFrame (name : String) (kept : Frame) (frame : Option Frame) (scene : Scene)
    (next : Scene → Turn) : Turn :=
  withRack frame scene fun frames => next (scene.setRack (.sound (frames.insert name kept)))

def endingDocument : Ending → Except Payload Json
  | .passed => .ok (.str "ok")
  | .stopped stop => .ok stop.document
  | .unwound payload => .error payload

/-! ## Actions -/

/-- Advice is added one after the other; an empty key unwinds at the first. -/
def buildAll (builder : World.Builder) :
    List (Advice Script) → Scene → Option Payload × Scene
  | [], scene => (none, scene)
  | advice :: rest, scene =>
    match scene.attach builder advice with
    | (some payload, scene) => (some payload, scene)
    | (none, scene) => buildAll builder rest scene

def performBuild (builder : World.Builder) (advice : List (Advice Script))
    (frame : Option Frame) (scene : Scene) : Turn :=
  match buildAll builder advice scene with
  | (some payload, scene) => ⟨.unwound payload, frame, scene⟩
  | (none, scene) =>
    answer frame
      (.obj [("key", builder.key.document), ("debug", .str (scene.builderOutline builder)),
        ("advice_count", .nat (scene.adviceCount builder.registry builder.key)),
        ("default", .bool (builder.registry == Scene.standardId))])
      scene

def performNewRegistry (name : String) (source : SettingsSource) (frame : Option Frame)
    (scene : Scene) : Turn :=
  let add (policy : Policy) : Turn :=
    let (id, scene) := scene.newRegistry policy
    answer frame (.str "ok") (Scene.nameRegistry scene name id)
  match source with
  | .policy policy => add policy
  | .text json =>
    match Settings.read json with
    | .error fault => answer frame fault.document scene
    | .ok settings => add settings.pool

def performInvoke (act : Act) (registry : RegistryId) (plan : FramePlan) (script : Script)
    (disposal : Disposal) (catches : Bool) (frame : Option Frame) (scene : Scene) : Turn :=
  let run := Intercept.invoke (handle act) registry plan.function plan.args
    (scene.plannedSignal plan.signal) (target act script) scene
  match run.outcome with
  | .unwound payload => unwindUnless catches frame run.world payload
  | .returned returned =>
    let shown := Json.obj [("returned", returned.document run.world.moment)]
    match disposal.keepAs with
    | some name => keepingFrame name returned frame run.world (answer frame shown)
    | none =>
      answer frame shown
        (if disposal.recycle then run.world.recycle registry returned else run.world)

def performCall (act : Act) (function : Wrapped) (args : List Value) (catches propagates : Bool)
    (frame : Option Frame) (scene : Scene) : Turn :=
  let shape := function.shape
  let called (value : Value) (scene : Scene) : Turn :=
    answer frame (.obj [("ok", value.document)]) scene
  if shape.fallible then
    let wrapped := (fallibleFunction act function).wrap (handle act) function.registry shape.key
      shape.resultKind
    match wrapped args scene with
    | (.value value, scene) => called value scene
    | (.unwound payload, scene) => unwindUnless catches frame scene payload
    | (.failed cause, scene) =>
      if propagates then ⟨.failed cause, frame, scene⟩
      else
        answer frame
          (.obj [("err", cause.document),
            ("missing_result", .optional (cause.missingResult?.map Key.document))])
          scene
  else
    let wrapped := (plainFunction act function).wrap (handle act) function.registry shape.key
      shape.resultKind
    match wrapped args scene with
    | (.ok value, scene) => called value scene
    | (.error payload, scene) => unwindUnless catches frame scene payload

/-- Arguments must be as many as the function takes and of its kind. -/
def Shape.accepts (shape : Shape) (args : List Value) : Bool :=
  args.length == shape.arity && args.all fun value => value.kind == shape.argKind

/-- A script on a named frame, which goes back to the rack however the script ends. -/
def performInFrame (act : Act) (name : String) (script : Script) (frame : Option Frame)
    (scene : Scene) : Turn :=
  takingFrame name frame scene fun taken scene =>
    let run := runScript act script (some taken) scene
    keepingFrame name (run.frame.getD taken) frame run.scene fun scene =>
      match run.exit with
      | .done => answer frame .null scene
      | .failed cause => ⟨.failed cause, frame, scene⟩
      | .unwound payload => ⟨.unwound payload, frame, scene⟩

def performPhase (act : Act) (chain : ChainId) (phase : Phase) (name : Option String)
    (frame : Option Frame) (scene : Scene) : Turn :=
  let ended (run : PhaseRun Script Desk) (frame : Option Frame) (scene : Scene) : Turn :=
    match endingDocument run.ending with
    | .ok shown => answer frame shown scene
    | .error payload => ⟨.unwound payload, frame, scene⟩
  match name with
  | none =>
    withFrame frame scene fun current =>
      let run := Intercept.runPhase (handle act) chain phase current scene
      ended run (some run.frame) run.world
  | some name =>
    takingFrame name frame scene fun taken scene =>
      let run := Intercept.runPhase (handle act) chain phase taken scene
      keepingFrame name run.frame frame run.world (ended run frame)

def performBranch (act : Act) (condition : Action) (test : Test) (yes no : Script)
    (frame : Option Frame) (scene : Scene) : Turn :=
  let turn := act condition frame scene
  match turn.reply with
  | .answered found =>
    let truth := test.holds found
    let run := runScript act (if truth then yes else no) turn.frame turn.scene
    match run.exit with
    | .done => answer run.frame (.bool truth) run.scene
    | .failed cause => ⟨.failed cause, run.frame, run.scene⟩
    | .unwound payload => ⟨.unwound payload, run.frame, run.scene⟩
  | _ => turn

def performWith (act : Act) (action : Action) (frame : Option Frame) (scene : Scene) : Turn :=
  let desk := scene.extra
  let done (scene : Scene) : Turn := answer frame .null scene
  let inRegistry (name : String) (next : RegistryId → Turn) : Turn :=
    withNamed desk.registries name frame scene next
  let onChain (name : String) (next : ChainId → Turn) : Turn :=
    withNamed desk.chains name frame scene next
  match action with
  | .log tag => answer frame (.str tag) scene
  | .fail cause => ⟨.failed cause, frame, scene⟩
  | .unwind payload => ⟨.unwound payload, frame, scene⟩
  | .cancel token => done (scene.cancel token)
  | .increment counter =>
    let (count, scene) := scene.increment counter
    answer frame (.nat count) scene
  | .branch condition test yes no => performBranch act condition test yes no frame scene
  | .newRegistry name source => performNewRegistry name source frame scene
  | .registry name request =>
    inRegistry name fun id =>
      let (shown, scene) := request.answer id scene
      answer frame shown scene
  | .addAdvice name key advice =>
    inRegistry name fun id =>
      let (shown, scene) := granted scene (scene.addAdvice id key advice)
      answer frame shown scene
  | .obtain name key keepAs =>
    inRegistry name fun id =>
      match scene.obtain id key with
      | .error payload => ⟨.unwound payload, frame, scene⟩
      | .ok (chain, scene) =>
        answer frame (scene.chain chain).document (Scene.keepChain scene keepAs chain)
  | .lookup name key keepAs =>
    inRegistry name fun id =>
      match scene.lookup id key with
      | .error refusal => answer frame refusal.document scene
      | .ok chain =>
        answer frame (scene.chain chain).document (Scene.keepChain scene keepAs chain)
  | .build none key advice => performBuild ⟨Scene.standardId, key⟩ advice frame scene
  | .build (some name) key advice =>
    inRegistry name fun id => performBuild ⟨id, key⟩ advice frame scene
  | .newChain name =>
    let (id, scene) := scene.newChain
    done (Scene.nameChain scene name id)
  | .addToChain name advice => onChain name fun id => done (scene.addTo id advice)
  | .chain name => onChain name fun id => answer frame (scene.chain id).document scene
  | .sameChain name other =>
    onChain name fun a => onChain other fun b => answer frame (.bool (a == b)) scene
  | .bucket name phase =>
    onChain name fun id =>
      answer frame (.arr (((scene.chain id).bucket phase).map Advice.document)) scene
  | .runPhase name phase on => onChain name fun id => performPhase act id phase on frame scene
  | .invoke name plan script disposal catches =>
    inRegistry name fun id => performInvoke act id plan script disposal catches frame scene
  | .wrap name registry shape body =>
    inRegistry registry fun id => done (scene.putFunction name ⟨id, shape, body⟩)
  | .call name args catches propagates =>
    withNamed desk.functions name frame scene fun function =>
      if function.shape.accepts args then
        performCall act function args catches propagates frame scene
      else refuse frame scene (.wrongArguments name)
  | .newPool name policy => done (scene.putPool name (.ofPolicy policy))
  | .pool name =>
    withNamed desk.pools name frame scene fun pool => answer frame pool.document scene
  | .acquire pool name plan =>
    withNamed desk.pools pool frame scene fun source =>
      let (made, source) := source.acquire plan.function plan.args
        (scene.plannedSignal plan.signal)
      keepingFrame name made frame (scene.putPool pool source)
        (answer frame (made.document scene.moment))
  | .release pool name =>
    withNamed desk.pools pool frame scene fun destination =>
      takingFrame name frame scene fun taken scene =>
        done (scene.putPool pool (destination.release taken))
  | .recycle registry name =>
    inRegistry registry fun id =>
      takingFrame name frame scene fun taken scene => done (scene.recycle id taken)
  | .newFrame name plan => keepingFrame name (scene.plannedFrame plan) frame scene done
  | .inFrame name script => performInFrame act name script frame scene
  | .showFrame name =>
    withKept name frame scene fun shown _ =>
      answer frame (shown.document scene.moment) scene
  | .dropFrame name => takingFrame name frame scene fun _ scene => done scene
  | .stash name =>
    withFrame frame scene fun current =>
      let fresh := some (.new current.function [] .never)
      keepingFrame name current fresh scene (answer fresh .null)
  | .unstash name =>
    withFrame frame scene fun _ =>
      takingFrame name frame scene fun taken scene => answer (some taken) .null scene
  | .journal request =>
    let (shown, journal) := request.answer scene.journal
    answer frame shown { scene with journal }
  | .frame request =>
    withFrame frame scene fun current =>
      match request.answer scene.moment current with
      | (.ok shown, current) => answer (some current) shown scene
      | (.error payload, current) => ⟨.unwound payload, some current, scene⟩

/-- Carries out an action whose scripts are nested less than `depth` deep. -/
def perform : Nat → Action → Option Frame → Scene → Turn
  | 0, _, frame, scene => refuse frame scene .tooDeep
  | depth + 1, action, frame, scene => performWith (perform depth) action frame scene

end Intercept.Session
