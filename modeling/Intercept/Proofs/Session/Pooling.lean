import Intercept.Proofs.Session.Blindness
import Intercept.Session

/-!
# Pools do not show

Two sessions of the same blind actions, in scenes that differ in their pools only, make the same
reports: `pooling_does_not_show`.  Each action is carried out alike in both scenes, and leaves scenes
that again differ in their pools only.
-/

namespace Intercept.Session

variable {frame : Option Frame} {scene other : Scene}

/-! ## Turns -/

namespace Scene.Twins

theorem answer (h : scene.Twins other) (frame : Option Frame) (found : Json) :
    (answer frame found scene).Twins (answer frame found other) :=
  ⟨rfl, rfl, h⟩

theorem refuse (h : scene.Twins other) (frame : Option Frame) (fault : Fault) :
    (refuse frame scene fault).Twins (refuse frame other fault) :=
  ⟨rfl, rfl, h.noteFault fault⟩

theorem unwindUnless (h : scene.Twins other) (catches : Bool) (frame : Option Frame)
    (payload : Payload) :
    (unwindUnless catches frame scene payload).Twins
      (unwindUnless catches frame other payload) := by
  cases catches with
  | true => exact h.answer frame _
  | false => exact ⟨rfl, rfl, h⟩

theorem withNamed {α : Type} (h : scene.Twins other) {table table' : Table String α}
    (htable : table = table') (name : String) {next next' : α → Turn}
    (hnext : ∀ a, table.find? name = some a → (next a).Twins (next' a)) :
    (withNamed table name frame scene next).Twins (withNamed table' name frame other next') := by
  subst htable
  simp only [Session.withNamed]
  cases hfind : table.find? name with
  | none => exact h.refuse frame _
  | some a => exact hnext a hfind

theorem withPool (h : scene.Twins other) (name : String) {next next' : Pool → Turn}
    (hnext : ∀ pool pool', (next pool).Twins (next' pool')) :
    (Session.withNamed scene.extra.pools name frame scene next).Twins
      (Session.withNamed other.extra.pools name frame other next') := by
  have hnames := h.extra.pools name
  simp only [Session.withNamed]
  generalize scene.extra.pools.find? name = found at hnames ⊢
  generalize other.extra.pools.find? name = found' at hnames ⊢
  cases found with
  | none =>
      cases found' with
      | none => exact h.refuse frame _
      | some pool' => cases hnames
  | some pool =>
      cases found' with
      | none => cases hnames
      | some pool' => exact hnext pool pool'

theorem withFrame (h : scene.Twins other) {next next' : Frame → Turn}
    (hnext : ∀ current, (next current).Twins (next' current)) :
    (withFrame frame scene next).Twins (withFrame frame other next') := by
  cases frame with
  | none => exact h.refuse none .noFrame
  | some current => exact hnext current

theorem withRack (h : scene.Twins other) {next next' : Table String Frame → Turn}
    (hnext : ∀ frames, (next frames).Twins (next' frames)) :
    (withRack frame scene next).Twins (withRack frame other next') := by
  simp only [Session.withRack, h.extra.rack]
  cases other.extra.rack with
  | sound frames => exact hnext frames
  | spoiled => exact ⟨rfl, rfl, h.withdrawFault⟩

theorem withKept (h : scene.Twins other) (name : String) {next next' : Frame → Table String Frame → Turn}
    (hnext : ∀ kept frames, (next kept frames).Twins (next' kept frames)) :
    (withKept name frame scene next).Twins (withKept name frame other next') := by
  apply h.withRack
  intro frames
  cases frames.find? name with
  | none => exact (h.setRack .spoiled).refuse frame _
  | some kept => exact hnext kept frames

theorem takingFrame (h : scene.Twins other) (name : String) {next next' : Frame → Scene → Turn}
    (hnext : ∀ taken {left left' : Scene}, left.Twins left' →
      (next taken left).Twins (next' taken left')) :
    (takingFrame name frame scene next).Twins (takingFrame name frame other next') :=
  h.withKept name fun taken _ => hnext taken (h.setRack _)

theorem keepingFrame (h : scene.Twins other) (name : String) (kept : Frame)
    {next next' : Scene → Turn}
    (hnext : ∀ {left left' : Scene}, left.Twins left' → (next left).Twins (next' left')) :
    (keepingFrame name kept frame scene next).Twins (keepingFrame name kept frame other next') :=
  h.withRack fun _ => hnext (h.setRack _)

end Scene.Twins

/-! ## Actions -/

theorem twins_granted {outcome outcome' : Except Registry.Refusal Scene} (h : scene.Twins other)
    (hagree : Agree Scene.Twins outcome outcome') :
    (granted scene outcome).1 = (granted other outcome').1 ∧
      Scene.Twins (granted scene outcome).2 (granted other outcome').2 := by
  cases hagree with
  | error refusal => exact ⟨rfl, h⟩
  | ok hleft => exact ⟨rfl, hleft⟩

theorem RegistryRequest.twins_answer {request : RegistryRequest} {name : String}
    (hblind : (Action.registry name request).readsPool = false) (id : RegistryId)
    (h : scene.Twins other) :
    (request.answer id scene).1 = (request.answer id other).1 ∧
      Scene.Twins (request.answer id scene).2 (request.answer id other).2 := by
  cases request with
  | register key => exact twins_granted h (h.register id key)
  | unregister key => exact ⟨rfl, h.unregister id key⟩
  | clear => exact ⟨rfl, h.clear id⟩
  | isRegistered key =>
      refine ⟨?_, h⟩
      simp only [answer, h.contains]
  | keys =>
      refine ⟨?_, h⟩
      simp only [answer, Registry.keys, h.entries]
  | count =>
      refine ⟨?_, h⟩
      simp only [answer, Registry.size, h.entries]
  | adviceCount key =>
      refine ⟨?_, h⟩
      simp only [answer, h.adviceCount]
  | idleCount => cases hblind
  | outline => cases hblind

theorem twins_buildAll (builder : World.Builder) {advice : List (Advice Script)}
    (hadvice : ∀ item ∈ advice, BlindScript item.handler) (h : scene.Twins other) :
    (buildAll builder advice scene).1 = (buildAll builder advice other).1 ∧
      Scene.Twins (buildAll builder advice scene).2 (buildAll builder advice other).2 := by
  induction advice generalizing scene other with
  | nil => exact ⟨rfl, h⟩
  | cons item rest ih =>
      rw [List.forall_mem_cons] at hadvice
      obtain ⟨payload, left, left', hattached, hattached', hleft⟩ :=
        exists_answer (h.attach builder hadvice.1)
      simp only [buildAll, hattached, hattached']
      cases payload with
      | none => exact ih hadvice.2 hleft
      | some payload => exact ⟨rfl, hleft⟩

theorem twins_performBuild (builder : World.Builder) {advice : List (Advice Script)}
    (hadvice : ∀ item ∈ advice, BlindScript item.handler) (frame : Option Frame)
    (h : scene.Twins other) :
    (performBuild builder advice frame scene).Twins (performBuild builder advice frame other) := by
  obtain ⟨payload, left, left', hbuilt, hbuilt', hleft⟩ :=
    exists_answer (twins_buildAll builder hadvice h)
  simp only [performBuild, hbuilt, hbuilt']
  cases payload with
  | none =>
      have hcount := hleft.adviceCount builder.registry builder.key
      simp only [World.builderOutline, hcount]
      exact hleft.answer frame _
  | some payload => exact ⟨rfl, rfl, hleft⟩

theorem twins_performNewRegistry (name : String) (source : SettingsSource) (frame : Option Frame)
    (h : scene.Twins other) :
    (performNewRegistry name source frame scene).Twins
      (performNewRegistry name source frame other) := by
  have hadd : ∀ policy, (answer frame (.str "ok") (Scene.nameRegistry (scene.newRegistry policy).2
      name (scene.newRegistry policy).1)).Twins (answer frame (.str "ok")
        (Scene.nameRegistry (other.newRegistry policy).2 name (other.newRegistry policy).1)) := by
    intro policy
    obtain ⟨hid, hmade⟩ := h.newRegistry policy policy
    rw [hid]
    exact (Scene.Twins.nameRegistry hmade name _).answer frame _
  cases source with
  | policy policy => exact hadd policy
  | text json =>
      simp only [performNewRegistry]
      cases Settings.read json with
      | error fault => exact h.answer frame _
      | ok settings => exact hadd settings.pool

section

variable {act : Act} (hact : act.Blind)

include hact

theorem twins_performInvoke (registry : RegistryId) (plan : FramePlan) {script : Script}
    (hscript : BlindScript script) (disposal : Disposal) (catches : Bool) (frame : Option Frame)
    (h : scene.Twins other) :
    (performInvoke act registry plan script disposal catches frame scene).Twins
      (performInvoke act registry plan script disposal catches frame other) := by
  have hsignal := h.plannedSignal plan.signal
  obtain ⟨houtcome, hleft⟩ := World.Twins.invoke h hact.indifference (hact.target hscript) registry
    plan.function plan.args (scene.plannedSignal plan.signal)
  have hleft' : Scene.Twins _ _ := hleft
  simp only [performInvoke, ← hsignal, ← houtcome, ← World.Twins.moment hleft]
  cases (Intercept.invoke (handle act) registry plan.function plan.args
    (scene.plannedSignal plan.signal) (target act script) scene).outcome with
  | unwound payload => exact hleft'.unwindUnless catches frame payload
  | returned returned =>
      cases disposal.keepAs with
      | some name => exact hleft'.keepingFrame name returned fun hkept => hkept.answer frame _
      | none =>
          dsimp only
          split
          · exact Scene.Twins.answer (World.Twins.recycle hleft registry returned) frame _
          · exact hleft'.answer frame _

theorem twins_performCall {function : Wrapped} (hbody : BlindScript function.body)
    (args : List Value) (catches propagates : Bool) (frame : Option Frame)
    (h : scene.Twins other) :
    (performCall act function args catches propagates frame scene).Twins
      (performCall act function args catches propagates frame other) := by
  simp only [performCall]
  split
  · have hblind := (blind_fallibleFunction hact hbody).wrap hact.indifference function.registry
      function.shape.key function.shape.resultKind
    obtain ⟨result, left, left', hended, hended', hleft⟩ := exists_answer (hblind h args)
    have hleft' : Scene.Twins left left' := hleft
    simp only [hended, hended']
    cases result with
    | value value => exact hleft'.answer frame _
    | unwound payload => exact hleft'.unwindUnless catches frame payload
    | failed cause =>
        cases propagates with
        | true => exact ⟨rfl, rfl, hleft'⟩
        | false => exact hleft'.answer frame _
  · have hblind := (blind_plainFunction hact hbody).wrap hact.indifference function.registry
      function.shape.key function.shape.resultKind
    obtain ⟨result, left, left', hended, hended', hleft⟩ := exists_answer (hblind h args)
    have hleft' : Scene.Twins left left' := hleft
    simp only [hended, hended']
    cases result with
    | ok value => exact hleft'.answer frame _
    | error payload => exact hleft'.unwindUnless catches frame payload

theorem twins_performInFrame (name : String) {script : Script} (hscript : BlindScript script)
    (frame : Option Frame) (h : scene.Twins other) :
    (performInFrame act name script frame scene).Twins
      (performInFrame act name script frame other) := by
  apply h.takingFrame name
  intro taken left left' hleft
  obtain ⟨hexit, hframe, hscene⟩ := hact.runScript hscript (some taken) hleft
  simp only [← hexit, ← hframe]
  apply hscene.keepingFrame name
  intro kept kept' hkept
  cases (runScript act script (some taken) left).exit with
  | done => exact hkept.answer frame .null
  | failed cause => exact ⟨rfl, rfl, hkept⟩
  | unwound payload => exact ⟨rfl, rfl, hkept⟩

theorem twins_performPhase (chain : ChainId) (phase : Phase) (name : Option String)
    (frame : Option Frame) (h : scene.Twins other) :
    (performPhase act chain phase name frame scene).Twins
      (performPhase act chain phase name frame other) := by
  cases name with
  | none =>
      apply h.withFrame
      intro current
      obtain ⟨-, hending, hframe, hleft⟩ := hact.indifference.phase chain phase current h
      simp only [← hending, ← hframe]
      cases endingDocument (runPhase (handle act) chain phase current scene).ending with
      | ok shown => exact Scene.Twins.answer hleft _ shown
      | error payload => exact ⟨rfl, rfl, hleft⟩
  | some name =>
      simp only [performPhase]
      apply h.takingFrame name
      intro taken left left' hleft
      obtain ⟨-, hending, hframe, hrun⟩ := hact.indifference.phase chain phase taken hleft
      simp only [← hending, ← hframe]
      apply Scene.Twins.keepingFrame hrun name
      intro kept kept' hkept
      cases endingDocument (runPhase (handle act) chain phase taken left).ending with
      | ok shown => exact hkept.answer frame shown
      | error payload => exact ⟨rfl, rfl, hkept⟩

theorem twins_performBranch {condition : Action} (hcondition : condition.Blind) (test : Test)
    {yes no : Script} (hyes : BlindScript yes) (hno : BlindScript no) (frame : Option Frame)
    (h : scene.Twins other) :
    (performBranch act condition test yes no frame scene).Twins
      (performBranch act condition test yes no frame other) := by
  obtain ⟨hreply, hframe, hscene⟩ := hact hcondition frame h
  simp only [performBranch, ← hreply, ← hframe]
  cases (act condition frame scene).reply with
  | answered found =>
      have hchosen : BlindScript (if test.holds found then yes else no) := by
        split
        · exact hyes
        · exact hno
      obtain ⟨hexit, hleft, hrun⟩ := hact.runScript hchosen (act condition frame scene).frame hscene
      simp only [← hexit, ← hleft]
      cases (runScript act (if test.holds found then yes else no) (act condition frame scene).frame
        (act condition frame scene).scene).exit with
      | done => exact hrun.answer _ _
      | failed cause => exact ⟨rfl, rfl, hrun⟩
      | unwound payload => exact ⟨rfl, rfl, hrun⟩
  | failed cause => exact ⟨hreply, hframe, hscene⟩
  | unwound payload => exact ⟨hreply, hframe, hscene⟩

/-- One case for each action. -/
theorem twins_performWith {action : Action} (hblind : action.Blind) (frame : Option Frame)
    (h : scene.Twins other) :
    (performWith act action frame scene).Twins (performWith act action frame other) := by
  have hhere := hblind.here
  have hwithin := hblind.within
  cases action with
  | log tag => exact h.answer frame _
  | fail cause => exact ⟨rfl, rfl, h⟩
  | unwind payload => exact ⟨rfl, rfl, h⟩
  | cancel token => exact Scene.Twins.answer (World.Twins.cancel h token) frame .null
  | increment counter =>
      obtain ⟨hcount, hleft⟩ := h.increment counter
      simp only [performWith, hcount]
      exact hleft.answer frame _
  | branch condition test yes no =>
      rw [Action.parts, List.forall_mem_cons, List.map_append, List.forall_mem_append] at hwithin
      exact twins_performBranch hact hwithin.1 test (blindScript_of_map hwithin.2.1)
        (blindScript_of_map hwithin.2.2) frame h
  | newRegistry name source => exact twins_performNewRegistry name source frame h
  | registry name request =>
      simp only [performWith]
      apply h.withNamed h.extra.registries
      intro id hfind
      obtain ⟨hshown, hleft⟩ := RegistryRequest.twins_answer hhere id h
      rw [hshown]
      exact hleft.answer frame _
  | addAdvice name key advice =>
      simp only [performWith]
      apply h.withNamed h.extra.registries
      intro id hfind
      obtain ⟨hshown, hleft⟩ := twins_granted h
        (World.Twins.addAdvice h id key (blindScript_of_map hwithin))
      rw [hshown]
      exact hleft.answer frame _
  | obtain name key keepAs =>
      simp only [performWith]
      apply h.withNamed h.extra.registries
      intro id hfind
      have hobtained := World.Twins.obtain h id key
      generalize World.obtain scene id key = made at hobtained ⊢
      generalize World.obtain other id key = made' at hobtained ⊢
      cases hobtained with
      | error payload => exact ⟨rfl, rfl, h⟩
      | ok hsame =>
          obtain ⟨chain, left, left', rfl, rfl, hleft⟩ := exists_answer hsame
          have hkept := Scene.Twins.keepChain hleft keepAs chain
          simp only [World.Twins.chain hleft]
          exact hkept.answer frame _
  | lookup name key keepAs =>
      simp only [performWith]
      apply h.withNamed h.extra.registries
      intro id hfind
      rw [World.Twins.lookup h]
      cases World.lookup other id key with
      | error refusal => exact h.answer frame _
      | ok chain =>
          have hkept := h.keepChain keepAs chain
          simp only [World.Twins.chain h]
          exact hkept.answer frame _
  | build registry key advice =>
      have hadvice : ∀ item ∈ advice, BlindScript item.handler := fun item hitem =>
        blindScript_of_map fun part hpart =>
          hwithin part (List.mem_flatMap.mpr ⟨item, hitem, hpart⟩)
      cases registry with
      | none => exact twins_performBuild _ hadvice frame h
      | some name =>
          simp only [performWith]
          apply h.withNamed h.extra.registries
          intro id hfind
          exact twins_performBuild ⟨id, key⟩ hadvice frame h
  | newChain name =>
      obtain ⟨hchain, hmade⟩ := World.Twins.newChain h
      simp only [performWith, hchain]
      exact (Scene.Twins.nameChain hmade name _).answer frame .null
  | addToChain chain advice =>
      simp only [performWith]
      apply h.withNamed h.extra.chains
      intro id hfind
      exact Scene.Twins.answer (World.Twins.addTo h id (blindScript_of_map hwithin)) frame .null
  | chain name =>
      simp only [performWith]
      apply h.withNamed h.extra.chains
      intro id hfind
      rw [World.Twins.chain h]
      exact h.answer frame _
  | sameChain chain other' =>
      simp only [performWith]
      apply h.withNamed h.extra.chains
      intro id hfind
      apply h.withNamed h.extra.chains
      intro id' hfind'
      exact h.answer frame _
  | bucket chain phase =>
      simp only [performWith]
      apply h.withNamed h.extra.chains
      intro id hfind
      rw [World.Twins.chain h]
      exact h.answer frame _
  | runPhase chain phase on =>
      simp only [performWith]
      apply h.withNamed h.extra.chains
      intro id hfind
      exact twins_performPhase hact id phase on frame h
  | invoke name plan script disposal catches =>
      simp only [performWith]
      apply h.withNamed h.extra.registries
      intro id hfind
      exact twins_performInvoke hact id plan (blindScript_of_map hwithin) disposal catches frame h
  | wrap name registry shape body =>
      simp only [performWith]
      apply h.withNamed h.extra.registries
      intro id hfind
      have hbody : BlindScript (⟨id, shape, body⟩ : Wrapped).body := blindScript_of_map hwithin
      exact (h.putFunction name hbody).answer frame .null
  | call name args catches propagates =>
      simp only [performWith]
      apply h.withNamed h.extra.functions
      intro function hfind
      split
      · exact twins_performCall hact (h.extra.blind name function hfind) args catches propagates
          frame h
      · exact h.refuse frame _
  | newPool name policy => exact (h.putPool name _ _).answer frame .null
  | pool name => cases hhere
  | acquire pool name plan =>
      simp only [performWith]
      apply h.withPool
      intro source source'
      have hput := h.putPool pool (source.acquire plan.function plan.args
        (scene.plannedSignal plan.signal)).2 (source'.acquire plan.function plan.args
          (other.plannedSignal plan.signal)).2
      simp only [Pool.acquire_fst, h.plannedSignal, World.Twins.moment h] at hput ⊢
      exact hput.keepingFrame name _ fun hkept => hkept.answer frame _
  | release pool name =>
      simp only [performWith]
      apply h.withPool
      intro destination destination'
      apply h.takingFrame name
      intro taken left left' hleft
      exact (hleft.putPool pool _ _).answer frame .null
  | recycle registry name =>
      simp only [performWith]
      apply h.withNamed h.extra.registries
      intro id hfind
      apply h.takingFrame name
      intro taken left left' hleft
      exact Scene.Twins.answer (World.Twins.recycle hleft id taken) frame .null
  | newFrame name plan =>
      simp only [performWith, Scene.plannedFrame, h.plannedSignal]
      exact h.keepingFrame name _ fun hkept => hkept.answer frame .null
  | inFrame name script =>
      exact twins_performInFrame hact name (blindScript_of_map hwithin) frame h
  | showFrame name =>
      simp only [performWith, World.Twins.moment h]
      apply h.withKept name
      intro shown frames
      exact h.answer frame _
  | dropFrame name =>
      simp only [performWith]
      apply h.takingFrame name
      intro taken left left' hleft
      exact hleft.answer frame .null
  | stash name =>
      simp only [performWith]
      apply h.withFrame
      intro current
      exact h.keepingFrame name current fun hkept => hkept.answer _ .null
  | unstash name =>
      simp only [performWith]
      apply h.withFrame
      intro current
      apply h.takingFrame name
      intro taken left left' hleft
      exact hleft.answer (some taken) .null
  | journal request =>
      have hleft : Scene.Twins { scene with journal := (request.answer (World.journal other)).2 }
          { other with journal := (request.answer (World.journal other)).2 } :=
        { h with journal := rfl }
      simp only [performWith, World.Twins.journal h]
      exact hleft.answer frame _
  | frame request =>
      simp only [performWith, World.Twins.moment h]
      apply h.withFrame
      intro current
      rcases request.answer (World.moment other) current with ⟨payload | shown, left⟩
      · exact ⟨rfl, rfl, h⟩
      · exact h.answer (some left) shown

end

/-! ## Sessions -/

theorem blind_perform (depth : Nat) : Act.Blind (perform depth) := by
  induction depth with
  | zero => exact fun action hblind frame scene other h => h.refuse frame .tooDeep
  | succ depth ih =>
      exact fun action hblind frame scene other h => twins_performWith ih hblind frame h

theorem twins_runStep {action : Action} (hblind : action.Blind) (h : scene.Twins other) :
    (runStep action scene).1 = (runStep action other).1 ∧
      Scene.Twins (runStep action scene).2 (runStep action other).2 := by
  have hstart : Scene.Twins (scene.setDesk { scene.extra with transcript := [] })
      (other.setDesk { other.extra with transcript := [] }) :=
    h.setDesk { h.extra with transcript := rfl }
  obtain ⟨hreply, -, hleft⟩ := blind_perform depthLimit hblind none hstart
  refine ⟨?_, hleft⟩
  simp only [runStep, hreply, hleft.extra.transcript, hleft.journal, hstart.journal]

theorem twins_runSteps {actions : List Action} (hblind : ∀ action ∈ actions, action.Blind)
    (h : scene.Twins other) :
    (runSteps actions scene).1 = (runSteps actions other).1 ∧
      Scene.Twins (runSteps actions scene).2 (runSteps actions other).2 := by
  induction actions generalizing scene other with
  | nil => exact ⟨rfl, h⟩
  | cons action actions ih =>
      rw [List.forall_mem_cons] at hblind
      obtain ⟨hreport, hleft⟩ := twins_runStep hblind.1 h
      obtain ⟨hreports, hlast⟩ := ih hblind.2 hleft
      refine ⟨?_, hlast⟩
      simp only [runSteps, hreport, hreports]

/-! ## With a pool and without -/

/-- All pools of the scene go by the policy, whatever they hold. -/
def Scene.pooling (policy : Policy) (scene : Scene) : Scene :=
  { scene with
    registries := ⟨scene.registries.cells.map fun registry =>
      { registry with pool := { registry.pool with policy } }⟩
    extra := { scene.extra with
      pools := ⟨scene.extra.pools.entries.map fun entry => (entry.1, { entry.2 with policy })⟩ } }

structure Scene.Blind (scene : Scene) : Prop where
  chains : ∀ id, ∀ advice ∈ (World.chain scene id).advice, BlindScript advice.handler
  functions : ∀ name function, scene.extra.functions.find? name = some function →
    BlindScript function.body

theorem entries_pooling (policy : Policy) (scene : Scene) (id : RegistryId) :
    (World.registry (scene.pooling policy) id).entries = (World.registry scene id).entries := by
  simp only [World.registry, Scene.pooling, Store.get, List.getD_eq_getElem?_getD,
    List.getElem?_map]
  cases scene.registries.cells[id]? <;> rfl

theorem isSome_find?_pooling (policy : Policy) (scene : Scene) (name : String) :
    ((scene.pooling policy).extra.pools.find? name).isSome =
      (scene.extra.pools.find? name).isSome := by
  simp only [Scene.pooling, Table.find?]
  induction scene.extra.pools.entries with
  | nil => rfl
  | cons entry rest ih =>
      rw [List.map_cons, List.lookup_cons, List.lookup_cons]
      cases name == entry.1 with
      | true => rfl
      | false => exact ih

theorem Scene.Blind.twins_pooling (h : scene.Blind) (policy policy' : Policy) :
    (scene.pooling policy).Twins (scene.pooling policy') where
  chains := rfl
  good := h.chains
  entries id := (entries_pooling policy scene id).trans (entries_pooling policy' scene id).symm
  size := by simp only [Scene.pooling, Store.size, List.length_map]
  cancelled := rfl
  clock := rfl
  journal := rfl
  extra := {
    registries := rfl
    chains := rfl
    pools := fun name => (isSome_find?_pooling policy scene name).trans
      (isSome_find?_pooling policy' scene name).symm
    rack := rfl
    functions := rfl
    counters := rfl
    transcript := rfl
    fault := rfl
    blind := h.functions }

/--
A session makes the same reports with pools and with pooling switched off, and leaves scenes that
differ in their pools only.  Every frame that it may still draw from a pool is as good as new.
-/
theorem pooling_does_not_show (policy : Policy) {scene : Scene} (hscene : scene.Blind)
    {actions : List Action} (hactions : ∀ action ∈ actions, action.Blind) :
    let pooled := runSteps actions (scene.pooling policy)
    let unpooled := runSteps actions (scene.pooling { policy with enabled := false })
    pooled.1 = unpooled.1 ∧ Scene.Twins pooled.2 unpooled.2 ∧
      ∀ registry function args signal,
        (World.acquire pooled.2 registry function args signal).1 = .new function args signal := by
  intro pooled unpooled
  obtain ⟨hreports, hlast⟩ := twins_runSteps hactions
    (hscene.twins_pooling policy { policy with enabled := false })
  refine ⟨hreports, hlast, ?_⟩
  intro registry function args signal
  exact World.acquire_fst pooled.2 registry function args signal

theorem leftovers_do_not_show :
    let stain : Script := [("note", .frame (.insertNote "seen" .unit)),
      ("skip", .frame (.setSkipped true))]
    let look : Script := [("notes", .frame .noteKeys), ("boom", .unwind (.ofText "boom"))]
    let plan : FramePlan := ⟨⟨"f"⟩, [.bool true], ⟨none, []⟩⟩
    let actions : List Action :=
      [.registry "main" (.register ⟨"f"⟩),
        .addAdvice "main" ⟨"f"⟩ ⟨.before, 0, "stain", stain⟩,
        .invoke "main" plan [("set", .frame (.setResult 0 .unit))] ⟨none, true⟩ false,
        .registry "main" (.unregister ⟨"f"⟩),
        .invoke "main" plan look ⟨none, false⟩ true]
    let pooled := runSteps actions (Scene.start.pooling .standard)
    let unpooled := runSteps actions (Scene.start.pooling { Policy.standard with enabled := false })
    Scene.start.Blind ∧ (∀ action ∈ actions, action.Blind) ∧ pooled.1 = unpooled.1 ∧
      Scene.Twins pooled.2 unpooled.2 := by
  intro stain look plan actions pooled unpooled
  have hscene : Scene.start.Blind := by
    constructor
    · intro id advice hmem
      cases hmem
    · intro name function hfind
      cases hfind
  have hchecked : ∀ action ∈ actions, action.isBlind 2 = true := by decide
  have hactions : ∀ action ∈ actions, action.Blind :=
    fun action hmem => .of_isBlind (hchecked action hmem)
  obtain ⟨hreports, hlast, -⟩ := pooling_does_not_show .standard hscene hactions
  exact ⟨hscene, hactions, hreports, hlast⟩

end Intercept.Session
