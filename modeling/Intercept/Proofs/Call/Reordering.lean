import Intercept.Proofs.Call.Indifference
import Intercept.Proofs.Call.Single
import Intercept.Proofs.Chain.Ranking

/-!
# The order in which advice is added

What is added to a chain between advice of other phases and other priorities may be added in any order.
Two worlds that differ in this alone are `World.Reordered`; phases then run the same queues, and calls
whose handlers cannot tell the two worlds apart start the same, end the same and leave worlds that
differ in nothing else either.
-/

namespace Intercept

variable {H U : Type}

/-! ## What a call starts -/

inductive Launch (H : Type) where
  | handler (phase : Phase) (advice : Advice H) (frame : Frame)
  | target (frame : Frame)

def Visit.launch (phase : Phase) (visit : Visit H U) : Launch H :=
  .handler phase visit.advice visit.frame

def Stage.launches : Stage H U → List (Launch H)
  | .phase which _ _ run => run.visits.map (Visit.launch which)
  | .target frame _ _ => [.target frame]

def Progress.launches (progress : Progress H U) : List (Launch H) :=
  progress.stages.flatMap Stage.launches

def CallRun.launches (run : CallRun H U) : List (Launch H) :=
  run.stages.flatMap Stage.launches

/-- Both calls start the same in the same order and end the same, in worlds that are alike. -/
structure CallRun.Matches (alike : World H U → World H U → Prop) (run other : CallRun H U) :
    Prop where
  launches : run.launches = other.launches
  outcome : run.outcome = other.outcome
  world : alike run.world other.world

/-- No handler that runs in the call can tell worlds apart that are alike. -/
def CallRun.Blind (alike : World H U → World H U → Prop) (handle : Handle H U)
    (run : CallRun H U) : Prop :=
  ∀ stage ∈ run.stages, stage.Each fun _ visit => Intercept.Blind alike handle visit.advice.handler

/-! ## Calls that run the same queues -/

section

variable {alike : World H U → World H U → Prop} {handle : Handle H U} {chain : ChainId}
  {target : Target H U}

theorem PhaseRun.Like.launches {run other : PhaseRun H U} (h : run.Like alike other)
    (phase : Phase) :
    run.visits.map (Visit.launch phase) = other.visits.map (Visit.launch phase) := by
  have hstarts := congrArg (List.map fun start => match start with
    | Start.gatekeeper advice frame => Launch.handler phase advice frame
    | .target frame => .target frame) h.starts
  rw [List.map_map, List.map_map] at hstarts
  exact hstarts

namespace Progress

structure InStep (alike : World H U → World H U → Prop) (progress other : Progress H U) :
    Prop where
  launches : progress.launches = other.launches
  frame : progress.frame = other.frame
  world : alike progress.world other.world

@[simp] theorem launches_pass (progress : Progress H U) (phase : Phase) (run : PhaseRun H U) :
    (progress.pass phase run).launches =
      progress.launches ++ run.visits.map (Visit.launch phase) := by
  simp [launches, Stage.launches]

@[simp] theorem launches_arrive (progress : Progress H U) (landing : Landing H U) :
    (progress.arrive landing).launches = progress.launches ++ [.target progress.frame] := by
  simp [launches, Stage.launches]

variable {progress other : Progress H U}

theorem InStep.pass (h : progress.InStep alike other) (phase : Phase) {run run' : PhaseRun H U}
    (hrun : run.Like alike run') :
    (progress.pass phase run).InStep alike (other.pass phase run') := by
  refine ⟨?_, hrun.frame, hrun.world⟩
  rw [launches_pass, launches_pass, h.launches, hrun.launches phase]

theorem InStep.arrive (h : progress.InStep alike other) {landing landing' : Landing H U}
    (hlanding : landing.Like alike landing') :
    (progress.arrive landing).InStep alike (other.arrive landing') := by
  refine ⟨?_, hlanding.frame, hlanding.world⟩
  rw [launches_arrive, launches_arrive, h.launches, h.frame]

theorem paired_inStep (hcoeval : Coeval alike) (htarget : target.Blind alike)
    (hqueue : ∀ {world other : World H U}, alike world other → ∀ phase,
      (world.chain chain).queue phase = (other.chain chain).queue phase) :
    PairedThroughout handle chain target
      (Stage.Each fun _ visit => Intercept.Blind alike handle visit.advice.handler)
      (InStep alike) where
  frame h := h.frame
  around := by
    intro progress other h
    rw [← Chain.queue_eq_nil_iff, ← Chain.queue_eq_nil_iff, hqueue h.world]
  pass := by
    intro progress other phase run hgate h hrun hblind
    subst hrun
    have hphase := hcoeval.phase progress.frame h.world (hqueue h.world phase) hblind
    rw [h.frame] at hphase ⊢
    exact ⟨hphase.ending, h.pass phase hphase⟩
  arrive := by
    intro progress other landing h hlanding
    have hland := htarget h.world progress.frame
    rw [hlanding, h.frame] at hland
    exact ⟨hland.payload, h.arrive hland⟩
  record h event := ⟨h.launches, h.frame, hcoeval.record h.world event⟩
  watch := by
    intro progress other phase hobserver h hblind
    rw [Stage.Each, visits_watchPhase] at hblind
    have hphase := hcoeval.watched
      (hcoeval.phase progress.frame h.world (hqueue h.world phase) hblind)
    rw [Progress.watch, Progress.watch, ← h.frame]
    exact h.pass phase hphase
  raise := by
    intro progress other h payload
    refine ⟨h.launches, ?_, h.world⟩
    rw [frame_raise, frame_raise, h.frame]

end Progress

end

/-! ## Reordered worlds -/

namespace World

/-- The worlds differ in the order in which advice was added to one chain, if at all. -/
structure Reordered (id : ChainId) (world other : World H U) : Prop where
  tiers : (world.chain id).SameTiers (other.chain id)
  chains : ∀ i ≠ id, world.chain i = other.chain i
  size : world.chains.size = other.chains.size
  aside : { world with chains := other.chains } = other

namespace Reordered

variable {id : ChainId} {world other : World H U}

theorem queue (h : world.Reordered id other) (phase : Phase) :
    (world.chain id).queue phase = (other.chain id).queue phase :=
  h.tiers.queue phase

theorem record (h : world.Reordered id other) (event : Event) :
    (world.record event).Reordered id (other.record event) :=
  ⟨h.tiers, h.chains, h.size, congrArg (World.record · event) h.aside⟩

theorem acquire (h : world.Reordered id other) (registry : RegistryId) (key : Key)
    (args : List Value) (signal : Signal) :
    (world.acquire registry key args signal).2.Reordered id
      (other.acquire registry key args signal).2 :=
  ⟨h.tiers, h.chains, h.size,
    congrArg (fun world => (world.acquire registry key args signal).2) h.aside⟩

theorem coeval (id : ChainId) : Coeval (Reordered id : World H U → World H U → Prop) where
  moment := by
    intro world other h
    have hmoment := congrArg World.moment h.aside
    exact hmoment
  record := record

end Reordered

/-! ## Orders of addition -/

def addAll (world : World H U) (id : ChainId) (adds : List (Advice H)) : World H U :=
  adds.foldl (fun world advice => world.addTo id advice) world

theorem chain_addAll (world : World H U) (id i : ChainId) (adds : List (Advice H)) :
    (world.addAll id adds).chain i =
      if i = id then (world.chain id).addAll adds else world.chain i := by
  induction adds generalizing world with
  | nil =>
      split
      · next hi => exact congrArg world.chain hi
      · rfl
  | cons first adds ih =>
      rw [addAll, List.foldl_cons]
      refine (ih (world.addTo id first)).trans ?_
      rw [chain_addTo, if_pos rfl, chain_addTo]
      split <;> rfl

theorem size_addAll (world : World H U) (id : ChainId) (adds : List (Advice H)) :
    (world.addAll id adds).chains.size =
      if adds = [] then world.chains.size else max world.chains.size (id + 1) := by
  induction adds generalizing world with
  | nil => rfl
  | cons first adds ih =>
      rw [addAll, List.foldl_cons]
      refine (ih (world.addTo id first)).trans ?_
      simp only [addTo, Store.size_set, reduceCtorEq, if_false]
      split <;> omega

theorem addAll_aside (world : World H U) (id : ChainId) (adds : List (Advice H)) :
    ∃ chains, world.addAll id adds = { world with chains } := by
  induction adds generalizing world with
  | nil => exact ⟨world.chains, rfl⟩
  | cons first adds ih =>
      obtain ⟨chains, hchains⟩ := ih (world.addTo id first)
      exact ⟨chains, hchains⟩

theorem reordered_addAll (world : World H U) (id : ChainId) {adds others : List (Advice H)}
    (h : (⟨adds⟩ : Chain H).SameTiers ⟨others⟩) :
    (world.addAll id adds).Reordered id (world.addAll id others) := by
  refine ⟨?_, ?_, ?_, ?_⟩
  · simp only [chain_addAll, if_pos]
    exact Chain.sameTiers_addAll _ h
  · intro i hi
    simp only [chain_addAll, if_neg hi]
  · simp only [size_addAll, h.eq_nil_iff]
  · obtain ⟨chains, hchains⟩ := world.addAll_aside id adds
    obtain ⟨chains', hchains'⟩ := world.addAll_aside id others
    rw [hchains, hchains']

theorem lookup_addAll (world : World H U) (id : ChainId) (adds : List (Advice H))
    (registry : RegistryId) (key : Key) :
    (world.addAll id adds).lookup registry key = world.lookup registry key := by
  obtain ⟨chains, hchains⟩ := world.addAll_aside id adds
  rw [hchains]
  rfl

end World

/-! ## Calls under reordered chains -/

theorem matches_of_reordered {chain : ChainId} {world other : World H U}
    (h : world.Reordered chain other) {handle : Handle H U} {target : Target H U}
    (htarget : target.Blind (World.Reordered chain)) (key : Key) (frame : Frame)
    (hblind : (runAdvised handle chain key target frame world).Blind (World.Reordered chain)
      handle) :
    (runAdvised handle chain key target frame world).Matches (World.Reordered chain)
      (runAdvised handle chain key target frame other) := by
  have hpaired : Progress.PairedThroughout handle chain target _
      (Progress.InStep (World.Reordered chain)) :=
    Progress.paired_inStep (World.Reordered.coeval chain) htarget fun h phase => h.queue phase
  have hstart : Progress.InStep (World.Reordered chain) ⟨[], frame, world⟩ ⟨[], frame, other⟩ :=
    ⟨rfl, rfl, h⟩
  obtain ⟨last, last', hlast, hend, hend', houtcome⟩ := paired_runAdvised hpaired hstart key hblind
  refine ⟨?_, houtcome, ?_⟩
  · rw [CallRun.launches, CallRun.launches, hend.stages, hend'.stages]
    exact hlast.launches
  · rw [hend.world, hend'.world]
    exact hlast.world

theorem Habit.blind {U : Type} (alike : World Habit U → World Habit U → Prop) (habit : Habit) :
    Blind alike Habit.handle habit :=
  fun _ _ _ h => ⟨rfl, rfl, h⟩

/--
Two sequences of additions that agree on the advice of each phase and priority make no difference to
calls: those on a frame at hand, and those of the keys bound to the chain.
-/
theorem calls_ignore_order_of_addition {world : World H U} {chain : ChainId}
    {adds others : List (Advice H)} (h : (⟨adds⟩ : Chain H).SameTiers ⟨others⟩)
    {handle : Handle H U} {target : Target H U}
    (htarget : target.Blind (World.Reordered chain)) :
    (∀ key frame,
      let run := runAdvised handle chain key target frame (world.addAll chain adds)
      let other := runAdvised handle chain key target frame (world.addAll chain others)
      run.Blind (World.Reordered chain) handle → run.Matches (World.Reordered chain) other) ∧
    ∀ registry key args signal, world.lookup registry key = .ok chain →
      let run := invoke handle registry key args signal target (world.addAll chain adds)
      let other := invoke handle registry key args signal target (world.addAll chain others)
      run.Blind (World.Reordered chain) handle → run.Matches (World.Reordered chain) other := by
  have hworlds := world.reordered_addAll chain h
  constructor
  · intro key frame run other hblind
    exact matches_of_reordered hworlds htarget key frame hblind
  · intro registry key args signal hlookup
    have hrun := (world.lookup_addAll chain adds registry key).trans hlookup
    have hother := (world.lookup_addAll chain others registry key).trans hlookup
    rw [invoke_of_lookup hrun, invoke_of_lookup hother]
    intro run other hblind
    have hacquired := hworlds.acquire registry key args signal
    exact matches_of_reordered hacquired htarget key (.new key args signal) hblind

theorem calls_ignore_interleaving :
    let mark : Habit := ⟨(·.setSkipped true), .done⟩
    let gate : Habit := ⟨(·.setSkipped false), .done⟩
    let fault : Habit := ⟨id, .failed (.message "offline")⟩
    let adds : List (Advice Habit) :=
      [⟨.before, 5, "mark", mark⟩, ⟨.before, 5, "gate", gate⟩, ⟨.before, -3, "fault", fault⟩,
        ⟨.after, 0, "report", fault⟩]
    let others : List (Advice Habit) :=
      [⟨.after, 0, "report", fault⟩, ⟨.before, -3, "fault", fault⟩, ⟨.before, 5, "mark", mark⟩,
        ⟨.before, 5, "gate", gate⟩]
    let world : World Habit Unit := .single ⟨"f"⟩ .empty
    let target : Target Habit Unit := Landing.ofResult 0 .unit
    let run := invoke Habit.handle 0 ⟨"f"⟩ [] .never target (world.addAll 0 adds)
    let other := invoke Habit.handle 0 ⟨"f"⟩ [] .never target (world.addAll 0 others)
    (⟨adds⟩ : Chain Habit).SameTiers ⟨others⟩ ∧ target.Blind (World.Reordered 0) ∧
      world.lookup 0 ⟨"f"⟩ = .ok 0 ∧ run.Blind (World.Reordered 0) Habit.handle ∧
      run.Matches (World.Reordered 0) other := by
  intro mark gate fault adds others world target run other
  have htiers : (⟨adds⟩ : Chain Habit).SameTiers ⟨others⟩ := by
    intro phase priority
    by_cases hhigh : (5 : Int) = priority
    · subst hhigh
      cases phase <;> rfl
    · cases phase <;>
        simp [Advice.ofPriority, Chain.bucket, adds, others, List.filter_cons, hhigh]
  have htarget : target.Blind (World.Reordered 0) := fun _ _ h frame =>
    Landing.like_ofResult h 0 .unit frame
  have hlookup : world.lookup 0 ⟨"f"⟩ = .ok 0 := World.lookup_single (by decide) _
  have hblind : run.Blind (World.Reordered 0) Habit.handle := by
    intro stage hmem
    cases stage with
    | phase which frame world run => exact fun visit _ => Habit.blind _ visit.advice.handler
    | target frame world landing => trivial
  exact ⟨htiers, htarget, hlookup, hblind,
    (calls_ignore_order_of_addition htiers htarget).2 0 ⟨"f"⟩ [] .never hlookup hblind⟩

end Intercept
