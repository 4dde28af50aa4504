import Intercept.Proofs.Call.Pairing

/-!
# Calls in worlds that are alike

Two worlds are alike if no gatekeeper of a chain, and no target, can tell them apart.  What this comes
to is left open: `Likeness` asks that a relation between worlds is kept by every step that may depend
on it.  Up to the target, calls in worlds that are alike then start the same handlers on the same
frames and get as far.
-/

namespace Intercept

variable {H U : Type}

/-! ## Steps that are alike -/

section

variable (alike : World H U → World H U → Prop)

structure Step.Like (step other : Step H U) : Prop where
  exit : step.exit = other.exit
  frame : step.frame = other.frame
  world : alike step.world other.world

structure Landing.Like (landing other : Landing H U) : Prop where
  payload : landing.payload = other.payload
  frame : landing.frame = other.frame
  world : alike landing.world other.world

def Blind (handle : Handle H U) (handler : H) : Prop :=
  ∀ frame world other, alike world other →
    (handle handler frame world).Like alike (handle handler frame other)

/-- Worlds that are alike are at the same moment, and stay alike when the same is recorded in both. -/
structure Coeval : Prop where
  moment : ∀ {world other}, alike world other → world.moment = other.moment
  record : ∀ {world other}, alike world other → ∀ event,
    alike (world.record event) (other.record event)

def Target.Blind (target : Target H U) : Prop :=
  ∀ ⦃world other⦄, alike world other → ∀ frame,
    (target frame world).Like alike (target frame other)

structure Likeness (handle : Handle H U) (chain : ChainId) (target : Target H U) : Prop
    extends Coeval alike where
  queue : ∀ {world other}, alike world other → ∀ phase : Phase, phase.isGatekeeper = true →
    (world.chain chain).queue phase = (other.chain chain).queue phase
  gatekeeper : ∀ {world other}, alike world other → ∀ phase : Phase, phase.isGatekeeper = true →
    ∀ advice ∈ (world.chain chain).queue phase, Blind alike handle advice.handler
  target : target.Blind alike

end

theorem Landing.like_ofResult {alike : World H U → World H U → Prop} {world other : World H U}
    (h : alike world other) (i : Nat) (value : Value) (frame : Frame) :
    (ofResult i value frame world).Like alike (ofResult i value frame other) := by
  simp only [ofResult]
  cases frame.setResult i value with
  | error refusal => exact ⟨rfl, rfl, h⟩
  | ok left => exact ⟨rfl, rfl, h⟩

/-! ## Starts -/

/-- What a call starts, with the frame it is given; observers do not count. -/
inductive Start (H : Type) where
  | gatekeeper (advice : Advice H) (frame : Frame)
  | target (frame : Frame)

def Visit.start (visit : Visit H U) : Start H :=
  .gatekeeper visit.advice visit.frame

def Stage.starts : Stage H U → List (Start H)
  | .phase which _ _ run => if which.isGatekeeper then run.visits.map Visit.start else []
  | .target frame _ _ => [.target frame]

def Progress.starts (progress : Progress H U) : List (Start H) :=
  progress.stages.flatMap Stage.starts

/-! ## Phases -/

variable {alike : World H U → World H U → Prop} {handle : Handle H U} {chain : ChainId}
  {target : Target H U}

structure PhaseRun.Like (alike : World H U → World H U → Prop) (run other : PhaseRun H U) :
    Prop where
  starts : run.visits.map Visit.start = other.visits.map Visit.start
  ending : run.ending = other.ending
  frame : run.frame = other.frame
  world : alike run.world other.world

theorem PhaseRun.Like.prepend {run other : PhaseRun H U} (h : run.Like alike other)
    {visit visit' : Visit H U} (hstart : visit.start = visit'.start) :
    (run.prepend visit).Like alike (other.prepend visit') := by
  refine ⟨?_, h.ending, h.frame, h.world⟩
  simp only [PhaseRun.prepend, List.map_cons, hstart, h.starts]

theorem Coeval.visit (hcoeval : Coeval alike) (phase : Phase) {advice : Advice H}
    (hblind : Blind alike handle advice.handler) (frame : Frame) {world other : World H U}
    (h : alike world other) :
    (visitOf handle phase advice frame world).step.Like alike
      (visitOf handle phase advice frame other).step :=
  hblind _ _ _ (hcoeval.record h _)

/-- Only the handlers that run need be blind. -/
theorem Ran.like {phase : Phase} {queue : List (Advice H)} {frame : Frame} {world : World H U}
    {run : PhaseRun H U} (hran : Ran handle phase queue frame world run) (hcoeval : Coeval alike)
    (hblind : ∀ visit ∈ run.visits, Blind alike handle visit.advice.handler) {other : World H U}
    (h : alike world other) :
    ∃ run', Ran handle phase queue frame other run' ∧ run.Like alike run' := by
  induction hran generalizing other with
  | finished frame world => exact ⟨_, .finished frame other, rfl, rfl, rfl, h⟩
  | interrupted tripped =>
      -- The signal is checked against the moment, which both worlds share.
      rw [hcoeval.moment h] at tripped
      exact ⟨_, .interrupted tripped, rfl, rfl, rfl, h⟩
  | @done advice queue frame world visit run untripped hvisit hexit hrest ih =>
      subst hvisit
      have hhead : Blind alike handle advice.handler := hblind _ List.mem_cons_self
      have hstep := hcoeval.visit phase hhead frame h
      obtain ⟨run', hrest', hrun⟩ :=
        ih (fun visit hmem => hblind visit (List.mem_cons_of_mem _ hmem)) hstep.world
      rw [hcoeval.moment h] at untripped
      rw [hstep.exit] at hexit
      rw [hstep.frame] at hrest'
      exact ⟨_, .done untripped rfl hexit hrest', hrun.prepend rfl⟩
  | @failed advice queue frame world visit cause untripped hvisit hexit =>
      subst hvisit
      have hhead : Blind alike handle advice.handler := hblind _ List.mem_cons_self
      have hstep := hcoeval.visit phase hhead frame h
      rw [hcoeval.moment h] at untripped
      rw [hstep.exit] at hexit
      exact ⟨_, .failed untripped rfl hexit, rfl, rfl, hstep.frame, hstep.world⟩
  | @unwound advice queue frame world visit payload untripped hvisit hexit =>
      subst hvisit
      have hhead : Blind alike handle advice.handler := hblind _ List.mem_cons_self
      have hstep := hcoeval.visit phase hhead frame h
      rw [hcoeval.moment h] at untripped
      rw [hstep.exit] at hexit
      exact ⟨_, .unwound untripped rfl hexit, rfl, rfl, hstep.frame, hstep.world⟩

theorem Coeval.phase (hcoeval : Coeval alike) {phase : Phase} (frame : Frame)
    {world other : World H U} (h : alike world other)
    (hqueue : (world.chain chain).queue phase = (other.chain chain).queue phase)
    (hblind : ∀ visit ∈ (runPhase handle chain phase frame world).visits,
      Blind alike handle visit.advice.handler) :
    (runPhase handle chain phase frame world).Like alike
      (runPhase handle chain phase frame other) := by
  obtain ⟨run, hran, hrun⟩ := (ran_runPhase handle chain phase frame world).like hcoeval hblind h
  rw [hqueue] at hran
  have hother : runPhase handle chain phase frame other = run := hran.eq_runQueue
  rw [hother]
  exact hrun

theorem Coeval.watched (hcoeval : Coeval alike) {phase : Phase} {frame found : Frame}
    {world other : World H U}
    (h : (runPhase handle chain phase frame world).Like alike
      (runPhase handle chain phase found other)) :
    (watchPhase handle chain phase frame world).Like alike
      (watchPhase handle chain phase found other) := by
  obtain ⟨hstarts, hending, hframe, hworld⟩ := h
  refine ⟨by simpa using hstarts, by simpa using hending, by simpa using hframe, ?_⟩
  simp only [watchPhase, ← hending, ← hframe]
  cases (runPhase handle chain phase frame world).ending with
  | passed => exact hworld
  | stopped stop => exact hcoeval.record hworld _
  | unwound payload => exact hcoeval.record hworld _

theorem blind_of_queue {phase : Phase} {frame : Frame} {world : World H U}
    (h : ∀ advice ∈ (world.chain chain).queue phase, Blind alike handle advice.handler) :
    ∀ visit ∈ (runPhase handle chain phase frame world).visits,
      Blind alike handle visit.advice.handler :=
  (ran_runPhase handle chain phase frame world).forall_visits fun advice hmem _ _ _ =>
    h advice hmem

theorem Likeness.phase (hlike : Likeness alike handle chain target) {phase : Phase}
    (hgate : phase.isGatekeeper = true) (frame : Frame) {world other : World H U}
    (h : alike world other) :
    (runPhase handle chain phase frame world).Like alike
      (runPhase handle chain phase frame other) :=
  hlike.toCoeval.phase frame h (hlike.queue h phase hgate)
    (blind_of_queue (hlike.gatekeeper h phase hgate))

/-! ## Progress -/

namespace Progress

structure Like (alike : World H U → World H U → Prop) (progress other : Progress H U) : Prop where
  starts : progress.starts = other.starts
  frame : progress.frame = other.frame
  world : alike progress.world other.world

variable {progress other : Progress H U}

@[simp] theorem starts_pass (progress : Progress H U) {phase : Phase}
    (hgate : phase.isGatekeeper = true) (run : PhaseRun H U) :
    (progress.pass phase run).starts = progress.starts ++ run.visits.map Visit.start := by
  simp [starts, Stage.starts, hgate]

@[simp] theorem starts_arrive (progress : Progress H U) (landing : Landing H U) :
    (progress.arrive landing).starts = progress.starts ++ [.target progress.frame] := by
  simp [starts, Stage.starts]

@[simp] theorem starts_watch (progress : Progress H U) {phase : Phase}
    (hobserver : phase.isGatekeeper = false) :
    (progress.watch handle chain phase).starts = progress.starts := by
  simp [starts, Stage.starts, hobserver]

theorem Like.pass (h : progress.Like alike other) (phase : Phase)
    (hgate : phase.isGatekeeper = true) {run run' : PhaseRun H U} (hrun : run.Like alike run') :
    (progress.pass phase run).Like alike (other.pass phase run') := by
  refine ⟨?_, hrun.frame, hrun.world⟩
  rw [progress.starts_pass hgate, other.starts_pass hgate, h.starts, hrun.starts]

theorem Like.record (h : progress.Like alike other) (hlike : Likeness alike handle chain target)
    (event : Event) : (progress.record event).Like alike (other.record event) :=
  ⟨h.starts, h.frame, hlike.record h.world event⟩

theorem Like.arrive (h : progress.Like alike other) {landing landing' : Landing H U}
    (hlanding : landing.Like alike landing') :
    (progress.arrive landing).Like alike (other.arrive landing') := by
  refine ⟨?_, hlanding.frame, hlanding.world⟩
  rw [starts_arrive, starts_arrive, h.starts, h.frame]

end Progress

/-! ## The guarded part -/

theorem Likeness.bucket_eq_nil (hlike : Likeness alike handle chain target) {phase : Phase}
    (hgate : phase.isGatekeeper = true) {world other : World H U} (h : alike world other) :
    (world.chain chain).bucket phase = [] ↔ (other.chain chain).bucket phase = [] := by
  rw [← List.length_eq_zero_iff, ← List.length_eq_zero_iff, ← Chain.length_queue,
    ← Chain.length_queue, hlike.queue h phase hgate]

theorem Likeness.paired (hlike : Likeness alike handle chain target) :
    Progress.Paired handle chain target (fun _ => True) (Progress.Like alike) where
  frame h := h.frame
  around h := hlike.bucket_eq_nil rfl h.world
  pass := by
    intro progress other phase run hgate h hrun htrue
    subst hrun
    have hphase := hlike.phase hgate progress.frame h.world
    rw [h.frame] at hphase ⊢
    exact ⟨hphase.ending, h.pass phase hgate hphase⟩
  arrive := by
    intro progress other landing h hlanding
    have hland := hlike.target h.world progress.frame
    rw [hlanding, h.frame] at hland
    exact ⟨hland.payload, h.arrive hland⟩
  record h event := h.record hlike event

theorem Guarded.like {progress other : Progress H U} {result : Verdict × Progress H U}
    (hguard : Guarded handle chain target progress result) (h : progress.Like alike other)
    (hlike : Likeness alike handle chain target) :
    ∃ (verdict : Verdict) (core core' : Progress H U),
      result = (verdict, core.settle handle chain verdict) ∧
      Guarded handle chain target other (verdict, core'.settle handle chain verdict) ∧
      core.Like alike core' :=
  hguard.paired hlike.paired h fun _ _ => trivial

end Intercept
