import Intercept.Proofs.Call.Closing

/-!
# The stages of a call

Each stage of a call shows what the chain of the call, or its target, makes of the frame and the world
that the stage was given, and the target is given what the gatekeepers left: `all_runAdvised`.
-/

namespace Intercept

variable {H U : Type}

/-- A step of a call, whatever became of it. -/
inductive Mark where
  | phase (phase : Phase)
  | target
  deriving DecidableEq, Repr

namespace Stage

def mark : Stage H U → Mark
  | .phase which _ _ _ => .phase which
  | .target _ _ _ => .target

def Genuine (handle : Handle H U) (chain : ChainId) (target : Target H U) : Stage H U → Prop
  | .phase which frame world run =>
      run = if which.isGatekeeper then runPhase handle chain which frame world
        else watchPhase handle chain which frame world
  | .target frame world landing => landing = target frame world

end Stage

/-! ## Steps and runs -/

/-- `Q` is kept by every step that a call started in `start` may take. -/
structure Progress.Invariant (handle : Handle H U) (chain : ChainId) (target : Target H U)
    (start : Progress H U) (Q : Progress H U → Prop) : Prop where
  pass : ∀ {progress : Progress H U} {phase : Phase}, phase.isGatekeeper = true → Q progress →
    Q (progress.pass phase (runPhase handle chain phase progress.frame progress.world))
  watch : ∀ {progress : Progress H U} {phase : Phase}, phase.isGatekeeper = false → Q progress →
    Q (progress.watch handle chain phase)
  arrive : ∀ {gates : Progress H U}, Reaches handle chain start gates → Q gates →
    Q (gates.arrive (target gates.frame gates.world))
  record : ∀ {progress : Progress H U} (event : Event), Q progress → Q (progress.record event)
  raise : ∀ {progress : Progress H U} (payload : Payload), Q progress → Q (progress.raise payload)

namespace Progress.Invariant

variable {handle : Handle H U} {chain : ChainId} {target : Target H U}
  {start progress gates : Progress H U} {Q : Progress H U → Prop}
  (h : Invariant handle chain target start Q)

include h

theorem watchReturn (hprogress : Q progress) : Q (progress.watchReturn handle chain) := by
  rw [Progress.watchReturn]
  split
  · exact h.watch rfl hprogress
  · exact hprogress

theorem announce (hprogress : Q progress) (key : Key) (verdict : Verdict) :
    Q (progress.announce key verdict) := by
  cases verdict with
  | completed => exact hprogress
  | vetoed veto => exact h.record _ hprogress
  | unwound payload => exact hprogress

theorem throwWith (hprogress : Q progress) (payload : Payload) :
    Q (progress.throwWith handle chain payload) :=
  h.watch rfl (h.watch rfl (h.raise payload hprogress))

theorem before (hstart : Q start) {before : PhaseRun H U}
    (hbefore : runPhase handle chain .before start.frame start.world = before) :
    Q (start.pass .before before) := by
  rw [← hbefore]
  exact h.pass rfl hstart

theorem entered (hstart : Q start) {before around : PhaseRun H U}
    (hentered : Entered handle chain start before around) :
    Q ((start.pass .before before).pass .around around) := by
  rw [← hentered.haround]
  exact h.pass rfl (h.before hstart hentered.hbefore)

theorem reaches (hstart : Q start) (hgates : Reaches handle chain start gates) : Q gates := by
  cases hgates with
  | direct hbefore passed bare => exact h.before hstart hbefore
  | around hentered passed unskipped => exact h.entered hstart hentered

theorem arrived (hstart : Q start) (hgates : Reaches handle chain start gates)
    {landing : Landing H U} (hlanding : target gates.frame gates.world = landing) :
    Q (gates.arrive landing) := by
  rw [← hlanding]
  exact h.arrive hgates (h.reaches hstart hgates)

theorem guarded (hstart : Q start) {result : Verdict × Progress H U}
    (hguard : Guarded handle chain target start result) : Q result.2 := by
  cases hguard with
  | heldBefore hbefore held => exact h.before hstart hbefore
  | heldAround hentered held => exact h.entered hstart hentered
  | skipped hentered passed skipped => exact h.watchReturn (h.record _ (h.entered hstart hentered))
  | returned hgates hlanding landed => exact h.watchReturn (h.arrived hstart hgates hlanding)
  | threw hgates hlanding thrown => exact h.arrived hstart hgates hlanding

end Progress.Invariant

theorem exists_invariant_runAdvised {handle : Handle H U} {chain : ChainId} {target : Target H U}
    {frame : Frame} {world : World H U} {Q : Progress H U → Prop}
    (h : Progress.Invariant handle chain target ⟨[], frame, world⟩ Q)
    (hstart : Q ⟨[], frame, world⟩) (key : Key) :
    ∃ last, Q last ∧ (runAdvised handle chain key target frame world).stages = last.stages ∧
      (runAdvised handle chain key target frame world).world = last.world := by
  have hguard := h.guarded hstart (guarded_runGuarded handle chain target ⟨[], frame, world⟩)
  have hclosed := closed_runAdvised handle chain key target frame world
  generalize runGuarded handle chain target ⟨[], frame, world⟩ = result at hguard hclosed
  generalize runAdvised handle chain key target frame world = run at hclosed ⊢
  cases hclosed with
  | completed progress => exact ⟨_, h.watch rfl hguard, rfl, rfl⟩
  | @raised verdict payload progress hraised =>
      rw [unwind_eq]
      exact ⟨_, h.throwWith (h.announce hguard key verdict) payload, rfl, rfl⟩

/-- `P` holds of what the phases of the chain make of any frame and world, and of what the target
makes of those with which the gatekeepers let the call through. -/
structure Stage.Established (handle : Handle H U) (chain : ChainId) (target : Target H U)
    (start : Progress H U) (P : Stage H U → Prop) : Prop where
  gate : ∀ {phase : Phase}, phase.isGatekeeper = true → ∀ frame world,
    P (.phase phase frame world (runPhase handle chain phase frame world))
  watch : ∀ {phase : Phase}, phase.isGatekeeper = false → ∀ frame world,
    P (.phase phase frame world (watchPhase handle chain phase frame world))
  target : ∀ {gates : Progress H U}, Reaches handle chain start gates →
    P (.target gates.frame gates.world (target gates.frame gates.world))

theorem all_runAdvised {handle : Handle H U} {chain : ChainId} {target : Target H U}
    {frame : Frame} {world : World H U} {P : Stage H U → Prop}
    (h : Stage.Established handle chain target ⟨[], frame, world⟩ P) (key : Key) :
    ∀ stage ∈ (runAdvised handle chain key target frame world).stages, P stage := by
  have hinvariant : Progress.Invariant handle chain target ⟨[], frame, world⟩ (Progress.All P) :=
    { pass := fun hgate hall => hall.snoc (Progress.stages_pass ..) (h.gate hgate _ _)
      watch := fun hobserver hall => hall.snoc (Progress.stages_watch ..) (h.watch hobserver _ _)
      arrive := fun hgates hall => hall.snoc (Progress.stages_arrive ..) (h.target hgates)
      record := fun _ hall => hall
      raise := fun _ hall => hall }
  obtain ⟨last, hlast, hstages, -⟩ :=
    exists_invariant_runAdvised hinvariant (Progress.all_nil P frame world) key
  rw [hstages]
  exact hlast

/-! ## What the stages show -/

theorem genuine_runAdvised (handle : Handle H U) (chain : ChainId) (key : Key)
    (target : Target H U) (frame : Frame) (world : World H U) :
    ∀ stage ∈ (runAdvised handle chain key target frame world).stages,
      stage.Genuine handle chain target := by
  apply all_runAdvised
  constructor
  · intro phase hgate found world'
    rw [Stage.Genuine, if_pos hgate]
  · intro phase hobserver found world'
    rw [Stage.Genuine, hobserver, if_neg Bool.false_ne_true]
  · intro gates hgates
    rfl

theorem Reaches.before_mem {handle : Handle H U} {chain : ChainId} {start gates : Progress H U}
    (h : Reaches handle chain start gates) :
    .phase .before start.frame start.world (runPhase handle chain .before start.frame start.world) ∈
      gates.stages := by
  cases h with
  | direct hbefore passed bare =>
      subst hbefore
      simp
  | around hentered passed unskipped =>
      obtain ⟨rfl, -, -, -⟩ := hentered
      simp

theorem Guarded.before_mem {handle : Handle H U} {chain : ChainId} {target : Target H U}
    {start : Progress H U} {result : Verdict × Progress H U}
    (h : Guarded handle chain target start result) :
    .phase .before start.frame start.world (runPhase handle chain .before start.frame start.world) ∈
      result.2.stages := by
  cases h with
  | heldBefore hbefore held =>
      subst hbefore
      simp
  | heldAround hentered held =>
      obtain ⟨rfl, -, -, -⟩ := hentered
      simp
  | skipped hentered passed skipped =>
      obtain ⟨rfl, -, -, -⟩ := hentered
      exact Progress.mem_watchReturn (by simp)
  | returned hgates hlanding landed =>
      exact Progress.mem_watchReturn (List.mem_append_left _ hgates.before_mem)
  | threw hgates hlanding thrown => exact List.mem_append_left _ hgates.before_mem

theorem before_mem_runAdvised (handle : Handle H U) (chain : ChainId) (key : Key)
    (target : Target H U) (frame : Frame) (world : World H U) :
    .phase .before frame world (runPhase handle chain .before frame world) ∈
      (runAdvised handle chain key target frame world).stages :=
  mem_runAdvised rfl (guarded_runGuarded handle chain target ⟨[], frame, world⟩).before_mem key

def Stage.Reached (handle : Handle H U) (chain : ChainId) (start : Progress H U) : Stage H U → Prop
  | .phase _ _ _ _ => True
  | .target frame world _ =>
      ∃ gates, Reaches handle chain start gates ∧ gates.frame = frame ∧ gates.world = world

theorem reached_runAdvised (handle : Handle H U) (chain : ChainId) (key : Key)
    (target : Target H U) (frame : Frame) (world : World H U) :
    ∀ stage ∈ (runAdvised handle chain key target frame world).stages,
      stage.Reached handle chain ⟨[], frame, world⟩ := by
  apply all_runAdvised
  constructor
  · intro phase hgate found world'
    trivial
  · intro phase hobserver found world'
    trivial
  · intro gates hgates
    exact ⟨gates, hgates, rfl, rfl⟩

end Intercept
