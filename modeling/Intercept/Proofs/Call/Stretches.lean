import Intercept.Proofs.Call.Stages
import Intercept.Proofs.Call.Visits

/-!
# The world of a call

Each handler of a call, and its target, has the world to itself for a stretch.  Between two stretches
the call does nothing to the world but record events: a part of the world that records do not touch
goes from one stretch to the next as it is, and so to the caller.  Main result: `carried_invoke`.
-/

namespace Intercept

variable {H U α : Type}

/-- From `found` on, each stretch begins with what the stretch before it left; the last one leaves
`last`. -/
def Carried (found : α) : List (α × α) → α → Prop
  | [], last => last = found
  | (given, left) :: later, last => given = found ∧ Carried left later last

theorem Carried.append {found next last : α} {stretches later : List (α × α)}
    (h : Carried found stretches next) (h' : Carried next later last) :
    Carried found (stretches ++ later) last := by
  induction stretches generalizing found with
  | nil =>
      obtain rfl : next = found := h
      exact h'
  | cons stretch stretches ih => exact ⟨h.1, ih h.2⟩

/-! ## Stretches

`view` shows the part of the world that is followed.
-/

def PhaseRun.stretches (view : World H U → α) (run : PhaseRun H U) : List (α × α) :=
  run.visits.map fun visit => (view visit.world, view visit.step.world)

def Stage.stretches (view : World H U → α) : Stage H U → List (α × α)
  | .phase _ _ _ run => run.stretches view
  | .target _ world landing => [(view world, view landing.world)]

def Progress.stretches (view : World H U → α) (progress : Progress H U) : List (α × α) :=
  progress.stages.flatMap (Stage.stretches view)

def CallRun.stretches (view : World H U → α) (run : CallRun H U) : List (α × α) :=
  run.stages.flatMap (Stage.stretches view)

section

variable {view : World H U → α}
  (hview : ∀ world event, view (World.record world event) = view world)

include hview

theorem Ran.carried {handle : Handle H U} {phase : Phase} {queue : List (Advice H)} {frame : Frame}
    {world : World H U} {run : PhaseRun H U} (h : Ran handle phase queue frame world run) :
    Carried (view world) (run.stretches view) (view run.world) := by
  induction h with
  | finished frame world => rfl
  | interrupted tripped => rfl
  | done untripped hvisit hexit hrest ih =>
      subst hvisit
      exact ⟨hview .., ih⟩
  | failed untripped hvisit hexit =>
      subst hvisit
      exact ⟨hview .., rfl⟩
  | unwound untripped hvisit hexit =>
      subst hvisit
      exact ⟨hview .., rfl⟩

theorem carried_runPhase (handle : Handle H U) (chain : ChainId) (phase : Phase) (frame : Frame)
    (world : World H U) :
    Carried (view world) ((runPhase handle chain phase frame world).stretches view)
      (view (runPhase handle chain phase frame world).world) :=
  (ran_runPhase handle chain phase frame world).carried hview

theorem carried_watchPhase (handle : Handle H U) (chain : ChainId) (phase : Phase) (frame : Frame)
    (world : World H U) :
    Carried (view world) ((watchPhase handle chain phase frame world).stretches view)
      (view (watchPhase handle chain phase frame world).world) := by
  have hrun := carried_runPhase hview handle chain phase frame world
  rw [watchPhase]
  split
  · exact hrun
  · rw [PhaseRun.record, hview]
    exact hrun
  · rw [PhaseRun.record, hview]
    exact hrun

theorem invariant_carried (handle : Handle H U) (chain : ChainId) (target : Target H U)
    (start : Progress H U) (found : α) :
    Progress.Invariant handle chain target start
      fun progress => Carried found (progress.stretches view) (view progress.world) := by
  have hsnoc : ∀ (progress : Progress H U) (stage : Stage H U),
      (progress.stages ++ [stage]).flatMap (Stage.stretches view) =
        progress.stretches view ++ stage.stretches view := by
    intro progress stage
    rw [List.flatMap_append, List.flatMap_singleton]
    rfl
  constructor
  · intro progress phase hgate h
    rw [Progress.stretches, Progress.stages_pass, hsnoc]
    exact h.append (carried_runPhase hview handle chain phase progress.frame progress.world)
  · intro progress phase hobserver h
    rw [Progress.stretches, Progress.stages_watch, hsnoc]
    exact h.append (carried_watchPhase hview handle chain phase progress.frame progress.world)
  · intro gates hgates h
    rw [Progress.stretches, Progress.stages_arrive, hsnoc]
    exact h.append ⟨rfl, rfl⟩
  · intro progress event h
    rw [Progress.record, hview]
    exact h
  · exact fun payload h => h

/-- Between its stretches a call leaves alone what no record touches. -/
theorem carried_invoke (handle : Handle H U) (registry : RegistryId) (key : Key)
    (args : List Value) (signal : Signal) (target : Target H U) (world : World H U) :
    Carried (view (world.acquire registry key args signal).2)
      ((invoke handle registry key args signal target world).stretches view)
      (view (invoke handle registry key args signal target world).world) := by
  cases hlookup : world.lookup registry key with
  | error refusal =>
      rw [invoke_of_refusal hlookup, runDirect_eq]
      exact ⟨hview .., rfl⟩
  | ok chain =>
      rw [invoke_of_lookup hlookup]
      obtain ⟨last, hlast, hstages, hworld⟩ := exists_invariant_runAdvised
        (invariant_carried hview handle chain target _
          (view (world.acquire registry key args signal).2))
        rfl key
      rw [CallRun.stretches, hstages, hworld]
      exact hlast

end

end Intercept
