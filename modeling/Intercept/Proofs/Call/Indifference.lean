import Intercept.Proofs.Call.Likeness

/-!
# Calls to which worlds are alike

If no handler at all tells two worlds apart, nor the target, the observers of a call run alike as
well, and the call ends alike: `Indifference.runAdvised`, `Indifference.runDirect`.
-/

namespace Intercept

variable {H U : Type}

/-- Worlds that are alike hold the same chains, and no handler in them tells the two apart. -/
structure Indifference (alike : World H U → World H U → Prop) (handle : Handle H U) : Prop
    extends Coeval alike where
  chain : ∀ {world other}, alike world other → ∀ id, world.chain id = other.chain id
  advice : ∀ {world other}, alike world other → ∀ id, ∀ advice ∈ (world.chain id).advice,
    Blind alike handle advice.handler

structure CallRun.Like (alike : World H U → World H U → Prop) (run other : CallRun H U) : Prop where
  outcome : run.outcome = other.outcome
  world : alike run.world other.world

variable {alike : World H U → World H U → Prop} {handle : Handle H U} {chain : ChainId}
  {target : Target H U} {progress other : Progress H U}

namespace Indifference

theorem queue (h : Indifference alike handle) {world other : World H U} (hworld : alike world other)
    (phase : Phase) :
    ∀ advice ∈ (world.chain chain).queue phase, Blind alike handle advice.handler := by
  intro advice hmem
  exact h.advice hworld chain advice (List.mem_filter.mp (Chain.mem_queue.mp hmem)).1

theorem likeness (h : Indifference alike handle) (chain : ChainId) (htarget : target.Blind alike) :
    Likeness alike handle chain target where
  toCoeval := h.toCoeval
  queue hworld phase _ := by rw [h.chain hworld]
  gatekeeper hworld phase _ := h.queue hworld phase
  target := htarget

/-! ## Phases -/

theorem phase (h : Indifference alike handle) (chain : ChainId) (phase : Phase) (frame : Frame)
    {world other : World H U} (hworld : alike world other) :
    (runPhase handle chain phase frame world).Like alike
      (runPhase handle chain phase frame other) :=
  h.toCoeval.phase frame hworld (by rw [h.chain hworld]) (blind_of_queue (h.queue hworld phase))

/-! ## Calls -/

theorem paired (h : Indifference alike handle) (chain : ChainId) (htarget : target.Blind alike) :
    Progress.PairedThroughout handle chain target (fun _ => True) (Progress.Like alike) where
  toPaired := (h.likeness chain htarget).paired
  watch := by
    intro progress other phase hobserver hlike htrue
    have hwatch := h.toCoeval.watched (h.phase chain phase progress.frame hlike.world)
    rw [hlike.frame] at hwatch
    refine ⟨?_, ?_, ?_⟩
    · rw [Progress.starts_watch _ hobserver, Progress.starts_watch _ hobserver, hlike.starts]
    · rw [Progress.frame_watch, Progress.frame_watch, hlike.frame, hwatch.frame]
    · rw [Progress.world_watch, Progress.world_watch, hlike.frame]
      exact hwatch.world
  raise := by
    intro progress other hlike payload
    refine ⟨hlike.starts, ?_, hlike.world⟩
    rw [Progress.frame_raise, Progress.frame_raise, hlike.frame]

theorem runAdvised (h : Indifference alike handle) (chain : ChainId) (key : Key)
    (htarget : target.Blind alike) (frame : Frame) {world other : World H U}
    (hworld : alike world other) :
    (runAdvised handle chain key target frame world).Like alike
      (runAdvised handle chain key target frame other) := by
  have hstart : Progress.Like alike ⟨[], frame, world⟩ ⟨[], frame, other⟩ := ⟨rfl, rfl, hworld⟩
  obtain ⟨last, last', hlast, hend, hend', houtcome⟩ :=
    paired_runAdvised (h.paired chain htarget) hstart key fun _ _ => trivial
  refine ⟨houtcome, ?_⟩
  rw [hend.world, hend'.world]
  exact hlast.world

theorem runDirect (h : Indifference alike handle) (key : Key) (htarget : target.Blind alike)
    (frame : Frame) {world other : World H U} (hworld : alike world other) :
    (runDirect key target frame world).Like alike (runDirect key target frame other) := by
  have hland := htarget (h.record hworld (.directCall key)) frame
  rw [runDirect_eq, runDirect_eq]
  refine ⟨?_, hland.world⟩
  simp only [Landing.outcome, hland.payload, hland.frame]

end Indifference

end Intercept
