import Intercept.Proofs.Call.Course
import Intercept.Proofs.Call.Visits
import Intercept.Proofs.Registration.Growth

/-!
# Calls keep their chain

A call runs under the chain that was found for its key, whatever becomes of the key meanwhile.  Each
phase runs what that chain holds when the phase begins; what handlers add to it then is there for the
phases that begin later: `invoke_keeps_chain`.
-/

namespace Intercept

variable {H U : Type} {handle : Handle H U} {chain : ChainId} {target : Target H U}

/-! ## Snapshots -/

/-- The handlers of a phase are, in order, those that the chain held when the phase began; all of them
if it passed. -/
structure PhaseRun.OfSnapshot (chain : Chain H) (phase : Phase) (run : PhaseRun H U) : Prop where
  in_order : run.visits.map Visit.advice <+: chain.queue phase
  all : run.ending = .passed → run.visits.map Visit.advice = chain.queue phase
  count : run.visits.length ≤ (chain.bucket phase).length

theorem ofSnapshot_runPhase (handle : Handle H U) (chain : ChainId) (phase : Phase) (frame : Frame)
    (world : World H U) :
    (runPhase handle chain phase frame world).OfSnapshot (world.chain chain) phase := by
  have hran := ran_runPhase handle chain phase frame world
  have hlength := length_visits_runQueue_le handle phase ((world.chain chain).queue phase) frame world
  rw [Chain.length_queue] at hlength
  exact ⟨hran.advice_prefix, hran.advice_of_passed, hlength⟩

theorem ofSnapshot_watchPhase (handle : Handle H U) (chain : ChainId) (phase : Phase)
    (frame : Frame) (world : World H U) :
    (watchPhase handle chain phase frame world).OfSnapshot (world.chain chain) phase := by
  obtain ⟨horder, hall, hcount⟩ := ofSnapshot_runPhase handle chain phase frame world
  constructor
  · rw [visits_watchPhase]
    exact horder
  · rw [visits_watchPhase, ending_watchPhase]
    exact hall
  · rw [visits_watchPhase]
    exact hcount

namespace Stage

def found : Stage H U → World H U
  | .phase _ _ world _ => world
  | .target _ world _ => world

def worlds : Stage H U → List (World H U)
  | .phase _ _ world run =>
      world :: run.visits.flatMap (fun visit => [visit.world, visit.step.world]) ++ [run.world]
  | .target _ world landing => [world, landing.world]

def OnSnapshot (chain : ChainId) : Stage H U → Prop
  | .phase which _ world run => run.OfSnapshot (world.chain chain) which
  | .target _ _ _ => True

/-- What the chain holds in any world of the earlier stage, the later stage finds there. -/
def HandsOn (chain : ChainId) (earlier later : Stage H U) : Prop :=
  ∀ world ∈ earlier.worlds, (world.chain chain).advice <+: (later.found.chain chain).advice

end Stage

theorem onSnapshot_runAdvised (handle : Handle H U) (chain : ChainId) (key : Key)
    (target : Target H U) (frame : Frame) (world : World H U) :
    ∀ stage ∈ (runAdvised handle chain key target frame world).stages, stage.OnSnapshot chain := by
  apply all_runAdvised
  constructor
  · intro phase hgate found world'
    exact ofSnapshot_runPhase handle chain phase found world'
  · intro phase hobserver found world'
    exact ofSnapshot_watchPhase handle chain phase found world'
  · intro gates hgates
    trivial

/-! ## Growth along a call -/

section

variable (hhandle : ∀ handler frame world, World.Grows world (handle handler frame world).world)

include hhandle

private theorem grows_visit {phase : Phase} {advice : Advice H} {frame : Frame} {world : World H U}
    {visit : Visit H U} (hvisit : visitOf handle phase advice frame world = visit) :
    world.Grows visit.world ∧ visit.world.Grows visit.step.world := by
  subst hvisit
  exact ⟨.of_chains rfl, hhandle advice.handler frame _⟩

theorem Ran.grows {phase : Phase} {queue : List (Advice H)} {frame : Frame} {world : World H U}
    {run : PhaseRun H U} (h : Ran handle phase queue frame world run) :
    world.Grows run.world ∧ ∀ visit ∈ run.visits, world.Grows visit.world ∧
      visit.world.Grows visit.step.world ∧ visit.step.world.Grows run.world := by
  induction h with
  | finished frame world => exact ⟨.refl world, fun visit hmem => absurd hmem List.not_mem_nil⟩
  | interrupted tripped => exact ⟨.refl _, fun visit hmem => absurd hmem List.not_mem_nil⟩
  | done untripped hvisit hexit hrest ih =>
      obtain ⟨hfound, hleft⟩ := grows_visit hhandle hvisit
      obtain ⟨hrun, hvisits⟩ := ih
      refine ⟨(hfound.trans hleft).trans hrun, List.forall_mem_cons.mpr ⟨⟨hfound, hleft, hrun⟩, ?_⟩⟩
      intro visit hmem
      obtain ⟨hfound', hrest'⟩ := hvisits visit hmem
      exact ⟨(hfound.trans hleft).trans hfound', hrest'⟩
  | failed untripped hvisit hexit =>
      obtain ⟨hfound, hleft⟩ := grows_visit hhandle hvisit
      exact ⟨hfound.trans hleft, List.forall_mem_singleton.mpr ⟨hfound, hleft, .refl _⟩⟩
  | unwound untripped hvisit hexit =>
      obtain ⟨hfound, hleft⟩ := grows_visit hhandle hvisit
      exact ⟨hfound.trans hleft, List.forall_mem_singleton.mpr ⟨hfound, hleft, .refl _⟩⟩

theorem grows_runPhase (chain : ChainId) (phase : Phase) (frame : Frame) (world : World H U) :
    ∀ moment ∈ (Stage.phase phase frame world (runPhase handle chain phase frame world)).worlds,
      world.Grows moment ∧ moment.Grows (runPhase handle chain phase frame world).world := by
  obtain ⟨hrun, hvisits⟩ := (ran_runPhase handle chain phase frame world).grows hhandle
  intro moment hmem
  simp only [Stage.worlds, List.mem_append, List.mem_cons, List.mem_flatMap,
    List.not_mem_nil, or_false] at hmem
  rcases hmem with (rfl | ⟨visit, hvisit, rfl | rfl⟩) | rfl
  · exact ⟨.refl _, hrun⟩
  · obtain ⟨hfound, hstep, hleft⟩ := hvisits visit hvisit
    exact ⟨hfound, hstep.trans hleft⟩
  · obtain ⟨hfound, hstep, hleft⟩ := hvisits visit hvisit
    exact ⟨hfound.trans hstep, hleft⟩
  · exact ⟨hrun, .refl _⟩

theorem grows_watchPhase (chain : ChainId) (phase : Phase) (frame : Frame) (world : World H U) :
    ∀ moment ∈ (Stage.phase phase frame world (watchPhase handle chain phase frame world)).worlds,
      world.Grows moment ∧ moment.Grows (watchPhase handle chain phase frame world).world := by
  have hworld : (runPhase handle chain phase frame world).world.Grows
      (watchPhase handle chain phase frame world).world := by
    rw [watchPhase]
    split
    · exact .refl _
    · exact .of_chains rfl
    · exact .of_chains rfl
  have hrun := grows_runPhase hhandle chain phase frame world
  intro moment hmem
  simp only [Stage.worlds, visits_watchPhase, List.mem_append, List.mem_singleton] at hmem hrun
  rcases hmem with hinside | rfl
  · obtain ⟨hfound, hleft⟩ := hrun moment (.inl hinside)
    exact ⟨hfound, hleft.trans hworld⟩
  · obtain ⟨hfound, -⟩ := hrun _ (.inr rfl)
    exact ⟨hfound.trans hworld, .refl _⟩

end

structure Progress.Grown (chain : ChainId) (origin : World H U) (progress : Progress H U) : Prop where
  since : origin.Grows progress.world
  within : progress.All fun stage => ∀ moment ∈ stage.worlds,
    origin.Grows moment ∧ moment.Grows progress.world
  handed : progress.stages.Pairwise (Stage.HandsOn chain)

namespace Progress

variable {origin : World H U} {progress next : Progress H U}

theorem Grown.snoc (h : progress.Grown chain origin) {stage : Stage H U}
    (hstages : next.stages = progress.stages ++ [stage]) (hfound : stage.found = progress.world)
    (hworlds : ∀ moment ∈ stage.worlds, progress.world.Grows moment ∧ moment.Grows next.world)
    (hnext : progress.world.Grows next.world) : next.Grown chain origin := by
  refine ⟨h.since.trans hnext, ?_, ?_⟩
  · refine All.snoc ?_ hstages ?_
    · intro earlier hmem moment hmoment
      obtain ⟨hsince, hleft⟩ := h.within earlier hmem moment hmoment
      exact ⟨hsince, hleft.trans hnext⟩
    · intro moment hmoment
      obtain ⟨hsince, hleft⟩ := hworlds moment hmoment
      exact ⟨h.since.trans hsince, hleft⟩
  · rw [hstages, List.pairwise_append]
    refine ⟨h.handed, List.pairwise_singleton _ stage, ?_⟩
    intro earlier hmem later hlater moment hmoment
    rw [List.mem_singleton.mp hlater, hfound]
    exact (h.within earlier hmem moment hmoment).2.advice chain

theorem invariant_grown
    (hhandle : ∀ handler frame world, World.Grows world (handle handler frame world).world)
    (htarget : ∀ frame world, World.Grows world (target frame world).world)
    (chain : ChainId) (start : Progress H U) (origin : World H U) :
    Invariant handle chain target start (Grown chain origin) := by
  constructor
  · intro progress phase hgate h
    have hworlds := grows_runPhase hhandle chain phase progress.frame progress.world
    exact h.snoc (progress.stages_pass ..) rfl hworlds (hworlds _ List.mem_cons_self).2
  · intro progress phase hobserver h
    have hworlds := grows_watchPhase hhandle chain phase progress.frame progress.world
    exact h.snoc (progress.stages_watch ..) rfl hworlds (hworlds _ List.mem_cons_self).2
  · intro gates hgates h
    have hleft := htarget gates.frame gates.world
    refine h.snoc (gates.stages_arrive _) rfl ?_ hleft
    intro moment hmem
    simp only [Stage.worlds, List.mem_cons, List.not_mem_nil, or_false] at hmem
    rcases hmem with rfl | rfl
    · exact ⟨.refl _, hleft⟩
    · exact ⟨hleft, .refl _⟩
  · intro progress event h
    have hrecord : progress.world.Grows (progress.record event).world := .of_chains rfl
    refine ⟨h.since.trans hrecord, ?_, h.handed⟩
    intro stage hmem moment hmoment
    obtain ⟨hsince, hleft⟩ := h.within stage hmem moment hmoment
    exact ⟨hsince, hleft.trans hrecord⟩
  · intro progress payload h
    exact ⟨h.since, h.within, h.handed⟩

end Progress

theorem grown_runAdvised
    (hhandle : ∀ handler frame world, World.Grows world (handle handler frame world).world)
    (htarget : ∀ frame world, World.Grows world (target frame world).world)
    (chain : ChainId) (key : Key) (frame : Frame) {origin world : World H U}
    (hsince : origin.Grows world) :
    let stages := (runAdvised handle chain key target frame world).stages
    (∀ stage ∈ stages, ∀ moment ∈ stage.worlds, origin.Grows moment) ∧
      stages.Pairwise (Stage.HandsOn chain) := by
  have hinvariant : Progress.Invariant handle chain target ⟨[], frame, world⟩
      (Progress.Grown chain origin) :=
    Progress.invariant_grown hhandle htarget chain _ origin
  have hstart : Progress.Grown chain origin (⟨[], frame, world⟩ : Progress H U) :=
    ⟨hsince, Progress.all_nil _ _ _, List.Pairwise.nil⟩
  obtain ⟨last, hlast, hstages, -⟩ := exists_invariant_runAdvised hinvariant hstart key
  dsimp only
  rw [hstages]
  exact ⟨fun stage hmem moment hmoment => (hlast.within stage hmem moment hmoment).1, hlast.handed⟩

/-! ## Calls of registered keys -/

theorem PhaseRun.bucket_prefix
    (hhandle : ∀ handler frame world, World.Grows world (handle handler frame world).world)
    {phase : Phase} {frame : Frame} {world : World H U} {run : PhaseRun H U}
    (hrun : run = runPhase handle chain phase frame world) {visit : Visit H U}
    (hvisit : visit ∈ run.visits) (which : Phase) :
    (visit.step.world.chain chain).bucket which <+: (run.world.chain chain).bucket which := by
  subst hrun
  obtain ⟨-, hvisits⟩ := (ran_runPhase handle chain phase frame world).grows hhandle
  obtain ⟨-, -, hleft⟩ := hvisits visit hvisit
  exact hleft.bucket chain which

theorem Course.Fits.around_of_added {course : Course} {stages : List (Stage H U)}
    (h : course.Fits chain stages) {frame : Frame} {found : World H U} {before : PhaseRun H U}
    (hmem : .phase .before frame found before ∈ stages) (passed : before.ending = .passed)
    (hadded : (before.world.chain chain).bucket .around ≠ []) :
    .phase .around ∈ stages.map Stage.mark := by
  obtain ⟨around, haround⟩ := h.around_mem hmem passed hadded
  exact List.mem_map_of_mem haround

/--
A call that found `chain` takes its course with genuine phases of that chain only, each of which runs
what the chain holds when it begins.  Whatever handlers and target register, unregister, clear or
build, they make no other chain that one, and what they add to it is there for every stage behind:
Around advice added during Before makes Around run.
-/
theorem invoke_keeps_chain {world : World H U} {registry : RegistryId} {key : Key}
    {chain : ChainId} (h : world.lookup registry key = .ok chain) {handle : Handle H U}
    {target : Target H U}
    (hhandle : ∀ handler frame world, World.Configured world (handle handler frame world).world)
    (htarget : ∀ frame world, World.Configured world (target frame world).world)
    (args : List Value) (signal : Signal) :
    let run := invoke handle registry key args signal target world
    (∃ course : Course, course.Fits chain run.stages) ∧
      (∀ stage ∈ run.stages, stage.Genuine handle chain target) ∧
      (∀ stage ∈ run.stages, stage.OnSnapshot chain) ∧
      run.stages.Pairwise (Stage.HandsOn chain) ∧
      (∀ frame found before, .phase .before frame found before ∈ run.stages →
        before.ending = .passed → ∀ visit ∈ before.visits,
          (visit.step.world.chain chain).bucket .around ≠ [] →
            .phase .around ∈ run.stages.map Stage.mark) ∧
      (chain < world.chains.size → ∀ stage ∈ run.stages, ∀ moment ∈ stage.worlds,
        ∀ registry key, (moment.create registry key).1 ≠ chain) := by
  rw [invoke_of_lookup h]
  intro run
  have hgrows : ∀ handler frame world, World.Grows world (handle handler frame world).world :=
    fun handler frame world => (hhandle handler frame world).grows
  obtain ⟨course, hfits⟩ := exists_fits handle chain key target (.new key args signal)
    (world.acquire registry key args signal).2
  obtain ⟨hsince, hhanded⟩ := grown_runAdvised hgrows (fun frame world => (htarget frame world).grows)
    chain key (.new key args signal)
    (.of_chains rfl : world.Grows (world.acquire registry key args signal).2)
  have hsnapshot := onSnapshot_runAdvised handle chain key target (.new key args signal)
    (world.acquire registry key args signal).2
  have hgenuine := genuine_runAdvised handle chain key target (.new key args signal)
    (world.acquire registry key args signal).2
  refine ⟨⟨course, hfits⟩, hgenuine, hsnapshot, hhanded, ?_, ?_⟩
  · intro frame found before hmem passed visit hvisit hadded
    refine hfits.around_of_added hmem passed ?_
    have hbefore : before = runPhase handle chain .before frame found := hgenuine _ hmem
    have hbucket := PhaseRun.bucket_prefix hgrows hbefore hvisit .around
    intro hnone
    rw [hnone] at hbucket
    exact hadded (List.prefix_nil.mp hbucket)
  · intro hlt stage hmem moment hmoment id other
    have hsize := (hsince stage hmem moment hmoment).size
    exact Nat.ne_of_gt (Nat.lt_of_lt_of_le hlt hsize)

theorem call_outlives_its_key :
    let handle : Handle Bool Unit := fun busy frame world =>
      ⟨.done, frame, if busy then
        (((world.operate (.unregister 0 ⟨"f"⟩)).operate (.register 0 ⟨"f"⟩)).operate
          (.addAdvice 0 ⟨"f"⟩ ⟨.after, 0, "new", false⟩)).operate
            (.add 0 ⟨.around, 0, "late", false⟩) else world⟩
    let target : Target Bool Unit := fun frame world => ⟨none, frame, world.operate (.clear 0)⟩
    let world : World Bool Unit := .single ⟨"f"⟩
      ⟨[⟨.before, 0, "busy", true⟩, ⟨.after, 0, "last", false⟩]⟩
    let run := invoke handle 0 ⟨"f"⟩ [] .never target world
    world.lookup 0 ⟨"f"⟩ = .ok 0 ∧
      (∀ handler frame world, World.Configured world (handle handler frame world).world) ∧
      (∀ frame world, World.Configured world (target frame world).world) ∧
      (∀ stage ∈ run.stages, stage.Genuine handle 0 target) ∧
      (∀ stage ∈ run.stages, stage.OnSnapshot 0) ∧ run.stages.Pairwise (Stage.HandsOn 0) ∧
      (∀ stage ∈ run.stages, ∀ moment ∈ stage.worlds,
        ∀ registry key, (moment.create registry key).1 ≠ 0) ∧
      run.stages.map Stage.mark = [.phase .before, .phase .around, .target,
        .phase .afterReturning, .phase .after] := by
  intro handle target world run
  have hlookup : world.lookup 0 ⟨"f"⟩ = .ok 0 := World.lookup_single (by decide) _
  have hhandle : ∀ handler frame world,
      World.Configured world (handle handler frame world).world := by
    intro busy frame world
    simp only [handle]
    split
    · exact .operate _ (.operate _ (.operate _ (.operate _ (.done _))))
    · exact .done world
  have htarget : ∀ frame world, World.Configured world (target frame world).world :=
    fun _ world => .operate (.clear 0) (.done (world.operate (.clear 0)))
  have hmarks : run.stages.map Stage.mark = [.phase .before, .phase .around, .target,
      .phase .afterReturning, .phase .after] := by
    unfold run handle target world
    decide +kernel
  obtain ⟨-, hgenuine, hsnapshot, hhanded, -, hfresh⟩ :=
    invoke_keeps_chain hlookup hhandle htarget [] .never
  exact ⟨hlookup, hhandle, htarget, hgenuine, hsnapshot, hhanded, hfresh (by decide), hmarks⟩

end Intercept
