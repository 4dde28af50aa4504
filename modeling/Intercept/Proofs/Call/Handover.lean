import Intercept.Proofs.Call.Tripping
import Intercept.Proofs.Call.Unwinding

/-!
# What a call does to its frame

Nothing, but for one change: when a stage has raised a payload, the call puts it into the frame on the
way to AfterThrowing.  Apart from that each move finds the frame that the move before it left, whether
that one ended well, failed or unwound halfway.
-/

namespace Intercept

variable {H U : Type}

/-- The frame goes from move to move as it is, starting as `first`, except that a raised payload is
put into it where AfterThrowing takes over. -/
inductive Conveyed (chain : ChainId) (first : Frame) (run : CallRun H U) : Prop
  | straight {last : Frame}
      (calm : ∀ stage ∈ run.stages, stage.raised? = none)
      (moved : run.moves chain ≠ [])
      (handed : HandedOn first (run.moves chain) last)
      (houtcome : run.outcome = .returned last)
  | turned {inward outward : List (Stage H U)} {raising : Stage H U} {payload : Payload}
      {turn last : Frame}
      (hstages : run.stages = inward ++ [raising] ++ outward)
      (calm : ∀ stage ∈ inward, stage.raised? = none)
      (hraised : raising.raised? = some payload)
      (hmarks : outward.map Stage.mark = [.phase .afterThrowing, .phase .after])
      (handed : HandedOn first ((inward ++ [raising]).flatMap (Stage.moves chain)) turn)
      (handed' : HandedOn (turn.setPayload payload) (outward.flatMap (Stage.moves chain)) last)
      (idle : (inward ++ [raising]).flatMap (Stage.moves chain) = [] →
        outward.flatMap (Stage.moves chain) = [])
      (houtcome : run.outcome = .ofFrame last)

variable {handle : Handle H U} {chain : ChainId} {target : Target H U} {first : Frame}
  {start : Progress H U}

/-! ## Threads -/

namespace Progress

def Threaded (chain : ChainId) (first : Frame) (progress : Progress H U) : Prop :=
  HandedOn first (progress.moves chain) progress.frame

variable {progress gates : Progress H U}

theorem threaded_nil (chain : ChainId) (frame : Frame) (world : World H U) :
    Threaded chain frame ⟨[], frame, world⟩ := rfl

theorem handedOn_watch (handle : Handle H U) (chain : ChainId) (phase : Phase)
    (progress : Progress H U) :
    HandedOn progress.frame
      (phase.moves ((progress.world.chain chain).queue phase)
        (runPhase handle chain phase progress.frame progress.world).visits)
      (progress.watch handle chain phase).frame := by
  rw [frame_watch, frame_watchPhase]
  exact (ran_runPhase handle chain phase progress.frame progress.world).handedOn

namespace Threaded

theorem record (h : progress.Threaded chain first) (event : Event) :
    (progress.record event).Threaded chain first := h

theorem pass (h : progress.Threaded chain first) {phase : Phase} {run : PhaseRun H U}
    (hrun : runPhase handle chain phase progress.frame progress.world = run) :
    (progress.pass phase run).Threaded chain first := by
  subst hrun
  rw [Threaded, moves_pass]
  exact h.append (ran_runPhase handle chain phase progress.frame progress.world).handedOn

theorem watch (h : progress.Threaded chain first) (phase : Phase) :
    (progress.watch handle chain phase).Threaded chain first := by
  rw [Threaded, moves_watch]
  exact h.append (handedOn_watch handle chain phase progress)

theorem watchReturn (h : progress.Threaded chain first) :
    (progress.watchReturn handle chain).Threaded chain first := by
  rw [Progress.watchReturn]
  split
  · exact h.watch .afterReturning
  · exact h

theorem arrive (h : progress.Threaded chain first) (landing : Landing H U) :
    (progress.arrive landing).Threaded chain first := by
  rw [Threaded, moves_arrive]
  exact h.append ⟨rfl, rfl⟩

theorem entered (h : start.Threaded chain first) {before around : PhaseRun H U}
    (hentered : Entered handle chain start before around) :
    ((start.pass .before before).pass .around around).Threaded chain first :=
  (h.pass hentered.hbefore).pass hentered.haround

theorem reaches (h : start.Threaded chain first) (hgates : Reaches handle chain start gates) :
    gates.Threaded chain first := by
  cases hgates with
  | direct hbefore passed bare => exact h.pass hbefore
  | around hentered passed unskipped => exact h.entered hentered

theorem guarded (h : start.Threaded chain first) {result : Verdict × Progress H U}
    (hguard : Guarded handle chain target start result) : result.2.Threaded chain first := by
  cases hguard with
  | heldBefore hbefore held => exact h.pass hbefore
  | heldAround hentered held => exact h.entered hentered
  | skipped hentered passed skipped => exact ((h.entered hentered).record _).watchReturn
  | returned hgates hlanding landed => exact ((h.reaches hgates).arrive _).watchReturn
  | threw hgates hlanding thrown => exact (h.reaches hgates).arrive _

end Threaded

end Progress

/-! ## The guarded part -/

theorem Guarded.exists_raising {verdict : Verdict} {core : Progress H U} {payload : Payload}
    (h : Guarded handle chain target start (verdict, core)) (hstart : start.Calm)
    (hraised : verdict.raised? = some payload) :
    ∃ inward raising, core.stages = inward ++ [raising] ∧
      (∀ stage ∈ inward, stage.raised? = none) ∧ raising.raised? = some payload := by
  cases h with
  | heldBefore hbefore held => exact ⟨_, _, Progress.stages_pass .., hstart, hraised⟩
  | heldAround hentered held =>
      exact ⟨_, _, Progress.stages_pass .., hstart.pass .before hentered.passed, hraised⟩
  | skipped hentered passed skipped => cases hraised
  | returned hgates hlanding landed => cases hraised
  | threw hgates hlanding thrown =>
      cases hraised
      exact ⟨_, _, Progress.stages_arrive .., hstart.reaches hgates, thrown⟩

theorem Guarded.tripped_of_no_moves {verdict : Verdict} {core : Progress H U} {payload : Payload}
    (h : Guarded handle chain target start (verdict, core))
    (hraised : verdict.raised? = some payload) (hmoves : core.moves chain = []) : core.Tripped := by
  have hgate : ∀ {phase : Phase} {queue : List (Advice H)} {frame : Frame} {world : World H U}
      {run : PhaseRun H U}, runPhase handle chain phase frame world = run →
      run.ending ≠ .passed → phase.moves queue run.visits = [] →
      run.frame.signal.Tripped run.world.moment := by
    intro phase queue frame world run hrun held hnone
    subst hrun
    refine (ran_runPhase handle chain phase frame world).tripped_of_no_visits ?_ held
    exact Phase.visits_eq_nil_of_moves hnone
  cases h with
  | heldBefore hbefore held =>
      rw [Progress.moves_pass, List.append_eq_nil_iff] at hmoves
      exact hgate hbefore held hmoves.2
  | heldAround hentered held =>
      rw [Progress.moves_pass, List.append_eq_nil_iff] at hmoves
      exact hgate hentered.haround held hmoves.2
  | skipped hentered passed skipped => cases hraised
  | returned hgates hlanding landed => cases hraised
  | threw hgates hlanding thrown =>
      rw [Progress.moves_arrive, List.append_eq_nil_iff] at hmoves
      cases hmoves.2

theorem Progress.exists_moves_watchReturn (handle : Handle H U) (chain : ChainId)
    (progress : Progress H U) : ∃ later,
      (progress.watchReturn handle chain).moves chain = progress.moves chain ++ later := by
  rw [watchReturn]
  split
  · exact ⟨_, moves_watch ..⟩
  · exact ⟨[], (List.append_nil _).symm⟩

theorem Guarded.moves_ne_nil {result : Verdict × Progress H U}
    (h : Guarded handle chain target start result) (hstart : start.Threaded chain first)
    (hlowered : first.skipped = false) (hcompleted : result.1 = .completed) :
    result.2.moves chain ≠ [] := by
  have hreturning : ∀ progress : Progress H U, progress.moves chain ≠ [] →
      (progress.watchReturn handle chain).moves chain ≠ [] := by
    intro progress hmoves
    obtain ⟨later, hlater⟩ := progress.exists_moves_watchReturn handle chain
    rw [hlater]
    exact List.append_ne_nil_of_left_ne_nil hmoves later
  cases h with
  | heldBefore hbefore held => exact absurd hcompleted (PhaseRun.verdict_ne_completed held _)
  | heldAround hentered held => exact absurd hcompleted (PhaseRun.verdict_ne_completed held _)
  | skipped hentered passed skipped =>
      apply hreturning
      intro hnone
      have hthread := hstart.entered hentered
      rw [Progress.moves_record] at hnone
      rw [Progress.Threaded, hnone] at hthread
      have hframe : _ = first := hthread
      rw [Progress.frame_pass] at hframe
      rw [hframe, hlowered] at skipped
      cases skipped
  | returned hgates hlanding landed =>
      apply hreturning
      rw [Progress.moves_arrive]
      exact List.append_ne_nil_of_right_ne_nil _ (List.cons_ne_nil _ _)
  | threw hgates hlanding thrown => cases hcompleted

/-! ## The whole call -/

theorem Progress.exists_outward (handle : Handle H U) (chain : ChainId) (payload : Payload)
    (progress : Progress H U) : ∃ outward,
      (progress.throwWith handle chain payload).stages = progress.stages ++ outward ∧
      outward.map Stage.mark = [.phase .afterThrowing, .phase .after] ∧
      HandedOn (progress.frame.setPayload payload) (outward.flatMap (Stage.moves chain))
        (progress.throwWith handle chain payload).frame := by
  refine ⟨_, List.append_assoc .., rfl, ?_⟩
  have hthrowing := handedOn_watch handle chain .afterThrowing (progress.raise payload)
  have hafter := handedOn_watch handle chain .after
    ((progress.raise payload).watch handle chain .afterThrowing)
  simpa [Stage.moves, throwWith] using hthrowing.append hafter

theorem conveyed_runAdvised (handle : Handle H U) (chain : ChainId) (key : Key)
    (target : Target H U) {frame : Frame} (hlowered : frame.skipped = false) (world : World H U) :
    Conveyed chain frame (runAdvised handle chain key target frame world) := by
  have hstart := Progress.threaded_nil chain frame world
  have hcalm : (⟨[], frame, world⟩ : Progress H U).Calm := Progress.all_nil _ frame world
  have hguard := guarded_runGuarded handle chain target ⟨[], frame, world⟩
  have hclosed := closed_runAdvised handle chain key target frame world
  generalize runGuarded handle chain target ⟨[], frame, world⟩ = result at hguard hclosed
  generalize runAdvised handle chain key target frame world = run at hclosed ⊢
  have hthread := hstart.guarded hguard
  cases hclosed with
  | completed progress =>
      have hmoves := hguard.moves_ne_nil hstart hlowered rfl
      refine .straight ((hcalm.heard_guarded hguard).calm.watch rfl) ?_ (hthread.watch .after) rfl
      change (progress.watch handle chain .after).moves chain ≠ []
      rw [Progress.moves_watch]
      exact List.append_ne_nil_of_left_ne_nil hmoves _
  | @raised verdict payload core hraised =>
      obtain ⟨inward, raising, hcore, hinward, hraising⟩ := hguard.exists_raising hcalm hraised
      obtain ⟨outward, hstages, hmarks, hhanded⟩ :=
        (core.announce key verdict).exists_outward handle chain payload
      rw [Progress.frame_announce] at hhanded
      rw [Progress.stages_announce] at hstages
      have hinner : (inward ++ [raising]).flatMap (Stage.moves chain) = core.moves chain := by
        rw [Progress.moves, hcore]
      rw [unwind_eq]
      refine .turned (by rw [← hcore]; exact hstages) hinward hraising hmarks ?_ hhanded ?_ rfl
      · rw [hinner]
        exact hthread
      · rw [hinner]
        intro hnone
        have htripped := (hguard.tripped_of_no_moves hraised hnone).announce key verdict
        have hmoves := htripped.moves_throwWith handle chain payload
        rw [Progress.moves_announce, hnone, Progress.moves, hstages, List.flatMap_append] at hmoves
        exact (List.append_eq_nil_iff.mp hmoves).2

namespace Conveyed

variable {run : CallRun H U}

theorem moves_of_stages {inward outward : List (Stage H U)}
    (h : run.stages = inward ++ outward) : run.moves chain =
      inward.flatMap (Stage.moves chain) ++ outward.flatMap (Stage.moves chain) := by
  rw [CallRun.moves, h, List.flatMap_append]

theorem shown {α : Type} (view : Frame → α)
    (hview : ∀ frame payload, view (Frame.setPayload frame payload) = view frame)
    (h : Conveyed chain first run) :
    ∃ last, Shown view (view first) (run.moves chain) (view last) ∧
      ∀ frame, run.outcome = .returned frame → frame = last := by
  cases h with
  | @straight last calm moved handed houtcome =>
      refine ⟨last, handed.shown view, fun frame hreturned => ?_⟩
      rw [houtcome] at hreturned
      exact (Outcome.returned.inj hreturned).symm
  | @turned inward outward raising payload turn last hstages calm hraised hmarks handed handed'
      idle houtcome =>
      have houtward := handed'.shown view
      rw [hview] at houtward
      rw [moves_of_stages hstages]
      refine ⟨last, (handed.shown view).append houtward, fun frame hreturned => ?_⟩
      rw [houtcome, Outcome.ofFrame_eq_returned_iff] at hreturned
      exact hreturned.2.symm

theorem given_of_head? (h : Conveyed chain first run) {move : Move H U}
    (hhead : (run.moves chain).head? = some move) : move.given = first := by
  cases h with
  | straight calm moved handed houtcome => exact handed.given_of_head? hhead
  | @turned inward outward raising payload turn last hstages calm hraised hmarks handed handed'
      idle houtcome =>
      rw [moves_of_stages hstages] at hhead
      cases hmoves : (inward ++ [raising]).flatMap (Stage.moves chain) with
      | nil =>
          rw [hmoves, idle hmoves] at hhead
          cases hhead
      | cons other moves =>
          apply handed.given_of_head?
          rw [hmoves] at hhead ⊢
          exact hhead

theorem exists_getLast (h : Conveyed chain first run) {frame : Frame}
    (hreturned : run.outcome = .returned frame) :
    ∃ move, (run.moves chain).getLast? = some move ∧ move.left = frame := by
  cases h with
  | straight calm moved handed houtcome =>
      rw [houtcome] at hreturned
      cases hreturned
      exact handed.exists_getLast moved
  | @turned inward outward raising payload turn last hstages calm hraised hmarks handed handed'
      idle houtcome =>
      rw [houtcome, Outcome.ofFrame_eq_returned_iff] at hreturned
      obtain ⟨hpayload, rfl⟩ := hreturned
      -- Without a move behind the turn the payload would still be in the frame.
      have hmoves : outward.flatMap (Stage.moves chain) ≠ [] := by
        intro hnone
        rw [hnone] at handed'
        have hlast : last = turn.setPayload payload := handed'
        rw [hlast] at hpayload
        cases hpayload
      obtain ⟨move, hmove, hleft⟩ := handed'.exists_getLast hmoves
      refine ⟨move, ?_, hleft⟩
      rw [moves_of_stages hstages, List.getLast?_append, hmove, Option.some_or]

end Conveyed

/--
In every call of a registered key each handler, and the target, is given what the one before it left,
in whatever way that one ended; the call itself only puts a raised payload into the frame.  The first
of them is given the frame of a new call, and a call that returns hands over what the last one left.
-/
theorem invoke_hands_frame_on {world : World H U} {registry : RegistryId} {key : Key}
    {chain : ChainId} (h : world.lookup registry key = .ok chain) (handle : Handle H U)
    (args : List Value) (signal : Signal) (target : Target H U) :
    let run := invoke handle registry key args signal target world
    Conveyed chain (.new key args signal) run ∧
      (∀ move ∈ run.moves chain, move.Genuine handle target) ∧
      (∀ move, (run.moves chain).head? = some move → move.given = .new key args signal) ∧
      (∀ frame, run.outcome = .returned frame →
        ∃ move, (run.moves chain).getLast? = some move ∧ move.left = frame) := by
  rw [invoke_of_lookup h]
  intro run
  have hconveyed : Conveyed chain (.new key args signal) run :=
    conveyed_runAdvised handle chain key target rfl _
  exact ⟨hconveyed, genuine_moves_runAdvised handle chain key target _ _,
    fun move => hconveyed.given_of_head?, fun frame => hconveyed.exists_getLast⟩

theorem halted_changes_reach_after :
    let world : World Habit Unit := .single ⟨"f"⟩
      ⟨[⟨.before, 0, "open", ⟨(·.setError (.message "half open")), .unwound (.ofText "boom")⟩⟩,
        ⟨.after, 0, "close", ⟨id, .done⟩⟩]⟩
    let run := invoke Habit.handle 0 ⟨"f"⟩ [.unit] .never (.ofResult 0 .unit) world
    let first : Frame := .new ⟨"f"⟩ [.unit] .never
    world.lookup 0 ⟨"f"⟩ = .ok 0 ∧
      Conveyed 0 first run ∧
      (run.moves 0).map Move.given =
        [first, (first.setError (.message "half open")).setPayload (.ofText "boom")] := by
  intro world run first
  have hlookup : world.lookup 0 ⟨"f"⟩ = .ok 0 := World.lookup_single (by decide) _
  have hgiven : (run.moves 0).map Move.given =
      [first, (first.setError (.message "half open")).setPayload (.ofText "boom")] := by
    unfold run world
    decide +kernel
  have hhanded := invoke_hands_frame_on hlookup Habit.handle [.unit] .never (.ofResult 0 .unit)
  exact ⟨hlookup, hhanded.1, hgiven⟩

end Intercept
