import Intercept.Proofs.Call.Course
import Intercept.Proofs.Call.Handover
import Intercept.Proofs.Call.Throwing

/-!
# Calls whose signal trips

Between two moves of a call some gatekeepers are still due.  Once the signal has tripped no handler is
started any more: the target is, if no gatekeeper is due, and otherwise the call is interrupted in the
phase of the first one that is.
-/

namespace Intercept

variable {H U : Type}

def Phase.behind (chain : ChainId) (world : World H U) : Phase → List (Advice H)
  | .before => (world.chain chain).queue .around
  | _ => []

/-- Where a call stands between two moves, and which gatekeepers it has still to start. -/
structure Point (H U : Type) where
  frame : Frame
  world : World H U
  due : List (Advice H)

namespace Move

def due (chain : ChainId) : Move H U → List (Advice H)
  | .handler phase rest visit =>
      if phase.isGatekeeper then rest ++ phase.behind chain visit.step.world else []
  | .target _ _ _ => []

def point (chain : ChainId) (move : Move H U) : Point H U :=
  ⟨move.left, move.closing, move.due chain⟩

def Finished : Move H U → Prop
  | .handler _ _ visit => visit.step.exit = .done
  | .target _ _ _ => True

/-- The frame is still that of its call; no token was revived and time did not run back. -/
structure Steady (move : Move H U) : Prop where
  frame : move.given.Continues move.left
  moment : move.opening.moment.Precedes move.closing.moment

end Move

namespace Point

def first (chain : ChainId) (frame : Frame) (world : World H U) : Point H U :=
  ⟨frame, world, (world.chain chain).queue .before ++ (world.chain chain).queue .around⟩

def after (chain : ChainId) : Point H U → List (Move H U) → Point H U
  | point, [] => point
  | _, move :: moves => (move.point chain).after chain moves

def Tripped (point : Point H U) : Prop :=
  point.frame.signal.Tripped point.world.moment

def reason (point : Point H U) : Trip :=
  point.frame.signal.reason point.world.moment

variable {chain : ChainId}

theorem after_append (point : Point H U) (moves later : List (Move H U)) :
    point.after chain (moves ++ later) = (point.after chain moves).after chain later := by
  induction moves generalizing point with
  | nil => rfl
  | cons move moves ih => exact ih (move.point chain)

theorem after_of_getLast? {moves : List (Move H U)} {move : Move H U}
    (h : moves.getLast? = some move) (point : Point H U) :
    point.after chain moves = move.point chain := by
  obtain ⟨earlier, rfl⟩ := List.getLast?_eq_some_iff.mp h
  rw [after_append]
  rfl

end Point

def Stopped (due : List (Advice H)) (later : List (Move H U)) : Prop :=
  ∀ move ∈ later, move.mark = .target ∧ due = []

/-! ## Phases -/

structure PhaseRun.Halted (phase : Phase) (rest : List (Advice H)) (run : PhaseRun H U) : Prop where
  tripped : run.frame.signal.Tripped run.world.moment
  ending : run.ending = phase.halted (run.frame.signal.reason run.world.moment) rest

variable {handle : Handle H U} {chain : ChainId} {phase : Phase} {queue : List (Advice H)}
  {frame : Frame} {world : World H U} {run : PhaseRun H U}

theorem Ran.halted_of_tripped (h : Ran handle phase queue frame world run)
    (htripped : frame.signal.Tripped world.moment) : run.Halted phase queue := by
  rw [h.eq_of_tripped htripped]
  exact ⟨htripped, rfl⟩

theorem Move.point_of_gate (hgate : phase.isGatekeeper = true) (queue : List (Advice H))
    (visit : Visit H U) :
    (Move.handler phase queue visit).point chain =
      ⟨visit.step.frame, visit.step.world, queue ++ phase.behind chain visit.step.world⟩ := by
  rw [Move.point, Move.due, if_pos hgate]
  rfl

theorem Phase.split_moves_singleton {visit : Visit H U} {earlier later : List (Move H U)}
    (hmoves : phase.moves queue [visit] = earlier ++ later) (hearlier : earlier ≠ []) :
    earlier = [.handler phase queue.tail visit] ∧ later = [] :=
  (List.append_eq_singleton_iff.mp hmoves.symm).resolve_left fun h => hearlier h.1

theorem Ran.later_of_tripped (h : Ran handle phase queue frame world run) {point : Point H U}
    {earlier later : List (Move H U)} (hmoves : phase.moves queue run.visits = earlier ++ later)
    (hearlier : earlier ≠ []) (htripped : (point.after chain earlier).Tripped) :
    later = [] ∧ run.frame.signal.Tripped run.world.moment := by
  induction h generalizing point earlier with
  | finished => exact absurd (List.append_eq_nil_iff.mp hmoves.symm).1 hearlier
  | interrupted tripped => exact absurd (List.append_eq_nil_iff.mp hmoves.symm).1 hearlier
  | @done advice queue frame world visit run untripped hvisit hexit hrest ih =>
      cases earlier with
      | nil => exact absurd rfl hearlier
      | cons move earlier =>
          obtain ⟨rfl, hbehind⟩ := List.cons.inj hmoves
          by_cases hmore : earlier = []
          · subst hmore
            have hrun := hrest.eq_of_tripped htripped
            rw [hrun] at hbehind ⊢
            exact ⟨hbehind.symm, htripped⟩
          · exact ih hbehind hmore htripped
  | failed untripped hvisit hexit =>
      obtain ⟨rfl, rfl⟩ := Phase.split_moves_singleton hmoves hearlier
      exact ⟨rfl, htripped⟩
  | unwound untripped hvisit hexit =>
      obtain ⟨rfl, rfl⟩ := Phase.split_moves_singleton hmoves hearlier
      exact ⟨rfl, htripped⟩

theorem Phase.not_finished_of_held {visit : Visit H U} (hexit : visit.step.exit ≠ .done)
    (untripped : frame.signal.check world.moment = none) {earlier later : List (Move H U)}
    (hmoves : phase.moves queue [visit] = earlier ++ later) {due : List (Advice H)}
    (htripped : (Point.after chain ⟨frame, world, due⟩ earlier).Tripped) :
    ∃ last, earlier.getLast? = some last ∧ ¬last.Finished := by
  have hearlier : earlier ≠ [] := by
    rintro rfl
    exact absurd untripped (Signal.tripped_iff_check.mp htripped)
  obtain ⟨rfl, rfl⟩ := split_moves_singleton hmoves hearlier
  exact ⟨_, rfl, hexit⟩

/-- A gatekeeper phase that the signal trips in, and no handler holds, stops in front of the first
handler that is due. -/
theorem Ran.halted (h : Ran handle phase queue frame world run) (hgate : phase.isGatekeeper = true)
    {earlier later : List (Move H U)} (hmoves : phase.moves queue run.visits = earlier ++ later)
    (hfinished : run.ending = .passed ∨ ∀ move, earlier.getLast? = some move → move.Finished) :
    let point := Point.after chain ⟨frame, world, queue ++ phase.behind chain world⟩ earlier
    point.Tripped → point.reason = run.frame.signal.reason run.world.moment ∧
      ∃ rest, run.Halted phase rest ∧ rest <:+ queue ∧
        point.due = rest ++ phase.behind chain run.world := by
  intro point htripped
  induction h generalizing earlier with
  | finished frame world =>
      obtain ⟨rfl, rfl⟩ := List.append_eq_nil_iff.mp hmoves.symm
      exact ⟨rfl, [], ⟨htripped, rfl⟩, List.suffix_refl _, rfl⟩
  | @interrupted advice queue frame world reason tripped =>
      obtain ⟨rfl, rfl⟩ := List.append_eq_nil_iff.mp hmoves.symm
      have hran : Ran handle phase (advice :: queue) frame world _ := .interrupted tripped
      exact ⟨rfl, _, hran.halted_of_tripped htripped, List.suffix_refl _, rfl⟩
  | @done advice queue frame world visit run untripped hvisit hexit hrest ih =>
      cases earlier with
      | nil => exact absurd untripped (Signal.tripped_iff_check.mp htripped)
      | cons move earlier =>
          obtain ⟨rfl, hbehind⟩ := List.cons.inj hmoves
          have hfinished' : run.ending = .passed ∨
              ∀ move, earlier.getLast? = some move → move.Finished := by
            refine hfinished.imp_right fun hlast move hmove => hlast move ?_
            cases earlier with
            | nil => cases hmove
            | cons next earlier => exact hmove
          have hthere := ih hbehind hfinished'
          rw [← Move.point_of_gate hgate] at hthere
          obtain ⟨hreason, rest, hhalted, hsuffix, hdue⟩ := hthere htripped
          exact ⟨hreason, rest, ⟨hhalted.tripped, hhalted.ending⟩,
            hsuffix.trans (List.suffix_cons _ _), hdue⟩
  | failed untripped hvisit hexit =>
      obtain ⟨last, hlast, hheld⟩ :=
        Phase.not_finished_of_held (by simp [hexit]) untripped hmoves htripped
      exact absurd (hfinished.resolve_left (by simp) last hlast) hheld
  | unwound untripped hvisit hexit =>
      obtain ⟨last, hlast, hheld⟩ :=
        Phase.not_finished_of_held (by simp [hexit]) untripped hmoves htripped
      exact absurd (hfinished.resolve_left (by simp) last hlast) hheld

theorem Ran.after_of_passed (h : Ran handle phase queue frame world run)
    (hgate : phase.isGatekeeper = true) (passed : run.ending = .passed) :
    Point.after chain ⟨frame, world, queue ++ phase.behind chain world⟩
        (phase.moves queue run.visits) =
      ⟨run.frame, run.world, phase.behind chain run.world⟩ := by
  induction h with
  | finished frame world => rfl
  | interrupted tripped => cases passed
  | done untripped hvisit hexit hrest ih =>
      have hrest' := ih passed
      rw [← Move.point_of_gate hgate] at hrest'
      exact hrest'
  | failed untripped hvisit hexit => cases passed
  | unwound untripped hvisit hexit => cases passed

theorem PhaseRun.Halted.eq_nil {rest : List (Advice H)} (h : run.Halted phase rest)
    (passed : run.ending = .passed) : rest = [] := by
  have hending := h.ending
  rw [passed] at hending
  cases rest with
  | nil => rfl
  | cons advice rest => cases hending

/-! ## The way to the target -/

theorem Reaches.due_eq_nil {gates : Progress H U}
    (h : Reaches handle chain ⟨[], frame, world⟩ gates) {earlier later : List (Move H U)}
    (hmoves : gates.moves chain = earlier ++ later)
    (htripped : ((Point.first chain frame world).after chain earlier).Tripped) :
    ((Point.first chain frame world).after chain earlier).due = [] := by
  have hbefore := ran_runPhase handle chain .before frame world
  cases h with
  | direct hrun passed bare =>
      subst hrun
      rw [Progress.moves_pass, Progress.moves_nil, List.nil_append] at hmoves
      obtain ⟨-, rest, hhalted, -, hdue⟩ := hbefore.halted rfl hmoves (.inl passed) htripped
      rw [hhalted.eq_nil passed] at hdue
      rw [Point.first]
      exact hdue.trans (Chain.queue_eq_nil_iff.mpr bare)
  | @around before around hentered passed unskipped =>
      obtain ⟨rfl, passed', -, rfl⟩ := hentered
      simp only [Progress.moves_pass, Progress.moves_nil, List.nil_append,
        Progress.world_pass] at hmoves
      generalize hrun : runPhase handle chain .before frame world = before at *
      have haround := ran_runPhase handle chain .around before.frame before.world
      rcases List.append_eq_append_iff.mp hmoves with ⟨more, rfl, hmore⟩ | ⟨between, hbetween, -⟩
      · have hthere : (Point.first chain frame world).after chain
            (Phase.before.moves ((world.chain chain).queue .before) before.visits) =
              ⟨before.frame, before.world, (before.world.chain chain).queue .around ++ []⟩ := by
          rw [List.append_nil]
          exact hbefore.after_of_passed rfl passed'
        rw [Point.after_append, hthere] at htripped ⊢
        obtain ⟨-, rest, hhalted, -, hdue⟩ := haround.halted rfl hmore (.inl passed) htripped
        rw [hhalted.eq_nil passed] at hdue
        exact hdue
      · obtain ⟨-, rest, hhalted, -, hdue⟩ := hbefore.halted rfl hbetween (.inl passed') htripped
        rw [hhalted.eq_nil passed'] at hdue
        have hnone := (haround.halted_of_tripped hhalted.tripped).eq_nil passed
        exact hdue.trans hnone

/-! ## Progress -/

namespace Progress

variable {point : Point H U} {progress next : Progress H U}

def Halting (chain : ChainId) (point : Point H U) (progress : Progress H U) : Prop :=
  (∀ move ∈ progress.moves chain, move.Steady) →
    ∀ earlier later, progress.moves chain = earlier ++ later →
      (point.after chain earlier).Tripped →
        progress.Tripped ∧ Stopped (point.after chain earlier).due later

theorem Halting.extend (h : progress.Halting chain point) {moves : List (Move H U)}
    (hmoves : next.moves chain = progress.moves chain ++ moves)
    (hkept : (∀ move ∈ moves, move.Steady) → progress.Tripped → next.Tripped)
    (hstopped : ∀ earlier later, progress.moves chain = earlier ++ later → progress.Tripped →
      (point.after chain earlier).Tripped → Stopped (point.after chain earlier).due moves)
    (hended : ∀ (origin : Point H U) earlier later, moves = earlier ++ later → earlier ≠ [] →
      (origin.after chain earlier).Tripped → later = [] ∧ next.Tripped) :
    next.Halting chain point := by
  intro hsteady earlier later hsplit htripped
  rw [hmoves] at hsteady hsplit
  obtain ⟨hbefore, hnew⟩ := List.forall_mem_append.mp hsteady
  have hbehind : ∀ between, progress.moves chain = earlier ++ between → later = between ++ moves →
      next.Tripped ∧ Stopped (point.after chain earlier).due later := by
    intro between hbetween hlater
    obtain ⟨hnow, hstop⟩ := h hbefore earlier between hbetween htripped
    subst hlater
    exact ⟨hkept hnew hnow,
      List.forall_mem_append.mpr ⟨hstop, hstopped earlier between hbetween hnow htripped⟩⟩
  rcases List.append_eq_append_iff.mp hsplit with ⟨more, rfl, hmore⟩ | ⟨between, hbetween, hlater⟩
  · by_cases hnone : more = []
    · subst hnone
      exact hbehind [] (by simp) hmore.symm
    · rw [Point.after_append] at htripped
      obtain ⟨rfl, hnext⟩ := hended _ more later hmore hnone htripped
      exact ⟨hnext, fun move hmem => absurd hmem List.not_mem_nil⟩
  · exact hbehind between hbetween hlater

theorem Halting.pass (h : progress.Halting chain point) (phase : Phase) {run : PhaseRun H U}
    (hrun : runPhase handle chain phase progress.frame progress.world = run)
    (hmoves : next.moves chain = progress.moves chain ++
      phase.moves ((progress.world.chain chain).queue phase) run.visits)
    (hframe : next.frame = run.frame) (hmoment : next.world.moment = run.world.moment) :
    next.Halting chain point := by
  have hran := ran_runPhase handle chain phase progress.frame progress.world
  rw [hrun] at hran
  have hnext : run.frame.signal.Tripped run.world.moment → next.Tripped := by
    intro htripped
    rw [Tripped, hframe, hmoment]
    exact htripped
  refine h.extend hmoves ?_ ?_ ?_
  · intro hsteady htripped
    exact hnext (hran.halted_of_tripped htripped).tripped
  · intro earlier later hsplit htripped hthere
    rw [hran.eq_of_tripped htripped]
    exact fun move hmem => absurd hmem List.not_mem_nil
  · intro origin earlier later hsplit hearlier hthere
    obtain ⟨hlater, htripped⟩ := hran.later_of_tripped hsplit hearlier hthere
    exact ⟨hlater, hnext htripped⟩

theorem invariant_halting (handle : Handle H U) (chain : ChainId) (target : Target H U)
    (frame : Frame) (world : World H U) :
    Invariant handle chain target ⟨[], frame, world⟩
      (Halting chain (.first chain frame world)) := by
  constructor
  · intro progress phase hgate h
    exact h.pass phase rfl (moves_pass ..) rfl rfl
  · intro progress phase hobserver h
    exact h.pass phase rfl (moves_watch ..) (frame_watchPhase ..) (moment_watchPhase ..)
  · intro gates hgates h
    refine h.extend (moves_arrive _) ?_ ?_ ?_
    · intro hsteady htripped
      obtain ⟨hframe, hmoment⟩ := List.forall_mem_singleton.mp hsteady
      have hsignal : (gates.arrive (target gates.frame gates.world)).frame.signal =
          gates.frame.signal := hframe.signal
      rw [Tripped, hsignal]
      exact htripped.mono hmoment
    · intro earlier later hsplit htripped hthere
      exact List.forall_mem_singleton.mpr ⟨rfl, hgates.due_eq_nil hsplit hthere⟩
    · intro origin earlier later hsplit hearlier hthere
      obtain ⟨rfl, rfl⟩ := (List.append_eq_singleton_iff.mp hsplit.symm).resolve_left
        fun hnone => hearlier hnone.1
      exact ⟨rfl, hthere⟩
  · intro progress event h
    exact h
  · intro progress payload h
    exact h

end Progress

theorem stopped_runAdvised {target : Target H U} {key : Key}
    (hsteady : ∀ move ∈ (runAdvised handle chain key target frame world).moves chain, move.Steady)
    {earlier later : List (Move H U)}
    (hmoves : (runAdvised handle chain key target frame world).moves chain = earlier ++ later)
    (htripped : ((Point.first chain frame world).after chain earlier).Tripped) :
    Stopped ((Point.first chain frame world).after chain earlier).due later := by
  have hstart : Progress.Halting chain (.first chain frame world) ⟨[], frame, world⟩ := by
    intro hsteady earlier later hsplit hthere
    obtain ⟨rfl, rfl⟩ := List.append_eq_nil_iff.mp hsplit.symm
    exact ⟨hthere, fun move hmem => absurd hmem List.not_mem_nil⟩
  obtain ⟨last, hlast, hstages, -⟩ := exists_invariant_runAdvised
    (Progress.invariant_halting handle chain target frame world) hstart key
  have hsame : (runAdvised handle chain key target frame world).moves chain = last.moves chain := by
    rw [CallRun.moves, hstages, Progress.moves]
  rw [hsame] at hsteady hmoves
  exact (hlast hsteady earlier later hmoves htripped).2

/-! ## The interruption -/

section

variable {target : Target H U} {key : Key} {found : Frame} {world' : World H U}
  {held : PhaseRun H U} {rest : List (Advice H)}
  (hmild : ∀ other ∈ (runAdvised handle chain key target frame world).stages, other.Mild)

include hmild

theorem outcome_runAdvised_of_halted
    (hmem : .phase phase found world' held ∈ (runAdvised handle chain key target frame world).stages)
    (hgate : phase.isGatekeeper = true) (hhalted : held.Halted phase rest)
    (hsuffix : rest <:+ (world'.chain chain).queue phase) {first : Advice H}
    {others : List (Advice H)} (hrest : rest = first :: others) :
    (runAdvised handle chain key target frame world).outcome =
      .unwound (.veto ⟨frame.function, first.phase,
        .interrupted first.phase (held.frame.signal.reason held.world.moment)⟩) := by
  subst hrest
  have hfirst : first ∈ (world'.chain chain).queue phase := hsuffix.subset List.mem_cons_self
  rw [Chain.phase_of_mem_bucket (Chain.mem_queue.mp hfirst)]
  exact outcome_runAdvised_of_stopped hmem hgate hhalted.ending hmild

theorem outcome_runAdvised_of_due
    (hmem : .phase phase found world' held ∈ (runAdvised handle chain key target frame world).stages)
    (hgate : phase.isGatekeeper = true) (hhalted : held.Halted phase rest)
    (hsuffix : rest <:+ (world'.chain chain).queue phase) {first : Advice H}
    {others : List (Advice H)} (hdue : rest ++ phase.behind chain held.world = first :: others) :
    (runAdvised handle chain key target frame world).outcome =
      .unwound (.veto ⟨frame.function, first.phase,
        .interrupted first.phase (held.frame.signal.reason held.world.moment)⟩) := by
  cases rest with
  | cons advice rest =>
      obtain ⟨rfl, -⟩ := List.cons.inj hdue
      exact outcome_runAdvised_of_halted hmild hmem hgate hhalted hsuffix rfl
  | nil =>
      rw [List.nil_append] at hdue
      cases phase with
      | before =>
          -- Those behind Before are left to Around, which begins under the same signal.
          have hqueue : (held.world.chain chain).queue .around = first :: others := hdue
          have hadvised : (held.world.chain chain).bucket .around ≠ [] := by
            rw [Ne, ← Chain.queue_eq_nil_iff, hqueue]
            exact List.cons_ne_nil _ _
          obtain ⟨course, hfits⟩ := exists_fits handle chain key target frame world
          obtain ⟨around, haround⟩ := hfits.around_mem hmem hhalted.ending hadvised
          have hran := ran_of_mem_runAdvised haround rfl
          have hrun := hran.eq_of_tripped hhalted.tripped
          have hinterrupted := outcome_runAdvised_of_halted hmild haround rfl
            (hran.halted_of_tripped hhalted.tripped) (List.suffix_refl _) hqueue
          rw [hrun] at hinterrupted
          exact hinterrupted
      | _ => cases hdue

theorem outcome_runAdvised_of_gate
    (hmem : .phase phase found world' held ∈ (runAdvised handle chain key target frame world).stages)
    (hgate : phase.isGatekeeper = true) {point : Point H U} {earlier later : List (Move H U)}
    (hmoves : phase.moves ((world'.chain chain).queue phase) held.visits = earlier ++ later)
    (hpoint : Point.after chain ⟨found, world',
      (world'.chain chain).queue phase ++ phase.behind chain world'⟩ earlier = point)
    (hfinished : ∀ move, earlier.getLast? = some move → move.Finished)
    (htripped : point.Tripped) {first : Advice H} {others : List (Advice H)}
    (hdue : point.due = first :: others) :
    (runAdvised handle chain key target frame world).outcome =
      .unwound (.veto ⟨frame.function, first.phase, .interrupted first.phase point.reason⟩) := by
  subst hpoint
  have hran := ran_of_mem_runAdvised hmem hgate
  obtain ⟨hreason, rest, hhalted, hsuffix, hbehind⟩ :=
    hran.halted hgate hmoves (.inr hfinished) htripped
  rw [hreason]
  exact outcome_runAdvised_of_due hmild hmem hgate hhalted hsuffix (hbehind.symm.trans hdue)

end

/-! ## The whole call -/

theorem mild_of_steady {run : CallRun H U} (h : ∀ move ∈ run.moves chain, move.Steady) :
    ∀ stage ∈ run.stages, stage.Mild := by
  intro stage hmem
  cases stage with
  | phase which found world' held =>
      intro visit hvisit
      obtain ⟨rest, hmove⟩ := Phase.exists_move_of_mem hvisit ((world'.chain chain).queue which)
      exact (h _ (List.mem_flatMap.mpr ⟨_, hmem, hmove⟩)).frame
  | target found world' landing => trivial

theorem Conveyed.signal_left {first : Frame} {run : CallRun H U} (h : Conveyed chain first run)
    (hsteady : ∀ move ∈ run.moves chain, move.Steady) :
    ∀ move ∈ run.moves chain, move.left.signal = first.signal := by
  obtain ⟨last, hshown, -⟩ := h.shown Frame.signal fun _ _ => rfl
  exact (hshown.constant fun move hmem hfound => (hsteady move hmem).frame.signal.trans hfound).2

theorem outcome_runAdvised_of_tripped {target : Target H U} {key : Key}
    (hsteady : ∀ move ∈ (runAdvised handle chain key target frame world).moves chain, move.Steady)
    {earlier later : List (Move H U)}
    (hmoves : (runAdvised handle chain key target frame world).moves chain = earlier ++ later)
    (hfinished : ∀ move, earlier.getLast? = some move → move.Finished)
    (htripped : ((Point.first chain frame world).after chain earlier).Tripped) {first : Advice H}
    {others : List (Advice H)}
    (hdue : ((Point.first chain frame world).after chain earlier).due = first :: others) :
    (runAdvised handle chain key target frame world).outcome =
      .unwound (.veto ⟨frame.function, first.phase, .interrupted first.phase
        ((Point.first chain frame world).after chain earlier).reason⟩) := by
  have hmild := mild_of_steady hsteady
  cases hlast : earlier.getLast? with
  | none =>
      obtain rfl : earlier = [] := List.getLast?_eq_none_iff.mp hlast
      have hbefore := before_mem_runAdvised handle chain key target frame world
      exact outcome_runAdvised_of_gate hmild hbefore rfl (List.nil_append _).symm rfl hfinished
        htripped hdue
  | some move =>
      have hmem : move ∈ (runAdvised handle chain key target frame world).moves chain := by
        rw [hmoves]
        exact List.mem_append_left _ (List.mem_of_getLast? hlast)
      have hdone := hfinished move hlast
      rw [Point.after_of_getLast? hlast] at htripped hdue ⊢
      obtain ⟨stage, hstage, hmove⟩ := List.mem_flatMap.mp hmem
      cases stage with
      | target found world' landing =>
          rw [List.mem_singleton.mp hmove] at hdue
          cases hdue
      | phase which found world' held =>
          cases hgate : which.isGatekeeper with
          | false =>
              obtain ⟨rest, visit, -, rfl, -⟩ := Phase.exists_visit_of_mem hmove
              simp only [Move.point, Move.due, hgate, Bool.false_eq_true, if_false] at hdue
              cases hdue
          | true =>
              obtain ⟨before, behind, hsplit⟩ := List.append_of_mem hmove
              rw [List.append_cons] at hsplit
              refine outcome_runAdvised_of_gate hmild hstage hgate hsplit
                (Point.after_of_getLast? List.getLast?_concat _) ?_ htripped hdue
              intro other hother
              rw [List.getLast?_concat] at hother
              cases hother
              exact hdone

/--
In a call of a registered key whose moves keep its frame, and in which time does not run back, no
handler is started any more once the signal has tripped, before the call or by the end of one of its
moves.  The target then is started only if no gatekeeper is due; otherwise the call is interrupted in
the phase of the first one that is, unless the last move was a handler that failed or unwound.
-/
theorem invoke_stops_once_tripped {world : World H U} {registry : RegistryId} {key : Key}
    {chain : ChainId} (h : world.lookup registry key = .ok chain) (handle : Handle H U)
    (args : List Value) (signal : Signal) (target : Target H U) :
    let run := invoke handle registry key args signal target world
    (∀ move ∈ run.moves chain, move.Steady) →
      ∀ earlier later, run.moves chain = earlier ++ later →
        let point := (Point.first chain (.new key args signal) world).after chain earlier
        signal.Tripped point.world.moment →
          (∀ move ∈ later, move.mark = .target ∧ point.due = []) ∧
          ((∀ move, earlier.getLast? = some move → move.Finished) →
            ∀ first others, point.due = first :: others →
              run.outcome = .unwound (.veto ⟨key, first.phase,
                .interrupted first.phase (signal.reason point.world.moment)⟩)) := by
  rw [invoke_of_lookup h]
  intro run hsteady earlier later hmoves point htripped
  have hconveyed : Conveyed chain (.new key args signal) run :=
    conveyed_runAdvised handle chain key target rfl _
  -- The call starts in the world that the pool has left, which shows the same time and chains.
  let there := (Point.first chain (.new key args signal)
    (world.acquire registry key args signal).2).after chain earlier
  have hdue : there.due = point.due := by cases earlier <;> rfl
  have hmoment : there.world.moment = point.world.moment := by cases earlier <;> rfl
  have hsignal : there.frame.signal = signal := by
    cases hlast : earlier.getLast? with
    | none =>
        obtain rfl : earlier = [] := List.getLast?_eq_none_iff.mp hlast
        rfl
    | some move =>
        have hmem : move ∈ run.moves chain := by
          rw [hmoves]
          exact List.mem_append_left _ (List.mem_of_getLast? hlast)
        have hthere : there = move.point chain := Point.after_of_getLast? hlast _
        rw [hthere]
        exact hconveyed.signal_left hsteady move hmem
  have hthere : there.Tripped := by
    rw [Point.Tripped, hsignal, hmoment]
    exact htripped
  have hreason : there.reason = signal.reason point.world.moment := by
    rw [Point.reason, hsignal, hmoment]
  constructor
  · rw [← hdue]
    exact stopped_runAdvised hsteady hmoves hthere
  · intro hfinished first others hfirst
    rw [← hdue] at hfirst
    rw [← hreason]
    exact outcome_runAdvised_of_tripped hsteady hmoves hfinished hthere hfirst

theorem cancelled_call_stops :
    let handle : Handle Bool Unit := fun cancels frame world =>
      ⟨.done, frame, if cancels then world.cancel "stop" else world⟩
    let target : Target Bool Unit := fun frame world => ⟨none, frame, world⟩
    let world : World Bool Unit := .single ⟨"f"⟩
      ⟨[⟨.before, 0, "cancel", true⟩, ⟨.around, 0, "late", false⟩, ⟨.after, 0, "last", false⟩]⟩
    let run := invoke handle 0 ⟨"f"⟩ [] (.ofToken "stop") target world
    let point := (Point.first 0 (.new ⟨"f"⟩ [] (.ofToken "stop")) world).after 0 (run.moves 0)
    world.lookup 0 ⟨"f"⟩ = .ok 0 ∧
      (∀ move ∈ run.moves 0, move.Steady) ∧
      (∀ move, (run.moves 0).getLast? = some move → move.Finished) ∧
      (run.moves 0).map Move.mark = [.phase .before] ∧
      (Signal.ofToken "stop").Tripped point.world.moment ∧
      point.due.map Advice.name = ["late"] ∧
      run.outcome = .unwound (.veto ⟨⟨"f"⟩, .around, .interrupted .around .cancelled⟩) := by
  intro handle target world run point
  have hlookup : world.lookup 0 ⟨"f"⟩ = .ok 0 := World.lookup_single (by decide) _
  have hmoves : ∀ move ∈ run.moves 0, move.Steady ∧ move.Finished := by
    intro move hmem
    have hgenuine := genuine_moves_runAdvised handle 0 ⟨"f"⟩ target _ _ move
      (by rw [← invoke_of_lookup hlookup]; exact hmem)
    cases move with
    | handler phase rest visit =>
        obtain ⟨⟨which, priority, name, cancels⟩, frame, found, step⟩ := visit
        obtain rfl : step = handle cancels frame found := hgenuine
        refine ⟨⟨.refl frame, ?_⟩, rfl⟩
        cases cancels with
        | true => exact ⟨List.subset_cons_self _ _, Nat.le_refl _⟩
        | false => exact .refl _
    | target frame found landing =>
        obtain rfl : landing = target frame found := hgenuine
        exact ⟨⟨.refl frame, .refl _⟩, trivial⟩
  have hsteady : ∀ move ∈ run.moves 0, move.Steady := fun move hmem => (hmoves move hmem).1
  have hfinished : ∀ move, (run.moves 0).getLast? = some move → move.Finished :=
    fun move hlast => (hmoves move (List.mem_of_getLast? hlast)).2
  have hmarks : (run.moves 0).map Move.mark = [.phase .before] := by
    unfold run handle target world
    decide +kernel
  have htripped : (Signal.ofToken "stop").Tripped point.world.moment := by
    unfold point run handle target world
    decide +kernel
  have hdue : point.due.map Advice.name = ["late"] := by
    unfold point run handle target world
    decide +kernel
  have hphases : point.due.map Advice.phase = [.around] := by
    unfold point run handle target world
    decide +kernel
  have hreason : (Signal.ofToken "stop").reason point.world.moment = .cancelled := by
    unfold point run handle target world
    decide +kernel
  obtain ⟨first, others, hfirst⟩ : ∃ first others, point.due = first :: others := by
    cases h : point.due with
    | nil =>
        rw [h] at hdue
        cases hdue
    | cons first others => exact ⟨first, others, rfl⟩
  have hstops := invoke_stops_once_tripped hlookup handle [] (.ofToken "stop") target hsteady
    (run.moves 0) [] (List.append_nil _).symm htripped
  have houtcome := hstops.2 hfinished first others hfirst
  rw [hfirst, List.map_cons] at hphases
  rw [(List.cons.inj hphases).1] at houtcome
  exact ⟨hlookup, hsteady, hfinished, hmarks, htripped, hdue, hreason ▸ houtcome⟩

end Intercept
