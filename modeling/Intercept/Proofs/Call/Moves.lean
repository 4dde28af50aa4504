import Intercept.Proofs.Call.Stages
import Intercept.Proofs.Call.Visits

/-!
# The moves of a call

Handlers and the target are the moves of a call; between them nobody else touches its frame but the
call itself.  Within a phase each handler is given the frame that the handler before it left, and the
phase leaves what its last handler left: `Ran.handedOn`.
-/

namespace Intercept

variable {H U : Type}

/-- A handler or the target at work.  A handler leaves `rest` of its queue still to be started. -/
inductive Move (H U : Type) where
  | handler (phase : Phase) (rest : List (Advice H)) (visit : Visit H U)
  | target (frame : Frame) (world : World H U) (landing : Landing H U)

namespace Move

def mark : Move H U → Mark
  | .handler phase _ _ => .phase phase
  | .target _ _ _ => .target

def given : Move H U → Frame
  | .handler _ _ visit => visit.frame
  | .target frame _ _ => frame

def left : Move H U → Frame
  | .handler _ _ visit => visit.step.frame
  | .target _ _ landing => landing.frame

def opening : Move H U → World H U
  | .handler _ _ visit => visit.world
  | .target _ world _ => world

def closing : Move H U → World H U
  | .handler _ _ visit => visit.step.world
  | .target _ _ landing => landing.world

def Genuine (handle : Handle H U) (target : Target H U) : Move H U → Prop
  | .handler _ _ visit => visit.step = handle visit.advice.handler visit.frame visit.world
  | .target frame world landing => landing = target frame world

end Move

/-! ## Moves in order -/

def Phase.moves (phase : Phase) : List (Advice H) → List (Visit H U) → List (Move H U)
  | _, [] => []
  | queue, visit :: visits => .handler phase queue.tail visit :: phase.moves queue.tail visits

def Stage.moves (chain : ChainId) : Stage H U → List (Move H U)
  | .phase which _ world run => which.moves ((world.chain chain).queue which) run.visits
  | .target frame world landing => [.target frame world landing]

def Progress.moves (chain : ChainId) (progress : Progress H U) : List (Move H U) :=
  progress.stages.flatMap (Stage.moves chain)

def CallRun.moves (chain : ChainId) (run : CallRun H U) : List (Move H U) :=
  run.stages.flatMap (Stage.moves chain)

theorem Phase.exists_visit_of_mem {phase : Phase} {queue : List (Advice H)}
    {visits : List (Visit H U)} {move : Move H U} (h : move ∈ phase.moves queue visits) :
    ∃ rest, ∃ visit ∈ visits, move = .handler phase rest visit ∧ rest <:+ queue := by
  induction visits generalizing queue with
  | nil => cases h
  | cons visit visits ih =>
      rcases List.mem_cons.mp h with rfl | hlater
      · exact ⟨queue.tail, visit, List.mem_cons_self, rfl, List.tail_suffix queue⟩
      · obtain ⟨rest, other, hother, hmove, hsuffix⟩ := ih hlater
        exact ⟨rest, other, List.mem_cons_of_mem _ hother, hmove,
          hsuffix.trans (List.tail_suffix queue)⟩

theorem Phase.exists_move_of_mem {phase : Phase} {visits : List (Visit H U)} {visit : Visit H U}
    (h : visit ∈ visits) (queue : List (Advice H)) :
    ∃ rest, .handler phase rest visit ∈ phase.moves queue visits := by
  induction visits generalizing queue with
  | nil => cases h
  | cons other visits ih =>
      rcases List.mem_cons.mp h with rfl | hlater
      · exact ⟨queue.tail, List.mem_cons_self⟩
      · obtain ⟨rest, hrest⟩ := ih hlater queue.tail
        exact ⟨rest, List.mem_cons_of_mem _ hrest⟩

theorem Phase.visits_eq_nil_of_moves {phase : Phase} {queue : List (Advice H)}
    {visits : List (Visit H U)} (h : phase.moves queue visits = []) : visits = [] := by
  cases visits with
  | nil => rfl
  | cons visit visits => cases h

namespace Progress

variable {chain : ChainId} {progress : Progress H U}

@[simp] theorem moves_nil (frame : Frame) (world : World H U) :
    moves chain ⟨[], frame, world⟩ = [] := rfl

@[simp] theorem moves_pass (phase : Phase) (run : PhaseRun H U) :
    (progress.pass phase run).moves chain = progress.moves chain ++
      phase.moves ((progress.world.chain chain).queue phase) run.visits := by
  simp [moves, Stage.moves]

@[simp] theorem moves_arrive (landing : Landing H U) :
    (progress.arrive landing).moves chain =
      progress.moves chain ++ [.target progress.frame progress.world landing] := by
  simp [moves, Stage.moves]

@[simp] theorem moves_watch (handle : Handle H U) (phase : Phase) :
    (progress.watch handle chain phase).moves chain = progress.moves chain ++
      phase.moves ((progress.world.chain chain).queue phase)
        (runPhase handle chain phase progress.frame progress.world).visits := by
  simp [moves, Stage.moves]

@[simp] theorem moves_record (event : Event) :
    (progress.record event).moves chain = progress.moves chain := rfl

@[simp] theorem moves_raise (payload : Payload) :
    (progress.raise payload).moves chain = progress.moves chain := rfl

@[simp] theorem moves_announce (key : Key) (verdict : Verdict) :
    (progress.announce key verdict).moves chain = progress.moves chain := by
  rw [moves, stages_announce, moves]

end Progress

theorem Ran.genuine {handle : Handle H U} {phase : Phase} {queue : List (Advice H)} {frame : Frame}
    {world : World H U} {run : PhaseRun H U} (h : Ran handle phase queue frame world run) :
    ∀ visit ∈ run.visits, visit.step = handle visit.advice.handler visit.frame visit.world :=
  h.forall_visits fun _ _ _ _ _ => rfl

theorem ran_of_mem_runAdvised {handle : Handle H U} {chain : ChainId} {target : Target H U}
    {key : Key} {phase : Phase} {frame found : Frame} {world world' : World H U}
    {held : PhaseRun H U}
    (hmem : .phase phase found world' held ∈ (runAdvised handle chain key target frame world).stages)
    (hgate : phase.isGatekeeper = true) :
    Ran handle phase ((world'.chain chain).queue phase) found world' held := by
  have hgenuine := genuine_runAdvised handle chain key target frame world _ hmem
  rw [Stage.Genuine, if_pos hgate] at hgenuine
  rw [hgenuine]
  exact ran_runPhase handle chain phase found world'

theorem genuine_moves_runAdvised (handle : Handle H U) (chain : ChainId) (key : Key)
    (target : Target H U) (frame : Frame) (world : World H U) :
    ∀ move ∈ (runAdvised handle chain key target frame world).moves chain,
      move.Genuine handle target := by
  have hphase : ∀ {phase : Phase} {queue : List (Advice H)} {run : PhaseRun H U} {found : Frame}
      {world : World H U}, Ran handle phase queue found world run →
      ∀ queue', ∀ move ∈ phase.moves queue' run.visits, move.Genuine handle target := by
    intro phase queue run found world hran queue' move hmem
    obtain ⟨rest, visit, hvisit, rfl, -⟩ := Phase.exists_visit_of_mem hmem
    exact hran.genuine visit hvisit
  have hstages : ∀ stage ∈ (runAdvised handle chain key target frame world).stages,
      ∀ move ∈ stage.moves chain, move.Genuine handle target := by
    apply all_runAdvised
    constructor
    · intro phase hgate found world'
      exact hphase (ran_runPhase handle chain phase found world') _
    · intro phase hobserver found world'
      simp only [Stage.moves, visits_watchPhase]
      exact hphase (ran_runPhase handle chain phase found world') _
    · intro gates hgates
      exact List.forall_mem_singleton.mpr rfl
  intro move hmem
  obtain ⟨stage, hstage, hmove⟩ := List.mem_flatMap.mp hmem
  exact hstages stage hstage move hmove

/-! ## The frame from move to move -/

/-- From `frame` on, each move is given the frame that the move before it left; the last one leaves
`last`. -/
def HandedOn (frame : Frame) : List (Move H U) → Frame → Prop
  | [], last => last = frame
  | move :: moves, last => move.given = frame ∧ HandedOn move.left moves last

namespace HandedOn

theorem append {frame next last : Frame} {moves later : List (Move H U)}
    (h : HandedOn frame moves next) (h' : HandedOn next later last) :
    HandedOn frame (moves ++ later) last := by
  induction moves generalizing frame with
  | nil =>
      obtain rfl : next = frame := h
      exact h'
  | cons move moves ih => exact ⟨h.1, ih h.2⟩

theorem given_of_head? {frame last : Frame} {moves : List (Move H U)} {move : Move H U}
    (h : HandedOn frame moves last) (hhead : moves.head? = some move) : move.given = frame := by
  cases moves with
  | nil => cases hhead
  | cons first moves =>
      cases hhead
      exact h.1

theorem exists_getLast {frame last : Frame} {moves : List (Move H U)}
    (h : HandedOn frame moves last) (hmoves : moves ≠ []) :
    ∃ move, moves.getLast? = some move ∧ move.left = last := by
  induction moves generalizing frame with
  | nil => exact absurd rfl hmoves
  | cons move moves ih =>
      cases moves with
      | nil => exact ⟨move, rfl, Eq.symm h.2⟩
      | cons next moves =>
          obtain ⟨other, hother, hleft⟩ := ih h.2 (List.cons_ne_nil _ _)
          exact ⟨other, by rw [List.getLast?_cons_cons, hother], hleft⟩

end HandedOn

/-- What a view shows of the frame goes from move to move like the frame in `HandedOn`. -/
def Shown {α : Type} (view : Frame → α) (found : α) : List (Move H U) → α → Prop
  | [], last => last = found
  | move :: moves, last => view move.given = found ∧ Shown view (view move.left) moves last

theorem HandedOn.shown {α : Type} (view : Frame → α) {frame last : Frame} {moves : List (Move H U)}
    (h : HandedOn frame moves last) : Shown view (view frame) moves (view last) := by
  induction moves generalizing frame with
  | nil => exact congrArg view h
  | cons move moves ih => exact ⟨congrArg view h.1, ih h.2⟩

namespace Shown

variable {α : Type} {view : Frame → α} {found next last : α} {moves earlier later : List (Move H U)}

theorem append (h : Shown view found moves next) (h' : Shown view next later last) :
    Shown view found (moves ++ later) last := by
  induction moves generalizing found with
  | nil =>
      obtain rfl : next = found := h
      exact h'
  | cons move moves ih => exact ⟨h.1, ih h.2⟩

theorem behind {move : Move H U} (h : Shown view found (earlier ++ move :: later) last) :
    Shown view (view move.left) later last := by
  induction earlier generalizing found with
  | nil => exact h.2
  | cons other earlier ih => exact ih h.2

theorem constant (h : Shown view found moves last)
    (hkept : ∀ move ∈ moves, view move.given = found → view move.left = found) :
    last = found ∧ ∀ move ∈ moves, view move.left = found := by
  induction moves generalizing last with
  | nil => exact ⟨h, fun move hmem => absurd hmem List.not_mem_nil⟩
  | cons move moves ih =>
      obtain ⟨hmove, hmoves⟩ := List.forall_mem_cons.mp hkept
      have hleft := hmove h.1
      have hrest := h.2
      rw [hleft] at hrest
      obtain ⟨hlast, hall⟩ := ih hrest hmoves
      exact ⟨hlast, List.forall_mem_cons.mpr ⟨hleft, hall⟩⟩

end Shown

theorem Ran.handedOn {handle : Handle H U} {phase : Phase} {queue : List (Advice H)} {frame : Frame}
    {world : World H U} {run : PhaseRun H U} (h : Ran handle phase queue frame world run) :
    HandedOn frame (phase.moves queue run.visits) run.frame := by
  induction h with
  | finished frame world => rfl
  | interrupted tripped => rfl
  | done untripped hvisit hexit hrest ih => exact ⟨frame_of_visitOf hvisit, ih⟩
  | failed untripped hvisit hexit => exact ⟨frame_of_visitOf hvisit, rfl⟩
  | unwound untripped hvisit hexit => exact ⟨frame_of_visitOf hvisit, rfl⟩

end Intercept
