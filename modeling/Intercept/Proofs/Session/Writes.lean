import Intercept.Proofs.Adapter.Resolution
import Intercept.Proofs.Session.Mildness

/-!
# The writes of scripts

A script that makes nothing but requests to its frame writes to it what its requests write, up to the
one that it stops at.
-/

namespace Intercept.Session

def FrameRequest.writes (request : FrameRequest) (frame : Frame) : List Write :=
  match request with
  | .setError cause => [.setError cause]
  | .takeError => [.takeError]
  | .clearError => [.clearError]
  | .wrapError text =>
    match frame.error with
    | none => []
    | some cause => [.takeError, .setError (.context text cause)]
  | .setResult i value =>
    match frame.setResult i value with
    | .error _ => []
    | .ok _ => Write.inSlot i (.setResult value)
  | .takeResult i kind => Write.inSlot i (.takeResult kind)
  | _ => []

theorem FrameRequest.cells_answer {request : FrameRequest} (h : request ≠ .reset)
    (moment : Moment) (frame : Frame) :
    (request.answer moment frame).2.cells = replay (request.writes frame) frame.cells := by
  cases request with
  | reset => exact absurd rfl h
  | wrapError text =>
      simp only [answer, writes]
      cases herror : frame.error with
      | none => simp only [Frame.wrapError, Frame.cells, herror, Option.map_none, replay_nil]
      | some cause =>
          simp only [Frame.wrapError, Frame.cells, herror, Option.map_some, replay_cons, replay_nil,
            Write.apply]
  | setResult i value =>
      simp only [answer, writes]
      cases hset : frame.setResult i value with
      | error refusal => rfl
      | ok left => exact Frame.cells_setResult hset
  | takeResult i kind => exact frame.cells_takeResult i kind
  | _ => rfl

/-- What a script writes to the frame until it stops. -/
def scriptWrites (act : Act) : Script → Frame → Scene → List Write
  | [], _, _ => []
  | (label, .frame request) :: script, frame, scene =>
    let turn := act (.frame request) (some frame) scene
    request.writes frame ++
      match turn.reply with
      | .answered answer =>
        scriptWrites act script (request.answer scene.moment frame).2
          (turn.scene.transcribe label answer)
      | _ => []
  | _ :: _, _, _ => []

private theorem cells_runScript (depth : Nat) {script : Script} (h : MildScript script)
    (frame : Frame) (scene : Scene) :
    ∃ left, (runScript (perform (depth + 1)) script (some frame) scene).frame = some left ∧
      left.cells = replay (scriptWrites (perform (depth + 1)) script frame scene) frame.cells := by
  induction script generalizing frame scene with
  | nil => exact ⟨frame, rfl, rfl⟩
  | cons entry script ih =>
      obtain ⟨label, action⟩ := entry
      obtain ⟨request, hrequest, rfl⟩ := h _ List.mem_cons_self
      have hanswer := request.cells_answer hrequest scene.moment frame
      have hstop : (request.answer scene.moment frame).2.cells =
          replay (request.writes frame ++ []) frame.cells := by
        rw [hanswer, List.append_nil]
      simp only [frame_runScript_cons, scriptWrites]
      cases (perform (depth + 1) (.frame request) (some frame) scene).reply with
      | answered found =>
          obtain ⟨left, hleft, hrest⟩ := ih (fun entry hmem => h entry (List.mem_cons_of_mem _ hmem))
            (request.answer scene.moment frame).2
            ((perform (depth + 1) (.frame request) (some frame) scene).scene.transcribe label found)
          refine ⟨left, hleft, ?_⟩
          rw [hrest, hanswer, replay_append]
      | failed cause => exact ⟨_, rfl, hstop⟩
      | unwound payload => exact ⟨_, rfl, hstop⟩

theorem cells_handle (depth : Nat) {script : Script} (h : MildScript script) (frame : Frame)
    (scene : Scene) :
    (handle (perform (depth + 1)) script frame scene).frame.cells =
      replay (scriptWrites (perform (depth + 1)) script frame scene) frame.cells := by
  obtain ⟨left, hleft, hcells⟩ := cells_runScript depth h frame scene
  simp only [handle, hleft]
  exact hcells

/-- The requests of a mild script are the log of its visit. -/
theorem logged_of_mildScript (depth : Nat) {visit : Visit Script Desk}
    (h : MildScript visit.advice.handler)
    (hgenuine : visit.step =
      handle (perform (depth + 1)) visit.advice.handler visit.frame visit.world) :
    visit.Logged fun visit =>
      scriptWrites (perform (depth + 1)) visit.advice.handler visit.frame visit.world where
  continues := by
    rw [Visit.Relates, hgenuine]
    exact continues_handle depth h visit.frame visit.world
  cells := by
    rw [hgenuine]
    exact cells_handle depth h visit.frame visit.world

end Intercept.Session
