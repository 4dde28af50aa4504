import Intercept.Proofs.Call.Continuing
import Intercept.Session.Perform

/-!
# Mild scripts

A script that makes nothing but requests to its frame, and does not reset it, leaves the frame that of
its call, wherever it stops: `continues_handle`.
-/

namespace Intercept.Session

def MildScript (script : Script) : Prop :=
  ∀ entry ∈ script, ∃ request : FrameRequest, request ≠ .reset ∧ entry.2 = .frame request

theorem FrameRequest.continues_answer {request : FrameRequest} (h : request ≠ .reset)
    (moment : Moment) (frame : Frame) : frame.Continues (request.answer moment frame).2 := by
  cases request with
  | reset => exact absurd rfl h
  | setResult i value =>
      simp only [answer, Frame.setResult]
      cases frame.results.set i value with
      | error refusal => exact .refl frame
      | ok results => exact ⟨rfl, rfl, rfl, rfl⟩
  | _ => exact ⟨rfl, rfl, rfl, rfl⟩

theorem frame_perform (depth : Nat) (request : FrameRequest) (frame : Frame) (scene : Scene) :
    (perform (depth + 1) (.frame request) (some frame) scene).frame =
      some (request.answer scene.moment frame).2 := by
  simp only [perform, performWith, withFrame]
  rcases request.answer scene.moment frame with ⟨found | payload, left⟩ <;> rfl

theorem frame_runScript_cons (depth : Nat) (label : String) (request : FrameRequest)
    (script : Script) (frame : Frame) (scene : Scene) :
    (runScript (perform (depth + 1)) ((label, .frame request) :: script) (some frame) scene).frame =
      let turn := perform (depth + 1) (.frame request) (some frame) scene
      let left := some (request.answer scene.moment frame).2
      match turn.reply with
      | .answered found =>
        (runScript (perform (depth + 1)) script left (turn.scene.transcribe label found)).frame
      | _ => left := by
  have hframe := frame_perform depth request frame scene
  cases hreply : (perform (depth + 1) (.frame request) (some frame) scene).reply with
  | answered found => simp only [runScript, hreply, hframe]
  | failed cause => simp only [runScript, hreply, hframe]
  | unwound payload => simp only [runScript, hreply, hframe]

private theorem continues_runScript (depth : Nat) {script : Script} (h : MildScript script)
    (frame : Frame) (scene : Scene) :
    ∃ left, (runScript (perform (depth + 1)) script (some frame) scene).frame = some left ∧
      frame.Continues left := by
  induction script generalizing frame scene with
  | nil => exact ⟨frame, rfl, .refl frame⟩
  | cons entry script ih =>
      obtain ⟨label, action⟩ := entry
      obtain ⟨request, hrequest, rfl⟩ := h _ List.mem_cons_self
      have hanswer := request.continues_answer hrequest scene.moment frame
      simp only [frame_runScript_cons]
      split
      · obtain ⟨left, hleft, hrest⟩ := ih (fun entry hmem => h entry (List.mem_cons_of_mem _ hmem))
          (request.answer scene.moment frame).2 _
        exact ⟨left, hleft, hanswer.trans hrest⟩
      · exact ⟨_, rfl, hanswer⟩

theorem continues_handle (depth : Nat) {script : Script} (h : MildScript script)
    (frame : Frame) (scene : Scene) :
    frame.Continues (handle (perform (depth + 1)) script frame scene).frame := by
  obtain ⟨left, hleft, hcontinues⟩ := continues_runScript depth h frame scene
  simp only [handle, hleft]
  exact hcontinues

end Intercept.Session
