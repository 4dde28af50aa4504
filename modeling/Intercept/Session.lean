import Intercept.Session.Perform

/-!
# Sessions

The actions of a session are carried out one after the other, each without a current frame and
whatever became of those before it.  For each there is a report: how it ended, what the scripts it ran
left in the transcript, and the events recorded meanwhile.
-/

namespace Intercept.Session

structure Report where
  reply : Reply
  transcript : List (String × Json)
  events : List Event

/-- Far beyond what a session can reach without calling itself for ever. -/
def depthLimit : Nat :=
  1000000

namespace Reply

def document : Reply → Json
  | .answered found => found
  | .failed cause => .obj [("fail", cause.document)]
  | .unwound payload => unwoundDocument payload

end Reply

namespace Report

/-- With a level, the events of that level or more severe are shown too. -/
def document (level : Option Level) (report : Report) : Json :=
  let log := Json.arr (report.transcript.map fun entry => .arr [.str entry.1, entry.2])
  let shown := [("r", report.reply.document), ("log", log)]
  match level with
  | none => .obj shown
  | some level =>
    let events := report.events.filter fun event => event.reaches level
    .obj (shown ++ [("events", .arr (events.map Event.document))])

end Report

/-- Carries out one action of a session on an empty transcript. -/
def runStep (action : Action) (scene : Scene) : Report × Scene :=
  let scene := scene.setDesk { scene.extra with transcript := [] }
  let turn := perform depthLimit action none scene
  (⟨turn.reply, turn.scene.extra.transcript.reverse,
      turn.scene.journal.since scene.journal.size⟩,
    turn.scene)

def runSteps : List Action → Scene → List Report × Scene
  | [], scene => ([], scene)
  | action :: actions, scene =>
    let (report, scene) := runStep action scene
    let (reports, scene) := runSteps actions scene
    (report :: reports, scene)

/-- The reports of a session, or the first thing that an action asked for in vain. -/
def run (actions : List Action) : Except Fault (List Report) :=
  let (reports, scene) := runSteps actions Scene.start
  match scene.extra.fault with
  | some fault => .error fault
  | none => .ok reports

end Intercept.Session
