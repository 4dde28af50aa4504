import Intercept.Proofs.Call.Frames

/-!
# Frames that go on

A handler may change what lies in its frame.  Whose frame it is, what unwinds in it and what may
interrupt it are changed only by `reset`, and by putting another frame in its place.
-/

namespace Intercept

variable {H U : Type}

/-- `left` is still the frame of the call that `found` was the frame of. -/
structure Frame.Continues (found left : Frame) : Prop where
  function : left.function = found.function
  args : left.args = found.args
  payload : left.payload = found.payload
  signal : left.signal = found.signal

namespace Frame.Continues

theorem refl (frame : Frame) : frame.Continues frame :=
  ⟨rfl, rfl, rfl, rfl⟩

theorem trans {f g k : Frame} (h : f.Continues g) (h' : g.Continues k) : f.Continues k :=
  ⟨h'.function.trans h.function, h'.args.trans h.args, h'.payload.trans h.payload,
    h'.signal.trans h.signal⟩

end Frame.Continues

instance (found left : Frame) : Decidable (found.Continues left) :=
  decidable_of_iff
    (left.function = found.function ∧ left.args = found.args ∧ left.payload = found.payload ∧
      left.signal = found.signal)
    ⟨fun ⟨hf, ha, hp, hs⟩ => ⟨hf, ha, hp, hs⟩, fun h => ⟨h.function, h.args, h.payload, h.signal⟩⟩

/-- No handler of the stage resets its frame or puts another in its place. -/
def Stage.Mild (stage : Stage H U) : Prop :=
  stage.Each fun _ visit => visit.Relates Frame.Continues

instance (stage : Stage H U) : Decidable stage.Mild :=
  inferInstanceAs (Decidable (stage.Each _))

end Intercept
