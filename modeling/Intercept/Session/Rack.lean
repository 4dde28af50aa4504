import Intercept.Frame
import Intercept.Table

/-!
# Frames put by

A rack holds the frames that the scripts of a session put by under names.  It belongs to the session
and has no part in any call.  Scripts share it behind a lock: who asks for a frame that it does not hold
unwinds with the lock taken, and that spoils the rack.  From then on whoever takes the lock unwinds with
the complaint of a poisoned lock, and no frame goes in or out.
-/

namespace Intercept.Session

inductive Rack where
  | sound (frames : Table String Frame)
  | spoiled

namespace Rack

def empty : Rack :=
  .sound .empty

def complaint : String :=
  "called `Result::unwrap()` on an `Err` value: PoisonError \x7b .. \x7d"

end Rack

end Intercept.Session
