import Intercept.Call

/-!
# Worlds of a single function

In such a world one registry binds one key to one chain.  Handler code that does the same to every
frame and looks at nothing else is a habit.
-/

namespace Intercept

structure Habit where
  change : Frame → Frame
  exit : Exit

def Habit.handle {U : Type} : Handle Habit U := fun habit frame world =>
  ⟨habit.exit, habit.change frame, world⟩

variable {H : Type}

def World.single (key : Key) (chain : Chain H) : World H Unit :=
  { chains := ⟨[chain]⟩
    registries := ⟨[(Registry.ofPolicy .standard).bind key 0]⟩
    cancelled := []
    clock := 0
    journal := .empty
    extra := () }

theorem World.lookup_single {key : Key} (h : key ≠ .empty) (chain : Chain H) :
    (World.single key chain).lookup 0 key = .ok 0 := by
  have hkey : ¬key.isEmpty = true := fun hempty => h (key.isEmpty_iff.mp hempty)
  have hfind : ((World.single key chain).registry 0).find? key = some 0 := by
    change ((Registry.ofPolicy .standard).bind key 0).find? key = some 0
    rw [Registry.find?_bind, if_pos rfl]
  rw [World.lookup, if_neg hkey, hfind]

end Intercept
