import Intercept.Registration

/-!
# Chains grow at their ends

Registering, unregistering, clearing and building never take advice out of a chain, nor put any in
front of what it holds; and a key that is registered gets a chain that was in nobody's hands before.
-/

namespace Intercept.World

variable {H U : Type}

/-! ## Operations -/

inductive Operation (H : Type) where
  | register (registry : RegistryId) (key : Key)
  | obtain (registry : RegistryId) (key : Key)
  | addAdvice (registry : RegistryId) (key : Key) (advice : Advice H)
  | unregister (registry : RegistryId) (key : Key)
  | clear (registry : RegistryId)
  | newChain
  | add (chain : ChainId) (advice : Advice H)
  | attach (builder : Builder) (advice : Advice H)

/-- A request that is turned down changes nothing. -/
def operate (operation : Operation H) (world : World H U) : World H U :=
  match operation with
  | .register registry key =>
    match world.register registry key with
    | .error _ => world
    | .ok left => left
  | .obtain registry key =>
    match world.obtain registry key with
    | .error _ => world
    | .ok (_, left) => left
  | .addAdvice registry key advice =>
    match world.addAdvice registry key advice with
    | .error _ => world
    | .ok left => left
  | .unregister registry key => world.unregister registry key
  | .clear registry => world.clear registry
  | .newChain => world.newChain.2
  | .add chain advice => world.addTo chain advice
  | .attach builder advice => (world.attach builder advice).2

/-- `left` comes of `world` by operations, and by whatever else leaves the chains alone. -/
inductive Configured : World H U → World H U → Prop
  | done (world : World H U) : Configured world world
  | operate {world left : World H U} (operation : Operation H)
      (rest : Configured (world.operate operation) left) : Configured world left
  | aside {world next left : World H U} (hchains : next.chains = world.chains)
      (rest : Configured next left) : Configured world left

/-! ## Growth -/

structure Grows (world left : World H U) : Prop where
  advice : ∀ id, (world.chain id).advice <+: (left.chain id).advice
  size : world.chains.size ≤ left.chains.size

namespace Grows

theorem refl (world : World H U) : world.Grows world :=
  ⟨fun _ => List.prefix_refl _, Nat.le_refl _⟩

theorem trans {world next left : World H U} (h : world.Grows next) (h' : next.Grows left) :
    world.Grows left :=
  ⟨fun id => (h.advice id).trans (h'.advice id), Nat.le_trans h.size h'.size⟩

theorem of_chains {world left : World H U} (h : left.chains = world.chains) : world.Grows left := by
  refine ⟨?_, Nat.le_of_eq (congrArg Store.size h.symm)⟩
  intro id
  have hchain : left.chain id = world.chain id := congrArg (·.get id) h
  simp only [hchain, List.prefix_rfl]

theorem bucket {world left : World H U} (h : world.Grows left) (id : ChainId) (phase : Phase) :
    (world.chain id).bucket phase <+: (left.chain id).bucket phase :=
  (h.advice id).filter _

end Grows

theorem grows_addTo (world : World H U) (id : ChainId) (advice : Advice H) :
    world.Grows (world.addTo id advice) := by
  constructor
  · intro other
    rw [chain_addTo]
    split
    · next hother =>
        rw [hother]
        exact List.prefix_append _ _
    · exact List.prefix_refl _
  · simp only [addTo, Store.size_set]
    omega

theorem grows_newChain (world : World H U) : world.Grows world.newChain.2 := by
  constructor
  · intro id
    rw [chain_newChain]
    split
    · next hid =>
        have hdefault : world.chain id = .empty := Store.get_eq_default (Nat.le_of_eq hid.symm)
        simp only [hdefault, List.prefix_rfl]
    · exact List.prefix_refl _
  · simp only [newChain, Store.size_push]
    omega

theorem grows_create (world : World H U) (id : RegistryId) (key : Key) :
    world.Grows (world.create id key).2 :=
  world.grows_newChain.trans (.of_chains rfl)

theorem grows_obtain {world : World H U} {id : RegistryId} {key : Key} {made : ChainId × World H U}
    (h : world.obtain id key = .ok made) : world.Grows made.2 := by
  rw [World.obtain] at h
  split at h
  · cases h
  · split at h
    · cases h
      exact .refl world
    · cases h
      exact world.grows_create id key

theorem grows_operate (world : World H U) (operation : Operation H) :
    world.Grows (world.operate operation) := by
  cases operation with
  | register id key =>
      simp only [operate, register]
      split
      · exact .refl world
      · next left hleft =>
          split at hleft
          · cases hleft
          · split at hleft
            · cases hleft
            · cases hleft
              exact world.grows_create id key
  | obtain id key =>
      simp only [operate]
      split
      · exact .refl world
      · next chain left hmade => exact grows_obtain hmade
  | addAdvice id key advice =>
      simp only [operate, addAdvice]
      cases world.lookup id key with
      | error refusal => exact .refl world
      | ok chain =>
          have hrecord : world.Grows (world.record (.addingAdvice key advice)) := .of_chains rfl
          exact hrecord.trans (grows_addTo _ chain advice)
  | unregister id key =>
      simp only [operate, unregister]
      split
      · exact .of_chains rfl
      · exact .refl world
  | clear id => exact .of_chains rfl
  | newChain => exact world.grows_newChain
  | add id advice => exact world.grows_addTo id advice
  | attach builder advice =>
      have hrecord : world.Grows (world.record (.attachingAdvice builder.key advice)) :=
        .of_chains rfl
      simp only [operate, attach]
      split
      · exact hrecord
      · next chain left hmade =>
          exact hrecord.trans ((grows_obtain hmade).trans (grows_addTo left chain advice))

theorem Configured.grows {world left : World H U} (h : Configured world left) :
    world.Grows left := by
  induction h with
  | done world => exact .refl world
  | operate operation rest ih => exact (grows_operate _ operation).trans ih
  | aside hchains rest ih => exact (Grows.of_chains hchains).trans ih

end Intercept.World
