import Intercept.Proofs.Call.Single
import Intercept.Proofs.Registration.Growth
import Intercept.Proofs.Registration.Refinement

/-!
# Replaying the events of registration

Who reads the events of a registry can tell which keys are registered, as long as every change is
recorded.  Registering and unregistering are; clearing is not, so the events agree with the registry
exactly as long as it is only cleared when it is empty: `replay_agrees_iff`.
-/

namespace Intercept

variable {H U : Type}

/-! ## Replay -/

namespace Event

/-- The keys that are registered after the event, for those that were before. -/
def audit (keys : Finset Key) (event : Event) : Finset Key :=
  if event.level = .debug ∧ event.target = registryArea then
    match event.field? "function" with
    | none => keys
    | some function =>
      if event.message = "registered function" then insert ⟨function⟩ keys
      else if event.message = "unregistered function" then keys.erase ⟨function⟩
      else keys
  else keys

def replay (events : List Event) : Finset Key :=
  events.foldl audit ∅

theorem replay_append_singleton (events : List Event) (event : Event) :
    replay (events ++ [event]) = audit (replay events) event :=
  List.foldl_concat ..

@[simp] theorem audit_registered (keys : Finset Key) (key : Key) :
    audit keys (registered key) = insert key keys := by
  simp [audit, registered, field?]

@[simp] theorem audit_unregistered (keys : Finset Key) (key : Key) :
    audit keys (unregistered key) = keys.erase key := by
  simp [audit, unregistered, field?]

@[simp] theorem audit_addingAdvice (keys : Finset Key) (key : Key) (advice : Advice H) :
    audit keys (addingAdvice key advice) = keys := by
  simp [audit, addingAdvice, field?]

@[simp] theorem audit_attachingAdvice (keys : Finset Key) (key : Key) (advice : Advice H) :
    audit keys (attachingAdvice key advice) = keys := by
  simp [audit, attachingAdvice, builderArea, registryArea]

end Event

/-! ## Keys -/

namespace Registry

def keySet (registry : Registry) : Finset Key :=
  registry.keys.toFinset

theorem mem_keySet {registry : Registry} {key : Key} :
    key ∈ registry.keySet ↔ (registry.find? key).isSome = true := by
  rw [keySet, List.mem_toFinset, keys, List.mem_mergeSort, Table.mem_keys_iff, ← find?]

theorem keySet_eq_empty_iff {registry : Registry} : registry.keySet = ∅ ↔ registry.keys = [] :=
  List.toFinset_eq_empty_iff _

theorem keySet_bind (registry : Registry) (key : Key) (chain : ChainId) :
    (registry.bind key chain).keySet = insert key registry.keySet := by
  ext other
  rw [mem_keySet, find?_bind, Finset.mem_insert, mem_keySet]
  split
  · next hsame => simp [hsame]
  · next hother => simp [hother]

theorem keySet_erase (registry : Registry) (key : Key) :
    (registry.erase key).keySet = registry.keySet.erase key := by
  ext other
  rw [mem_keySet, find?_erase, Finset.mem_erase, mem_keySet]
  split
  · next hsame => simp [hsame]
  · next hother => simp [hother]

@[simp] theorem keySet_clear (registry : Registry) : registry.clear.keySet = ∅ := by
  ext key
  rw [mem_keySet, find?_clear]
  simp

end Registry

/-! ## Operations -/

namespace World

def Operation.On (id : RegistryId) : Operation H → Prop
  | .register registry _ | .obtain registry _ | .addAdvice registry _ _ | .unregister registry _
  | .clear registry => registry = id
  | .attach builder _ => builder.registry = id
  | .newChain | .add _ _ => True

def operateAll (world : World H U) (operations : List (Operation H)) : World H U :=
  operations.foldl (fun world operation => world.operate operation) world

theorem operateAll_append_singleton (world : World H U) (operations : List (Operation H))
    (operation : Operation H) :
    world.operateAll (operations ++ [operation]) = (world.operateAll operations).operate operation :=
  List.foldl_concat ..

theorem keySet_clear (world : World H U) (id : RegistryId) :
    ((world.clear id).registry id).keySet = ∅ := by
  rw [clear, registry_setRegistry, if_pos rfl, Registry.keySet_clear]

/-- The events after the first `since` tell which keys of the registry are registered. -/
structure Audited (since : Nat) (id : RegistryId) (world : World H U) : Prop where
  since_le : since ≤ world.events.length
  told : Event.replay (world.events.drop since) = (world.registry id).keySet

namespace Audited

variable {since : Nat} {id : RegistryId} {world : World H U}

theorem record (h : Audited since id world) {left : World H U} {event : Event}
    (hevents : left.events = world.events ++ [event])
    (hkeys : Event.audit (world.registry id).keySet event = (left.registry id).keySet) :
    Audited since id left := by
  constructor
  · rw [hevents, List.length_append]
    exact Nat.le_add_right_of_le h.since_le
  · rw [hevents, List.drop_append_of_le_length h.since_le, Event.replay_append_singleton, h.told,
      hkeys]

theorem aside (h : Audited since id world) {event : Event}
    (haside : ∀ keys, Event.audit keys event = keys) : Audited since id (world.record event) :=
  h.record (world.events_record event) (haside _)

theorem addTo (h : Audited since id world) (chain : ChainId) (advice : Advice H) :
    Audited since id (world.addTo chain advice) :=
  ⟨h.since_le, h.told⟩

theorem create (h : Audited since id world) (key : Key) :
    Audited since id (world.create id key).2 := by
  have hevents : (world.create id key).2.events = world.events ++ [.registered key] :=
    World.events_record ..
  apply h.record hevents
  rw [Event.audit_registered, registry_create, Registry.keySet_bind]

theorem register (h : Audited since id world) {key : Key} {left : World H U}
    (hleft : world.register id key = .ok left) : Audited since id left := by
  obtain ⟨-, -, rfl⟩ := World.register_eq_ok hleft
  exact h.create key

theorem obtain (h : Audited since id world) {key : Key} {made : ChainId × World H U}
    (hmade : world.obtain id key = .ok made) : Audited since id made.2 := by
  rw [World.obtain] at hmade
  split at hmade
  · cases hmade
  · split at hmade
    · cases hmade
      exact h
    · cases hmade
      exact h.create key

theorem addAdvice (h : Audited since id world) {registry : RegistryId} {key : Key}
    {advice : Advice H} {left : World H U}
    (hleft : world.addAdvice registry key advice = .ok left) : Audited since id left := by
  rw [World.addAdvice] at hleft
  split at hleft
  · cases hleft
  · cases hleft
    exact (h.aside fun keys => Event.audit_addingAdvice keys key advice).addTo _ advice

theorem unregister (h : Audited since id world) (key : Key) :
    Audited since id (world.unregister id key) := by
  rw [World.unregister]
  split
  · have hevents : ((world.setRegistry id ((world.registry id).erase key)).record
        (.unregistered key)).events = world.events ++ [.unregistered key] := World.events_record ..
    apply h.record hevents
    rw [Event.audit_unregistered, registry_record, registry_setRegistry, if_pos rfl,
      Registry.keySet_erase]
  · exact h

theorem attach (h : Audited since id world) (key : Key) (advice : Advice H) :
    Audited since id (world.attach ⟨id, key⟩ advice).2 := by
  have hrecord := h.aside fun keys => Event.audit_attachingAdvice keys key advice
  rw [World.attach]
  split
  · exact hrecord
  · next chain left hmade => exact (hrecord.obtain hmade).addTo chain advice

theorem clear (h : Audited since id world) (hempty : (world.registry id).keys = []) :
    Audited since id (world.clear id) := by
  refine ⟨h.since_le, ?_⟩
  rw [keySet_clear, ← Registry.keySet_eq_empty_iff.mpr hempty]
  exact h.told

theorem operate (h : Audited since id world) {operation : Operation H} (hon : operation.On id)
    (hclear : operation = .clear id → (world.registry id).keys = []) :
    Audited since id (world.operate operation) := by
  cases operation with
  | register registry key =>
      obtain rfl : registry = id := hon
      rw [World.operate]
      split
      · exact h
      · next left hleft => exact h.register hleft
  | obtain registry key =>
      obtain rfl : registry = id := hon
      rw [World.operate]
      split
      · exact h
      · next chain left hmade => exact h.obtain hmade
  | addAdvice registry key advice =>
      rw [World.operate]
      split
      · exact h
      · next left hleft => exact h.addAdvice hleft
  | unregister registry key =>
      obtain rfl : registry = id := hon
      exact h.unregister key
  | clear registry =>
      obtain rfl : registry = id := hon
      exact h.clear (hclear rfl)
  | newChain => exact ⟨h.since_le, h.told⟩
  | add chain advice => exact h.addTo chain advice
  | attach builder advice =>
      obtain ⟨registry, key⟩ := builder
      obtain rfl : registry = id := hon
      exact h.attach key advice

end Audited

theorem audited_operateAll {since : Nat} {id : RegistryId} {world : World H U}
    (h : Audited since id world) {operations : List (Operation H)}
    (hon : ∀ operation ∈ operations, operation.On id)
    (hclear : ∀ done, done ++ [.clear id] <+: operations →
      ((world.operateAll done).registry id).keys = []) :
    Audited since id (world.operateAll operations) := by
  induction operations using List.reverseRecOn with
  | nil => exact h
  | append_singleton operations operation ih =>
      obtain ⟨hearlier, hlast⟩ := List.forall_mem_append.mp hon
      have hdone := ih hearlier fun done hdone => hclear done (hdone.trans (List.prefix_append _ _))
      rw [operateAll_append_singleton]
      apply hdone.operate (List.forall_mem_singleton.mp hlast)
      rintro rfl
      exact hclear operations (List.prefix_refl _)

/--
From an empty registry on, the events tell at every point which keys are registered if and only if
each time the registry is cleared it is empty already.
-/
theorem replay_agrees_iff {world : World H U} {id : RegistryId}
    (hempty : (world.registry id).keys = []) {operations : List (Operation H)}
    (hon : ∀ operation ∈ operations, operation.On id) :
    (∀ done, done <+: operations →
      Event.replay ((world.operateAll done).events.drop world.events.length) =
        ((world.operateAll done).registry id).keys.toFinset) ↔
    ∀ done, done ++ [.clear id] <+: operations →
      ((world.operateAll done).registry id).keys = [] := by
  have hstart : Audited world.events.length id world := by
    refine ⟨Nat.le_refl _, ?_⟩
    rw [List.drop_length, Registry.keySet_eq_empty_iff.mpr hempty]
    rfl
  constructor
  · intro htold done hdone
    -- Clearing adds no event, so what was told before it is told of the empty registry.
    have hbefore := htold done ((List.prefix_append _ _).trans hdone)
    have hafter := htold (done ++ [.clear id]) hdone
    rw [operateAll_append_singleton] at hafter
    exact Registry.keySet_eq_empty_iff.mp
      (hbefore.symm.trans (hafter.trans (keySet_clear (world.operateAll done) id)))
  · intro hclear done hdone
    have hearlier : ∀ operation ∈ done, operation.On id := fun operation hmem =>
      hon operation (hdone.subset hmem)
    exact (audited_operateAll hstart hearlier fun before hbefore =>
      hclear before (hbefore.trans hdone)).told

theorem replay_agrees_about_empty_clear :
    let world : World Habit Unit := .new ()
    let operations : List (Operation Habit) :=
      [.clear 0, .attach ⟨0, ⟨"f"⟩⟩ ⟨.before, 0, "check", ⟨id, .done⟩⟩, .obtain 0 ⟨"f"⟩,
        .register 0 ⟨"g"⟩, .unregister 0 ⟨"f"⟩]
    (world.registry 0).keys = [] ∧ (∀ operation ∈ operations, operation.On 0) ∧
      ∀ done, done <+: operations →
        Event.replay ((world.operateAll done).events.drop world.events.length) =
          ((world.operateAll done).registry 0).keys.toFinset := by
  intro world operations
  have hempty : (world.registry 0).keys = [] := List.mergeSort_nil
  have hon : ∀ operation ∈ operations, operation.On 0 := by
    simp [operations, Operation.On]
  refine ⟨hempty, hon, (replay_agrees_iff hempty hon).mpr ?_⟩
  intro done hdone
  cases done with
  | nil => exact hempty
  | cons first done =>
      have hlater := ((List.cons_prefix_cons.mp hdone).2).subset
        (List.mem_append_right _ (List.mem_singleton_self _))
      simp at hlater

theorem cleared_key_stays_in_replay :
    let world : World Habit Unit := .new ()
    let operations : List (Operation Habit) := [.register 0 ⟨"f"⟩, .clear 0]
    (world.registry 0).keys = [] ∧ (∀ operation ∈ operations, operation.On 0) ∧
      Event.replay ((world.operateAll operations).events.drop world.events.length) = {⟨"f"⟩} ∧
      ((world.operateAll operations).registry 0).keys = [] := by
  refine ⟨List.mergeSort_nil, by simp [Operation.On], ?_, List.mergeSort_nil⟩
  decide +kernel

end World

end Intercept
