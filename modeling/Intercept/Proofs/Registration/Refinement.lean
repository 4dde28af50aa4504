import Intercept.Proofs.Registration.Ledger

/-!
# Registries keep their ledger

A registry and those who hold its chains, next to the ledger of that registry: every request is
answered alike, and leaves the two as they were to each other.
-/

namespace Intercept

variable {H U : Type}

/-! ## Clients -/

/-- Somebody who uses a registry, with the chains that were handed out, in this order. -/
structure Client (H U : Type) where
  world : World H U
  registry : RegistryId
  handles : List ChainId

namespace Client

def start (world : World H U) (policy : Policy) : Client H U :=
  let (registry, world) := world.newRegistry policy
  ⟨world, registry, []⟩

def find? (client : Client H U) (key : Key) : Option ChainId :=
  (client.world.registry client.registry).find? key

def leave (client : Client H U) (world : World H U) : Client H U :=
  { client with world }

def hand (client : Client H U) (chain : ChainId) : Client H U :=
  { client with handles := client.handles ++ [chain] }

def serve (request : Request H) (client : Client H U) : Response H × Client H U :=
  match request with
  | .register key =>
    match client.world.register client.registry key with
    | .error refusal => (.refused refusal, client)
    | .ok world => (.done, client.leave world)
  | .obtain key =>
    match client.world.obtain client.registry key with
    | .error payload => (.unwound payload, client)
    | .ok (chain, world) => (.handed, (client.leave world).hand chain)
  | .addAdvice key advice =>
    match client.world.addAdvice client.registry key advice with
    | .error refusal => (.refused refusal, client)
    | .ok world => (.done, client.leave world)
  | .lookup key =>
    match client.world.lookup client.registry key with
    | .error refusal => (.refused refusal, client)
    | .ok chain => (.handed, client.hand chain)
  | .isRegistered key => (.truth ((client.world.registry client.registry).contains key), client)
  | .unregister key => (.done, client.leave (client.world.unregister client.registry key))
  | .clear => (.done, client.leave (client.world.clear client.registry))
  | .count => (.count (client.world.registry client.registry).size, client)
  | .adviceCount key => (.count (client.world.adviceCount client.registry key), client)
  | .keys => (.keys (client.world.registry client.registry).keys, client)
  | .add handle advice =>
    match client.handles[handle]? with
    | none => (.unknown, client)
    | some chain => (.done, client.leave (client.world.addTo chain advice))
  | .bucket handle phase =>
    match client.handles[handle]? with
    | none => (.unknown, client)
    | some chain => (.advice ((client.world.chain chain).bucket phase), client)
  | .isSame handle other =>
    match client.handles[handle]?, client.handles[other]? with
    | some chain, some chain' => (.truth (chain == chain'), client)
    | _, _ => (.unknown, client)

theorem serve_register (client : Client H U) (key : Key) :
    client.serve (.register key) =
      if key = .empty then (.refused .invalidKey, client)
      else
        match client.find? key with
        | some _ => (.refused (.duplicateKey key), client)
        | none => (.done, client.leave (client.world.create client.registry key).2) := by
  simp only [serve, World.register, Key.isEmpty_iff, find?]
  by_cases hkey : key = .empty
  · rw [if_pos hkey, if_pos hkey]
  · rw [if_neg hkey, if_neg hkey, Registry.contains]
    cases (client.world.registry client.registry).find? key <;> rfl

theorem serve_obtain (client : Client H U) (key : Key) :
    client.serve (.obtain key) =
      if key = .empty then (.unwound (.ofText Registry.Refusal.emptyKeyText), client)
      else
        match client.find? key with
        | some chain => (.handed, client.hand chain)
        | none =>
          let (chain, world) := client.world.create client.registry key
          (.handed, (client.leave world).hand chain) := by
  simp only [serve, World.obtain, Key.isEmpty_iff, find?]
  by_cases hkey : key = .empty
  · rw [if_pos hkey, if_pos hkey]
  · rw [if_neg hkey, if_neg hkey]
    cases (client.world.registry client.registry).find? key <;> rfl

theorem serve_lookup (client : Client H U) (key : Key) :
    client.serve (.lookup key) =
      if key = .empty then (.refused .invalidKey, client)
      else
        match client.find? key with
        | none => (.refused (.notRegistered key), client)
        | some chain => (.handed, client.hand chain) := by
  simp only [serve, World.lookup, Key.isEmpty_iff, find?]
  by_cases hkey : key = .empty
  · rw [if_pos hkey, if_pos hkey]
  · rw [if_neg hkey, if_neg hkey]
    cases (client.world.registry client.registry).find? key <;> rfl

theorem serve_addAdvice (client : Client H U) (key : Key) (advice : Advice H) :
    client.serve (.addAdvice key advice) =
      if key = .empty then (.refused .invalidKey, client)
      else
        match client.find? key with
        | none => (.refused (.notRegistered key), client)
        | some chain =>
          (.done,
            client.leave ((client.world.record (.addingAdvice key advice)).addTo chain advice)) := by
  simp only [serve, World.addAdvice, World.lookup, Key.isEmpty_iff, find?]
  by_cases hkey : key = .empty
  · rw [if_pos hkey, if_pos hkey]
  · rw [if_neg hkey, if_neg hkey]
    cases (client.world.registry client.registry).find? key <;> rfl

end Client

/-! ## Registries -/

theorem Key.compare_ne_gt_iff {a b : Key} : (a.compare b != .gt) = true ↔ a ≤ b := by
  have hle : a ≤ b ↔ ¬b.text < a.text := not_lt.symm
  rw [hle]
  rcases lt_trichotomy a.text b.text with hlt | heq | hgt
  · simp [compare, hlt, lt_asymm hlt]
  · simp [compare, heq]
  · simp [compare, hgt, lt_asymm hgt, hgt.ne']

theorem Registry.pairwise_keys (registry : Registry) : registry.keys.Pairwise (· ≤ ·) := by
  have htrans : ∀ a b c : Key, (a.compare b != .gt) = true → (b.compare c != .gt) = true →
      (a.compare c != .gt) = true := by
    intro a b c hab hbc
    rw [Key.compare_ne_gt_iff] at hab hbc ⊢
    exact hab.trans hbc
  have htotal : ∀ a b : Key, (a.compare b != .gt || b.compare a != .gt) = true := by
    intro a b
    rw [Bool.or_eq_true, Key.compare_ne_gt_iff, Key.compare_ne_gt_iff]
    exact le_total a b
  have hsorted := List.pairwise_mergeSort htrans htotal registry.entries.keys
  exact hsorted.imp Key.compare_ne_gt_iff.mp

/-! ## Chains -/

theorem Chain.size_eq_sum (chain : Chain H) :
    chain.size = (Phase.all.map fun phase => (chain.bucket phase).length).sum := by
  obtain ⟨advice⟩ := chain
  induction advice with
  | nil => rfl
  | cons first advice ih =>
      simp only [size, bucket, Phase.all, List.map_cons, List.map_nil, List.sum_cons, List.sum_nil,
        List.filter_cons, List.length_cons] at ih ⊢
      cases first.phase <;> simp [ih] <;> omega

/-! ## Worlds -/

namespace World

theorem chains_unregister (world : World H U) (id : RegistryId) (key : Key) :
    (world.unregister id key).chains = world.chains := by
  rw [unregister]
  split <;> rfl

theorem find?_unregister (world : World H U) (id : RegistryId) (key other : Key) :
    ((world.unregister id key).registry id).find? other =
      if other = key then none else (world.registry id).find? other := by
  rw [unregister]
  split
  · rw [registry_record, registry_setRegistry, if_pos rfl, Registry.find?_erase]
  · next habsent =>
      split
      · next hsame =>
          rw [hsame]
          exact Option.not_isSome_iff_eq_none.mp habsent
      · rfl

end World

theorem World.distinct_unregister {world : World H U} {id : RegistryId}
    (h : (world.registry id).entries.Distinct) (key : Key) :
    ((world.unregister id key).registry id).entries.Distinct := by
  rw [World.unregister]
  split
  · rw [World.registry_record, World.registry_setRegistry, if_pos rfl]
    exact h.erase key
  · exact h

/-! ## The relation -/

/-- The ledger tells what the client sees, with the chains counted from `base` on. -/
structure Refines (base : Nat) (client : Client H U) (ledger : Ledger H) : Prop where
  find? : ∀ key, client.find? key = (ledger.find? key).map (base + ·)
  distinct : (client.world.registry client.registry).entries.Distinct
  size : client.world.chains.size = base + ledger.made
  formed : ledger.Formed
  held : ∀ chain < ledger.made, ∀ phase,
    (client.world.chain (base + chain)).bucket phase = ledger.held chain phase
  handles : client.handles = ledger.handles.map (base + ·)

theorem refines_empty (world : World H U) (policy : Policy) :
    Refines world.chains.size (Client.start world policy) .empty := by
  have hregistry : (Client.start world policy).world.registry (Client.start world policy).registry =
      .ofPolicy policy := Store.get_push_size ..
  constructor
  · intro key
    rw [Client.find?, hregistry, Ledger.find?_empty]
    rfl
  · rw [hregistry]
    exact Table.distinct_empty
  · rfl
  · exact Ledger.formed_empty
  · intro chain hlt
    cases hlt
  · rfl

namespace Refines

variable {base : Nat} {client : Client H U} {ledger : Ledger H}

theorem find?_registry (h : Refines base client ledger) (key : Key) :
    (client.world.registry client.registry).find? key = (ledger.find? key).map (base + ·) :=
  h.find? key

theorem record (h : Refines base client ledger) (event : Event) :
    Refines base (client.leave (client.world.record event)) ledger :=
  ⟨h.find?, h.distinct, h.size, h.formed, h.held, h.handles⟩

theorem hand (h : Refines base client ledger) {chain : Nat} (hchain : chain < ledger.made) :
    Refines base (client.hand (base + chain)) (ledger.hand chain) := by
  refine ⟨h.find?, h.distinct, h.size, h.formed.hand hchain, h.held, ?_⟩
  rw [Client.hand, Ledger.hand, h.handles, List.map_append]
  rfl

theorem add (h : Refines base client ledger) {chain : Nat} (hchain : chain < ledger.made)
    (advice : Advice H) :
    Refines base (client.leave (client.world.addTo (base + chain) advice))
      (ledger.add chain advice) := by
  refine ⟨h.find?, h.distinct, ?_, h.formed.add hchain advice, ?_, h.handles⟩
  · have hsize := h.size
    simp only [Client.leave, World.addTo, Store.size_set, Ledger.add]
    omega
  · intro other hother phase
    rw [Client.leave, World.chain_addTo, Ledger.add]
    by_cases hsame : other = chain
    · subst hsame
      rw [if_pos rfl, Chain.bucket_add, h.held other hother]
      simp
    · have hnumber : base + other ≠ base + chain := by omega
      rw [if_neg hnumber, h.held other hother]
      simp [hsame]

theorem create (h : Refines base client ledger) (key : NonemptyKey) :
    (client.world.create client.registry key).1 = base + ledger.made ∧
      Refines base (client.leave (client.world.create client.registry key).2)
        (ledger.create key) := by
  have hregistry := client.world.registry_create client.registry key.val
  refine ⟨h.size, ?_, ?_, ?_, h.formed.create key, ?_, h.handles⟩
  · intro other
    rw [Client.find?, Client.leave, hregistry, Registry.find?_bind, Ledger.find?_create,
      h.find?_registry, h.size]
    split <;> rfl
  · rw [Client.leave, hregistry]
    exact h.distinct.insert key.val _
  · have hsize := h.size
    simp only [Client.leave, World.size_create, Ledger.create]
    omega
  · intro chain hchain phase
    rw [Client.leave, World.chain_create, h.size]
    by_cases hnew : chain = ledger.made
    · rw [hnew, if_pos rfl, Ledger.held_create]
      rfl
    · have hnumber : base + chain ≠ base + ledger.made := by omega
      have hold : chain < ledger.made := Nat.lt_of_le_of_ne (Nat.le_of_lt_succ hchain) hnew
      rw [if_neg hnumber, Ledger.held_create_of_ne ledger key hnew, h.held chain hold]

theorem rebind (h : Refines base client ledger) {left : World H U} {next : Ledger H}
    (hchains : left.chains = client.world.chains)
    (hfind : ∀ key, (left.registry client.registry).find? key =
      (next.find? key).map (base + ·))
    (hdistinct : (left.registry client.registry).entries.Distinct) (hmade : next.made = ledger.made)
    (hheld : next.held = ledger.held) (hhandles : next.handles = ledger.handles)
    (hformed : next.Formed) :
    Refines base (client.leave left) next := by
  have hchain : ∀ chain, left.chain chain = client.world.chain chain :=
    fun chain => congrArg (·.get chain) hchains
  refine ⟨hfind, hdistinct, ?_, hformed, ?_, ?_⟩
  · rw [Client.leave, hchains, hmade]
    exact h.size
  · intro chain hlt phase
    rw [hmade] at hlt
    rw [Client.leave, hchain, hheld]
    exact h.held chain hlt phase
  · rw [hhandles]
    exact h.handles

theorem erase (h : Refines base client ledger) (key : Key) :
    Refines base (client.leave (client.world.unregister client.registry key))
      (ledger.erase key) := by
  refine h.rebind (World.chains_unregister ..) ?_ (World.distinct_unregister h.distinct key)
    (ledger.made_erase key) (ledger.held_erase key) (ledger.handles_erase key)
    (h.formed.erase key)
  intro other
  rw [World.find?_unregister, Ledger.find?_erase, h.find?_registry]
  split <;> rfl

theorem clear (h : Refines base client ledger) :
    Refines base (client.leave (client.world.clear client.registry)) ledger.clear := by
  have hregistry : (client.world.clear client.registry).registry client.registry =
      (client.world.registry client.registry).clear := by
    rw [World.clear, World.registry_setRegistry, if_pos rfl]
  refine h.rebind rfl ?_ ?_ rfl rfl rfl h.formed.clear
  · intro key
    rw [hregistry, Registry.find?_clear, Ledger.find?_clear]
    rfl
  · rw [hregistry]
    exact Table.distinct_empty

/-! ## Answers -/

theorem keys (h : Refines base client ledger) :
    (client.world.registry client.registry).keys = ledger.keys := by
  have hnodup : (client.world.registry client.registry).keys.Nodup :=
    (List.mergeSort_perm _ _).nodup_iff.mpr h.distinct
  have hmem : ∀ key, key ∈ (client.world.registry client.registry).keys ↔ key ∈ ledger.keys := by
    intro key
    rw [Registry.keys, (List.mergeSort_perm _ _).mem_iff, Table.mem_keys_iff, ← Registry.find?,
      h.find?_registry, Option.isSome_map, Ledger.mem_keys]
  have hperm := (List.perm_ext_iff_of_nodup hnodup (Finset.sort_nodup _ _)).mpr hmem
  exact hperm.eq_of_pairwise' (Registry.pairwise_keys _) (Finset.pairwise_sort _ _)

theorem count (h : Refines base client ledger) :
    (client.world.registry client.registry).size = ledger.bindings.keys.card := by
  rw [← Ledger.length_keys, ← h.keys, Registry.keys, List.length_mergeSort, Table.length_keys,
    Registry.size]

theorem contains (h : Refines base client ledger) (key : Key) :
    (client.world.registry client.registry).contains key = (ledger.find? key).isSome := by
  rw [Registry.contains, h.find?_registry, Option.isSome_map]

theorem adviceCount (h : Refines base client ledger) (key : Key) :
    client.world.adviceCount client.registry key = (ledger.find? key).elim 0 ledger.adviceCount := by
  rw [World.adviceCount, h.find?_registry]
  cases hkey : ledger.find? key with
  | none => rfl
  | some chain =>
      have hheld := h.held chain (h.formed.bound key chain hkey)
      simp only [Option.map_some, Option.elim_some, Chain.size_eq_sum, hheld, Ledger.adviceCount]

theorem serve_register (h : Refines base client ledger) (key : Key) :
    (client.serve (.register key)).1 = (ledger.serve (.register key)).1 ∧
      Refines base (client.serve (.register key)).2 (ledger.serve (.register key)).2 := by
  rw [Client.serve_register, Ledger.serve, h.find?]
  split
  · exact ⟨rfl, h⟩
  · next hkey =>
      cases ledger.find? key with
      | none => exact ⟨rfl, (h.create ⟨key, hkey⟩).2⟩
      | some chain => exact ⟨rfl, h⟩

theorem serve_obtain (h : Refines base client ledger) (key : Key) :
    (client.serve (.obtain key)).1 = (ledger.serve (.obtain key)).1 ∧
      Refines base (client.serve (.obtain key)).2 (ledger.serve (.obtain key)).2 := by
  rw [Client.serve_obtain, Ledger.serve, h.find?]
  split
  · exact ⟨rfl, h⟩
  · next hkey =>
      cases hbound : ledger.find? key with
      | none =>
          obtain ⟨hchain, hcreated⟩ := h.create ⟨key, hkey⟩
          have hhanded := hcreated.hand (Nat.lt_succ_self ledger.made)
          rw [← hchain] at hhanded
          exact ⟨rfl, hhanded⟩
      | some chain => exact ⟨rfl, h.hand (h.formed.bound key chain hbound)⟩

theorem serve_addAdvice (h : Refines base client ledger) (key : Key) (advice : Advice H) :
    (client.serve (.addAdvice key advice)).1 = (ledger.serve (.addAdvice key advice)).1 ∧
      Refines base (client.serve (.addAdvice key advice)).2
        (ledger.serve (.addAdvice key advice)).2 := by
  rw [Client.serve_addAdvice, Ledger.serve, h.find?]
  split
  · exact ⟨rfl, h⟩
  · cases hbound : ledger.find? key with
    | none => exact ⟨rfl, h⟩
    | some chain => exact ⟨rfl, (h.record _).add (h.formed.bound key chain hbound) advice⟩

theorem serve_lookup (h : Refines base client ledger) (key : Key) :
    (client.serve (.lookup key)).1 = (ledger.serve (.lookup key)).1 ∧
      Refines base (client.serve (.lookup key)).2 (ledger.serve (.lookup key)).2 := by
  rw [Client.serve_lookup, Ledger.serve, h.find?]
  split
  · exact ⟨rfl, h⟩
  · cases hbound : ledger.find? key with
    | none => exact ⟨rfl, h⟩
    | some chain => exact ⟨rfl, h.hand (h.formed.bound key chain hbound)⟩

theorem getElem?_handles (h : Refines base client ledger) (handle : Nat) :
    client.handles[handle]? = ledger.handles[handle]?.map (base + ·) := by
  rw [h.handles, List.getElem?_map]

theorem lt_made (h : Refines base client ledger) {handle chain : Nat}
    (hchain : ledger.handles[handle]? = some chain) : chain < ledger.made :=
  h.formed.handed chain (List.mem_of_getElem? hchain)

/-- Every request is answered as the ledger answers it, and the ledger goes on telling what the
client sees. -/
theorem serve (h : Refines base client ledger) (request : Request H) :
    (client.serve request).1 = (ledger.serve request).1 ∧
      Refines base (client.serve request).2 (ledger.serve request).2 := by
  cases request with
  | register key => exact h.serve_register key
  | obtain key => exact h.serve_obtain key
  | addAdvice key advice => exact h.serve_addAdvice key advice
  | lookup key => exact h.serve_lookup key
  | isRegistered key =>
      exact ⟨congrArg Response.truth (h.contains key), h⟩
  | unregister key => exact ⟨rfl, h.erase key⟩
  | clear => exact ⟨rfl, h.clear⟩
  | count => exact ⟨congrArg Response.count h.count, h⟩
  | adviceCount key => exact ⟨congrArg Response.count (h.adviceCount key), h⟩
  | keys => exact ⟨congrArg Response.keys h.keys, h⟩
  | add handle advice =>
      simp only [Client.serve, Ledger.serve, h.getElem?_handles]
      cases hchain : ledger.handles[handle]? with
      | none => exact ⟨rfl, h⟩
      | some chain => exact ⟨rfl, h.add (h.lt_made hchain) advice⟩
  | bucket handle phase =>
      simp only [Client.serve, Ledger.serve, h.getElem?_handles]
      cases hchain : ledger.handles[handle]? with
      | none => exact ⟨rfl, h⟩
      | some chain => exact ⟨congrArg Response.advice (h.held chain (h.lt_made hchain) phase), h⟩
  | isSame handle other =>
      simp only [Client.serve, Ledger.serve, h.getElem?_handles]
      cases ledger.handles[handle]? with
      | none => exact ⟨rfl, h⟩
      | some chain =>
          cases ledger.handles[other]? with
          | none => exact ⟨rfl, h⟩
          | some chain' =>
              have hsame : (base + chain == base + chain') = (chain == chain') := by
                rw [Bool.eq_iff_iff, beq_iff_eq, beq_iff_eq, Nat.add_left_cancel_iff]
              exact ⟨congrArg Response.truth hsame, h⟩

end Refines

end Intercept
