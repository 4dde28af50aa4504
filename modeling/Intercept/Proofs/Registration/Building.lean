import Intercept.Proofs.Registration.Refinement

/-!
# Builders in the words of a registry

What is asked of a builder comes to a registration of its key, be it refused because the key is bound,
and advice added under the key.  A registry that is set up with builders, among requests of its own and
to its chains, ends where these requests alone would have brought it, but for the journal:
`builders_act_as_requests`.
-/

namespace Intercept

variable {H U : Type}

/-! ## Setting up with builders -/

/-- A step in setting up a registry.  Builders are known by their keys, since copies share the key. -/
inductive Setup (H : Type) where
  | ask (key : Key) (request : World.Builder.Request H)
  | serve (request : Request H)

def World.Builder.Request.spelled (key : Key) : World.Builder.Request H → List (Intercept.Request H)
  | .copy => []
  | .prepared advice => [.register key, .addAdvice key advice]
  | .plain phase handler =>
    [.register key, .addAdvice key ⟨phase, 0, Advice.anonymous, handler⟩]
  | .ranked phase priority handler =>
    [.register key, .addAdvice key ⟨phase, priority, Advice.anonymous, handler⟩]

def Setup.spelled : Setup H → List (Request H)
  | .ask key request => request.spelled key
  | .serve request => [request]

namespace Client

def ask (key : Key) (request : World.Builder.Request H) (client : Client H U) :
    Response H × Client H U :=
  match client.world.build ⟨client.registry, key⟩ request with
  | (some payload, world) => (.unwound payload, client.leave world)
  | (none, world) => (.done, client.leave world)

def setUp (client : Client H U) : Setup H → Client H U
  | .ask key request => (client.ask key request).2
  | .serve request => (client.serve request).2

def setUpAll (client : Client H U) (steps : List (Setup H)) : Client H U :=
  steps.foldl setUp client

/-! ## Clients with other journals -/

def withJournal (client : Client H U) (journal : Journal) : Client H U :=
  client.leave { client.world with journal }

def Echoes (client other : Client H U) : Prop :=
  ∃ journal, other = client.withJournal journal

theorem Echoes.refl (client : Client H U) : client.Echoes client :=
  ⟨client.world.journal, rfl⟩

theorem serve_withJournal (client : Client H U) (journal : Journal) (request : Request H) :
    ((client.withJournal journal).serve request).1 = (client.serve request).1 ∧
      (client.serve request).2.Echoes ((client.withJournal journal).serve request).2 := by
  -- Answers rest on the bindings, the chains and the handles, and those are the same on both sides.
  have hfind : ∀ key, (client.withJournal journal).find? key = client.find? key := fun _ => rfl
  have hhandles : (client.withJournal journal).handles = client.handles := rfl
  have hkeep : client.Echoes (client.withJournal journal) := ⟨journal, rfl⟩
  cases request with
  | register key =>
      rw [serve_register, serve_register, hfind]
      split
      · exact ⟨rfl, hkeep⟩
      · cases client.find? key with
        | some chain => exact ⟨rfl, hkeep⟩
        | none => exact ⟨rfl, _, rfl⟩
  | obtain key =>
      rw [serve_obtain, serve_obtain, hfind]
      split
      · exact ⟨rfl, hkeep⟩
      · cases client.find? key with
        | some chain => exact ⟨rfl, _, rfl⟩
        | none => exact ⟨rfl, _, rfl⟩
  | addAdvice key advice =>
      rw [serve_addAdvice, serve_addAdvice, hfind]
      split
      · exact ⟨rfl, hkeep⟩
      · cases client.find? key with
        | some chain => exact ⟨rfl, _, rfl⟩
        | none => exact ⟨rfl, hkeep⟩
  | lookup key =>
      rw [serve_lookup, serve_lookup, hfind]
      split
      · exact ⟨rfl, hkeep⟩
      · cases client.find? key with
        | some chain => exact ⟨rfl, _, rfl⟩
        | none => exact ⟨rfl, hkeep⟩
  | unregister key =>
      have hcontains : ((client.withJournal journal).world.registry
          (client.withJournal journal).registry).contains key =
        (client.world.registry client.registry).contains key := rfl
      simp only [serve, World.unregister, hcontains, true_and]
      split
      · exact ⟨_, rfl⟩
      · exact hkeep
  | add handle advice =>
      simp only [serve, hhandles]
      cases client.handles[handle]? with
      | none => exact ⟨rfl, hkeep⟩
      | some chain => exact ⟨rfl, _, rfl⟩
  | bucket handle phase =>
      simp only [serve, hhandles]
      cases client.handles[handle]? <;> exact ⟨rfl, hkeep⟩
  | isSame handle other =>
      simp only [serve, hhandles]
      cases client.handles[handle]? with
      | none => exact ⟨rfl, hkeep⟩
      | some chain => cases client.handles[other]? <;> exact ⟨rfl, hkeep⟩
  | isRegistered key => exact ⟨rfl, hkeep⟩
  | clear => exact ⟨rfl, _, rfl⟩
  | count => exact ⟨rfl, hkeep⟩
  | adviceCount key => exact ⟨rfl, hkeep⟩
  | keys => exact ⟨rfl, hkeep⟩

theorem Echoes.serve {client other : Client H U} (h : client.Echoes other) (request : Request H) :
    (other.serve request).1 = (client.serve request).1 ∧
      (client.serve request).2.Echoes (other.serve request).2 := by
  obtain ⟨journal, rfl⟩ := h
  exact client.serve_withJournal journal request

theorem Echoes.serveAll {client other : Client H U} (h : client.Echoes other)
    (requests : List (Request H)) :
    (serveAll Client.serve requests client).1 = (serveAll Client.serve requests other).1 ∧
      (serveAll Client.serve requests client).2.Echoes (serveAll Client.serve requests other).2 :=
  serveAll_rel (fun request _ _ h => ⟨(h.serve request).1.symm, (h.serve request).2⟩) requests h

theorem Echoes.trans {client other third : Client H U} (h : client.Echoes other)
    (h' : other.Echoes third) : client.Echoes third := by
  obtain ⟨journal, rfl⟩ := h
  obtain ⟨journal', rfl⟩ := h'
  exact ⟨journal', rfl⟩

/-! ## One request to a builder -/

theorem find?_create (client : Client H U) (key : Key) :
    (client.leave (client.world.create client.registry key).2).find? key =
      some client.world.chains.size := by
  rw [find?, leave, World.registry_create, Registry.find?_bind, if_pos rfl]

section

variable {client : Client H U} {key : Key} {request : World.Builder.Request H} {advice : Advice H}

theorem ask_of_copy (h : request.advice? = none) : client.ask key request = (.done, client) := by
  simp only [ask, World.build, h]
  rfl

theorem ask_of_advice (h : request.advice? = some advice) :
    client.ask key request =
      let announced := client.world.record (.attachingAdvice key advice)
      if key = .empty then
        (.unwound (.ofText Registry.Refusal.emptyKeyText), client.leave announced)
      else
        match client.find? key with
        | some chain => (.done, client.leave (announced.addTo chain advice))
        | none =>
          (.done, client.leave
            ((announced.create client.registry key).2.addTo client.world.chains.size advice)) := by
  simp only [ask, World.build, h, World.attach, World.obtain, Key.isEmpty_iff, find?,
    World.registry_record]
  by_cases hkey : key = .empty
  · simp only [if_pos hkey]
  · simp only [if_neg hkey]
    cases (client.world.registry client.registry).find? key <;> rfl

theorem spelled_of_advice (h : request.advice? = some advice) :
    request.spelled key = [.register key, .addAdvice key advice] := by
  cases request <;> cases h <;> rfl

theorem spelled_of_copy (h : request.advice? = none) : request.spelled key = [] := by
  cases request <;> cases h
  rfl

end

theorem echoes_ask (client : Client H U) (key : Key) (request : World.Builder.Request H) :
    (client.ask key request).2.Echoes
      (Intercept.serveAll Client.serve (request.spelled key) client).2 := by
  cases hadvice : request.advice? with
  | none =>
      rw [ask_of_copy hadvice, spelled_of_copy hadvice]
      exact .refl client
  | some advice =>
      -- With an empty key both requests are refused.  Otherwise the key is bound when the second one
      -- comes, to the chain that the builder finds or makes.
      rw [ask_of_advice hadvice, spelled_of_advice hadvice, serveAll_cons, serveAll_cons]
      by_cases hkey : key = .empty
      · rw [serve_register, if_pos hkey, serve_addAdvice, if_pos hkey]
        simp only [if_pos hkey]
        exact ⟨client.world.journal, rfl⟩
      · rw [serve_register, if_neg hkey, serve_addAdvice, if_neg hkey]
        simp only [if_neg hkey]
        cases hfind : client.find? key with
        | some chain =>
            simp only [hfind]
            exact ⟨_, rfl⟩
        | none =>
            simp only [client.find?_create]
            exact ⟨_, rfl⟩

/-! ## Setting up -/

theorem Echoes.setUp {client other : Client H U} (h : client.Echoes other) (step : Setup H) :
    (client.setUp step).Echoes (Intercept.serveAll Client.serve step.spelled other).2 := by
  cases step with
  | ask key request => exact (client.echoes_ask key request).trans (h.serveAll _).2
  | serve request => exact (h.serve request).2

theorem Echoes.setUpAll {client other : Client H U} (h : client.Echoes other)
    (steps : List (Setup H)) :
    (client.setUpAll steps).Echoes
      (Intercept.serveAll Client.serve (steps.flatMap Setup.spelled) other).2 := by
  induction steps generalizing client other with
  | nil => exact h
  | cons step steps ih =>
      rw [List.flatMap_cons, serveAll_append]
      exact ih (h.setUp step)

/-- The clients see the same bindings and the same advice, hold the same chains, and will be answered
alike. -/
structure Mirrors (client other : Client H U) : Prop where
  registry : client.registry = other.registry
  entries : ∀ id, (client.world.registry id).entries = (other.world.registry id).entries
  handles : client.handles = other.handles
  buckets : ∀ chain phase,
    (client.world.chain chain).bucket phase = (other.world.chain chain).bucket phase
  answers : ∀ requests,
    (Intercept.serveAll serve requests client).1 = (Intercept.serveAll serve requests other).1

theorem Echoes.mirrors {client other : Client H U} (h : client.Echoes other) :
    client.Mirrors other := by
  have hanswers := fun requests => (h.serveAll requests).1
  obtain ⟨journal, rfl⟩ := h
  exact ⟨rfl, fun _ => rfl, rfl, fun _ _ => rfl, hanswers⟩

theorem ask_fst (client : Client H U) (key : Key) (request : World.Builder.Request H) :
    (client.ask key request).1 =
      if key = .empty ∧ request.advice?.isSome then
        .unwound (.ofText "function key cannot be empty")
      else .done := by
  cases hadvice : request.advice? with
  | none => simp [ask_of_copy hadvice]
  | some advice =>
      rw [ask_of_advice hadvice]
      by_cases hkey : key = .empty
      · simp [hkey, Registry.Refusal.emptyKeyText]
      · cases hfind : client.find? key <;> simp [hkey]

theorem echoes_ask_empty (client : Client H U) (request : World.Builder.Request H) :
    client.Echoes (client.ask .empty request).2 := by
  cases hadvice : request.advice? with
  | none =>
      rw [ask_of_copy hadvice]
      exact .refl client
  | some advice =>
      rw [ask_of_advice hadvice]
      exact ⟨_, rfl⟩

theorem serve_register_addAdvice (client : Client H U) (key : NonemptyKey) (advice : Advice H) :
    ((client.serve (.register key.val)).1 = .done ∨
        (client.serve (.register key.val)).1 = .refused (.duplicateKey key.val)) ∧
      ((client.serve (.register key.val)).2.serve (.addAdvice key.val advice)).1 = .done := by
  rw [serve_register, if_neg key.property]
  cases hfind : client.find? key.val with
  | some chain =>
      refine ⟨.inr rfl, ?_⟩
      simp only [serve_addAdvice, if_neg key.property, hfind]
  | none =>
      refine ⟨.inl rfl, ?_⟩
      simp only [serve_addAdvice, if_neg key.property, client.find?_create]

end Client

/-- Builders act on a registry as its own requests do. -/
theorem builders_act_as_requests (client : Client H U) (steps : List (Setup H)) :
    let built := client.setUpAll steps
    let plain := (serveAll Client.serve (steps.flatMap Setup.spelled) client).2
    built.Mirrors plain ∧
      (∀ key request, (built.ask key request).1 =
        if key = .empty ∧ request.advice?.isSome then
          .unwound (.ofText "function key cannot be empty")
        else .done) ∧
      (∀ request, built.Mirrors (built.ask .empty request).2) ∧
      ∀ (key : NonemptyKey) (advice : Advice H),
        ((plain.serve (.register key.val)).1 = .done ∨
          (plain.serve (.register key.val)).1 = .refused (.duplicateKey key.val)) ∧
        ((plain.serve (.register key.val)).2.serve (.addAdvice key.val advice)).1 = .done := by
  intro built plain
  refine ⟨?_, built.ask_fst, ?_, plain.serve_register_addAdvice⟩
  · exact ((Client.Echoes.refl client).setUpAll steps).mirrors
  · exact fun request => (built.echoes_ask_empty request).mirrors

end Intercept
