import Intercept.Adapter
import Intercept.Proofs.Call.Indifference

/-!
# Worlds that differ in their pools

Twins are worlds that agree in everything but what their pools hold and by which policy they keep it.
Every operation of a world leaves twins and answers both alike.  So does every call, if its target and
the handlers in the world answer twins alike.
-/

namespace Intercept

variable {H U : Type}

inductive Agree {ε α : Type} (R : α → α → Prop) : Except ε α → Except ε α → Prop
  | error (e : ε) : Agree R (.error e) (.error e)
  | ok {a b : α} (h : R a b) : Agree R (.ok a) (.ok b)

theorem exists_answer {α β : Type} {R : β → β → Prop} {found found' : α × β}
    (h : found.1 = found'.1 ∧ R found.2 found'.2) :
    ∃ answer left left', found = (answer, left) ∧ found' = (answer, left') ∧ R left left' := by
  obtain ⟨answer, left⟩ := found
  obtain ⟨answer', left'⟩ := found'
  obtain ⟨rfl, hleft⟩ := h
  exact ⟨answer, left, left', rfl, rfl, hleft⟩

namespace World

/-- Every handler in the worlds satisfies `good`. -/
structure Twins (good : H → Prop) (same : U → U → Prop) (world other : World H U) : Prop where
  chains : world.chains = other.chains
  good : ∀ id, ∀ advice ∈ (world.chain id).advice, good advice.handler
  entries : ∀ id, (world.registry id).entries = (other.registry id).entries
  size : world.registries.size = other.registries.size
  cancelled : world.cancelled = other.cancelled
  clock : world.clock = other.clock
  journal : world.journal = other.journal
  extra : same world.extra other.extra

namespace Twins

variable {good : H → Prop} {same : U → U → Prop} {world other : World H U}

theorem chain (h : world.Twins good same other) (id : ChainId) : world.chain id = other.chain id := by
  rw [World.chain, World.chain, h.chains]

theorem moment (h : world.Twins good same other) : world.moment = other.moment := by
  rw [World.moment, World.moment, h.cancelled, h.clock]

theorem find? (h : world.Twins good same other) (id : RegistryId) (key : Key) :
    (world.registry id).find? key = (other.registry id).find? key := by
  rw [Registry.find?, Registry.find?, h.entries]

theorem record (h : world.Twins good same other) (event : Event) :
    (world.record event).Twins good same (other.record event) :=
  { h with journal := congrArg (·.record event) h.journal }

theorem cancel (h : world.Twins good same other) (token : Token) :
    (world.cancel token).Twins good same (other.cancel token) :=
  { h with cancelled := congrArg (token :: ·) h.cancelled }

/-! ## Chains -/

theorem addTo (h : world.Twins good same other) (id : ChainId) {advice : Advice H}
    (hadvice : good advice.handler) :
    (world.addTo id advice).Twins good same (other.addTo id advice) := by
  refine { h with chains := ?_, good := ?_ }
  · simp only [World.addTo, h.chain, h.chains]
  · intro id' held hmem
    rw [chain_addTo] at hmem
    split at hmem
    · rcases List.mem_append.mp hmem with hold | hnew
      · exact h.good id held hold
      · rw [List.mem_singleton.mp hnew]
        exact hadvice
    · exact h.good id' held hmem

theorem newChain (h : world.Twins good same other) :
    world.newChain.1 = other.newChain.1 ∧ world.newChain.2.Twins good same other.newChain.2 := by
  refine ⟨congrArg Store.size h.chains, { h with chains := ?_, good := ?_ }⟩
  · exact congrArg (·.push .empty) h.chains
  · intro id held hmem
    rw [chain_newChain] at hmem
    split at hmem
    · exact absurd hmem List.not_mem_nil
    · exact h.good id held hmem

/-! ## Registries -/

theorem setRegistry (h : world.Twins good same other) (id : RegistryId)
    {registry registry' : Registry} (hentries : registry.entries = registry'.entries) :
    (world.setRegistry id registry).Twins good same (other.setRegistry id registry') := by
  refine { h with entries := ?_, size := ?_ }
  · intro id'
    rw [registry_setRegistry, registry_setRegistry]
    split
    · exact hentries
    · exact h.entries id'
  · simp only [World.setRegistry, Store.size_set, h.size]

theorem newRegistry (h : world.Twins good same other) (policy policy' : Policy) :
    (world.newRegistry policy).1 = (other.newRegistry policy').1 ∧
      (world.newRegistry policy).2.Twins good same (other.newRegistry policy').2 := by
  have hother : (other.newRegistry policy').2 =
      other.setRegistry world.registries.size (.ofPolicy policy') := by
    rw [h.size]
    rfl
  refine ⟨h.size, ?_⟩
  rw [hother]
  exact h.setRegistry world.registries.size rfl

theorem setPool (h : world.Twins good same other) (id : RegistryId) (pool pool' : Pool) :
    (world.setPool id pool).Twins good same (other.setPool id pool') :=
  h.setRegistry id (h.entries id)

theorem acquire (h : world.Twins good same other) (id : RegistryId) (function : Key)
    (args : List Value) (signal : Signal) :
    (world.acquire id function args signal).1 = (other.acquire id function args signal).1 ∧
      (world.acquire id function args signal).2.Twins good same
        (other.acquire id function args signal).2 := by
  refine ⟨?_, h.setPool id _ _⟩
  rw [acquire_fst, acquire_fst]

theorem recycle (h : world.Twins good same other) (id : RegistryId) (frame : Frame) :
    (world.recycle id frame).Twins good same (other.recycle id frame) :=
  h.setPool id _ _

theorem lookup (h : world.Twins good same other) (id : RegistryId) (key : Key) :
    world.lookup id key = other.lookup id key := by
  rw [World.lookup, World.lookup, h.find?]

theorem contains (h : world.Twins good same other) (id : RegistryId) (key : Key) :
    (world.registry id).contains key = (other.registry id).contains key := by
  rw [Registry.contains, Registry.contains, h.find?]

theorem adviceCount (h : world.Twins good same other) (id : RegistryId) (key : Key) :
    world.adviceCount id key = other.adviceCount id key := by
  simp only [World.adviceCount, h.find?, h.chain]

theorem create (h : world.Twins good same other) (id : RegistryId) (key : Key) :
    (world.create id key).1 = (other.create id key).1 ∧
      (world.create id key).2.Twins good same (other.create id key).2 := by
  obtain ⟨hchain, hmade⟩ := h.newChain
  have hbind : ((world.newChain.2.registry id).bind key world.newChain.1).entries =
      ((other.newChain.2.registry id).bind key other.newChain.1).entries := by
    rw [Registry.bind, Registry.bind, hchain, hmade.entries]
  exact ⟨hchain, (hmade.setRegistry id hbind).record _⟩

theorem register (h : world.Twins good same other) (id : RegistryId) (key : Key) :
    Agree (Twins good same) (world.register id key) (other.register id key) := by
  rw [World.register, World.register, h.contains]
  split
  · exact .error _
  · split
    · exact .error _
    · exact .ok (h.create id key).2

theorem obtain (h : world.Twins good same other) (id : RegistryId) (key : Key) :
    Agree (fun left right => left.1 = right.1 ∧ left.2.Twins good same right.2)
      (world.obtain id key) (other.obtain id key) := by
  rw [World.obtain, World.obtain, h.find?]
  split
  · exact .error _
  · split
    · exact .ok ⟨rfl, h⟩
    · exact .ok (h.create id key)

theorem addAdvice (h : world.Twins good same other) (id : RegistryId) (key : Key)
    {advice : Advice H} (hadvice : good advice.handler) :
    Agree (Twins good same) (world.addAdvice id key advice) (other.addAdvice id key advice) := by
  rw [World.addAdvice, World.addAdvice, h.lookup]
  split
  · exact .error _
  · exact .ok ((h.record _).addTo _ hadvice)

theorem unregister (h : world.Twins good same other) (id : RegistryId) (key : Key) :
    (world.unregister id key).Twins good same (other.unregister id key) := by
  rw [World.unregister, World.unregister, h.contains]
  split
  · refine (h.setRegistry id ?_).record _
    simp only [Registry.erase, h.entries]
  · exact h

theorem clear (h : world.Twins good same other) (id : RegistryId) :
    (world.clear id).Twins good same (other.clear id) :=
  h.setRegistry id rfl

theorem attach (h : world.Twins good same other) (builder : Builder) {advice : Advice H}
    (hadvice : good advice.handler) :
    (world.attach builder advice).1 = (other.attach builder advice).1 ∧
      (world.attach builder advice).2.Twins good same (other.attach builder advice).2 := by
  have hrecord := h.record (.attachingAdvice builder.key advice)
  have hobtain := hrecord.obtain builder.registry builder.key
  simp only [World.attach]
  generalize (world.record (.attachingAdvice builder.key advice)).obtain builder.registry
    builder.key = left at hobtain ⊢
  generalize (other.record (.attachingAdvice builder.key advice)).obtain builder.registry
    builder.key = right at hobtain ⊢
  cases hobtain with
  | error payload => exact ⟨rfl, hrecord⟩
  | ok hsame =>
      obtain ⟨chain, left, left', rfl, rfl, hleft⟩ := exists_answer hsame
      exact ⟨rfl, hleft.addTo chain hadvice⟩

/-! ## Calls -/

section

variable {handle : Handle H U}

theorem indifference (hhandle : ∀ handler, good handler → Blind (Twins good same) handle handler) :
    Indifference (Twins good same) handle where
  moment h := h.moment
  record h := h.record
  chain h := h.chain
  advice h id advice hmem := hhandle advice.handler (h.good id advice hmem)

theorem invoke (h : world.Twins good same other)
    (hhandle : Indifference (Twins good same) handle) {target : Target H U}
    (htarget : target.Blind (Twins good same)) (registry : RegistryId) (key : Key)
    (args : List Value) (signal : Signal) :
    (invoke handle registry key args signal target world).Like (Twins good same)
      (invoke handle registry key args signal target other) := by
  have hacquired := (h.acquire registry key args signal).2
  cases hlookup : world.lookup registry key with
  | ok chain =>
      rw [invoke_of_lookup hlookup, invoke_of_lookup ((h.lookup registry key).symm.trans hlookup)]
      exact hhandle.runAdvised chain key htarget _ hacquired
  | error refusal =>
      rw [invoke_of_refusal hlookup,
        invoke_of_refusal ((h.lookup registry key).symm.trans hlookup)]
      exact hhandle.runDirect key htarget _ hacquired

end

end Twins

end World

/-! ## Functions under advice -/

/-- The function answers alike in worlds that are alike, and leaves them so. -/
def PlainFunction.Blind (alike : World H U → World H U → Prop) (function : PlainFunction H U) :
    Prop :=
  ∀ ⦃world other⦄, alike world other → ∀ args,
    (function args world).1 = (function args other).1 ∧
      alike (function args world).2 (function args other).2

def FallibleFunction.Blind (alike : World H U → World H U → Prop) (function : FallibleFunction H U) :
    Prop :=
  ∀ ⦃world other⦄, alike world other → ∀ args,
    (function args world).1 = (function args other).1 ∧
      alike (function args world).2 (function args other).2

section

variable {good : H → Prop} {same : U → U → Prop} {handle : Handle H U}

theorem PlainFunction.Blind.target {function : PlainFunction H U}
    (h : function.Blind (World.Twins good same)) (args : List Value) :
    (function.target args).Blind (World.Twins good same) := by
  intro world other hworld frame
  obtain ⟨answer, left, left', hended, hended', hleft⟩ := exists_answer (h hworld args)
  simp only [PlainFunction.target, hended, hended']
  cases answer with
  | error payload => exact ⟨rfl, rfl, hleft⟩
  | ok value => exact Landing.like_ofResult hleft 0 value frame

theorem FallibleFunction.Blind.target {function : FallibleFunction H U}
    (h : function.Blind (World.Twins good same)) (args : List Value) :
    (function.target args).Blind (World.Twins good same) := by
  intro world other hworld frame
  obtain ⟨answer, left, left', hended, hended', hleft⟩ := exists_answer (h hworld args)
  simp only [FallibleFunction.target, hended, hended']
  cases answer with
  | value value => exact Landing.like_ofResult hleft 0 value frame
  | failed cause => exact ⟨rfl, rfl, hleft⟩
  | unwound payload => exact ⟨rfl, rfl, hleft⟩

theorem PlainFunction.Blind.wrap {function : PlainFunction H U}
    (h : function.Blind (World.Twins good same))
    (hhandle : Indifference (World.Twins good same) handle) (registry : RegistryId) (key : Key)
    (kind : Kind) : (function.wrap handle registry key kind).Blind (World.Twins good same) := by
  intro world other hworld args
  obtain ⟨houtcome, hleft⟩ := hworld.invoke hhandle (h.target args) registry key args .never
  rw [PlainFunction.wrap, PlainFunction.wrap]
  cases hended : (invoke handle registry key args .never (function.target args) world).outcome with
  | unwound payload =>
      rw [settle_of_unwound hended, settle_of_unwound (houtcome.symm.trans hended)]
      exact ⟨rfl, hleft⟩
  | returned frame =>
      rw [settle_of_returned hended, settle_of_returned (houtcome.symm.trans hended)]
      exact ⟨rfl, hleft.recycle registry .blank⟩

theorem FallibleFunction.Blind.wrap {function : FallibleFunction H U}
    (h : function.Blind (World.Twins good same))
    (hhandle : Indifference (World.Twins good same) handle) (registry : RegistryId) (key : Key)
    (kind : Kind) : (function.wrap handle registry key kind).Blind (World.Twins good same) := by
  intro world other hworld args
  obtain ⟨houtcome, hleft⟩ := hworld.invoke hhandle (h.target args) registry key args .never
  rw [FallibleFunction.wrap, FallibleFunction.wrap]
  cases hended : (invoke handle registry key args .never (function.target args) world).outcome with
  | unwound payload =>
      rw [settle_of_unwound hended, settle_of_unwound (houtcome.symm.trans hended)]
      exact ⟨rfl, hleft⟩
  | returned frame =>
      rw [settle_of_returned hended, settle_of_returned (houtcome.symm.trans hended)]
      exact ⟨rfl, hleft.recycle registry .blank⟩

end

end Intercept
