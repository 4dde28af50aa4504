import Intercept.Proofs.Registration.Refinement
import Intercept.Proofs.Registration.Serving

/-!
# What a registry is faithful to

Any requests, from a new registry on, are answered as its ledger answers them:
`registry_refines_ledger`.  What that comes to for the clients of the registry is told in their own
terms: which requests are turned down, which chain a handle stands for, what becomes of chains that
lost their key, and what a chain holds.
-/

namespace Intercept

variable {H U : Type}

def Response.Failed : Response H → Prop
  | .refused _ => True
  | .unwound _ => True
  | _ => False

namespace Client

/-- What is turned down, and that nothing changes by it. -/
structure Exact (client : Client H U) : Prop where
  register : ∀ key refusal, (client.serve (.register key)).1 = .refused refusal ↔
    key = .empty ∧ refusal = .invalidKey ∨
      (client.find? key).isSome ∧ refusal = .duplicateKey key
  addAdvice : ∀ key advice refusal,
    (client.serve (.addAdvice key advice)).1 = .refused refusal ↔
      key = .empty ∧ refusal = .invalidKey ∨
        key ≠ .empty ∧ client.find? key = none ∧ refusal = .notRegistered key
  lookup : ∀ key refusal, (client.serve (.lookup key)).1 = .refused refusal ↔
    key = .empty ∧ refusal = .invalidKey ∨
      key ≠ .empty ∧ client.find? key = none ∧ refusal = .notRegistered key
  obtain : ∀ key payload, (client.serve (.obtain key)).1 = .unwound payload ↔
    key = .empty ∧ payload = .ofText Registry.Refusal.emptyKeyText
  unchanged : ∀ request, (client.serve request).1.Failed → (client.serve request).2 = client

/-- Which chains the keys and the handles stand for, whatever is asked later. -/
structure Faithful (client : Client H U) : Prop where
  kept : ∀ key chain, client.find? key = some chain →
    ∀ later, (∀ request ∈ later, ¬request.Removes key) →
      (serveAll serve later client).2.find? key = some chain
  handles : ∀ later, client.handles <+: (serveAll serve later client).2.handles
  /-- What is handed out is the chain of the key. -/
  handed : ∀ key, ∀ request ∈ [Request.obtain key, .lookup key],
    (client.serve request).1 = .handed →
      ∃ chain, (client.serve request).2.find? key = some chain ∧
        (client.serve request).2.handles = client.handles ++ [chain]
  fresh : ∀ key, key ≠ .empty → client.find? key = none →
    ∀ request ∈ [Request.register key, .obtain key],
      ∃ chain, (client.serve request).2.find? key = some chain ∧
        (∀ phase, ((client.serve request).2.world.chain chain).bucket phase = []) ∧
        chain ∉ client.handles ∧ ∀ other, client.find? other ≠ some chain
  /-- A chain loses its only key when that is removed. -/
  released : ∀ key chain, client.find? key = some chain → ∀ request, request.Removes key →
    ∀ other, (client.serve request).2.find? other ≠ some chain
  /-- A chain that no key is bound to is not bound again. -/
  stale : ∀ (handle : Nat) chain, client.handles[handle]? = some chain →
    (∀ key, client.find? key ≠ some chain) →
      ∀ later key, (serveAll serve later client).2.find? key ≠ some chain
  /-- What is added to such a chain shows only when the chain itself is asked for it. -/
  unseen : ∀ (handle : Nat) chain, client.handles[handle]? = some chain →
    (∀ key, client.find? key ≠ some chain) →
      ∀ advice later, (∀ request ∈ later, ¬request.Reads client.handles chain) →
        (serveAll serve later (client.serve (.add handle advice)).2).1 =
          (serveAll serve later client).1

def addition (request : Request H) (client : Client H U) : Option (ChainId × Advice H) :=
  request.addition client.find? client.handles

/-- The chains within reach hold what was added to them, in this order. -/
structure Records (client : Client H U) (additions : List (ChainId × Advice H)) : Prop where
  bound : ∀ key chain, client.find? key = some chain → ∀ phase,
    (client.world.chain chain).bucket phase =
      (addedTo chain additions).filter (·.phase == phase)
  handed : ∀ chain ∈ client.handles, ∀ phase,
    (client.world.chain chain).bucket phase =
      (addedTo chain additions).filter (·.phase == phase)
  adviceCount : ∀ key, client.world.adviceCount client.registry key =
    (client.find? key).elim 0 fun chain => (addedTo chain additions).length

/-! ## Requests that are turned down -/

variable {client : Client H U}

theorem serve_failed {request : Request H} (hfailed : (client.serve request).1.Failed) :
    (client.serve request).2 = client := by
  cases request with
  | register key =>
      cases hresult : client.world.register client.registry key with
      | error refusal => simp only [serve, hresult]
      | ok world =>
          simp only [serve, hresult] at hfailed
          cases hfailed
  | obtain key =>
      cases hresult : client.world.obtain client.registry key with
      | error payload => simp only [serve, hresult]
      | ok found =>
          simp only [serve, hresult] at hfailed
          cases hfailed
  | addAdvice key advice =>
      cases hresult : client.world.addAdvice client.registry key advice with
      | error refusal => simp only [serve, hresult]
      | ok world =>
          simp only [serve, hresult] at hfailed
          cases hfailed
  | lookup key =>
      cases hresult : client.world.lookup client.registry key with
      | error refusal => simp only [serve, hresult]
      | ok chain =>
          simp only [serve, hresult] at hfailed
          cases hfailed
  | add handle advice =>
      cases hhandle : client.handles[handle]? with
      | none => simp only [serve, hhandle]
      | some chain =>
          simp only [serve, hhandle] at hfailed
          cases hfailed
  | bucket handle phase =>
      simp only [serve]
      split <;> rfl
  | isSame handle other =>
      simp only [serve]
      split <;> rfl
  | unregister key => cases hfailed
  | clear => cases hfailed
  | _ => rfl

theorem exact_of_empty (hempty : client.find? .empty = none) : client.Exact := by
  have hbound : ∀ {key chain}, client.find? key = some chain → key ≠ .empty := by
    rintro key chain hfind rfl
    rw [hempty] at hfind
    cases hfind
  refine ⟨?_, ?_, ?_, ?_, ?_⟩
  · intro key refusal
    rw [serve_register]
    by_cases hkey : key = .empty
    · simp [hkey, hempty, eq_comm]
    · cases hfind : client.find? key with
      | none => simp [hkey]
      | some chain => simp [hkey, eq_comm]
  · intro key advice refusal
    rw [serve_addAdvice]
    by_cases hkey : key = .empty
    · simp [hkey, eq_comm]
    · cases hfind : client.find? key with
      | none => simp [hkey, eq_comm]
      | some chain => simp [hkey]
  · intro key refusal
    rw [serve_lookup]
    by_cases hkey : key = .empty
    · simp [hkey, eq_comm]
    · cases hfind : client.find? key with
      | none => simp [hkey, eq_comm]
      | some chain => simp [hkey]
  · intro key payload
    rw [serve_obtain]
    by_cases hkey : key = .empty
    · simp [hkey, eq_comm]
    · cases hfind : client.find? key with
      | none => simp [hkey]
      | some chain => simp [hkey]
  · exact fun request hfailed => serve_failed hfailed

/-! ## Chains and what they hold -/

end Client

namespace Refines

variable {base : Nat} {client : Client H U} {ledger : Ledger H}

theorem serveAll (h : Refines base client ledger) (requests : List (Request H)) :
    (serveAll Client.serve requests client).1 = (serveAll Ledger.serve requests ledger).1 ∧
      Refines base (serveAll Client.serve requests client).2
        (serveAll Ledger.serve requests ledger).2 :=
  serveAll_rel (fun request _ _ h => h.serve request) requests h

theorem exact (h : Refines base client ledger) : client.Exact := by
  apply Client.exact_of_empty
  rw [h.find?, Ledger.find?, dif_pos rfl]
  rfl

theorem exists_find? (h : Refines base client ledger) {key : Key} {chain : ChainId}
    (hfind : client.find? key = some chain) :
    ∃ number, ledger.find? key = some number ∧ chain = base + number := by
  rw [h.find?] at hfind
  obtain ⟨number, hnumber, heq⟩ := Option.map_eq_some_iff.mp hfind
  exact ⟨number, hnumber, heq.symm⟩

theorem exists_unbound (h : Refines base client ledger) {handle : Nat} {chain : ChainId}
    (hhandle : client.handles[handle]? = some chain)
    (hunbound : ∀ key, client.find? key ≠ some chain) :
    ∃ number, ledger.handles[handle]? = some number ∧ chain = base + number ∧
      ledger.Unbound number := by
  rw [h.getElem?_handles] at hhandle
  obtain ⟨number, hnumber, rfl⟩ := Option.map_eq_some_iff.mp hhandle
  refine ⟨number, hnumber, rfl, h.lt_made hnumber, fun key hfind => ?_⟩
  apply hunbound key
  rw [h.find?, hfind]
  rfl

theorem fresh (h : Refines base client ledger) {key : Key} (hkey : key ≠ .empty)
    (hfree : client.find? key = none) {request : Request H}
    (hmem : request ∈ [Request.register key, .obtain key]) :
    ∃ chain, (client.serve request).2.find? key = some chain ∧
      (∀ phase, ((client.serve request).2.world.chain chain).bucket phase = []) ∧
      chain ∉ client.handles ∧ ∀ other, client.find? other ≠ some chain := by
  obtain ⟨-, hcreated⟩ := h.create ⟨key, hkey⟩
  have hfind := hcreated.find? key
  rw [Ledger.find?_create, if_pos rfl] at hfind
  have hblank : ∀ phase, ((client.world.create client.registry key).2.chain
      (base + ledger.made)).bucket phase = [] :=
    fun phase => (hcreated.held ledger.made (Nat.lt_succ_self _) phase).trans
      (ledger.held_create _ phase)
  have hhandles : base + ledger.made ∉ client.handles := by
    rw [h.handles]
    intro hmem
    obtain ⟨number, hnumber, heq⟩ := List.mem_map.mp hmem
    exact Nat.ne_of_lt (h.formed.handed number hnumber) (Nat.add_left_cancel heq)
  have hunbound : ∀ other, client.find? other ≠ some (base + ledger.made) := by
    intro other hother
    obtain ⟨number, hnumber, heq⟩ := h.exists_find? hother
    exact Nat.ne_of_gt (h.formed.bound other number hnumber) (Nat.add_left_cancel heq)
  refine ⟨base + ledger.made, ?_⟩
  rcases List.mem_pair.mp hmem with rfl | rfl
  · rw [Client.serve_register, if_neg hkey, hfree]
    exact ⟨hfind, hblank, hhandles, hunbound⟩
  · rw [Client.serve_obtain, if_neg hkey, hfree]
    exact ⟨hfind, hblank, hhandles, hunbound⟩

theorem handed (h : Refines base client ledger) {key : Key} {request : Request H}
    (hmem : request ∈ [Request.obtain key, .lookup key])
    (hresponse : (client.serve request).1 = .handed) :
    ∃ chain, (client.serve request).2.find? key = some chain ∧
      (client.serve request).2.handles = client.handles ++ [chain] := by
  rcases List.mem_pair.mp hmem with rfl | rfl
  · rw [Client.serve_obtain] at hresponse ⊢
    split at hresponse
    · cases hresponse
    · next hkey =>
        rw [if_neg hkey]
        cases hfind : client.find? key with
        | none =>
            obtain ⟨hchain, hcreated⟩ := h.create ⟨key, hkey⟩
            refine ⟨base + ledger.made, ?_, congrArg (client.handles ++ [·]) hchain⟩
            refine (hcreated.find? key).trans ?_
            rw [Ledger.find?_create, if_pos rfl]
            rfl
        | some chain => exact ⟨chain, hfind, rfl⟩
  · rw [Client.serve_lookup] at hresponse ⊢
    split at hresponse
    · cases hresponse
    · next hkey =>
        rw [if_neg hkey]
        cases hfind : client.find? key with
        | none =>
            rw [hfind] at hresponse
            cases hresponse
        | some chain => exact ⟨chain, hfind, rfl⟩

theorem faithful (h : Refines base client ledger) : client.Faithful where
  kept key chain hbound later hkept := by
    obtain ⟨number, hnumber, rfl⟩ := h.exists_find? hbound
    rw [(h.serveAll later).2.find?, Ledger.find?_serveAll hnumber hkept]
    rfl
  handles later := by
    rw [h.handles, (h.serveAll later).2.handles]
    exact (Ledger.handles_serveAll ledger later).map _
  handed key request hmem hresponse := h.handed hmem hresponse
  fresh key hkey hfree request hmem := h.fresh hkey hfree hmem
  released key chain hbound request hremoves other hother := by
    obtain ⟨number, hnumber, rfl⟩ := h.exists_find? hbound
    obtain ⟨found, hfound, heq⟩ := (h.serve request).2.exists_find? hother
    cases Nat.add_left_cancel heq
    exact (h.formed.unbound_of_removes hnumber hremoves).unbound other hfound
  stale handle chain hhandle hunbound later key hbound := by
    obtain ⟨number, -, rfl, hstale⟩ := h.exists_unbound hhandle hunbound
    obtain ⟨other, hother, heq⟩ := (h.serveAll later).2.exists_find? hbound
    cases Nat.add_left_cancel heq
    exact (hstale.serveAll later).unbound key hother
  unseen handle chain hhandle hunbound advice later hspared := by
    obtain ⟨number, hnumber, rfl, hstale⟩ := h.exists_unbound hhandle hunbound
    have hadded := (h.serve (.add handle advice)).2
    have hledger : (ledger.serve (.add handle advice)).2 = ledger.add number advice := by
      simp only [Ledger.serve, hnumber]
    rw [hledger] at hadded
    have hspared' : ∀ request ∈ later, ¬request.Reads ledger.handles number := by
      intro request hmem hreads
      apply hspared request hmem
      cases request with
      | bucket other phase =>
          refine (h.getElem?_handles other).trans ?_
          rw [Request.Reads] at hreads
          rw [hreads]
          rfl
      | _ => exact hreads
    rw [(hadded.serveAll later).1, (h.serveAll later).1]
    exact ((Ledger.Apart.of_add hstale advice).serveAll hspared').symm

/-! ## Additions -/

theorem addition (h : Refines base client ledger) (request : Request H) :
    Client.addition request client =
      (Ledger.addition request ledger).map (Prod.map (base + ·) id) := by
  cases request with
  | addAdvice key advice =>
      simp only [Client.addition, Ledger.addition, Request.addition, h.find?, Option.map_map]
      rfl
  | add handle advice =>
      simp only [Client.addition, Ledger.addition, Request.addition, h.getElem?_handles,
        Option.map_map]
      rfl
  | _ => rfl

theorem addedTo_map (base number : Nat) (additions : List (Nat × Advice H)) :
    addedTo (base + number) (additions.map (Prod.map (base + ·) id)) =
      addedTo number additions := by
  induction additions with
  | nil => rfl
  | cons first additions ih =>
      simp only [addedTo, List.map_cons, List.filter_cons] at ih ⊢
      by_cases hsame : first.1 = number
      · simp [hsame, ih]
      · simp [hsame, ih]

theorem records (h : Refines base client ledger) {additions : List (Nat × Advice H)}
    (hheld : ∀ number phase,
      ledger.held number phase = (addedTo number additions).filter (·.phase == phase)) :
    client.Records (additions.map (Prod.map (base + ·) id)) := by
  have hbucket : ∀ number < ledger.made, ∀ phase,
      (client.world.chain (base + number)).bucket phase =
        (addedTo (base + number) (additions.map (Prod.map (base + ·) id))).filter
          (·.phase == phase) := by
    intro number hnumber phase
    rw [h.held number hnumber, hheld, addedTo_map]
  have hcount : ∀ number, ledger.adviceCount number = (addedTo number additions).length := by
    intro number
    have hsize := Chain.size_eq_sum ⟨addedTo number additions⟩
    simp only [Ledger.adviceCount, hheld]
    exact hsize.symm
  refine ⟨?_, ?_, ?_⟩
  · intro key chain hbound
    obtain ⟨number, hnumber, rfl⟩ := h.exists_find? hbound
    exact hbucket number (h.formed.bound key number hnumber)
  · intro chain hmem
    rw [h.handles] at hmem
    obtain ⟨number, hnumber, rfl⟩ := List.mem_map.mp hmem
    exact hbucket number (h.formed.handed number hnumber)
  · intro key
    rw [h.adviceCount, h.find?]
    cases ledger.find? key with
    | none => rfl
    | some number =>
        simp only [Option.elim_some, Option.map_some, hcount, addedTo_map]

end Refines

/-- Whatever is asked of a new registry, and of the chains that it hands out, is answered as its
ledger answers it. -/
theorem registry_refines_ledger (world : World H U) (policy : Policy)
    (requests : List (Request H)) :
    let client := Client.start world policy
    let reached := (serveAll Client.serve requests client).2
    (serveAll Client.serve requests client).1 = (serveAll Ledger.serve requests .empty).1 ∧
      reached.Exact ∧ reached.Faithful ∧
      reached.Records (collectAll Client.serve Client.addition requests client) := by
  intro client reached
  have hstart := refines_empty world policy
  obtain ⟨hresponses, hreached⟩ := hstart.serveAll requests
  refine ⟨hresponses, hreached.exact, hreached.faithful, ?_⟩
  have hadditions : collectAll Client.serve Client.addition requests client =
      (collectAll Ledger.serve Ledger.addition requests .empty).map
        (Prod.map (world.chains.size + ·) id) :=
    collectAll_rel (fun request _ _ h => (h.serve request).2)
      (fun request _ _ h => h.addition request) requests hstart
  rw [hadditions]
  exact hreached.records (Ledger.held_serveAll Ledger.formed_empty requests)

end Intercept
