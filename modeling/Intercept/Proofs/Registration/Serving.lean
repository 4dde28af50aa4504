import Intercept.Proofs.Registration.Ledger

/-!
# What requests leave of a ledger

Keys stay bound until they are removed, chains that no key is bound to stay so and are out of sight
of the registry, and a chain holds what was added to it.
-/

namespace Intercept.Ledger

variable {H : Type}

def addition (request : Request H) (ledger : Ledger H) : Option (Nat × Advice H) :=
  request.addition ledger.find? ledger.handles

inductive Served (ledger : Ledger H) (request : Request H) : Ledger H → Prop
  | unchanged (silent : ledger.addition request = none) : Served ledger request ledger
  | created {key : NonemptyKey} (free : ledger.find? key = none)
      (silent : ledger.addition request = none) : Served ledger request (ledger.create key)
  | obtained {key : NonemptyKey} (free : ledger.find? key = none)
      (silent : ledger.addition request = none) :
      Served ledger request ((ledger.create key).hand ledger.made)
  | handed {key : Key} {chain : Nat} (bound : ledger.find? key = some chain)
      (silent : ledger.addition request = none) : Served ledger request (ledger.hand chain)
  | added {chain : Nat} {advice : Advice H} (adds : ledger.addition request = some (chain, advice)) :
      Served ledger request (ledger.add chain advice)
  | erased {key : Key} (removes : ∀ other, ¬request.Removes other → other ≠ key)
      (silent : ledger.addition request = none) : Served ledger request (ledger.erase key)
  | cleared (removes : ∀ key, request.Removes key) (silent : ledger.addition request = none) :
      Served ledger request ledger.clear

theorem served (ledger : Ledger H) (request : Request H) :
    ledger.Served request (ledger.serve request).2 := by
  cases request with
  | register key =>
      simp only [serve]
      split
      · exact .unchanged rfl
      · split
        · exact .unchanged rfl
        · exact .created (by assumption) rfl
  | obtain key =>
      simp only [serve]
      split
      · exact .unchanged rfl
      · split
        · exact .handed (by assumption) rfl
        · exact .obtained (by assumption) rfl
  | addAdvice key advice =>
      simp only [serve]
      split
      · next hempty =>
          exact .unchanged (by simp [addition, Request.addition, find?, hempty])
      · split
        · next hfree => exact .unchanged (by simp [addition, Request.addition, hfree])
        · next chain hbound => exact .added (by simp [addition, Request.addition, hbound])
  | lookup key =>
      simp only [serve]
      split
      · exact .unchanged rfl
      · split
        · exact .unchanged rfl
        · exact .handed (by assumption) rfl
  | unregister key => exact .erased (fun other hkept hsame => hkept hsame.symm) rfl
  | clear => exact .cleared (fun key => trivial) rfl
  | add handle advice =>
      simp only [serve]
      split
      · next hunknown => exact .unchanged (by simp [addition, Request.addition, hunknown])
      · next chain hchain => exact .added (by simp [addition, Request.addition, hchain])
  | bucket handle phase =>
      simp only [serve]
      split
      · exact .unchanged rfl
      · exact .unchanged rfl
  | isSame handle other =>
      simp only [serve]
      split
      · exact .unchanged rfl
      · exact .unchanged rfl
  | _ => exact .unchanged rfl

variable {ledger next other : Ledger H} {request : Request H} {requests : List (Request H)}
  {key : Key} {chain : Nat}

theorem Served.find? (h : ledger.Served request next) (hbound : ledger.find? key = some chain)
    (hkept : ¬request.Removes key) : next.find? key = some chain := by
  have hother : ∀ {other : NonemptyKey}, ledger.find? other = none → key ≠ other.val := by
    rintro other hfree rfl
    rw [hfree] at hbound
    cases hbound
  cases h with
  | unchanged silent => exact hbound
  | created free silent => rw [find?_create, if_neg (hother free), hbound]
  | obtained free silent => rw [find?_hand, find?_create, if_neg (hother free), hbound]
  | handed bound silent => exact hbound
  | added adds => exact hbound
  | erased removes silent => rw [find?_erase, if_neg (removes key hkept), hbound]
  | cleared removes silent => exact absurd (removes key) hkept

theorem find?_serveAll (hbound : ledger.find? key = some chain)
    (hkept : ∀ request ∈ requests, ¬request.Removes key) :
    (serveAll serve requests ledger).2.find? key = some chain :=
  serveAll_invariant (Q := fun ledger : Ledger H => ledger.find? key = some chain)
    (fun request hmem ledger hbound => (ledger.served request).find? hbound (hkept request hmem))
    hbound

theorem Served.handles (h : ledger.Served request next) : ledger.handles <+: next.handles := by
  cases h with
  | obtained free silent => exact List.prefix_append _ _
  | handed bound silent => exact List.prefix_append _ _
  | erased removes silent => rw [handles_erase]
  | _ => exact List.prefix_rfl

theorem handles_serveAll (ledger : Ledger H) (requests : List (Request H)) :
    ledger.handles <+: (serveAll serve requests ledger).2.handles :=
  serveAll_invariant (Q := fun next : Ledger H => ledger.handles <+: next.handles)
    (fun request _ next h => h.trans (next.served request).handles) List.prefix_rfl

/-! ## Chains that no key is bound to -/

/-- The chain was made, and no key is bound to it. -/
structure Unbound (ledger : Ledger H) (chain : Nat) : Prop where
  made : chain < ledger.made
  unbound : ∀ key, ledger.find? key ≠ some chain

theorem Formed.unbound_of_removes (h : ledger.Formed) (hbound : ledger.find? key = some chain)
    (hremoves : request.Removes key) : (ledger.serve request).2.Unbound chain := by
  cases request with
  | unregister other =>
      obtain rfl : other = key := hremoves
      refine ⟨?_, fun found hfound => ?_⟩
      · simp only [serve, made_erase]
        exact h.bound other chain hbound
      · simp only [serve, find?_erase] at hfound
        split at hfound
        · cases hfound
        · next hother => exact hother (h.alone found other chain hfound hbound)
  | clear =>
      refine ⟨h.bound key chain hbound, fun found hfound => ?_⟩
      simp only [serve, find?_clear] at hfound
      cases hfound
  | _ => cases hremoves

theorem Served.unbound (h : ledger.Served request next) (hunbound : ledger.Unbound chain) :
    next.Unbound chain := by
  have hcreate : ∀ key, (ledger.create key).Unbound chain := by
    intro key
    refine ⟨Nat.lt_succ_of_lt hunbound.made, fun other => ?_⟩
    rw [find?_create]
    split
    · exact fun hsame => Nat.ne_of_gt hunbound.made (Option.some.inj hsame)
    · exact hunbound.unbound other
  cases h with
  | unchanged silent => exact hunbound
  | created free silent => exact hcreate _
  | @obtained key free silent => exact ⟨(hcreate key).made, (hcreate key).unbound⟩
  | handed bound silent => exact ⟨hunbound.made, hunbound.unbound⟩
  | added adds => exact ⟨hunbound.made, hunbound.unbound⟩
  | @erased key removes silent =>
      refine ⟨?_, fun other => ?_⟩
      · rw [made_erase]
        exact hunbound.made
      · rw [find?_erase]
        split
        · exact (Option.some_ne_none chain).symm
        · exact hunbound.unbound other
  | cleared removes silent =>
      refine ⟨hunbound.made, fun other => ?_⟩
      rw [find?_clear]
      exact (Option.some_ne_none chain).symm

theorem Unbound.serveAll (h : ledger.Unbound chain) (requests : List (Request H)) :
    (serveAll serve requests ledger).2.Unbound chain :=
  serveAll_invariant (Q := fun ledger : Ledger H => ledger.Unbound chain)
    (fun request _ ledger hunbound => (ledger.served request).unbound hunbound) h

theorem Served.handed_before (h : ledger.Served request next) (hunbound : ledger.Unbound chain)
    {handle : Nat} (hhandle : next.handles[handle]? = some chain) :
    ledger.handles[handle]? = some chain := by
  have hhand : ∀ {given}, given ≠ chain → (ledger.handles ++ [given])[handle]? = some chain →
      ledger.handles[handle]? = some chain := by
    intro given hother hgiven
    rcases lt_or_ge handle ledger.handles.length with hold | hnew
    · rwa [List.getElem?_append_left hold] at hgiven
    · rw [List.getElem?_append_right hnew] at hgiven
      exact absurd (List.mem_singleton.mp (List.mem_of_getElem? hgiven)).symm hother
  cases h with
  | obtained free silent => exact hhand (Nat.ne_of_gt hunbound.made) hhandle
  | @handed key given bound silent =>
      refine hhand ?_ hhandle
      rintro rfl
      exact hunbound.unbound key bound
  | erased removes silent => rwa [handles_erase] at hhandle
  | _ => exact hhandle

/-- The ledgers differ at most in what one chain holds, to which no key is bound. -/
structure Apart (chain : Nat) (ledger other : Ledger H) : Prop where
  unbound : ledger.Unbound chain
  bindings : other.bindings = ledger.bindings
  made : other.made = ledger.made
  handles : other.handles = ledger.handles
  held : ∀ kept, kept ≠ chain → other.held kept = ledger.held kept

namespace Apart

theorem of_add (h : ledger.Unbound chain) (advice : Advice H) :
    Apart chain ledger (ledger.add chain advice) := by
  refine ⟨h, rfl, rfl, rfl, fun kept hkept => ?_⟩
  funext phase
  exact if_neg fun hsame => hkept hsame.1

theorem find? (h : Apart chain ledger other) (key : Key) :
    other.find? key = ledger.find? key := by
  rw [Ledger.find?, Ledger.find?, h.bindings]

theorem adviceCount (h : Apart chain ledger other) {kept : Nat} (hkept : kept ≠ chain) :
    other.adviceCount kept = ledger.adviceCount kept := by
  rw [Ledger.adviceCount, Ledger.adviceCount, h.held kept hkept]

theorem create (h : Apart chain ledger other) (key : NonemptyKey)
    (hunbound : (ledger.create key).Unbound chain) :
    Apart chain (ledger.create key) (other.create key) := by
  refine ⟨hunbound, ?_, congrArg (· + 1) h.made, h.handles, fun kept hkept => ?_⟩
  · simp only [Ledger.create, h.bindings, h.made]
  · simp only [Ledger.create, Function.update_apply, h.made, h.held kept hkept]

theorem hand (h : Apart chain ledger other) (given : Nat) :
    Apart chain (ledger.hand given) (other.hand given) :=
  ⟨⟨h.unbound.made, h.unbound.unbound⟩, h.bindings, h.made, congrArg (· ++ [given]) h.handles,
    h.held⟩

theorem add (h : Apart chain ledger other) (given : Nat) (advice : Advice H) :
    Apart chain (ledger.add given advice) (other.add given advice) := by
  refine ⟨⟨h.unbound.made, h.unbound.unbound⟩, h.bindings, h.made, h.handles, fun kept hkept => ?_⟩
  simp only [Ledger.add, h.held kept hkept]

theorem erase (h : Apart chain ledger other) (key : Key)
    (hunbound : (ledger.erase key).Unbound chain) :
    Apart chain (ledger.erase key) (other.erase key) := by
  refine ⟨hunbound, ?_, ?_, ?_, ?_⟩
  · rw [Ledger.erase, Ledger.erase]
    split
    · exact h.bindings
    · simp only [h.bindings]
  · rw [made_erase, made_erase, h.made]
  · rw [handles_erase, handles_erase, h.handles]
  · rw [held_erase, held_erase]
    exact h.held

/-- Only those who ask what the chain holds can tell the ledgers apart. -/
theorem serve (h : Apart chain ledger other) (hspared : ¬request.Reads ledger.handles chain) :
    (ledger.serve request).1 = (other.serve request).1 ∧
      Apart chain (ledger.serve request).2 (other.serve request).2 := by
  have hunbound := (ledger.served request).unbound h.unbound
  cases request with
  | register key =>
      simp only [Ledger.serve, h.find?] at hunbound ⊢
      split
      · exact ⟨rfl, h⟩
      · next hkey =>
          rw [dif_neg hkey] at hunbound
          cases hfind : ledger.find? key with
          | none =>
              rw [hfind] at hunbound
              exact ⟨rfl, h.create ⟨key, hkey⟩ hunbound⟩
          | some bound => exact ⟨rfl, h⟩
  | obtain key =>
      simp only [Ledger.serve, h.find?] at hunbound ⊢
      split
      · exact ⟨rfl, h⟩
      · next hkey =>
          rw [dif_neg hkey] at hunbound
          cases hfind : ledger.find? key with
          | none =>
              rw [hfind] at hunbound
              rw [h.made]
              exact ⟨rfl, (h.create ⟨key, hkey⟩ ⟨hunbound.made, hunbound.unbound⟩).hand _⟩
          | some bound => exact ⟨rfl, h.hand bound⟩
  | addAdvice key advice =>
      simp only [Ledger.serve, h.find?]
      split
      · exact ⟨rfl, h⟩
      · cases ledger.find? key with
        | none => exact ⟨rfl, h⟩
        | some bound => exact ⟨rfl, h.add bound advice⟩
  | lookup key =>
      simp only [Ledger.serve, h.find?]
      split
      · exact ⟨rfl, h⟩
      · cases ledger.find? key with
        | none => exact ⟨rfl, h⟩
        | some bound => exact ⟨rfl, h.hand bound⟩
  | isRegistered key =>
      simp only [Ledger.serve, h.find?]
      exact ⟨trivial, h⟩
  | unregister key => exact ⟨rfl, h.erase key hunbound⟩
  | clear => exact ⟨rfl, hunbound, rfl, h.made, h.handles, h.held⟩
  | count =>
      simp only [Ledger.serve, h.bindings]
      exact ⟨trivial, h⟩
  | adviceCount key =>
      simp only [Ledger.serve, h.find?]
      cases hfind : ledger.find? key with
      | none => exact ⟨rfl, h⟩
      | some bound =>
          have hother : bound ≠ chain := by
            rintro rfl
            exact h.unbound.unbound key hfind
          exact ⟨congrArg Response.count (h.adviceCount hother).symm, h⟩
  | keys =>
      simp only [Ledger.serve, Ledger.keys, h.bindings]
      exact ⟨trivial, h⟩
  | add handle advice =>
      simp only [Ledger.serve, h.handles]
      cases ledger.handles[handle]? with
      | none => exact ⟨rfl, h⟩
      | some given => exact ⟨rfl, h.add given advice⟩
  | bucket handle phase =>
      simp only [Ledger.serve, h.handles]
      cases hhandle : ledger.handles[handle]? with
      | none => exact ⟨rfl, h⟩
      | some given =>
          have hother : given ≠ chain := by
            rintro rfl
            exact hspared hhandle
          exact ⟨congrArg Response.advice (congrFun (h.held given hother) phase).symm, h⟩
  | isSame handle other =>
      simp only [Ledger.serve, h.handles]
      split <;> exact ⟨rfl, h⟩

theorem serveAll (h : Apart chain ledger other)
    (hspared : ∀ request ∈ requests, ¬request.Reads ledger.handles chain) :
    (serveAll Ledger.serve requests ledger).1 = (serveAll Ledger.serve requests other).1 := by
  induction requests generalizing ledger other with
  | nil => rfl
  | cons request requests ih =>
      obtain ⟨hfirst, hrest⟩ := List.forall_mem_cons.mp hspared
      obtain ⟨hresponse, hnext⟩ := h.serve hfirst
      have hspared' : ∀ later ∈ requests,
          ¬later.Reads (ledger.serve request).2.handles chain := by
        intro later hmem hreads
        apply hrest later hmem
        cases later with
        | bucket handle phase => exact (ledger.served request).handed_before h.unbound hreads
        | _ => exact hreads
      rw [serveAll_cons, serveAll_cons, hresponse, ih hnext hspared']

end Apart

example (advice : Advice H) :
    (serveAll serve
        [.obtain ⟨"f"⟩, .unregister ⟨"f"⟩, .obtain ⟨"f"⟩, .add 0 advice, .adviceCount ⟨"f"⟩,
          .bucket 0 advice.phase, .isSame 0 1] empty).1 =
      [.handed, .done, .handed, .done, .count 0, .advice [advice], .truth false] := by
  obtain ⟨phase, priority, name, handler⟩ := advice
  cases phase <;> rfl

/-! ## What a chain holds -/

theorem Formed.addition (h : ledger.Formed) {advice : Advice H}
    (hadds : ledger.addition request = some (chain, advice)) : chain < ledger.made := by
  cases request with
  | addAdvice key added =>
      obtain ⟨bound, hbound, heq⟩ := Option.map_eq_some_iff.mp hadds
      cases heq
      exact h.bound key _ hbound
  | add handle added =>
      obtain ⟨bound, hbound, heq⟩ := Option.map_eq_some_iff.mp hadds
      cases heq
      exact h.handed _ (List.mem_of_getElem? hbound)
  | _ => cases hadds

theorem Served.formed (h : ledger.Served request next) (hformed : ledger.Formed) :
    next.Formed := by
  cases h with
  | unchanged silent => exact hformed
  | created free silent => exact hformed.create _
  | obtained free silent => exact (hformed.create _).hand (Nat.lt_succ_self _)
  | handed bound silent => exact hformed.hand (hformed.bound _ _ bound)
  | added adds => exact hformed.add (hformed.addition adds) _
  | erased removes silent => exact hformed.erase _
  | cleared removes silent => exact hformed.clear

theorem Served.held (h : ledger.Served request next) (hformed : ledger.Formed) (chain : Nat)
    (phase : Phase) :
    next.held chain phase = ledger.held chain phase ++
      (addedTo chain (ledger.addition request).toList).filter (·.phase == phase) := by
  have hsilent : ledger.addition request = none → ledger.held chain phase =
      ledger.held chain phase ++
        (addedTo chain (ledger.addition request).toList).filter (·.phase == phase) := by
    intro hnone
    rw [hnone]
    exact (List.append_nil _).symm
  have hcreate : ∀ key, (ledger.create key).held chain phase = ledger.held chain phase := by
    intro key
    by_cases hnew : chain = ledger.made
    · rw [hnew, held_create, hformed.blank _ (Nat.le_refl _)]
    · rw [held_create_of_ne ledger key hnew]
  cases h with
  | unchanged silent => exact hsilent silent
  | created free silent => exact (hcreate _).trans (hsilent silent)
  | @obtained key free silent => exact (hcreate key).trans (hsilent silent)
  | handed bound silent => exact hsilent silent
  | @added given advice adds =>
      rw [adds]
      by_cases hsame : chain = given
      · by_cases hphase : advice.phase = phase
        · simp [add, addedTo, hsame, hphase]
        · simp [add, addedTo, hsame, hphase]
      · simp [add, addedTo, hsame, Ne.symm hsame]
  | erased removes silent =>
      rw [held_erase]
      exact hsilent silent
  | cleared removes silent => exact hsilent silent

theorem held_serveAll (hformed : ledger.Formed) (requests : List (Request H)) (chain : Nat)
    (phase : Phase) :
    (serveAll serve requests ledger).2.held chain phase = ledger.held chain phase ++
      (addedTo chain (collectAll serve addition requests ledger)).filter (·.phase == phase) := by
  induction requests generalizing ledger with
  | nil => exact (List.append_nil _).symm
  | cons request requests ih =>
      have hserved := ledger.served request
      rw [serveAll_cons, collectAll, ih (hserved.formed hformed), hserved.held hformed, addedTo_append,
        List.filter_append, List.append_assoc]

end Intercept.Ledger
