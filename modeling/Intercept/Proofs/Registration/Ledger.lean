import Mathlib.Algebra.Ring.Nat
import Mathlib.Data.Finmap
import Mathlib.Data.Finset.Sort
import Mathlib.Data.String.Basic
import Intercept.Registration

/-!
# The ledger of a registry

What a registry is to those who use it: a partial map from keys other than the empty one to chains,
and for each chain and each phase the advice added, in the order in which it was added.  Each chain is
made once, empty, and is known from then on by those who were handed it, bound or not.
-/

namespace Intercept

/-! ## Requests -/

/-- What may be asked of a registry, and of chains that were handed out before.  Those are counted in
the order in which they were handed out. -/
inductive Request (H : Type) where
  | register (key : Key)
  | obtain (key : Key)
  | addAdvice (key : Key) (advice : Advice H)
  | lookup (key : Key)
  | isRegistered (key : Key)
  | unregister (key : Key)
  | clear
  | count
  | adviceCount (key : Key)
  | keys
  | add (handle : Nat) (advice : Advice H)
  | bucket (handle : Nat) (phase : Phase)
  | isSame (handle other : Nat)

inductive Response (H : Type) where
  | done
  | refused (refusal : Registry.Refusal)
  | unwound (payload : Payload)
  /-- A chain was handed out. -/
  | handed
  | truth (truth : Bool)
  | count (count : Nat)
  | keys (keys : List Key)
  | advice (advice : List (Advice H))
  /-- No chain has been handed out under that number. -/
  | unknown

namespace Request

variable {H Chain : Type}

def Removes (key : Key) : Request H → Prop
  | .unregister other => other = key
  | .clear => True
  | _ => False

def Reads (handles : List Chain) (chain : Chain) : Request H → Prop
  | .bucket handle _ => handles[handle]? = some chain
  | _ => False

def addition (find? : Key → Option Chain) (handles : List Chain) :
    Request H → Option (Chain × Advice H)
  | .addAdvice key advice => (find? key).map (·, advice)
  | .add handle advice => handles[handle]?.map (·, advice)
  | _ => none

end Request

def addedTo {H Chain : Type} [DecidableEq Chain] (chain : Chain)
    (additions : List (Chain × Advice H)) : List (Advice H) :=
  (additions.filter (·.1 == chain)).map Prod.snd

theorem addedTo_append {H Chain : Type} [DecidableEq Chain] (chain : Chain)
    (additions later : List (Chain × Advice H)) :
    addedTo chain (additions ++ later) = addedTo chain additions ++ addedTo chain later := by
  rw [addedTo, List.filter_append, List.map_append]
  rfl

def serveAll {H σ : Type} (serve : Request H → σ → Response H × σ) :
    List (Request H) → σ → List (Response H) × σ
  | [], state => ([], state)
  | request :: requests, state =>
    let (response, state) := serve request state
    let (responses, state) := serveAll serve requests state
    (response :: responses, state)

def collectAll {H σ α : Type} (serve : Request H → σ → Response H × σ)
    (collect : Request H → σ → Option α) : List (Request H) → σ → List α
  | [], _ => []
  | request :: requests, state =>
    (collect request state).toList ++ collectAll serve collect requests (serve request state).2

section

variable {H σ τ : Type} {serve : Request H → σ → Response H × σ}

@[simp] theorem serveAll_cons (request : Request H) (requests : List (Request H)) (state : σ) :
    serveAll serve (request :: requests) state =
      ((serve request state).1 :: (serveAll serve requests (serve request state).2).1,
        (serveAll serve requests (serve request state).2).2) := rfl

theorem serveAll_append (requests later : List (Request H)) (state : σ) :
    (serveAll serve (requests ++ later) state).2 =
      (serveAll serve later (serveAll serve requests state).2).2 := by
  induction requests generalizing state with
  | nil => rfl
  | cons request requests ih => exact ih (serve request state).2

/-- Related states that answer every request alike, and stay related, answer all requests alike. -/
theorem serveAll_rel {serve' : Request H → τ → Response H × τ} {R : σ → τ → Prop}
    (hserve : ∀ request state state', R state state' →
      (serve request state).1 = (serve' request state').1 ∧
        R (serve request state).2 (serve' request state').2)
    (requests : List (Request H)) {state : σ} {state' : τ} (h : R state state') :
    (serveAll serve requests state).1 = (serveAll serve' requests state').1 ∧
      R (serveAll serve requests state).2 (serveAll serve' requests state').2 := by
  induction requests generalizing state state' with
  | nil => exact ⟨rfl, h⟩
  | cons request requests ih =>
      obtain ⟨hresponse, hnext⟩ := hserve request state state' h
      obtain ⟨hresponses, hlast⟩ := ih hnext
      exact ⟨congr (congrArg List.cons hresponse) hresponses, hlast⟩

theorem collectAll_rel {α β : Type} {serve' : Request H → τ → Response H × τ} {R : σ → τ → Prop}
    {collect : Request H → σ → Option α} {collect' : Request H → τ → Option β} {f : β → α}
    (hserve : ∀ request state state', R state state' →
      R (serve request state).2 (serve' request state').2)
    (hcollect : ∀ request state state', R state state' →
      collect request state = (collect' request state').map f)
    (requests : List (Request H)) {state : σ} {state' : τ} (h : R state state') :
    collectAll serve collect requests state =
      (collectAll serve' collect' requests state').map f := by
  induction requests generalizing state state' with
  | nil => rfl
  | cons request requests ih =>
      rw [collectAll, collectAll, hcollect request state state' h, ih (hserve _ _ _ h),
        List.map_append, Option.toList_map]

theorem serveAll_invariant {Q : σ → Prop} {requests : List (Request H)}
    (hserve : ∀ request ∈ requests, ∀ state, Q state → Q (serve request state).2) {state : σ}
    (h : Q state) : Q (serveAll serve requests state).2 := by
  induction requests generalizing state with
  | nil => exact h
  | cons request requests ih =>
      obtain ⟨hfirst, hrest⟩ := List.forall_mem_cons.mp hserve
      exact ih hrest (hfirst state h)

end

/-! ## Ledgers -/

abbrev NonemptyKey := { key : Key // key ≠ .empty }

theorem Key.text_injective : Function.Injective Key.text := by
  intro a b h
  cases a
  cases b
  exact congrArg Key.mk h

instance : LinearOrder Key :=
  LinearOrder.lift' Key.text Key.text_injective

structure Ledger (H : Type) where
  bindings : Finmap fun _ : NonemptyKey => Nat
  /-- How many chains were made so far. -/
  made : Nat
  held : Nat → Phase → List (Advice H)
  /-- The chains that were handed out, in this order. -/
  handles : List Nat

namespace Ledger

variable {H : Type}

def empty : Ledger H :=
  ⟨∅, 0, fun _ _ => [], []⟩

def find? (ledger : Ledger H) (key : Key) : Option Nat :=
  if h : key = .empty then none else ledger.bindings.lookup ⟨key, h⟩

def create (ledger : Ledger H) (key : NonemptyKey) : Ledger H :=
  { ledger with
    bindings := ledger.bindings.insert key ledger.made
    made := ledger.made + 1
    held := Function.update ledger.held ledger.made fun _ => [] }

def add (ledger : Ledger H) (chain : Nat) (advice : Advice H) : Ledger H :=
  { ledger with
    held := fun other phase =>
      if other = chain ∧ advice.phase = phase then ledger.held other phase ++ [advice]
      else ledger.held other phase }

def hand (ledger : Ledger H) (chain : Nat) : Ledger H :=
  { ledger with handles := ledger.handles ++ [chain] }

def erase (ledger : Ledger H) (key : Key) : Ledger H :=
  if h : key = .empty then ledger else { ledger with bindings := ledger.bindings.erase ⟨key, h⟩ }

def clear (ledger : Ledger H) : Ledger H :=
  { ledger with bindings := ∅ }

def adviceCount (ledger : Ledger H) (chain : Nat) : Nat :=
  (Phase.all.map fun phase => (ledger.held chain phase).length).sum

def keys (ledger : Ledger H) : List Key :=
  (ledger.bindings.keys.image Subtype.val).sort

/-- A request that is turned down, and one that unwinds, changes nothing. -/
def serve (request : Request H) (ledger : Ledger H) : Response H × Ledger H :=
  match request with
  | .register key =>
    if h : key = .empty then (.refused .invalidKey, ledger)
    else
      match ledger.find? key with
      | some _ => (.refused (.duplicateKey key), ledger)
      | none => (.done, ledger.create ⟨key, h⟩)
  | .obtain key =>
    if h : key = .empty then (.unwound (.ofText Registry.Refusal.emptyKeyText), ledger)
    else
      match ledger.find? key with
      | some chain => (.handed, ledger.hand chain)
      | none => (.handed, (ledger.create ⟨key, h⟩).hand ledger.made)
  | .addAdvice key advice =>
    if key = .empty then (.refused .invalidKey, ledger)
    else
      match ledger.find? key with
      | none => (.refused (.notRegistered key), ledger)
      | some chain => (.done, ledger.add chain advice)
  | .lookup key =>
    if key = .empty then (.refused .invalidKey, ledger)
    else
      match ledger.find? key with
      | none => (.refused (.notRegistered key), ledger)
      | some chain => (.handed, ledger.hand chain)
  | .isRegistered key => (.truth (ledger.find? key).isSome, ledger)
  | .unregister key => (.done, ledger.erase key)
  | .clear => (.done, ledger.clear)
  | .count => (.count ledger.bindings.keys.card, ledger)
  | .adviceCount key => (.count ((ledger.find? key).elim 0 ledger.adviceCount), ledger)
  | .keys => (.keys ledger.keys, ledger)
  | .add handle advice =>
    match ledger.handles[handle]? with
    | none => (.unknown, ledger)
    | some chain => (.done, ledger.add chain advice)
  | .bucket handle phase =>
    match ledger.handles[handle]? with
    | none => (.unknown, ledger)
    | some chain => (.advice (ledger.held chain phase), ledger)
  | .isSame handle other =>
    match ledger.handles[handle]?, ledger.handles[other]? with
    | some chain, some chain' => (.truth (chain == chain'), ledger)
    | _, _ => (.unknown, ledger)

/-! ## What each operation does to the bindings -/

@[simp] theorem find?_empty (key : Key) : (empty : Ledger H).find? key = none := by
  rw [find?]
  split
  · rfl
  · exact Finmap.lookup_empty _

theorem find?_create (ledger : Ledger H) (key : NonemptyKey) (other : Key) :
    (ledger.create key).find? other =
      if other = key.val then some ledger.made else ledger.find? other := by
  rw [find?, find?]
  by_cases h : other = key.val
  · subst h
    rw [dif_neg key.property, if_pos rfl]
    exact Finmap.lookup_insert _
  · rw [if_neg h]
    by_cases hempty : other = .empty
    · rw [dif_pos hempty, dif_pos hempty]
    · rw [dif_neg hempty, dif_neg hempty]
      exact Finmap.lookup_insert_of_ne _ fun hkey => h (congrArg Subtype.val hkey)

theorem held_create (ledger : Ledger H) (key : NonemptyKey) (phase : Phase) :
    (ledger.create key).held ledger.made phase = [] := by
  simp only [create, Function.update_self]

theorem held_create_of_ne (ledger : Ledger H) (key : NonemptyKey) {chain : Nat}
    (hother : chain ≠ ledger.made) : (ledger.create key).held chain = ledger.held chain :=
  Function.update_of_ne hother _ _

theorem find?_erase (ledger : Ledger H) (key other : Key) :
    (ledger.erase key).find? other = if other = key then none else ledger.find? other := by
  by_cases hempty : other = .empty
  · simp [find?, hempty]
  · by_cases hkey : key = .empty
    · have hother : other ≠ key := fun h => hempty (h.trans hkey)
      rw [erase, dif_pos hkey, if_neg hother]
    · rw [erase, dif_neg hkey, find?, dif_neg hempty, find?, dif_neg hempty]
      by_cases h : other = key
      · subst h
        rw [if_pos rfl]
        exact Finmap.lookup_erase _ _
      · rw [if_neg h]
        exact Finmap.lookup_erase_ne fun hkey => h (congrArg Subtype.val hkey)

@[simp] theorem made_erase (ledger : Ledger H) (key : Key) :
    (ledger.erase key).made = ledger.made := by
  rw [erase]
  split <;> rfl

@[simp] theorem held_erase (ledger : Ledger H) (key : Key) :
    (ledger.erase key).held = ledger.held := by
  rw [erase]
  split <;> rfl

@[simp] theorem handles_erase (ledger : Ledger H) (key : Key) :
    (ledger.erase key).handles = ledger.handles := by
  rw [erase]
  split <;> rfl

@[simp] theorem find?_clear (ledger : Ledger H) (key : Key) : ledger.clear.find? key = none := by
  rw [find?]
  split
  · rfl
  · exact Finmap.lookup_empty _

@[simp] theorem find?_hand (ledger : Ledger H) (chain : Nat) (key : Key) :
    (ledger.hand chain).find? key = ledger.find? key := rfl

/-! ## Well-formedness -/

structure Formed (ledger : Ledger H) : Prop where
  bound : ∀ key chain, ledger.find? key = some chain → chain < ledger.made
  /-- No two keys share a chain. -/
  alone : ∀ key other chain, ledger.find? key = some chain → ledger.find? other = some chain →
    key = other
  handed : ∀ chain ∈ ledger.handles, chain < ledger.made
  /-- A chain that is still to be made holds nothing. -/
  blank : ∀ chain, ledger.made ≤ chain → ∀ phase, ledger.held chain phase = []

theorem formed_empty : (empty : Ledger H).Formed := by
  refine ⟨?_, ?_, ?_, fun chain _ phase => rfl⟩
  · intro key chain hfind
    rw [find?_empty] at hfind
    cases hfind
  · intro key other chain hfind
    rw [find?_empty] at hfind
    cases hfind
  · intro chain hmem
    cases hmem

namespace Formed

variable {ledger : Ledger H}

theorem hand (h : ledger.Formed) {chain : Nat} (hchain : chain < ledger.made) :
    (ledger.hand chain).Formed :=
  ⟨h.bound, h.alone, List.forall_mem_append.mpr ⟨h.handed, List.forall_mem_singleton.mpr hchain⟩,
    h.blank⟩

theorem add (h : ledger.Formed) {chain : Nat} (hchain : chain < ledger.made) (advice : Advice H) :
    (ledger.add chain advice).Formed := by
  refine ⟨h.bound, h.alone, h.handed, fun other hother phase => ?_⟩
  have hne : other ≠ chain := Nat.ne_of_gt (Nat.lt_of_lt_of_le hchain hother)
  exact (if_neg fun hsame => hne hsame.1).trans (h.blank other hother phase)

theorem create (h : ledger.Formed) (key : NonemptyKey) : (ledger.create key).Formed := by
  have hfound : ∀ {other chain}, (ledger.create key).find? other = some chain →
      other = key.val ∧ chain = ledger.made ∨
        ledger.find? other = some chain ∧ chain < ledger.made := by
    intro other chain hfind
    rw [find?_create] at hfind
    split at hfind
    · next hsame => exact .inl ⟨hsame, (Option.some.inj hfind).symm⟩
    · exact .inr ⟨hfind, h.bound other chain hfind⟩
  refine ⟨?_, ?_, fun chain hmem => Nat.lt_succ_of_lt (h.handed chain hmem), ?_⟩
  · intro other chain hfind
    rcases hfound hfind with ⟨-, rfl⟩ | ⟨-, hold⟩
    · exact Nat.lt_succ_self _
    · exact Nat.lt_succ_of_lt hold
  · intro first second chain hfirst hsecond
    rcases hfound hfirst with ⟨rfl, rfl⟩ | ⟨hfirst, hold⟩
    · rcases hfound hsecond with ⟨rfl, -⟩ | ⟨-, hold⟩
      · rfl
      · exact absurd hold (Nat.lt_irrefl _)
    · rcases hfound hsecond with ⟨-, rfl⟩ | ⟨hsecond, -⟩
      · exact absurd hold (Nat.lt_irrefl _)
      · exact h.alone first second chain hfirst hsecond
  · intro chain hchain phase
    rw [held_create_of_ne ledger key (Nat.ne_of_gt hchain)]
    exact h.blank chain (Nat.le_of_succ_le hchain) phase

theorem erase (h : ledger.Formed) (key : Key) : (ledger.erase key).Formed := by
  have hfound : ∀ {other chain}, (ledger.erase key).find? other = some chain →
      ledger.find? other = some chain := by
    intro other chain hfind
    rw [find?_erase] at hfind
    split at hfind
    · cases hfind
    · exact hfind
  refine ⟨?_, ?_, ?_, ?_⟩
  · intro other chain hfind
    rw [made_erase]
    exact h.bound other chain (hfound hfind)
  · exact fun first second chain hfirst hsecond =>
      h.alone first second chain (hfound hfirst) (hfound hsecond)
  · rw [handles_erase, made_erase]
    exact h.handed
  · rw [made_erase, held_erase]
    exact h.blank

theorem clear (h : ledger.Formed) : ledger.clear.Formed := by
  have hnone : ∀ {key chain}, ledger.clear.find? key ≠ some chain := by
    intro key chain hfind
    rw [find?_clear] at hfind
    cases hfind
  exact ⟨fun _ _ hfind => absurd hfind hnone, fun _ _ _ hfind => absurd hfind hnone, h.handed,
    h.blank⟩

end Formed

/-! ## Keys -/

theorem mem_keys {ledger : Ledger H} {key : Key} :
    key ∈ ledger.keys ↔ (ledger.find? key).isSome = true := by
  rw [keys, Finset.mem_sort, Finset.mem_image, find?]
  constructor
  · rintro ⟨⟨found, hfound⟩, hmem, rfl⟩
    rw [dif_neg hfound]
    exact Finmap.lookup_isSome.mpr (Finmap.mem_keys.mp hmem)
  · intro hsome
    split at hsome
    · cases hsome
    · next hkey => exact ⟨⟨key, hkey⟩, Finmap.mem_keys.mpr (Finmap.lookup_isSome.mp hsome), rfl⟩

theorem length_keys (ledger : Ledger H) : ledger.keys.length = ledger.bindings.keys.card := by
  rw [keys, Finset.length_sort]
  exact Finset.card_image_of_injective _ Subtype.val_injective

end Ledger

end Intercept
