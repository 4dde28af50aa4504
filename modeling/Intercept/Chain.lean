import Intercept.Frame

/-!
# Advice and chains

A chain holds advice in the order in which it was added.  A phase runs its part of the chain by
descending priority, and advice of equal priority in the order of addition.
-/

namespace Intercept

/-- Handler code of type `H` with the phase it belongs to. -/
structure Advice (H : Type) where
  phase : Phase
  priority : Int
  name : String
  handler : H

namespace Advice

def anonymous : String :=
  "<anonymous>"

/-- A handler alone becomes advice of priority 0 without a name of its own. -/
def ofHandler {H : Type} (phase : Phase) (handler : H) : Advice H :=
  { phase, handler
    priority := 0
    name := anonymous }

def outline {H : Type} (advice : Advice H) : String :=
  Text.openRecord "Advice"
    [("phase", advice.phase.name),
      ("priority", Text.integer advice.priority),
      ("name", Text.quoted advice.name)]

end Advice

structure Chain (H : Type) where
  advice : List (Advice H)

namespace Chain

variable {H : Type}

def empty : Chain H :=
  ⟨[]⟩

instance : Inhabited (Chain H) := ⟨empty⟩

def add (chain : Chain H) (advice : Advice H) : Chain H :=
  ⟨chain.advice ++ [advice]⟩

/-- The advice of one phase in the order of addition. -/
def bucket (chain : Chain H) (phase : Phase) : List (Advice H) :=
  chain.advice.filter fun advice => advice.phase == phase

def runsBefore (a b : Advice H) : Bool :=
  b.priority ≤ a.priority

/-- The advice of one phase in the order in which it runs. -/
def queue (chain : Chain H) (phase : Phase) : List (Advice H) :=
  (chain.bucket phase).mergeSort runsBefore

def size (chain : Chain H) : Nat :=
  chain.advice.length

def outline (chain : Chain H) : String :=
  Text.record "AdviceChain" [("advice_count", Nat.repr chain.size)]

/-! ## Buckets and queues -/

@[simp] theorem bucket_empty (phase : Phase) : (empty : Chain H).bucket phase = [] := rfl

theorem bucket_add (chain : Chain H) (advice : Advice H) (phase : Phase) :
    (chain.add advice).bucket phase =
      if advice.phase = phase then chain.bucket phase ++ [advice] else chain.bucket phase := by
  by_cases h : advice.phase = phase
  · simp [add, bucket, h]
  · simp [add, bucket, h]

theorem phase_of_mem_bucket {chain : Chain H} {phase : Phase} {advice : Advice H}
    (h : advice ∈ chain.bucket phase) : advice.phase = phase := by
  simpa using (List.mem_filter.mp h).2

theorem queue_perm (chain : Chain H) (phase : Phase) :
    (chain.queue phase).Perm (chain.bucket phase) :=
  List.mergeSort_perm _ _

@[simp] theorem mem_queue {chain : Chain H} {phase : Phase} {advice : Advice H} :
    advice ∈ chain.queue phase ↔ advice ∈ chain.bucket phase :=
  (chain.queue_perm phase).mem_iff

@[simp] theorem length_queue (chain : Chain H) (phase : Phase) :
    (chain.queue phase).length = (chain.bucket phase).length :=
  (chain.queue_perm phase).length_eq

theorem queue_eq_nil_iff {chain : Chain H} {phase : Phase} :
    chain.queue phase = [] ↔ chain.bucket phase = [] := by
  rw [← List.length_eq_zero_iff, length_queue, List.length_eq_zero_iff]

private theorem runsBefore_trans (a b c : Advice H) (hab : runsBefore a b = true)
    (hbc : runsBefore b c = true) : runsBefore a c = true := by
  simp only [runsBefore, decide_eq_true_eq] at hab hbc ⊢
  omega

private theorem runsBefore_total (a b : Advice H) : (runsBefore a b || runsBefore b a) = true := by
  simp only [runsBefore, Bool.or_eq_true, decide_eq_true_eq]
  omega

theorem queue_sorted (chain : Chain H) (phase : Phase) :
    (chain.queue phase).Pairwise fun a b => b.priority ≤ a.priority := by
  have h := List.pairwise_mergeSort runsBefore_trans runsBefore_total (chain.bucket phase)
  exact h.imp fun hab => by simpa [runsBefore] using hab

theorem filter_queue (chain : Chain H) (phase : Phase) (priority : Int) :
    (chain.queue phase).filter (·.priority == priority) =
      (chain.bucket phase).filter (·.priority == priority) := by
  have hequal : ((chain.bucket phase).filter (·.priority == priority)).Pairwise
      fun a b => runsBefore a b = true := by
    apply List.pairwise_of_forall_mem_list
    intro a ha b hb
    have hpa := beq_iff_eq.mp (List.mem_filter.mp ha).2
    have hpb := beq_iff_eq.mp (List.mem_filter.mp hb).2
    simp only [runsBefore, hpa, hpb, Int.le_refl, decide_true]
  -- A sorted part of a list is still a part of it when the whole is sorted.
  have hsublist := List.sublist_mergeSort runsBefore_trans runsBefore_total hequal
    List.filter_sublist
  have hkept := hsublist.filter (·.priority == priority)
  rw [List.filter_filter] at hkept
  simp only [Bool.and_self] at hkept
  exact (hkept.eq_of_length ((chain.queue_perm phase).filter _).length_eq.symm).symm

end Chain

end Intercept
