import Intercept.Chain

/-!
# The order in which advice runs

A phase runs its bucket by descending priority, and advice of equal priority in the order of addition.
There is only one such order, so what is added to a chain between advice of other phases and other
priorities does not matter to it: `Chain.SameTiers.queue`.
-/

namespace Intercept

variable {H : Type}

namespace Advice

def ofPriority (priority : Int) (advice : List (Advice H)) : List (Advice H) :=
  advice.filter (·.priority == priority)

/-- `queue` is `bucket` by descending priority, with advice of equal priority left in order. -/
structure Ranked (bucket queue : List (Advice H)) : Prop where
  perm : queue.Perm bucket
  descending : queue.Pairwise fun a b => b.priority ≤ a.priority
  stable : ∀ priority, ofPriority priority queue = ofPriority priority bucket

theorem ofPriority_cons (first : Advice H) (advice : List (Advice H)) (priority : Int) :
    ofPriority priority (first :: advice) =
      if first.priority = priority then first :: ofPriority priority advice
      else ofPriority priority advice := by
  simp only [ofPriority, List.filter_cons, beq_iff_eq]

theorem mem_ofPriority {advice : List (Advice H)} {priority : Int} {a : Advice H} :
    a ∈ ofPriority priority advice ↔ a ∈ advice ∧ a.priority = priority := by
  simp only [ofPriority, List.mem_filter, beq_iff_eq]

private theorem first_eq {a b : Advice H} {queue other : List (Advice H)}
    (h : (a :: queue).Pairwise fun a b => b.priority ≤ a.priority)
    (h' : (b :: other).Pairwise fun a b => b.priority ≤ a.priority)
    (hsame : ∀ priority, ofPriority priority (a :: queue) = ofPriority priority (b :: other)) :
    a = b := by
  have hle : ∀ {first found : Advice H} {rest : List (Advice H)},
      (first :: rest).Pairwise (fun a b => b.priority ≤ a.priority) →
      found ∈ first :: rest → found.priority ≤ first.priority := by
    intro first found rest hrest hmem
    rcases List.mem_cons.mp hmem with rfl | hlater
    · exact Int.le_refl _
    · exact List.rel_of_pairwise_cons hrest hlater
  have hmem : a ∈ b :: other := by
    have hfirst : a ∈ ofPriority a.priority (a :: queue) :=
      mem_ofPriority.mpr ⟨List.mem_cons_self, rfl⟩
    rw [hsame] at hfirst
    exact (mem_ofPriority.mp hfirst).1
  have hmem' : b ∈ a :: queue := by
    have hfirst : b ∈ ofPriority b.priority (b :: other) :=
      mem_ofPriority.mpr ⟨List.mem_cons_self, rfl⟩
    rw [← hsame] at hfirst
    exact (mem_ofPriority.mp hfirst).1
  have hpriority : a.priority = b.priority := Int.le_antisymm (hle h' hmem) (hle h hmem')
  have hhead := hsame b.priority
  rw [ofPriority_cons, ofPriority_cons, if_pos hpriority, if_pos rfl] at hhead
  exact (List.cons.inj hhead).1

/-- Two descending queues with the same advice of each priority are the same queue. -/
theorem eq_of_descending {queue other : List (Advice H)}
    (h : queue.Pairwise fun a b => b.priority ≤ a.priority)
    (h' : other.Pairwise fun a b => b.priority ≤ a.priority)
    (hsame : ∀ priority, ofPriority priority queue = ofPriority priority other) :
    queue = other := by
  induction queue generalizing other with
  | nil =>
      cases other with
      | nil => rfl
      | cons b other =>
          have hnone := hsame b.priority
          rw [ofPriority_cons, if_pos rfl] at hnone
          cases hnone
  | cons a queue ih =>
      cases other with
      | nil =>
          have hnone := hsame a.priority
          rw [ofPriority_cons, if_pos rfl] at hnone
          cases hnone
      | cons b other =>
          obtain rfl := first_eq h h' hsame
          have hrest : ∀ priority, ofPriority priority queue = ofPriority priority other := by
            intro priority
            have hboth := hsame priority
            rw [ofPriority_cons, ofPriority_cons] at hboth
            split at hboth
            · exact (List.cons.inj hboth).2
            · exact hboth
          rw [ih h.of_cons h'.of_cons hrest]

theorem Ranked.eq {bucket bucket' queue queue' : List (Advice H)} (h : Ranked bucket queue)
    (h' : Ranked bucket' queue')
    (hsame : ∀ priority, ofPriority priority bucket = ofPriority priority bucket') :
    queue = queue' := by
  apply eq_of_descending h.descending h'.descending
  intro priority
  rw [h.stable, h'.stable, hsame]

theorem Ranked.of_strict {bucket queue : List (Advice H)} (hperm : queue.Perm bucket)
    (hstrict : queue.Pairwise fun a b => b.priority < a.priority) : Ranked bucket queue := by
  refine ⟨hperm, hstrict.imp Int.le_of_lt, fun priority => ?_⟩
  have hkept : (ofPriority priority queue).Pairwise fun a b => b.priority < a.priority :=
    hstrict.filter _
  have hfilter : (ofPriority priority queue).Perm (ofPriority priority bucket) := hperm.filter _
  have hequal : ∀ a ∈ ofPriority priority queue, a.priority = priority :=
    fun a hmem => (mem_ofPriority.mp hmem).2
  generalize ofPriority priority queue = tier at hkept hfilter hequal ⊢
  match tier with
  | [] => exact hfilter.nil_eq
  | [a] => exact List.singleton_perm.mp hfilter
  | a :: b :: tier =>
      have hlt : b.priority < a.priority := List.rel_of_pairwise_cons hkept (by simp)
      rw [hequal a (by simp), hequal b (by simp)] at hlt
      exact absurd hlt (Int.lt_irrefl _)

end Advice

namespace Chain

theorem ranked_queue (chain : Chain H) (phase : Phase) :
    Advice.Ranked (chain.bucket phase) (chain.queue phase) :=
  ⟨chain.queue_perm phase, chain.queue_sorted phase, chain.filter_queue phase⟩

theorem queue_eq_of_ranked {chain : Chain H} {phase : Phase} {queue : List (Advice H)}
    (h : Advice.Ranked (chain.bucket phase) queue) : chain.queue phase = queue :=
  (chain.ranked_queue phase).eq h fun _ => rfl

/-! ## Orders of addition -/

/-- The chains may differ in the order of addition, but not between advice of one phase and one
priority. -/
def SameTiers (chain other : Chain H) : Prop :=
  ∀ phase priority, Advice.ofPriority priority (chain.bucket phase) =
    Advice.ofPriority priority (other.bucket phase)

namespace SameTiers

variable {chain other : Chain H}

theorem mem_iff (h : chain.SameTiers other) (advice : Advice H) :
    advice ∈ chain.advice ↔ advice ∈ other.advice := by
  have hmem : ∀ held : Chain H, advice ∈ held.advice ↔
      advice ∈ Advice.ofPriority advice.priority (held.bucket advice.phase) := by
    intro held
    simp [Advice.mem_ofPriority, bucket]
  rw [hmem chain, hmem other, h]

theorem eq_nil_iff (h : chain.SameTiers other) : chain.advice = [] ↔ other.advice = [] := by
  simp only [List.eq_nil_iff_forall_not_mem, h.mem_iff]

theorem queue (h : chain.SameTiers other) (phase : Phase) : chain.queue phase = other.queue phase :=
  (chain.ranked_queue phase).eq (other.ranked_queue phase) (h phase)

end SameTiers

def addAll (chain : Chain H) (advice : List (Advice H)) : Chain H :=
  advice.foldl add chain

theorem advice_addAll (chain : Chain H) (advice : List (Advice H)) :
    (chain.addAll advice).advice = chain.advice ++ advice := by
  induction advice generalizing chain with
  | nil => exact (List.append_nil _).symm
  | cons first advice ih =>
      rw [addAll, List.foldl_cons]
      exact (ih (chain.add first)).trans (List.append_assoc ..)

theorem sameTiers_addAll (chain : Chain H) {advice other : List (Advice H)}
    (h : (⟨advice⟩ : Chain H).SameTiers ⟨other⟩) :
    (chain.addAll advice).SameTiers (chain.addAll other) := by
  intro phase priority
  have htier := h phase priority
  simp only [Advice.ofPriority, bucket] at htier
  simp only [Advice.ofPriority, bucket, advice_addAll, List.filter_append, htier]

end Chain

end Intercept
