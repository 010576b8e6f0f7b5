import Mathlib.Data.List.Induction
import ParkFusion.Job
import ParkFusion.Proofs.Sorting

namespace ParkFusion

theorem getElem?_concat_eq_some {α : Type} {l : List α} {a b : α} {i : Nat} :
    (l ++ [a])[i]? = some b ↔ l[i]? = some b ∨ i = l.length ∧ a = b := by
  grind

namespace JobQueue

/-- What a caller asks of a queue that it shares with others. The callers have it one at a time. -/
inductive Action
  | enqueue (job : Job)
  | drain
  deriving DecidableEq, Repr

def act (q : JobQueue) : Action → List Job × JobQueue
  | .enqueue job => ([], q.enqueue job)
  | .drain => q.drain

/-- The jobs that each of the actions returns, and the queue after all of them. -/
def run (q : JobQueue) : List Action → List (List Job) × JobQueue
  | [] => ([], q)
  | action :: actions =>
    let (jobs, q) := q.act action
    let (replies, q) := q.run actions
    (jobs :: replies, q)

/-- A job with the place of its enqueue among all actions. Equal jobs have different tickets. -/
structure Ticket where
  place : Nat
  job : Job
  deriving DecidableEq, Repr

namespace Ticket

/-- The job of higher priority leaves first, and of two of one priority that which was enqueued
first. -/
def Precedes (s t : Ticket) : Prop :=
  t.job.priority < s.job.priority ∨ s.job.priority = t.job.priority ∧ s.place < t.place

/-- In the order in which the jobs leave. -/
def departures (waiting : List Ticket) : List Ticket :=
  waiting.mergeSort fun s t ↦ t.job.priority ≤ s.job.priority

end Ticket

/-- The first drain after a place. -/
structure IsNextDrain (actions : List Action) (place next : Nat) : Prop where
  later : place < next
  drains : actions[next]? = some .drain
  first : ∀ between, place < between → between < next → actions[between]? ≠ some .drain

/-- What has become of the jobs: the tickets of those that each action returned, and of those that
are left. -/
structure Accounts (actions : List Action) (batches : List (List Ticket)) (left : List Ticket) :
    Prop where
  returned : (run {} actions).1 = batches.map (·.map Ticket.job)
  queued : (run {} actions).2.jobs = left.map Ticket.job
  mem_iff : ∀ t, t ∈ batches.flatten ++ left ↔ actions[t.place]? = some (.enqueue t.job)
  once : (batches.flatten ++ left).Nodup
  next : ∀ place batch, batches[place]? = some batch →
    ∀ t ∈ batch, IsNextDrain actions t.place place
  undrained : ∀ t ∈ left, ∀ later, t.place < later → actions[later]? ≠ some .drain
  sorted : ∀ batch ∈ batches, batch.Pairwise Ticket.Precedes
  ordered : left.Pairwise (·.place < ·.place)

theorem Ticket.eq_mk_iff {t : Ticket} {place : Nat} {job : Job} :
    t = ⟨place, job⟩ ↔ t.place = place ∧ Action.enqueue job = .enqueue t.job := by
  cases t
  simp [eq_comm]

section Departures

variable {q : JobQueue} {waiting : List Ticket}

theorem departures_perm (waiting : List Ticket) : (Ticket.departures waiting).Perm waiting :=
  List.mergeSort_perm _ _

theorem drain_jobs (h : q.jobs = waiting.map Ticket.job) :
    q.drain = ((Ticket.departures waiting).map Ticket.job, {}) := by
  have hsort : (Ticket.departures waiting).map Ticket.job =
      (waiting.map Ticket.job).mergeSort fun a b ↦ b.priority ≤ a.priority :=
    List.map_mergeSort fun _ _ _ _ ↦ rfl
  rw [drain, h, hsort]

theorem departures_sorted (h : waiting.Pairwise (·.place < ·.place)) :
    (Ticket.departures waiting).Pairwise Ticket.Precedes := by
  -- the sort ascends in the priorities turned around
  have hkey : ∀ s t : Ticket, decide (t.job.priority ≤ s.job.priority) ↔
      OrderDual.toDual s.job.priority.toNat ≤ OrderDual.toDual t.job.priority.toNat := by
    intro s t
    rw [decide_eq_true_iff, OrderDual.toDual_le_toDual, UInt8.le_iff_toNat_le]
  refine (mergeSort_stable hkey h).imp fun {s t} hst ↦ ?_
  rw [OrderDual.toDual_lt_toDual, ← UInt8.lt_iff_toNat_lt, OrderDual.toDual_inj,
    UInt8.toNat_inj] at hst
  exact hst

end Departures

section Runs

variable {actions : List Action} {action : Action} {t : Ticket} {place next : Nat}
variable {batches : List (List Ticket)} {left : List Ticket}

theorem run_concat (q : JobQueue) (actions : List Action) (action : Action) :
    q.run (actions ++ [action]) =
      ((q.run actions).1 ++ [((q.run actions).2.act action).1],
        ((q.run actions).2.act action).2) := by
  induction actions generalizing q with
  | nil => rfl
  | cons first actions ih =>
    change ((q.act first).1 :: ((q.act first).2.run (actions ++ [action])).1,
      ((q.act first).2.run (actions ++ [action])).2) = _
    rw [ih]
    rfl

theorem run_length (q : JobQueue) (actions : List Action) :
    (q.run actions).1.length = actions.length := by
  induction actions generalizing q with
  | nil => rfl
  | cons action actions ih => exact congrArg (· + 1) (ih (q.act action).2)

theorem IsNextDrain.append (h : IsNextDrain actions place next) (others : List Action) :
    IsNextDrain (actions ++ others) place next := by
  have hlt : next < actions.length := (List.getElem?_eq_some_iff.mp h.drains).1
  refine ⟨h.later, ?_, fun between hafter hbefore ↦ ?_⟩
  · rw [List.getElem?_append_left hlt]
    exact h.drains
  · rw [List.getElem?_append_left (Nat.lt_trans hbefore hlt)]
    exact h.first between hafter hbefore

theorem drain_of_concat_enqueue {job : Job}
    (h : (actions ++ [.enqueue job])[place]? = some .drain) : actions[place]? = some .drain := by
  rcases getElem?_concat_eq_some.mp h with h | ⟨-, hdrain⟩
  · exact h
  · cases hdrain

theorem flatten_concat_nil (batches : List (List Ticket)) (left : List Ticket) (t : Ticket) :
    (batches ++ [[]]).flatten ++ (left ++ [t]) = (batches.flatten ++ left) ++ [t] := by
  simp

theorem flatten_departures_perm (batches : List (List Ticket)) (left : List Ticket) :
    ((batches ++ [Ticket.departures left]).flatten ++ []).Perm (batches.flatten ++ left) := by
  simpa using (departures_perm left).append_left batches.flatten

namespace Accounts

theorem length_batches (h : Accounts actions batches left) : batches.length = actions.length := by
  rw [← run_length {} actions, h.returned, List.length_map]

theorem place_lt (h : Accounts actions batches left) (ht : t ∈ batches.flatten ++ left) :
    t.place < actions.length :=
  (List.getElem?_eq_some_iff.mp ((h.mem_iff t).mp ht)).1

theorem next_concat (h : Accounts actions batches left) {batch : List Ticket}
    (hbatch : ∀ t ∈ batch, IsNextDrain (actions ++ [action]) t.place actions.length) :
    ∀ place tickets, (batches ++ [batch])[place]? = some tickets →
      ∀ t ∈ tickets, IsNextDrain (actions ++ [action]) t.place place := by
  intro place tickets hget t ht
  rcases getElem?_concat_eq_some.mp hget with hget | ⟨rfl, rfl⟩
  · exact (h.next place tickets hget t ht).append [action]
  · rw [h.length_batches]
    exact hbatch t ht

theorem nil : Accounts [] [] [] where
  returned := rfl
  queued := rfl
  mem_iff := by simp
  once := .nil
  next := by simp
  undrained := by simp
  sorted := by simp
  ordered := .nil

theorem enqueue (h : Accounts actions batches left) (job : Job) :
    Accounts (actions ++ [.enqueue job]) (batches ++ [[]]) (left ++ [⟨actions.length, job⟩]) where
  returned := by
    rw [run_concat, h.returned, List.map_append]
    rfl
  queued := by
    rw [run_concat, List.map_append, ← h.queued]
    rfl
  mem_iff t := by
    rw [flatten_concat_nil, List.mem_append, h.mem_iff, List.mem_singleton,
      getElem?_concat_eq_some, Ticket.eq_mk_iff]
  once := by
    rw [flatten_concat_nil]
    refine h.once.append (List.nodup_singleton _) (List.disjoint_singleton.mpr fun hmem ↦ ?_)
    exact Nat.lt_irrefl _ (h.place_lt hmem)
  next := h.next_concat (by simp)
  undrained t ht later hlater hget := by
    replace hget := drain_of_concat_enqueue hget
    rcases List.mem_append.mp ht with ht | ht
    · exact h.undrained t ht later hlater hget
    · rw [List.mem_singleton.mp ht] at hlater
      exact Nat.lt_asymm (List.getElem?_eq_some_iff.mp hget).1 hlater
  sorted := List.forall_mem_append.mpr ⟨h.sorted, by simp⟩
  ordered := by
    refine List.pairwise_append.mpr ⟨h.ordered, List.pairwise_singleton _ _, fun t ht u hu ↦ ?_⟩
    rw [List.mem_singleton.mp hu]
    exact h.place_lt (List.mem_append_right _ ht)

theorem drain (h : Accounts actions batches left) :
    Accounts (actions ++ [.drain]) (batches ++ [Ticket.departures left]) [] where
  returned := by
    rw [run_concat, act, drain_jobs h.queued, h.returned, List.map_append]
    rfl
  queued := by
    rw [run_concat]
    rfl
  mem_iff t := by
    rw [(flatten_departures_perm batches left).mem_iff, h.mem_iff, getElem?_concat_eq_some]
    simp
  once := (flatten_departures_perm batches left).nodup_iff.mpr h.once
  next := by
    refine h.next_concat fun t ht ↦ ?_
    have hleft := (departures_perm left).subset ht
    refine ⟨h.place_lt (List.mem_append_right _ hleft), List.getElem?_concat_length,
      fun between hafter hbefore ↦ ?_⟩
    rw [List.getElem?_append_left hbefore]
    exact h.undrained t hleft between hafter
  undrained := by simp
  sorted := List.forall_mem_append.mpr ⟨h.sorted, by simpa using departures_sorted h.ordered⟩
  ordered := .nil

end Accounts

theorem exists_accounts (actions : List Action) :
    ∃ batches left, Accounts actions batches left := by
  -- on the last action, since the places are counted from the first one on
  induction actions using List.reverseRecOn with
  | nil => exact ⟨[], [], .nil⟩
  | append_singleton actions action ih =>
    obtain ⟨batches, left, h⟩ := ih
    cases action with
    | enqueue job => exact ⟨_, _, h.enqueue job⟩
    | drain => exact ⟨_, _, h.drain⟩

theorem run_take_drain (h : actions[place]? = some .drain) :
    (run {} (actions.take (place + 1))).2 = {} := by
  rw [List.take_add_one, h, Option.toList_some, run_concat]
  rfl

/-- However enqueues and drains are interleaved, every job is returned once, by the first drain
after its enqueue, or is left. The jobs of a drain come by descending priority and then in the order
of their enqueues, and it leaves none behind. -/
theorem run_accountsForAll (actions : List Action) :
    (∃ batches left, Accounts actions batches left) ∧
      ∀ place, actions[place]? = some .drain → (run {} (actions.take (place + 1))).2 = {} :=
  ⟨exists_accounts actions, fun _ ↦ run_take_drain⟩

end Runs

end JobQueue

end ParkFusion
