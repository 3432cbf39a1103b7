import Mathlib.Algebra.Order.Ring.Int
import Shrimp.Lib.Dict
import Shrimp.Lib.First

/-!
# The Postgres task queue (`server/task/queue.go`)

The table `agent_task_queue` and the statements `Queue` runs on it.  Every
method is one SQL statement, so it is one atomic operation here: a pure function
from the table to the table and what the statement returns.  What the database
supplies is an argument: the time `now()`, the rows other transactions have
locked, and the order in which a scan meets rows that `ORDER BY` leaves tied.

## Main definitions

* `Task` — a row of the table, all its columns but the primary key.
* `Queue` — the table: rows by primary key, and the sequence the keys come from.
* `Queue.enqueue`, `Queue.claim`, `Queue.markRunning`, `Queue.heartbeat`,
  `Queue.complete`, `Queue.fail`, `Queue.canceled`, `Queue.requestCancel`,
  `Queue.recoverOrphanedTasks` — the operations.

## Main results

* `Queue.get_update` — what a row is after an `UPDATE`; every operation's
  specification is this lemma at the operation's condition and columns.
* `Queue.claim_eq_some_iff` — **what `Claim` takes**: the pending row of the
  asked agents that is not locked and comes first.
* `Queue.claim_eq_none_iff` — `ErrNoTask` exactly when there is no such row.
-/

namespace Shrimp
namespace Server

/-! ### Rows -/

/-- The values of `agent_task_queue.status`. -/
inductive Status
  | pending | claimed | running | completed | failed | canceled
  deriving DecidableEq, Repr

namespace Status

/-- `status IN ('claimed','running')`. -/
def held : Status → Bool
  | claimed | running => true
  | _ => false

/-- `status IN ('pending','claimed','running')`. -/
def cancelable : Status → Bool
  | pending | claimed | running => true
  | _ => false

/-- The statuses of a finished task. -/
def terminal : Status → Bool
  | completed | failed | canceled => true
  | _ => false

end Status

/-- Lower number, higher priority. -/
def priorityHigh : ℤ := 1
def priorityMedium : ℤ := 2
def priorityLow : ℤ := 3

/-- A `TIMESTAMPTZ`, in microseconds. -/
abbrev Time := ℤ

/-- A row of `agent_task_queue`, all its columns but `id`. -/
structure Task where
  agentID : ℤ
  status : Status
  priority : ℤ
  prompt : String
  result : Option String
  error : Option String
  workerID : Option String
  attempts : ℕ
  cancelRequested : Bool
  createdAt : Time
  claimedAt : Option Time
  startedAt : Option Time
  heartbeatAt : Option Time
  completedAt : Option Time
  /-- `CHECK (priority BETWEEN 1 AND 3)`. -/
  priority_check : priorityHigh ≤ priority ∧ priority ≤ priorityLow

/-- The table `agent_task_queue`. -/
structure Queue where
  /-- The rows, by primary key. -/
  rows : Dict ℤ Task
  /-- The last value of the sequence behind `id BIGSERIAL`. -/
  seq : ℤ
  /-- Every key came from the sequence. -/
  issued : ∀ id ∈ rows.keys, id ≤ seq

namespace Queue

/-- The table a migration creates. -/
def empty : Queue := ⟨∅, 0, by simp [Dict.keys]⟩

/-- The row with this primary key: `Get`. -/
def get (q : Queue) (id : ℤ) : Option Task := q.rows.get? id

@[simp] theorem get_empty (id : ℤ) : empty.get id = none := rfl

/-- `UPDATE agent_task_queue SET f WHERE p`. -/
def update (q : Queue) (p : ℤ → Task → Bool) (f : Task → Task) : Queue where
  rows := q.rows.updateWhere p f
  seq := q.seq
  issued := by
    rw [Dict.keys_updateWhere]
    exact q.issued

/-- **A row after an `UPDATE`.** -/
theorem get_update (q : Queue) (p : ℤ → Task → Bool) (f : Task → Task) (id : ℤ) :
    (q.update p f).get id = (q.get id).map fun r => if p id r then f r else r :=
  Dict.get?_updateWhere ..

/-- `UPDATE agent_task_queue SET f WHERE id = i`. -/
def set (q : Queue) (i : ℤ) (f : Task → Task) : Queue := q.update (fun id _ => id = i) f

theorem get_set (q : Queue) (i : ℤ) (f : Task → Task) (id : ℤ) :
    (q.set i f).get id = if id = i then (q.get id).map f else q.get id := by
  rw [set, get_update]
  by_cases h : id = i
  · simp [h]
  · simp [h]

theorem get_of_seq_lt {q : Queue} {id : ℤ} (h : q.seq < id) : q.get id = none := by
  by_contra hne
  have hmem : id ∈ q.rows.keys :=
    Dict.mem_keys_iff.mpr (Option.isSome_iff_ne_none.mpr hne)
  exact absurd (q.issued id hmem) (not_le.mpr h)

/-! ### `Enqueue` -/

/-- The priority `Enqueue` stores: medium when the one asked for is out of range. -/
def enqueuePriority (priority : ℤ) : ℤ :=
  if priority < priorityHigh ∨ priority > priorityLow then priorityMedium else priority

theorem enqueuePriority_check (priority : ℤ) :
    priorityHigh ≤ enqueuePriority priority ∧ enqueuePriority priority ≤ priorityLow := by
  unfold enqueuePriority
  split
  · decide
  · omega

/-- The row `Enqueue` inserts: the columns it names, and the table's defaults. -/
def newTask (agentID : ℤ) (prompt : String) (priority : ℤ) (now : Time) : Task where
  agentID := agentID
  status := .pending
  priority := enqueuePriority priority
  prompt := prompt
  result := none
  error := none
  workerID := none
  attempts := 0
  cancelRequested := false
  createdAt := now
  claimedAt := none
  startedAt := none
  heartbeatAt := none
  completedAt := none
  priority_check := enqueuePriority_check priority

/-- `Enqueue`.  The key is the sequence's next value, `lost` values having been
handed out to inserts that failed. -/
def enqueue (q : Queue) (lost : ℕ) (agentID : ℤ) (prompt : String) (priority : ℤ)
    (now : Time) : Queue × ℤ × Task :=
  let id := q.seq + lost + 1
  let row := newTask agentID prompt priority now
  (⟨q.rows.insert id row, id, by
    intro i hi
    rw [Dict.mem_keys_iff, Dict.contains, Dict.get?_insert] at hi
    split at hi
    · next h => exact h.le
    · have := q.issued i (Dict.mem_keys_iff.mpr hi)
      omega⟩, id, row)

theorem get_enqueue (q : Queue) (lost : ℕ) (agentID : ℤ) (prompt : String) (priority : ℤ)
    (now : Time) (id : ℤ) :
    (q.enqueue lost agentID prompt priority now).1.get id =
      if id = q.seq + lost + 1 then some (newTask agentID prompt priority now) else q.get id :=
  Dict.get?_insert ..

/-! ### `Claim` -/

/-- The condition of the rows `Claim` selects from: pending, of an asked agent,
and not skipped as locked. -/
def claimable (agentIDs : List ℤ) (locked : List ℤ) (id : ℤ) (row : Task) : Bool :=
  row.status = .pending ∧ row.agentID ∈ agentIDs ∧ id ∉ locked

/-- `ORDER BY priority ASC, created_at ASC`: does the first row come before the
second?  Ties are left in the order `scan` of the scan. -/
def claimOrder (scan : ℤ → ℕ) (a b : ℤ × Task) : Prop :=
  a.2.priority < b.2.priority ∨ a.2.priority = b.2.priority ∧
    (a.2.createdAt < b.2.createdAt ∨ a.2.createdAt = b.2.createdAt ∧
      (scan a.1 < scan b.1 ∨ scan a.1 = scan b.1 ∧ a.1 ≤ b.1))

instance (scan : ℤ → ℕ) : DecidableRel (claimOrder scan) := fun a b =>
  inferInstanceAs (Decidable (a.2.priority < b.2.priority ∨ _ ∧ (_ ∨ _ ∧ (_ ∨ _ ∧ _))))

section

variable (scan : ℤ → ℕ)

theorem claimOrder_total (a b : ℤ × Task) : claimOrder scan a b ∨ claimOrder scan b a := by
  unfold claimOrder Time
  omega

theorem claimOrder_trans (a b c : ℤ × Task) (hab : claimOrder scan a b)
    (hbc : claimOrder scan b c) : claimOrder scan a c := by
  unfold claimOrder Time at *
  omega

/-- Two rows with the same place in the order have the same key. -/
theorem claimOrder_antisymm (a b : ℤ × Task) (hab : claimOrder scan a b)
    (hba : claimOrder scan b a) : a.1 = b.1 := by
  unfold claimOrder Time at *
  omega

end

/-- The rows a `Claim` selects from. -/
def claimableRows (q : Queue) (agentIDs locked : List ℤ) : List (ℤ × Task) :=
  q.rows.entries.filter fun e => claimable agentIDs locked e.1 e.2

/-- The subselect of `Claim`: the first claimable row. -/
def nextTask (q : Queue) (agentIDs locked : List ℤ) (scan : ℤ → ℕ) : Option (ℤ × Task) :=
  firstBy (claimOrder scan) (q.claimableRows agentIDs locked)

/-- The columns `Claim` writes. -/
def claimTask (workerID : String) (now : Time) (row : Task) : Task :=
  { row with
    status := .claimed
    workerID := some workerID
    attempts := row.attempts + 1
    claimedAt := some now
    heartbeatAt := some now }

/-- `Claim`; `none` is `ErrNoTask`. -/
def claim (q : Queue) (workerID : String) (agentIDs locked : List ℤ) (scan : ℤ → ℕ)
    (now : Time) : Option (Queue × ℤ × Task) :=
  if agentIDs.length = 0 then none
  else match q.nextTask agentIDs locked scan with
    | none => none
    | some (id, row) =>
      some (q.set id (claimTask workerID now), id, claimTask workerID now row)

theorem mem_claimableRows_iff {q : Queue} {agentIDs locked : List ℤ} {id : ℤ} {row : Task} :
    (id, row) ∈ q.claimableRows agentIDs locked ↔
      q.get id = some row ∧ claimable agentIDs locked id row := by
  rw [claimableRows, List.mem_filter]
  exact and_congr_left' ⟨Dict.get?_of_mem, Dict.mem_of_get?⟩

theorem nextTask_eq_some_iff {q : Queue} {agentIDs locked : List ℤ} {scan : ℤ → ℕ} {id : ℤ}
    {row : Task} : q.nextTask agentIDs locked scan = some (id, row) ↔
      q.get id = some row ∧ claimable agentIDs locked id row ∧
      ∀ id' row', q.get id' = some row' → claimable agentIDs locked id' row' →
        claimOrder scan (id, row) (id', row') := by
  -- rows are told apart by their keys
  have hanti : ∀ a ∈ q.claimableRows agentIDs locked, ∀ b ∈ q.claimableRows agentIDs locked,
      claimOrder scan a b → claimOrder scan b a → a = b := by
    rintro ⟨i, r⟩ ha ⟨i', r'⟩ hb hab hba
    obtain rfl : i = i' := claimOrder_antisymm scan _ _ hab hba
    have hr := (mem_claimableRows_iff.mp ha).1
    rw [(mem_claimableRows_iff.mp hb).1] at hr
    rw [Option.some.inj hr]
  rw [nextTask, firstBy_eq_some_iff (claimOrder_total scan) (claimOrder_trans scan) hanti,
    mem_claimableRows_iff, and_assoc]
  refine and_congr_right fun _ => and_congr_right fun _ => ⟨fun h id' row' hget hcl => ?_,
    fun h a ha => ?_⟩
  · exact h (id', row') (mem_claimableRows_iff.mpr ⟨hget, hcl⟩)
  · obtain ⟨hget, hcl⟩ := mem_claimableRows_iff.mp ha
    exact h a.1 a.2 hget hcl

/-- **What `Claim` takes**: the row of the asked agents that is pending, not
locked and first in the order; it returns the row as it has just written it. -/
theorem claim_eq_some_iff {q q' : Queue} {workerID : String} {agentIDs locked : List ℤ}
    {scan : ℤ → ℕ} {now : Time} {id : ℤ} {task : Task} :
    q.claim workerID agentIDs locked scan now = some (q', id, task) ↔
      ∃ row, q.nextTask agentIDs locked scan = some (id, row) ∧
        q' = q.set id (claimTask workerID now) ∧ task = claimTask workerID now row := by
  unfold claim
  split
  -- without agents nothing is claimable
  · next hnil =>
    constructor
    · intro h
      cases h
    · rintro ⟨row, hnext, -, -⟩
      have hcl := (nextTask_eq_some_iff.mp hnext).2.1
      rw [List.length_eq_zero_iff.mp hnil] at hcl
      simp [claimable] at hcl
  · split
    · next hnone => simp [hnone]
    · next id' row hsome =>
      rw [hsome]
      constructor
      · intro h
        cases h
        exact ⟨row, rfl, rfl, rfl⟩
      · rintro ⟨row', h, rfl, rfl⟩
        cases h
        rfl

/-- **`ErrNoTask`**: no row of the asked agents is pending and not locked. -/
theorem claim_eq_none_iff {q : Queue} {workerID : String} {agentIDs locked : List ℤ}
    {scan : ℤ → ℕ} {now : Time} :
    q.claim workerID agentIDs locked scan now = none ↔
      ∀ id row, q.get id = some row → ¬ claimable agentIDs locked id row := by
  constructor
  · intro h id row hget hcl
    cases hnext : q.nextTask agentIDs locked scan with
    | none =>
      have hmem := mem_claimableRows_iff.mpr ⟨hget, hcl⟩
      rw [firstBy_eq_none_iff.mp hnext] at hmem
      cases hmem
    | some e =>
      have hsome : q.claim workerID agentIDs locked scan now = some (_, e.1, _) :=
        claim_eq_some_iff.mpr ⟨e.2, hnext, rfl, rfl⟩
      rw [h] at hsome
      cases hsome
  · intro h
    by_contra hne
    obtain ⟨⟨q', id, task⟩, hsome⟩ := Option.ne_none_iff_exists'.mp hne
    obtain ⟨row, hnext, -, -⟩ := claim_eq_some_iff.mp hsome
    obtain ⟨hget, hcl, -⟩ := nextTask_eq_some_iff.mp hnext
    exact h id row hget hcl

/-! ### The writes of an execution -/

/-- `MarkRunning`. -/
def markRunning (q : Queue) (id : ℤ) (now : Time) : Queue :=
  q.set id fun row =>
    { row with status := .running, startedAt := some now, heartbeatAt := some now }

/-- The condition of `Heartbeat`: the task is still this worker's. -/
def owned (id : ℤ) (workerID : String) (id' : ℤ) (row : Task) : Bool :=
  id' = id ∧ row.workerID = some workerID ∧ row.status.held

/-- `Heartbeat`, with the answer whether to cancel: the row's flag, or true
when the task is no longer this worker's. -/
def heartbeat (q : Queue) (id : ℤ) (workerID : String) (now : Time) : Queue × Bool :=
  (q.update (owned id workerID) fun row => { row with heartbeatAt := some now },
    match q.get id with
    | some row => if owned id workerID id row then row.cancelRequested else true
    | none => true)

/-- `Complete`. -/
def complete (q : Queue) (id : ℤ) (result : String) (now : Time) : Queue :=
  q.set id fun row =>
    { row with status := .completed, result := some result, completedAt := some now }

/-- `Fail`. -/
def fail (q : Queue) (id : ℤ) (errMsg partialResult : String) (now : Time) : Queue :=
  q.set id fun row =>
    { row with
      status := .failed
      error := some errMsg
      result := some partialResult
      completedAt := some now }

/-- `Canceled`. -/
def canceled (q : Queue) (id : ℤ) (partialResult : String) (now : Time) : Queue :=
  q.set id fun row =>
    { row with status := .canceled, result := some partialResult, completedAt := some now }

/-! ### `RequestCancel` and `RecoverOrphanedTasks` -/

/-- `RequestCancel`; `none` is the error "task not cancelable". -/
def requestCancel (q : Queue) (id : ℤ) : Option (Queue × Task) :=
  match q.get id with
  | none => none
  | some row =>
    if row.status.cancelable then
      some (q.update (fun i r => i = id ∧ r.status.cancelable)
        (fun r => { r with cancelRequested := true }), { row with cancelRequested := true })
    else none

/-- The condition of `RecoverOrphanedTasks`: claimed or running, and no
heartbeat for longer than `timeout`. -/
def orphaned (timeout now : Time) (row : Task) : Bool :=
  row.status.held &&
    match row.heartbeatAt with
    | none => true
    | some t => t < now - timeout

/-- `RecoverOrphanedTasks`, with the number of rows it reset. -/
def recoverOrphanedTasks (q : Queue) (timeout now : Time) : Queue × ℕ :=
  (q.update (fun _ row => orphaned timeout now row) fun row =>
      { row with
        status := .pending
        workerID := none
        claimedAt := none
        startedAt := none
        heartbeatAt := none },
    (q.rows.entries.filter fun e => orphaned timeout now e.2).length)

end Queue

end Server
end Shrimp
