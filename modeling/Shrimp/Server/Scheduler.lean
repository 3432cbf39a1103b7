import Mathlib.Data.Int.Notation
import Mathlib.Data.List.Perm.Basic
import Shrimp.Lib.Dict
import Shrimp.Lib.Run

/-!
# The scheduler

One goroutine polls the queue.  On each tick it visits the registered agents,
computes once how many slots an agent has free, and claims a task for each of
them.  A claimed task is counted before the goroutine that executes it is
started, and uncounted when that goroutine is through, which may be in the
middle of a tick.

Each access to the counters is one step, so the goroutines interleave with the
loop at any of its statements.

## Main definitions

* `AgentConfig.withDefaults`, `Registry.sync` — the registered agents.
* `Loop`, `Scheduler`, `Op` — where the loop is, the counters and the goroutines
  that still count, and the steps.
* `Scheduler.step`, `scheduler` — the transition system.
* `Scheduler.live`, `Scheduler.reserved` — what a counter counts.

## Main results

* `counted_of_step` — one step preserves the invariant.
* `concurrency_of_run` — **an agent never exceeds its concurrency.**
-/

namespace Shrimp
namespace Server

/-! ### Agents -/

/-- `agent.Config`. -/
structure AgentConfig where
  name : String
  runtimeMode : String
  maxConcurrentTasks : ℤ
  model : String
  thinkingLevel : String
  deriving DecidableEq, Inhabited

/-- `Config.withDefaults`. -/
def AgentConfig.withDefaults (c : AgentConfig) : AgentConfig where
  name := c.name
  runtimeMode := if c.runtimeMode = "" then "exec" else c.runtimeMode
  maxConcurrentTasks := if c.maxConcurrentTasks ≤ 0 then 1 else c.maxConcurrentTasks
  model := if c.model = "" then "claude-opus-4-8" else c.model
  thinkingLevel := if c.thinkingLevel = "" then "medium" else c.thinkingLevel

/-- `agent.Agent`. -/
structure Agent where
  id : ℤ
  config : AgentConfig
  deriving DecidableEq, Inhabited

/-- The agents of a registry, by id. -/
abbrev Registry := Dict ℤ Agent

/-- `Registry.Sync`, with the ids the database assigns. -/
def Registry.sync (configs : List (AgentConfig × ℤ)) : Registry :=
  configs.foldl (fun byID e => byID.insert e.2 ⟨e.2, e.1.withDefaults⟩) ∅

/-! ### The loop and the goroutines -/

/-- What `Claim` returns. -/
inductive ClaimResult
  | task (id : ℤ)
  | noTask
  | error
  deriving DecidableEq, Repr

/-- Where the scheduler loop is. -/
inductive Loop
  /-- `select` waits for the ticker. -/
  | waiting
  /-- The head of the loop over the agents. -/
  | visiting (todo : List Agent)
  /-- The head of `for i := 0; i < free; i++`. -/
  | claiming (a : Agent) (free i : ℤ) (todo : List Agent)
  /-- `Claim` has returned a task. -/
  | claimed (a : Agent) (free i task : ℤ) (todo : List Agent)
  /-- `addInflight` has counted it. -/
  | counted (a : Agent) (free i task : ℤ) (todo : List Agent)
  /-- The claim is published. -/
  | published (a : Agent) (free i task : ℤ) (todo : List Agent)
  /-- The context is canceled. -/
  | stopped
  deriving DecidableEq

/-- A goroutine that executes a task for an agent. -/
structure Goroutine where
  task : ℤ
  agent : Agent
  deriving DecidableEq

/-- The scheduler: its loop, the `inflight` map, and the goroutines that were
launched and have not run `removeInflight`. -/
structure Scheduler where
  loop : Loop := .waiting
  inflight : ℤ → ℤ := fun _ => 0
  goroutines : List Goroutine := []

/-- The steps. -/
inductive Op
  /-- The ticker fires; `All` returns the agents in some order. -/
  | tick (all : List Agent)
  /-- The context is canceled. -/
  | stop
  /-- The loop over the agents takes the next one, or ends the tick. -/
  | visit
  /-- `Claim` returns. -/
  | claim (r : ClaimResult)
  /-- The loop over the free slots is through. -/
  | leave
  /-- `addInflight`. -/
  | add
  /-- `publish`. -/
  | publish
  /-- The `go` statement. -/
  | launch
  /-- A goroutine is through and runs `removeInflight`. -/
  | finish (k : ℕ)
  deriving DecidableEq

namespace Scheduler

/-- `addInflight`. -/
def addInflight (s : Scheduler) (agentID : ℤ) : Scheduler :=
  { s with inflight := fun j => if j = agentID then s.inflight j + 1 else s.inflight j }

/-- `removeInflight`. -/
def removeInflight (s : Scheduler) (agentID : ℤ) : Scheduler :=
  if 0 < s.inflight agentID then
    { s with inflight := fun j => if j = agentID then s.inflight j - 1 else s.inflight j }
  else s

/-- One step of the loop or of a goroutine. -/
def step (reg : Registry) (s : Scheduler) : Op → Option Scheduler
  | .tick all =>
    match s.loop with
    | .waiting => if all.Perm reg.values then some { s with loop := .visiting all } else none
    | _ => none
  | .stop =>
    match s.loop with
    | .waiting => some { s with loop := .stopped }
    | _ => none
  | .visit =>
    match s.loop with
    | .visiting [] => some { s with loop := .waiting }
    | .visiting (a :: todo) =>
      let free := a.config.maxConcurrentTasks - s.inflight a.id
      some { s with loop := .claiming a free 0 todo }
    | _ => none
  | .claim r =>
    match s.loop with
    | .claiming a free i todo =>
      if i < free then
        match r with
        | .task id => some { s with loop := .claimed a free i id todo }
        | .noTask => some { s with loop := .visiting todo }
        | .error => some { s with loop := .visiting todo }
      else none
    | _ => none
  | .leave =>
    match s.loop with
    | .claiming _ free i todo =>
      if i < free then none else some { s with loop := .visiting todo }
    | _ => none
  | .add =>
    match s.loop with
    | .claimed a free i task todo =>
      some { s.addInflight a.id with loop := .counted a free i task todo }
    | _ => none
  | .publish =>
    match s.loop with
    | .counted a free i task todo => some { s with loop := .published a free i task todo }
    | _ => none
  | .launch =>
    match s.loop with
    | .published a free i task todo =>
      some { s with
        loop := .claiming a free (i + 1) todo
        goroutines := s.goroutines ++ [⟨task, a⟩] }
    | _ => none
  | .finish k =>
    match s.goroutines[k]? with
    | some g => some { s.removeInflight g.agent.id with goroutines := s.goroutines.eraseIdx k }
    | none => none

/-- The goroutines of an agent that were launched and have not run
`removeInflight`. -/
def live (s : Scheduler) (agentID : ℤ) : ℕ :=
  s.goroutines.countP fun g => g.agent.id = agentID

end Scheduler

/-- The task that is counted, and whose goroutine is about to be started. -/
def Loop.reserved (agentID : ℤ) : Loop → ℕ
  | .counted a _ _ _ _ => if a.id = agentID then 1 else 0
  | .published a _ _ _ _ => if a.id = agentID then 1 else 0
  | _ => 0

/-- The system of a scheduler, from the synced configuration on. -/
def scheduler (configs : List (AgentConfig × ℤ)) : Lts Scheduler Op :=
  .ofStep (fun s => s = {}) (Scheduler.step (Registry.sync configs))

/-! ### The registry -/

theorem one_le_withDefaults (c : AgentConfig) : 1 ≤ c.withDefaults.maxConcurrentTasks := by
  unfold AgentConfig.withDefaults
  dsimp only
  split <;> omega

/-- A registered agent has the id it is registered under, and room for a task. -/
def Registered (reg : Registry) : Prop :=
  ∀ id a, reg.get? id = some a → a.id = id ∧ 1 ≤ a.config.maxConcurrentTasks

theorem registered_sync (configs : List (AgentConfig × ℤ)) :
    Registered (Registry.sync configs) := by
  have hfold : ∀ reg : Registry, Registered reg →
      Registered (configs.foldl (fun byID e => byID.insert e.2 ⟨e.2, e.1.withDefaults⟩) reg) := by
    induction configs with
    | nil => exact fun reg h => h
    | cons e configs ih =>
      intro reg h
      refine ih _ ?_
      intro id a hget
      rw [Dict.get?_insert] at hget
      split at hget
      · next hid =>
        cases hget
        exact ⟨hid.symm, one_le_withDefaults _⟩
      · exact h id a hget
  refine hfold ∅ ?_
  intro id a hget
  cases hget

/-! ### The invariant -/

/-- The agents the loop has still to visit in this tick. -/
def Loop.todo : Loop → List Agent
  | .visiting todo => todo
  | .claiming _ _ _ todo => todo
  | .claimed _ _ _ _ todo => todo
  | .counted _ _ _ _ todo => todo
  | .published _ _ _ _ todo => todo
  | _ => []

/-- The agent the loop claims for, and the tasks it may still count for it. -/
def Loop.current : Loop → Option (Agent × ℤ)
  | .claiming a free i _ => some (a, free - i)
  | .claimed a free i _ _ => some (a, free - i)
  | .counted a free i _ _ => some (a, free - (i + 1))
  | .published a free i _ _ => some (a, free - (i + 1))
  | _ => none

/-- The counters count what they are meant to, and the claims a tick may still
make leave an agent within its concurrency. -/
structure Counted (reg : Registry) (s : Scheduler) : Prop where
  count : ∀ id, s.inflight id = s.live id + s.loop.reserved id
  bound : ∀ id a, reg.get? id = some a → s.inflight id ≤ a.config.maxConcurrentTasks
  todo : ∀ a ∈ s.loop.todo, reg.get? a.id = some a
  current : ∀ a n, s.loop.current = some (a, n) →
    reg.get? a.id = some a ∧ s.inflight a.id + n ≤ a.config.maxConcurrentTasks
  claimed : ∀ a free i task todo, s.loop = .claimed a free i task todo → i < free

section

variable {reg : Registry} {s s' : Scheduler} {op : Op}

theorem counted_init (hreg : Registered reg) : Counted reg {} where
  count _ := rfl
  bound id a hget := (by decide : (0 : ℤ) ≤ 1).trans (hreg id a hget).2
  todo a ha := by cases ha
  current a n h := by cases h
  claimed a free i task todo h := by cases h

/-- A step of the loop that touches neither the counters nor the goroutines. -/
theorem Counted.of_loop (h : Counted reg s) {loop : Loop}
    (hres : ∀ id, loop.reserved id = s.loop.reserved id)
    (htodo : ∀ a ∈ loop.todo, reg.get? a.id = some a)
    (hcur : ∀ a n, loop.current = some (a, n) →
      reg.get? a.id = some a ∧ s.inflight a.id + n ≤ a.config.maxConcurrentTasks)
    (hclaimed : ∀ a free i task todo, loop = .claimed a free i task todo → i < free) :
    Counted reg { s with loop := loop } where
  count id := by
    change s.inflight id = s.live id + loop.reserved id
    rw [hres id]
    exact h.count id
  bound := h.bound
  todo := htodo
  current := hcur
  claimed := hclaimed

theorem Counted.outside (h : Counted reg s) {loop : Loop} (hcur : loop.current = none)
    (hres : ∀ id, loop.reserved id = s.loop.reserved id)
    (htodo : ∀ a ∈ loop.todo, reg.get? a.id = some a) : Counted reg { s with loop := loop } := by
  apply h.of_loop hres htodo
  · intro a n hsome
    rw [hcur] at hsome
    cases hsome
  · rintro a free i task todo rfl
    cases hcur

/-- One task more is counted, and its goroutine is about to be started. -/
theorem Counted.add (h : Counted reg s) {a : Agent} {free i task : ℤ} {todo : List Agent}
    (hloop : s.loop = .claimed a free i task todo) :
    Counted reg { s.addInflight a.id with loop := .counted a free i task todo } := by
  obtain ⟨hagent, hroom⟩ := h.current a (free - i) (by rw [hloop]; rfl)
  have hlt := h.claimed a free i task todo hloop
  refine ⟨?_, ?_, ?_, ?_, fun _ _ _ _ _ h => by cases h⟩
  -- the count goes up with the ticket of the loop
  · intro id
    have hcount := h.count id
    rw [hloop] at hcount
    change s.inflight id = s.live id + ((0 : ℕ) : ℤ) at hcount
    change (if id = a.id then s.inflight id + 1 else s.inflight id) =
      s.live id + ((if a.id = id then 1 else 0 : ℕ) : ℤ)
    by_cases hid : id = a.id
    · rw [if_pos hid, if_pos hid.symm]
      omega
    · rw [if_neg hid, if_neg (Ne.symm hid)]
      omega
  -- there was room for one more, as the loop has just claimed for this agent
  · intro id b hget
    change (if id = a.id then s.inflight id + 1 else s.inflight id) ≤ _
    split
    · next hid =>
      rw [hid, hagent] at hget
      cases hget
      rw [hid]
      omega
    · exact h.bound id b hget
  · have htodo := h.todo
    rw [hloop] at htodo
    exact htodo
  · rintro b n ⟨⟩
    refine ⟨hagent, ?_⟩
    change (if a.id = a.id then s.inflight a.id + 1 else s.inflight a.id) + _ ≤ _
    rw [if_pos rfl]
    omega

theorem Counted.launch (h : Counted reg s) {a : Agent} {free i task : ℤ} {todo : List Agent}
    (hloop : s.loop = .published a free i task todo) :
    Counted reg { s with
      loop := .claiming a free (i + 1) todo
      goroutines := s.goroutines ++ [⟨task, a⟩] } := by
  refine ⟨?_, h.bound, ?_, ?_, fun _ _ _ _ _ h => by cases h⟩
  · intro id
    have hcount := h.count id
    rw [hloop] at hcount
    change s.inflight id = s.live id + ((if a.id = id then 1 else 0 : ℕ) : ℤ) at hcount
    have hlive : (s.goroutines ++ [(⟨task, a⟩ : Goroutine)]).countP
        (fun g => decide (g.agent.id = id)) = s.live id + if a.id = id then 1 else 0 := by
      rw [List.countP_append, List.countP_singleton, Scheduler.live]
      simp only [decide_eq_true_eq]
    change s.inflight id = (List.countP _ (s.goroutines ++ [⟨task, a⟩]) : ℕ) + ((0 : ℕ) : ℤ)
    rw [hlive, hcount]
    omega
  · have htodo := h.todo
    rw [hloop] at htodo
    exact htodo
  · have hcurrent := h.current
    rw [hloop] at hcurrent
    exact hcurrent

theorem countP_eraseIdx {k : ℕ} {g : Goroutine} {gs : List Goroutine} (hk : gs[k]? = some g)
    (p : Goroutine → Bool) :
    gs.countP p = (gs.eraseIdx k).countP p + if p g = true then 1 else 0 := by
  obtain ⟨hlt, rfl⟩ := List.getElem?_eq_some_iff.mp hk
  rw [← (List.getElem_cons_eraseIdx_perm hlt).countP_eq p, List.countP_cons]

theorem Counted.finish (h : Counted reg s) {k : ℕ} {g : Goroutine}
    (hk : s.goroutines[k]? = some g) :
    Counted reg { s.removeInflight g.agent.id with goroutines := s.goroutines.eraseIdx k } := by
  have hlive : ∀ id, s.live id =
      (s.goroutines.eraseIdx k).countP (fun g => decide (g.agent.id = id)) +
        if g.agent.id = id then 1 else 0 := by
    intro id
    rw [Scheduler.live, countP_eraseIdx hk]
    simp only [decide_eq_true_eq]
  -- the goroutine itself is counted, so the decrement takes place
  have hpos : 0 < s.inflight g.agent.id := by
    have hcount := h.count g.agent.id
    rw [hlive, if_pos rfl] at hcount
    omega
  rw [Scheduler.removeInflight, if_pos hpos]
  have hle : ∀ id, (if id = g.agent.id then s.inflight id - 1 else s.inflight id) ≤
      s.inflight id := by
    intro id
    split <;> omega
  refine ⟨?_, ?_, h.todo, ?_, h.claimed⟩
  · intro id
    have hcount := h.count id
    rw [hlive] at hcount
    change (if id = g.agent.id then s.inflight id - 1 else s.inflight id) =
      (List.countP _ (s.goroutines.eraseIdx k) : ℕ) + (s.loop.reserved id : ℤ)
    by_cases hid : id = g.agent.id
    · rw [if_pos hid.symm] at hcount
      rw [if_pos hid]
      omega
    · rw [if_neg (Ne.symm hid)] at hcount
      rw [if_neg hid]
      omega
  · intro id a hget
    exact (hle id).trans (h.bound id a hget)
  · intro a n hcur
    obtain ⟨hagent, hroom⟩ := h.current a n hcur
    exact ⟨hagent, (Int.add_le_add_right (hle a.id) n).trans hroom⟩

/-- **One step preserves the invariant.** -/
theorem counted_of_step (hreg : Registered reg) (h : Counted reg s)
    (hstep : s.step reg op = some s') : Counted reg s' := by
  obtain ⟨loop, inflight, goroutines⟩ := s
  -- which statements touch the counters: `add`, `launch` and `finish`
  cases op with
  | tick all =>
    simp only [Scheduler.step] at hstep
    split at hstep
    · split at hstep
      · next hperm =>
        cases hstep
        refine h.outside rfl (fun _ => rfl) ?_
        intro a ha
        have hmem : a ∈ reg.values := hperm.mem_iff.mp ha
        obtain ⟨⟨id, a'⟩, he, rfl⟩ := List.mem_map.mp hmem
        have hget := Dict.get?_of_mem he
        rw [(hreg id a' hget).1]
        exact hget
      · cases hstep
    · cases hstep
  | stop =>
    simp only [Scheduler.step] at hstep
    split at hstep
    · cases hstep
      exact h.outside rfl (fun _ => rfl) fun a ha => by cases ha
    · cases hstep
  | visit =>
    simp only [Scheduler.step] at hstep
    split at hstep
    · cases hstep
      exact h.outside rfl (fun _ => rfl) fun a ha => by cases ha
    · next a todo =>
      cases hstep
      have hagent := h.todo a List.mem_cons_self
      refine h.of_loop (fun _ => rfl) (fun b hb => h.todo b (List.mem_cons_of_mem _ hb)) ?_
        (fun _ _ _ _ _ h => by cases h)
      rintro b n ⟨⟩
      refine ⟨hagent, ?_⟩
      dsimp only
      omega
    · cases hstep
  | claim r =>
    simp only [Scheduler.step] at hstep
    split at hstep
    · next a free i todo =>
      split at hstep
      · next hlt =>
        cases r with
        | task id =>
          cases hstep
          refine h.of_loop (fun _ => rfl) h.todo h.current ?_
          rintro _ _ _ _ _ ⟨⟩
          exact hlt
        | noTask =>
          cases hstep
          exact h.outside rfl (fun _ => rfl) h.todo
        | error =>
          cases hstep
          exact h.outside rfl (fun _ => rfl) h.todo
      · cases hstep
    · cases hstep
  | leave =>
    simp only [Scheduler.step] at hstep
    split at hstep
    · split at hstep
      · cases hstep
      · cases hstep
        exact h.outside rfl (fun _ => rfl) h.todo
    · cases hstep
  | add =>
    simp only [Scheduler.step] at hstep
    split at hstep
    · cases hstep
      exact h.add rfl
    · cases hstep
  | publish =>
    simp only [Scheduler.step] at hstep
    split at hstep
    · cases hstep
      exact h.of_loop (fun _ => rfl) h.todo h.current (fun _ _ _ _ _ h => by cases h)
    · cases hstep
  | launch =>
    simp only [Scheduler.step] at hstep
    split at hstep
    · cases hstep
      exact h.launch rfl
    · cases hstep
  | finish k =>
    simp only [Scheduler.step] at hstep
    split at hstep
    · next g hk =>
      cases hstep
      exact h.finish hk
    · cases hstep

/-- **An agent never exceeds its concurrency**, however the goroutines interleave
with the loop: the counter of an agent counts the goroutines that were launched
for it and have not run `removeInflight`, and the one that is about to be
started. -/
theorem concurrency_of_run {configs : List (AgentConfig × ℤ)} {tr : List (Lts.Move Scheduler Op)}
    (hrun : (scheduler configs).Run tr s) {id : ℤ} {a : Agent}
    (ha : (Registry.sync configs).get? id = some a) :
    s.inflight id = s.live id + s.loop.reserved id ∧ 0 ≤ s.inflight id ∧
      s.inflight id ≤ a.config.maxConcurrentTasks ∧ 1 ≤ a.config.maxConcurrentTasks := by
  have hreg := registered_sync configs
  have hcounted : Counted (Registry.sync configs) s := by
    refine Lts.Run.invariant (I := fun _ c => Counted (Registry.sync configs) c) ?_ ?_ hrun
    · rintro c rfl
      exact counted_init hreg
    · intro _ c e c' _ ih hstep
      exact counted_of_step hreg ih hstep
  have hcount := hcounted.count id
  exact ⟨hcount, by omega, hcounted.bound id a ha, (hreg id a ha).2⟩

end

/-- One agent that is configured without a limit. -/
def sampleAgents : List (AgentConfig × ℤ) := [(⟨"dev", "", 0, "", ""⟩, 1)]

/-- The agent as it is registered. -/
def sampleAgent : Agent := ⟨1, ⟨"dev", "exec", 1, "claude-opus-4-8", "medium"⟩⟩

/-- The scheduler claims a task for it and counts it. -/
def sampleOps : List Op := [.tick [sampleAgent], .visit, .claim (.task 7), .add]

theorem exists_sampleOps {α : Type} (ops : List Op)
    (f : List (Lts.Move Scheduler Op) × Scheduler → α) {a : α}
    (h : (Lts.exec (Scheduler.step (Registry.sync sampleAgents)) {} ops).map f = some a) :
    ∃ tr s, (scheduler sampleAgents).Run tr s ∧ f (tr, s) = a := by
  have hstart : (scheduler sampleAgents).start {} := rfl
  exact Lts.Run.exists_of_exec hstart f h

theorem concurrency_of_run_sample : ∃ tr s, (scheduler sampleAgents).Run tr s ∧
    s.inflight 1 = 1 ∧ s.inflight 1 ≤ sampleAgent.config.maxConcurrentTasks := by
  obtain ⟨tr, s, hrun, hs⟩ := exists_sampleOps (sampleOps ++ [.publish, .launch])
    (fun r => r.2.inflight 1) (show _ = some 1 by decide +kernel)
  exact ⟨tr, s, hrun, hs, (concurrency_of_run hrun (by decide +kernel)).2.2.1⟩

/-- **Between `addInflight` and the `go` statement** the counter is ahead of the
goroutines. -/
theorem concurrency_of_run_counterexample :
    ¬∀ configs tr s id a, (scheduler configs).Run tr s →
      (Registry.sync configs).get? id = some a →
      s.inflight id = s.live id ∧ 0 ≤ s.inflight id ∧
        s.inflight id ≤ a.config.maxConcurrentTasks := by
  intro hequal
  obtain ⟨tr, s, hrun, hs⟩ := exists_sampleOps sampleOps
    (fun r => (r.2.inflight 1, r.2.live 1)) (show _ = some (1, 0) by decide +kernel)
  obtain ⟨hinflight, hlive⟩ := Prod.mk.inj hs
  have heq := (hequal _ tr s 1 sampleAgent hrun (by decide +kernel)).1
  rw [hinflight, hlive] at heq
  exact absurd heq (by decide)

end Server
end Shrimp
