import Shrimp.Server.Restart

/-!
# The bus and who publishes on it (`server/events.go`, `web/app/page.tsx`)

Every change of a task is written to the database first and published on the
bus of the process afterwards, by whoever made it: the handler that created the
task, the scheduler that claimed it, the execution that works on it.  Nothing
orders the publishers.

Here one process of a deployment moves together with its publishers.  A publish is an
atomic step, and an event is listed with the task as it is then.  What is published is
the pointer: `execute` goes on setting the status of its task, and a subscriber that
reads an event later sees it as it is by then (`Sent.marshal`).

## Main definitions

* `Bus.Event` — an event, as `EventBus.Publish` sends it.
* `onmessage`, `copy` — what the console makes of an event, and of a task.
* `Heard` — what has been published of an execution.
* `Feed`, `feed` — a process with its publishers, and the transition system.

## Main results

* `copy_onmessage` — an event replaces the console's copy of its task.
* `Feed.step_cases` — what a step does.
-/

namespace Shrimp
namespace Server

/-! ### The bus -/

namespace Bus

/-- The values of `Event.Type`. -/
inductive EventType
  | created | claimed | running | chunk | completed | failed | canceled
  deriving DecidableEq

/-- The types of the last event of a task. -/
def EventType.terminal : EventType → Bool
  | completed | failed | canceled => true
  | _ => false

/-- `Event`, with the task it points to. -/
structure Event where
  type : EventType
  task : Option Task
  taskID : ℤ
  stream : String
  chunk : String

end Bus

/-- The type of the event of a terminal write. -/
def Outcome.eventType : Outcome → Bus.EventType
  | completed _ => .completed
  | failed _ _ => .failed
  | canceled _ => .canceled

@[simp] theorem Outcome.terminal_eventType (o : Outcome) : o.eventType.terminal := by
  cases o <;> rfl

/-! ### The console -/

section

variable (tasks : List (ℤ × Task))

/-- `upsert`: replace the task in the list, or put it in front. -/
def upsert (id : ℤ) (t : Task) : List (ℤ × Task) :=
  match tasks.findIdx? fun x => x.1 = id with
  | none => (id, t) :: tasks
  | some idx => tasks.set idx (id, t)

/-- `ws.onmessage`, on the list of tasks; a chunk goes to the live stream. -/
def onmessage (msg : Bus.Event) : List (ℤ × Task) :=
  if msg.type = .chunk then tasks
  else match msg.task with
    | none => tasks
    | some t => upsert tasks msg.taskID t

/-- The console's copy of a task. -/
def copy (id : ℤ) : Option Task := (tasks.find? fun x => x.1 = id).map Prod.snd

end

section

variable {tasks : List (ℤ × Task)}

theorem copy_cons (x : ℤ × Task) (id : ℤ) :
    copy (x :: tasks) id = if x.1 = id then some x.2 else copy tasks id := by
  unfold copy
  rw [List.find?_cons]
  by_cases h : x.1 = id
  · simp [h]
  · simp [h]

theorem copy_set {id : ℤ} {idx : ℕ} (t : Task)
    (h : (tasks.findIdx? fun x => x.1 = id) = some idx) (id' : ℤ) :
    copy (tasks.set idx (id, t)) id' = if id = id' then some t else copy tasks id' := by
  induction tasks generalizing idx with
  | nil => cases h
  | cons x xs ih =>
    rw [List.findIdx?_cons] at h
    split at h
    · next hx =>
      cases h
      rw [List.set_cons_zero, copy_cons, copy_cons, of_decide_eq_true hx]
      split <;> rfl
    · next hx =>
      obtain ⟨j, hj, rfl⟩ := Option.map_eq_some_iff.mp h
      rw [List.set_cons_succ, copy_cons, ih hj, copy_cons]
      by_cases hid : id = id'
      · subst hid
        rw [if_neg (by simpa using hx), if_pos rfl, if_pos rfl]
      · rw [if_neg hid, if_neg hid]

/-- **`upsert` replaces one copy.** -/
theorem copy_upsert (tasks : List (ℤ × Task)) (id : ℤ) (t : Task) (id' : ℤ) :
    copy (upsert tasks id t) id' = if id = id' then some t else copy tasks id' := by
  unfold upsert
  split
  · exact copy_cons ..
  · next idx h => exact copy_set t h id'

theorem copy_onmessage {e : Bus.Event} (hne : e.type ≠ .chunk) (hsome : e.task.isSome) :
    copy (onmessage tasks e) e.taskID = e.task := by
  obtain ⟨t, ht⟩ := Option.isSome_iff_exists.mp hsome
  unfold onmessage
  rw [if_neg hne, ht]
  exact (copy_upsert ..).trans (if_pos rfl)

theorem copy_onmessage_of_ne {e : Bus.Event} {id : ℤ} (hne : e.taskID ≠ id) :
    copy (onmessage tasks e) id = copy tasks id := by
  unfold onmessage
  split
  · rfl
  · split
    · rfl
    · exact (copy_upsert ..).trans (if_neg hne)

theorem copy_foldl_of_ne {es : List Bus.Event} {id : ℤ} (h : ∀ e ∈ es, e.taskID ≠ id) :
    copy (es.foldl onmessage tasks) id = copy tasks id := by
  induction es generalizing tasks with
  | nil => rfl
  | cons e es ih =>
    rw [List.foldl_cons, ih fun e' he' => h e' (List.mem_cons_of_mem _ he'),
      copy_onmessage_of_ne (h e List.mem_cons_self)]

end

/-! ### The publishers -/

/-- What has been published of an execution. -/
inductive Heard
  /-- `tick` has claimed the task. -/
  | nothing
  | claimed
  | running
  /-- Its terminal event. -/
  | ended
  deriving DecidableEq

/-- An execution as it speaks to the bus. -/
structure Voice where
  taskID : ℤ
  heard : Heard
  /-- The task `Claim` returned, which `execute` keeps up to date. -/
  task : Task

/-- A process with its publishers. -/
structure Feed where
  deployment : Deployment
  /-- The handlers of `handleCreateTask` between `Enqueue` and `Publish`: the tasks
  they have created. -/
  creating : Dict ℤ Task
  /-- One for each execution. -/
  voices : List Voice
  /-- Every event since the process started, oldest first. -/
  published : List Bus.Event

namespace Feed

/-- The steps of a feed. -/
inductive Act
  /-- An operation on the deployment. -/
  | op (op : Operation)
  /-- `handleCreateTask` publishes. -/
  | created (id : ℤ)
  /-- `tick` publishes. -/
  | claimed (exec : ℕ)
  /-- `execute` publishes, behind `MarkRunning`. -/
  | running (exec : ℕ)
  /-- `Runner.Run` calls `onChunk`. -/
  | chunk (exec : ℕ) (stream line : String)
  /-- `execute` publishes, behind the terminal write; `refresh` gets the row or an
  error. -/
  | terminal (exec : ℕ) (ok : Bool)

variable (f : Feed)

/-- What has been published of execution `i`. -/
def heard (i : ℕ) : Option Heard := (f.voices[i]?).map Voice.heard

/-- The phase of execution `i`. -/
def phase (i : ℕ) : Option Phase := (f.deployment.cluster.execs[i]?).map fun e => e.phase

/-- Does this step of the cluster stand behind the publishes before it?  `tick`
publishes a claim before it launches the goroutine and claims again. -/
def ready : Event → Bool
  | .claim .. => f.voices.all fun v => v.heard ≠ .nothing
  | .start i => f.heard i = some .claimed
  | .spawn i | .exit i _ _ => f.heard i = some .running
  | .heartbeat i _ _ | .honor i => f.heard i = some .running ∨ f.heard i = some .ended
  | .done i => f.heard i = some .ended
  | _ => true

/-- Can the process take this operation now?  It is one process, from its start on: the
one before it and the one behind it have a bus of their own. -/
def takes : Operation → Bool
  | .start _ | .crash => false
  | .recover _ => true
  | .run ev => f.ready ev

/-- The handlers that wait to publish: one more behind an `Enqueue`. -/
def creatingAfter : Operation → Dict ℤ Task
  | .run (.enqueue lost agentID prompt priority now) =>
    let r := f.deployment.cluster.queue.enqueue lost agentID prompt priority now
    f.creating.insert r.2.1 r.2.2
  | _ => f.creating

/-- What a `Claim` launches. -/
def launched : Operation → List Voice
  | .run (.claim d agentIDs locked scan now) =>
    ((f.deployment.cluster.daemons[d]?).bind fun dm =>
      (f.deployment.cluster.queue.claim dm.workerID agentIDs locked scan now).map fun r =>
        ⟨r.2.1, .nothing, r.2.2⟩).toList
  | _ => []

/-- The feed after an operation that takes its deployment to `D`. -/
def after (op : Operation) (D : Deployment) : Feed :=
  ⟨D, f.creatingAfter op, f.voices ++ f.launched op, f.published⟩

/-- The feed after execution `i` has published, with the task of the event as it is now. -/
def say (i : ℕ) (v : Voice) (e : Bus.Event) : Feed :=
  { f with voices := f.voices.set i v, published := f.published ++ [e] }

/-- A step of the voice of execution `i`, when there is one. -/
def onVoice (i : ℕ) (k : Voice → Option Feed) : Option Feed :=
  match f.voices[i]? with
  | none => none
  | some v => k v

/-- **One step.** -/
def step (timeout : Time) : Act → Option Feed
  | .op op =>
    if f.takes op then (f.deployment.step timeout op).map (f.after op) else none
  | .created id =>
    match f.creating.get? id with
    | none => none
    | some t =>
      some { f with
        creating := f.creating.erase id
        published := f.published ++ [⟨.created, some t, id, "", ""⟩] }
  | .claimed i => f.onVoice i fun v =>
    if v.heard = .nothing then
      some (f.say i { v with heard := .claimed } ⟨.claimed, some v.task, v.taskID, "", ""⟩)
    else none
  | .running i => f.onVoice i fun v =>
    if v.heard = .claimed ∧ f.phase i = some .marked then
      let t := { v.task with status := .running }
      some (f.say i ⟨v.taskID, .running, t⟩ ⟨.running, some t, v.taskID, "", ""⟩)
    else none
  | .chunk i stream line => f.onVoice i fun v =>
    if v.heard = .running ∧ f.phase i = some .running then
      some (f.say i v ⟨.chunk, none, v.taskID, stream, line⟩)
    else none
  | .terminal i ok => f.onVoice i fun v =>
    match v.heard, f.phase i with
    | .running, some (.written o _) =>
      let t := { v.task with status := o.status }
      let fresh := if ok then (f.deployment.cluster.queue.get v.taskID).getD t else t
      some (f.say i ⟨v.taskID, .ended, t⟩ ⟨o.eventType, some fresh, v.taskID, "", ""⟩)
    | _, _ => none

/-- The types of the events about a task, oldest first. -/
def about (es : List Bus.Event) (id : ℤ) : List Bus.EventType :=
  (es.filter fun e => e.taskID = id).map Bus.Event.type

/-- A process that has just started, on any table. -/
def fresh (q : Queue) (workerID : String) : Feed :=
  ⟨⟨⟨q, [⟨workerID, ∅, false, true⟩], []⟩, some ⟨0, false⟩⟩, ∅, [], []⟩

end Feed

/-- The feeds of a process, from its start. -/
def feed (timeout : Time) : Lts Feed Feed.Act :=
  Lts.ofStep (fun f => ∃ q workerID, f = .fresh q workerID) (Feed.step · timeout)

section

variable {timeout : Time} {f f' : Feed} {id : ℤ}

/-! ### What a step does -/

/-- What an execution may publish next, by what has been heard of it. -/
inductive Speaks : Heard → Bus.EventType → Heard → Prop
  | claimed : Speaks .nothing .claimed .claimed
  | running : Speaks .claimed .running .running
  | chunk : Speaks .running .chunk .running
  | terminal {k : Bus.EventType} (hk : k.terminal) : Speaks .running k .ended

/-- What a step labelled so does to a feed. -/
inductive Moves (timeout : Time) (f f' : Feed) : Feed.Act → Prop
  | op {op : Operation} (D : Deployment) (htakes : f.takes op)
      (hstep : f.deployment.step timeout op = some D) (hf : f' = f.after op D) :
      Moves timeout f f' (.op op)
  | created {id : ℤ} (t : Task) (hget : f.creating.get? id = some t)
      (hf : f' = { f with
        creating := f.creating.erase id
        published := f.published ++ [⟨.created, some t, id, "", ""⟩] }) :
      Moves timeout f f' (.created id)
  | say {a : Feed.Act} (i : ℕ) (v v' : Voice) (e : Bus.Event) (hf : f' = f.say i v' e)
      (hi : f.voices[i]? = some v) (htask : v'.taskID = v.taskID) (hid : e.taskID = v.taskID)
      (hspeaks : Speaks v.heard e.type v'.heard) (hcarried : e.type ≠ .chunk → e.task.isSome)
      (hclaimed : e.type = .claimed ↔ a = .claimed i) : Moves timeout f f' a

theorem Feed.onVoice_eq_some_iff {i : ℕ} {k : Voice → Option Feed} :
    f.onVoice i k = some f' ↔ ∃ v, f.voices[i]? = some v ∧ k v = some f' := by
  unfold onVoice
  cases f.voices[i]? with
  | none => simp
  | some v => simp

/-- **Every step is one of these.** -/
theorem Feed.step_cases {a : Feed.Act} (h : f.step timeout a = some f') :
    Moves timeout f f' a := by
  -- only an execution's publish changes what has been heard of it, and only `claimed` is a claim's
  cases a with
  | op op =>
    simp only [step] at h
    split at h
    · next htakes =>
      obtain ⟨D, hD, rfl⟩ := Option.map_eq_some_iff.mp h
      exact .op D htakes hD rfl
    · cases h
  | created id =>
    simp only [step] at h
    split at h
    · cases h
    · next t hget =>
      cases h
      exact .created t hget rfl
  | claimed i =>
    obtain ⟨v, hi, h⟩ := onVoice_eq_some_iff.mp h
    split at h
    · next hv =>
      cases h
      refine .say i v _ _ rfl hi rfl rfl ?_ (fun _ => rfl) ⟨fun _ => rfl, fun _ => rfl⟩
      rw [hv]
      exact .claimed
    · cases h
  | running i =>
    obtain ⟨v, hi, h⟩ := onVoice_eq_some_iff.mp h
    split at h
    · next hv =>
      cases h
      refine .say i v _ _ rfl hi rfl rfl ?_ (fun _ => rfl) (iff_of_false ?_ ?_)
      · rw [hv.1]
        exact .running
      · intro htype
        cases htype
      · intro hact
        cases hact
    · cases h
  | chunk i stream line =>
    obtain ⟨v, hi, h⟩ := onVoice_eq_some_iff.mp h
    split at h
    · next hv =>
      cases h
      refine .say i v v _ rfl hi rfl rfl ?_ (fun hne => absurd rfl hne) (iff_of_false ?_ ?_)
      · rw [hv.1]
        exact .chunk
      · intro htype
        cases htype
      · intro hact
        cases hact
    · cases h
  | terminal i ok =>
    obtain ⟨v, hi, h⟩ := onVoice_eq_some_iff.mp h
    split at h
    · next o _ hv hp =>
      cases h
      refine .say i v _ _ rfl hi rfl rfl ?_ (fun _ => rfl) (iff_of_false ?_ ?_)
      · rw [hv]
        exact .terminal o.terminal_eventType
      · intro htype
        cases o <;> cases htype
      · intro hact
        cases hact
    · cases h

end

end Server
end Shrimp
