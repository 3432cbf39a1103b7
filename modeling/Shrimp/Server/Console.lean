import Mathlib.Data.List.Sort
import Shrimp.Server.Honest

/-!
# The console (`web/app/page.tsx`, `server/server.go`)

The page asks for the list of tasks once, when it is loaded, and keeps a WebSocket
open that brings the events of the bus.  The reply and the events come in any order,
an event may be dropped on its way, and a connection that was lost is opened again
without asking for the list again.  An event waits in a channel until `handleWS`
marshals it, with the task it points to as it is by then.

Here a page moves together with one process that it watches.  A page that outlives its
server keeps what it shows, the live output included: what it makes of a second process
is not said here.

## Main definitions

* `Queue.list` — `List`, on the order in which a scan meets rows of one instant.
* `Console` — the state of the page; `Console.receive` is `ws.onmessage`.
* `Connection` — the channel of a subscription, and the messages on their way.
* `Watch`, `watch` — a process and a page, and the transition system.
* `Input`, `lastAbout` — what a page is told, and what it was told last of a task.
* `InTransit` — what is on its way comes in the order in which it was published.

## Main results

* `Watch.step_cases` — what a step does.
* `displayed_of_run` — **every task is shown once, and its live output is made of lines
  of its execution**, in their order.
-/

namespace Shrimp
namespace Server

/-! ### The list of tasks -/

/-- `ORDER BY created_at DESC`; rows of one instant are left in the order of the scan. -/
def listOrder (scan : ℤ → ℕ) (a b : ℤ × Task) : Prop :=
  b.2.createdAt < a.2.createdAt ∨
    (b.2.createdAt = a.2.createdAt ∧ scan a.1 ≤ scan b.1)

instance (scan : ℤ → ℕ) : DecidableRel (listOrder scan) := fun a b =>
  inferInstanceAs (Decidable (b.2.createdAt < a.2.createdAt ∨
    (b.2.createdAt = a.2.createdAt ∧ scan a.1 ≤ scan b.1)))

/-- The limit `List` sets. -/
def listLimit (limit : ℤ) : ℕ := if limit ≤ 0 ∨ limit > 500 then 200 else limit.toNat

/-- `List`. -/
def Queue.list (q : Queue) (scan : ℤ → ℕ) (limit : ℤ) : List (ℤ × Task) :=
  (q.rows.entries.insertionSort (listOrder scan)).take (listLimit limit)

theorem Queue.get_of_mem_list {q : Queue} {scan : ℤ → ℕ} {limit id : ℤ} {row : Task}
    (h : (id, row) ∈ q.list scan limit) : q.get id = some row := by
  have hmem := List.mem_of_mem_take h
  rw [List.mem_insertionSort] at hmem
  exact Dict.get?_of_mem hmem

theorem Queue.nodup_list (q : Queue) (scan : ℤ → ℕ) (limit : ℤ) :
    ((q.list scan limit).map Prod.fst).Nodup := by
  have hsub := (List.take_sublist (listLimit limit)
    (q.rows.entries.insertionSort (listOrder scan))).map Prod.fst
  refine hsub.nodup ?_
  rw [((List.perm_insertionSort (listOrder scan) q.rows.entries).map Prod.fst).nodup_iff]
  exact q.rows.nodup

/-! ### The page -/

/-- The state of the page: the tasks, newest first, and the live output of a task. -/
structure Console where
  tasks : List (ℤ × Task)
  streams : Dict ℤ String

namespace Console

/-- The page before its first message. -/
def empty : Console := ⟨[], ∅⟩

/-- The live output of a task, empty when there is none. -/
def live (c : Console) (id : ℤ) : String := (c.streams.get? id).getD ""

/-- `ws.onmessage`. -/
def receive (c : Console) (msg : Bus.Event) : Console :=
  if msg.type = .chunk then
    -- the JSON of an event leaves out an empty chunk
    if msg.chunk = "" then c
    else { c with
      streams := c.streams.insert msg.taskID (c.live msg.taskID ++ msg.chunk ++ "\n") }
  else match msg.task with
    | none => c
    | some t =>
      { tasks := upsert c.tasks msg.taskID t
        streams := if t.status.terminal then c.streams.erase msg.taskID else c.streams }

/-- `setTasks`, with the reply to the first request. -/
def load (c : Console) (ts : List (ℤ × Task)) : Console := { c with tasks := ts }

theorem tasks_receive (c : Console) (msg : Bus.Event) :
    (c.receive msg).tasks = onmessage c.tasks msg := by
  unfold receive onmessage
  split
  · split <;> rfl
  · cases msg.task <;> rfl

end Console

/-! ### A process and a page -/

/-- The request for the list of tasks. -/
inductive Request
  /-- On its way to the server. -/
  | asked
  /-- Answered with these tasks. -/
  | answered (ts : List (ℤ × Task))
  /-- Its reply has been shown, or it has failed. -/
  | done

/-- What `handleWS` keeps for the page. -/
structure Connection where
  /-- The events in the channel of its subscription. -/
  channel : List Sent
  /-- The messages that were written and have not arrived. -/
  wire : List Bus.Event

/-- What is on its way. -/
def Connection.transit (c : Connection) : List Bus.Event := c.wire ++ c.channel.map Sent.event

theorem Connection.transit_append (c : Connection) (ss : List Sent) :
    ({ c with channel := c.channel ++ ss } : Connection).transit =
      c.transit ++ ss.map Sent.event := by
  rw [transit, transit, List.map_append, List.append_assoc]

/-- A process and a page that watches it. -/
structure Watch where
  feed : Feed
  conn : Option Connection
  request : Request
  console : Console

/-- Is a reply still to come? -/
def Request.pending : Request → Bool
  | asked | answered _ => true
  | done => false

namespace Watch

/-- The steps. -/
inductive Act
  /-- A step of the process: what it publishes is kept for the page or dropped. -/
  | feed (a : Feed.Act) (kept : Bool)
  /-- `handleWS` subscribes. -/
  | connect
  /-- The connection is lost, with what is on its way. -/
  | disconnect
  /-- `handleWS` takes an event from the channel and writes its message. -/
  | marshal (ahead : Bool)
  /-- A message arrives. -/
  | receive
  /-- `handleListTasks`. -/
  | answer (scan : ℤ → ℕ)
  /-- The list arrives. -/
  | load
  | requestFails

variable (w : Watch)

/-- What a step of the process sends to its subscribers. -/
def news (a : Feed.Act) (f : Feed) : List Sent :=
  (f.published.drop w.feed.published.length).map fun e => ⟨e, a.shared⟩

/-- **One step.** -/
def step (timeout : Time) : Act → Option Watch
  | .feed a kept => (w.feed.step timeout a).map fun f =>
    { w with
      feed := f
      conn := w.conn.map fun c =>
        { c with channel := c.channel ++ if kept then w.news a f else [] } }
  | .connect =>
    match w.conn with
    | none => some { w with conn := some ⟨[], []⟩ }
    | some _ => none
  | .disconnect => some { w with conn := none }
  | .marshal ahead =>
    match w.conn with
    | some ⟨s :: ss, wire⟩ => some { w with conn := some ⟨ss, wire ++ [s.marshal w.feed ahead]⟩ }
    | _ => none
  | .receive =>
    match w.conn with
    | some ⟨channel, e :: es⟩ =>
      some { w with conn := some ⟨channel, es⟩, console := w.console.receive e }
    | _ => none
  | .answer scan =>
    match w.request with
    | .asked => some { w with request := .answered (w.feed.deployment.cluster.queue.list scan 0) }
    | _ => none
  | .load =>
    match w.request with
    | .answered ts => some { w with request := .done, console := w.console.load ts }
    | _ => none
  | .requestFails => some { w with request := .done }

/-- A page that has just been loaded, on a process that has just started. -/
def fresh (q : Queue) (workerID : String) : Watch := ⟨.fresh q workerID, none, .asked, .empty⟩

end Watch

/-- A process that has just started, and a page. -/
def watch (timeout : Time) : Lts Watch Watch.Act :=
  Lts.ofStep (fun w => ∃ q workerID, w = .fresh q workerID) (Watch.step · timeout)

section

variable {timeout : Time} {w w' : Watch}

/-- What a step labelled so does. -/
inductive Watch.Moves (timeout : Time) (w w' : Watch) : Watch.Act → Prop
  | feed {a : Feed.Act} {kept : Bool} (f : Feed) (es : List Bus.Event)
      (hstep : w.feed.step timeout a = some f) (hpub : f.published = w.feed.published ++ es)
      (hw : w' = { w with
        feed := f
        conn := w.conn.map fun c =>
          { c with channel := c.channel ++ if kept then es.map (⟨·, a.shared⟩) else [] } }) :
      Moves timeout w w' (.feed a kept)
  | connect (hw : w' = { w with conn := some ⟨[], []⟩ }) : Moves timeout w w' .connect
  | disconnect (hw : w' = { w with conn := none }) : Moves timeout w w' .disconnect
  | marshal {ahead : Bool} (s : Sent) (ss : List Sent) (wire : List Bus.Event)
      (hconn : w.conn = some ⟨s :: ss, wire⟩)
      (hw : w' = { w with conn := some ⟨ss, wire ++ [s.marshal w.feed ahead]⟩ }) :
      Moves timeout w w' (.marshal ahead)
  | receive (e : Bus.Event) (es : List Bus.Event) (channel : List Sent)
      (hconn : w.conn = some ⟨channel, e :: es⟩)
      (hw : w' = { w with conn := some ⟨channel, es⟩, console := w.console.receive e }) :
      Moves timeout w w' .receive
  | answer {scan : ℤ → ℕ} (hrequest : w.request = .asked)
      (hw : w' = { w with
        request := .answered (w.feed.deployment.cluster.queue.list scan 0) }) :
      Moves timeout w w' (.answer scan)
  | load (ts : List (ℤ × Task)) (hrequest : w.request = .answered ts)
      (hw : w' = { w with request := .done, console := w.console.load ts }) :
      Moves timeout w w' .load
  | requestFails (hw : w' = { w with request := .done }) : Moves timeout w w' .requestFails

theorem Feed.exists_published {f f' : Feed} {a : Feed.Act} (h : f.step timeout a = some f') :
    ∃ es, f'.published = f.published ++ es := by
  cases Feed.step_cases h with
  | op D htakes hstep hf => exact ⟨[], by rw [hf, List.append_nil]; rfl⟩
  | created t hget hf => exact ⟨_, by rw [hf]⟩
  | say i v v' e hf => exact ⟨[e], by rw [hf]; rfl⟩

/-- **Every step is one of these.** -/
theorem Watch.step_cases {a : Watch.Act} (h : w.step timeout a = some w') :
    Moves timeout w w' a := by
  cases a with
  | feed a kept =>
    obtain ⟨f, hstep, rfl⟩ := Option.map_eq_some_iff.mp h
    obtain ⟨es, hpub⟩ := Feed.exists_published hstep
    refine .feed f es hstep hpub ?_
    rw [news, hpub, List.drop_left]
  | connect =>
    simp only [step] at h
    split at h
    · cases h
      exact .connect rfl
    · cases h
  | disconnect =>
    cases h
    exact .disconnect rfl
  | marshal ahead =>
    simp only [step] at h
    split at h
    · next s ss wire hconn =>
      cases h
      exact .marshal s ss wire hconn rfl
    · cases h
  | receive =>
    simp only [step] at h
    split at h
    · next channel e es hconn =>
      cases h
      exact .receive e es channel hconn rfl
    · cases h
  | answer scan =>
    simp only [step] at h
    split at h
    · next hrequest =>
      cases h
      exact .answer hrequest rfl
    · cases h
  | load =>
    simp only [step] at h
    split at h
    · next ts hrequest =>
      cases h
      exact .load ts hrequest rfl
    · cases h
  | requestFails =>
    cases h
    exact .requestFails rfl

/-- The step of the process a step is, if any. -/
def Watch.ofFeed : Watch.Act → Option Feed.Act
  | .feed a _ => some a
  | _ => none

/-- The moves of the process in a watched run. -/
def feedMoves (tr : List (Lts.Move Watch Watch.Act)) : List (Lts.Move Feed Feed.Act) :=
  tr.filterMap fun m => (Watch.ofFeed m.label).map fun a => ⟨m.pre.feed, a, m.post.feed⟩

/-- **The process of a watched run makes a run of its own.** -/
theorem feedRun_of_watch {tr : List (Lts.Move Watch Watch.Act)} (h : (watch timeout).Run tr w) :
    (feed timeout).Run (feedMoves tr) w.feed := by
  refine h.filterMap (T := Server.feed timeout) Watch.feed (fun _ a => Watch.ofFeed a) ?_ ?_
  · rintro w ⟨q, workerID, rfl⟩
    exact ⟨q, workerID, rfl⟩
  · intro w a w' hstep
    cases Watch.step_cases hstep with
    | @feed a kept f es hfeed hpub hw => exact .inl ⟨a, rfl, by rw [hw]; exact hfeed⟩
    | connect hw | disconnect hw | requestFails hw => exact .inr ⟨rfl, by rw [hw]⟩
    | marshal s ss wire hconn hw => exact .inr ⟨rfl, by rw [hw]⟩
    | receive e es channel hconn hw => exact .inr ⟨rfl, by rw [hw]⟩
    | answer hrequest hw | load ts hrequest hw => exact .inr ⟨rfl, by rw [hw]⟩

end

/-! ### What a page is told -/

/-- What a page is told, an event with the task of its message. -/
inductive Input
  | event (e : Bus.Event)
  | list (ts : List (ℤ × Task))

namespace Input

/-- Is it about this task?  A chunk is about its live output only, a list is about
every task, those it does not list included. -/
def about (id : ℤ) : Input → Bool
  | event e => e.taskID = id ∧ e.type ≠ .chunk
  | list _ => true

/-- The task as it tells it. -/
def tells (id : ℤ) : Input → Option Task
  | event e => e.task
  | list ts => copy ts id

/-- The event it is. -/
def event? : Input → Option Bus.Event
  | event e => some e
  | list _ => none

theorem event?_eq_some_iff {i : Input} {e : Bus.Event} : i.event? = some e ↔ i = event e := by
  cases i <;> simp [event?]

/-- Is the task finished by it?  A terminal event says so, and so does any other event
that was marshalled late enough. -/
def finished (id : ℤ) : Input → Bool
  | event e => e.type.terminal || e.task.any fun t => t.status.terminal
  | list ts => (copy ts id).any fun t => t.status.terminal

end Input

/-- What a page is told by a step. -/
def Watch.input (w : Watch) : Watch.Act → Option Input
  | .receive =>
    match w.conn with
    | some ⟨_, e :: _⟩ => some (.event e)
    | _ => none
  | .load =>
    match w.request with
    | .answered ts => some (.list ts)
    | _ => none
  | _ => none

/-- What the page has been told, in order. -/
def inputs (tr : List (Lts.Move Watch Watch.Act)) : List Input :=
  tr.filterMap fun m => m.pre.input m.label

/-- What the page was told last of a task. -/
def lastAbout (id : ℤ) (tr : List (Lts.Move Watch Watch.Act)) : Option Input :=
  ((inputs tr).filter (Input.about id)).getLast?

section

variable {timeout : Time} {w w' : Watch} {tr : List (Lts.Move Watch Watch.Act)} {id : ℤ}

theorem inputs_snoc (m : Lts.Move Watch Watch.Act) :
    inputs (tr ++ [m]) = inputs tr ++ (m.pre.input m.label).toList := by
  rw [inputs, List.filterMap_append, ← inputs]
  cases hm : m.pre.input m.label <;> simp [List.filterMap, hm]

theorem lastAbout_snoc_of_about {m : Lts.Move Watch Watch.Act} {i : Input}
    (hm : m.pre.input m.label = some i) (h : i.about id = true) :
    lastAbout id (tr ++ [m]) = some i := by
  rw [lastAbout, inputs_snoc, hm, List.filter_append, Option.toList_some,
    List.filter_cons_of_pos h, List.filter_nil, List.getLast?_concat]

theorem lastAbout_snoc_of_not_about {m : Lts.Move Watch Watch.Act}
    (h : ∀ i ∈ m.pre.input m.label, i.about id = false) :
    lastAbout id (tr ++ [m]) = lastAbout id tr := by
  rw [lastAbout, inputs_snoc, List.filter_append, lastAbout]
  cases hm : m.pre.input m.label with
  | none => simp
  | some i => simp [h i hm]

/-- **What is on its way** to the page comes in the order in which it was published,
and behind all of `old`, which has the property. -/
def InTransit (w : Watch) (P : List Bus.Event → Prop) : Prop :=
  ∃ old new, w.feed.published = old ++ new ∧
    (((w.conn.map Connection.transit).getD []).map Bus.Event.bare).Sublist
      (new.map Bus.Event.bare) ∧ P old

/-- A step of the process or of the connection brings nothing to the page. -/
theorem InTransit.step {P : List Bus.Event → Prop} (h : InTransit w P) {a : Watch.Act}
    (hm : Watch.Moves timeout w w' a) (hne : a ≠ .receive) : InTransit w' P := by
  obtain ⟨old, new, hpub, hsub, hP⟩ := h
  cases hm with
  | @feed a kept f es hstep hpub' hw =>
    subst hw
    refine ⟨old, new ++ es, by rw [hpub', hpub, List.append_assoc], ?_, hP⟩
    cases hconn : w.conn with
    | none => exact List.nil_sublist _
    | some c =>
      rw [hconn, Option.map_some, Option.getD_some] at hsub
      rw [Option.map_some, Option.map_some, Option.getD_some, Connection.transit_append,
        List.map_append, List.map_append]
      refine hsub.append ?_
      cases kept with
      | true =>
        have hevents : (es.map (Sent.mk · a.shared)).map Sent.event = es := by
          simp [Function.comp_def]
        rw [if_pos rfl, hevents]
      | false => exact List.nil_sublist _
  | connect hw | disconnect hw =>
    exact ⟨old, new, by rw [hw, hpub], by rw [hw]; exact List.nil_sublist _, hP⟩
  | marshal s ss wire hconn hw =>
    -- the event is on its way as before
    refine ⟨old, new, by rw [hw, hpub], ?_, hP⟩
    rw [hconn] at hsub
    rw [hw]
    simpa [Connection.transit, Sent.bare_marshal] using hsub
  | receive => exact absurd rfl hne
  | answer hrequest hw | load ts hrequest hw =>
    exact ⟨old, new, by rw [hw, hpub], by rw [hw]; exact hsub, hP⟩
  | requestFails hw => exact ⟨old, new, by rw [hw, hpub], by rw [hw]; exact hsub, hP⟩

/-- **An arrival.** -/
theorem InTransit.receive {P Q : List Bus.Event → Prop} (h : InTransit w P) {e : Bus.Event}
    {es : List Bus.Event} {channel : List Sent} (hconn : w.conn = some ⟨channel, e :: es⟩)
    (hw : w' = { w with conn := some ⟨channel, es⟩, console := w.console.receive e })
    (hPQ : ∀ old mid, P old → (∃ e' ∈ mid, e'.bare = e.bare) → Q (old ++ mid)) :
    InTransit w' Q := by
  obtain ⟨old, new, hpub, hsub, hP⟩ := h
  rw [hconn, Option.map_some, Option.getD_some, Connection.transit, List.cons_append,
    List.map_cons, List.cons_sublist_iff] at hsub
  obtain ⟨bmid, bnew, hcut, hmem, hes⟩ := hsub
  obtain ⟨mid, new', rfl, rfl, rfl⟩ := List.map_eq_append_iff.mp hcut
  obtain ⟨e', he', hbare⟩ := List.mem_map.mp hmem
  subst hw
  exact ⟨old ++ mid, new', by rw [hpub, List.append_assoc], hes, hPQ old mid hP ⟨e', he', hbare⟩⟩

theorem InTransit.exists_new {P : List Bus.Event → Prop} (h : InTransit w P) {e : Bus.Event}
    {es : List Bus.Event} {channel : List Sent} (hconn : w.conn = some ⟨channel, e :: es⟩) :
    ∃ old new, w.feed.published = old ++ new ∧ P old ∧ ∃ e' ∈ new, e'.bare = e.bare := by
  obtain ⟨old, new, hpub, hsub, hP⟩ := h
  rw [hconn, Option.map_some, Option.getD_some, Connection.transit, List.cons_append,
    List.map_cons] at hsub
  exact ⟨old, new, hpub, hP, List.mem_map.mp (hsub.subset List.mem_cons_self)⟩

theorem mem_of_lastAbout {i : Input} (h : lastAbout id tr = some i) :
    i ∈ inputs tr ∧ i.about id = true :=
  List.mem_filter.mp (List.mem_of_getLast? h)

/-- What is executed from a page that has just been loaded is a run. -/
theorem exists_watchRun {α : Type} (timeout : Time) (acts : List Watch.Act)
    (g : List (Lts.Move Watch Watch.Act) × Watch → α) {a : α}
    (h : (Lts.exec (Watch.step · timeout) (.fresh .empty "w1") acts).map g = some a) :
    ∃ tr w, (watch timeout).Run tr w ∧ g (tr, w) = a := by
  have hstart : (watch timeout).start (.fresh .empty "w1") := ⟨.empty, "w1", rfl⟩
  exact Lts.Run.exists_of_exec hstart g h

/-- The life of a task whose handler publishes first, with every event kept. -/
def keptLife : List Watch.Act := (lifeActs [.created 1] []).map (Watch.Act.feed · true)

/-- A page that is connected during the whole life of a task, with what the page does
behind the insert, and at the end. -/
def watchActs (early late : List Watch.Act) : List Watch.Act :=
  .connect :: keptLife.take 2 ++ early ++ keptLife.drop 2 ++
    (List.replicate 5 [.marshal false, .receive]).flatten ++ late

/-! ### The live output -/

/-- A message about another task leaves the live output of a task. -/
theorem Console.get?_streams_receive_of_ne {c : Console} {msg : Bus.Event}
    (hne : msg.taskID ≠ id) : (c.receive msg).streams.get? id = c.streams.get? id := by
  unfold receive
  split
  · split
    · rfl
    · exact Dict.get?_insert_of_ne _ _ hne.symm
  · split
    · rfl
    · dsimp only
      split
      · rw [Dict.get?_erase, if_neg hne.symm]
      · rfl

/-- The lines that have been published of a task. -/
def printed (es : List Bus.Event) (id : ℤ) : List String :=
  (es.filter fun e => e.taskID = id ∧ e.type = .chunk).map Bus.Event.chunk

/-- The lines of a transcript, each at an end of line. -/
def transcript (lines : List String) : String := String.join (lines.map (· ++ "\n"))

theorem transcript_snoc (lines : List String) (line : String) :
    transcript (lines ++ [line]) = transcript lines ++ line ++ "\n" := by
  simp [transcript, String.join, List.foldl_append, String.append_assoc]

/-- What is shown of a task. -/
structure Displayed (w : Watch) : Prop where
  /-- A task is shown once. -/
  once : (w.console.tasks.map Prod.fst).Nodup
  /-- The live output of a task is made of lines its execution has printed, in their
  order and none of them twice. -/
  live : ∀ id, ∃ lines, lines.Sublist (printed w.feed.published id) ∧
    w.console.live id = transcript lines

theorem nodup_upsert {tasks : List (ℤ × Task)} (h : (tasks.map Prod.fst).Nodup) (id : ℤ)
    (t : Task) : ((upsert tasks id t).map Prod.fst).Nodup := by
  unfold upsert
  split
  · next hnone =>
    rw [List.map_cons, List.nodup_cons]
    refine ⟨fun hmem => ?_, h⟩
    obtain ⟨x, hx, hid⟩ := List.mem_map.mp hmem
    have := List.findIdx?_eq_none_iff.mp hnone x hx
    simp [hid] at this
  · next idx hsome =>
    -- the row that is replaced has this id
    obtain ⟨hlt, hid, -⟩ := List.findIdx?_eq_some_iff_getElem.mp hsome
    rw [List.map_set]
    have hsame : (tasks.map Prod.fst)[idx]? = some id := by
      rw [List.getElem?_map, List.getElem?_eq_getElem hlt]
      simpa using hid
    rw [set_eq_self hsame]
    exact h

/-- What is asked for has each task once, too. -/
theorem nodup_of_run (h : (watch timeout).Run tr w) :
    (w.console.tasks.map Prod.fst).Nodup ∧
      ∀ ts, w.request = .answered ts → (ts.map Prod.fst).Nodup := by
  refine h.invariant (I := fun _ w => (w.console.tasks.map Prod.fst).Nodup ∧
    ∀ ts, w.request = .answered ts → (ts.map Prod.fst).Nodup) ?_ ?_
  · rintro w ⟨q, workerID, rfl⟩
    exact ⟨List.nodup_nil, fun ts hts => by cases hts⟩
  · rintro tr w a w' - ⟨honce, hasked⟩ hstep
    cases Watch.step_cases hstep with
    | feed f es hfeed hpub hw =>
      subst hw
      exact ⟨honce, hasked⟩
    | connect hw | disconnect hw =>
      subst hw
      exact ⟨honce, hasked⟩
    | requestFails hw =>
      subst hw
      exact ⟨honce, fun ts hts => by cases hts⟩
    | answer hrequest hw =>
      subst hw
      refine ⟨honce, fun ts hts => ?_⟩
      cases hts
      exact Queue.nodup_list ..
    | load ts hrequest hw =>
      subst hw
      exact ⟨hasked ts hrequest, fun ts hts => by cases hts⟩
    | marshal s ss wire hconn hw =>
      subst hw
      exact ⟨honce, hasked⟩
    | receive e es channel hconn hw =>
      subst hw
      refine ⟨?_, hasked⟩
      change ((w.console.receive e).tasks.map Prod.fst).Nodup
      rw [Console.tasks_receive, onmessage]
      split
      · exact honce
      · split
        · exact honce
        · exact nodup_upsert honce _ _

theorem printed_append (es es' : List Bus.Event) (id : ℤ) :
    printed (es ++ es') id = printed es id ++ printed es' id := by
  rw [printed, List.filter_append, List.map_append, printed, printed]

theorem Console.live_receive (c : Console) (msg : Bus.Event) (id : ℤ) :
    (c.receive msg).live id = c.live id ∨ (c.receive msg).live id = "" ∨
      (msg.taskID = id ∧ msg.type = .chunk ∧
        (c.receive msg).live id = c.live id ++ msg.chunk ++ "\n") := by
  by_cases hid : msg.taskID = id
  · subst hid
    unfold receive
    split
    · next hchunk =>
      split
      · exact .inl rfl
      · exact .inr (.inr ⟨rfl, hchunk, by simp [live]⟩)
    · split
      · exact .inl rfl
      · split
        · exact .inr (.inl (by simp [live, Dict.get?_erase]))
        · exact .inl rfl
  · exact .inl (by rw [live, get?_streams_receive_of_ne hid, live])

/-- **The run lemma**: the live output comes from what was published before what is on
its way. -/
theorem transcript_of_run (h : (watch timeout).Run tr w) :
    InTransit w fun old => ∀ id, ∃ lines, lines.Sublist (printed old id) ∧
      w.console.live id = transcript lines := by
  refine h.invariant (I := fun _ w => InTransit w fun old => ∀ id, ∃ lines,
    lines.Sublist (printed old id) ∧ w.console.live id = transcript lines) ?_ ?_
  · rintro w ⟨q, workerID, rfl⟩
    exact ⟨[], [], rfl, .refl _, fun id => ⟨[], .refl _, rfl⟩⟩
  · intro tr w a w' _ ih hstep
    have hm := Watch.step_cases hstep
    by_cases ha : a = .receive
    · subst ha
      cases hm with
      | receive e es channel hconn hw =>
        have hconsole : w'.console = w.console.receive e := by rw [hw]
        refine ih.receive hconn hw fun old mid hold ⟨e', hmem, hbare⟩ id => ?_
        rw [hconsole]
        obtain ⟨lines, hsub, hlive⟩ := hold id
        obtain ⟨htype, htask, hline⟩ := Bus.Event.eq_of_bare hbare
        rcases w.console.live_receive e id with heq | heq | ⟨hid, hchunk, heq⟩
        · refine ⟨lines, ?_, heq.trans hlive⟩
          rw [printed_append]
          exact hsub.trans (List.sublist_append_left _ _)
        · exact ⟨[], List.nil_sublist _, heq⟩
        · refine ⟨lines ++ [e.chunk], ?_, ?_⟩
          · rw [printed_append]
            refine hsub.append (List.singleton_sublist.mpr ?_)
            rw [← hline]
            refine List.mem_map_of_mem (List.mem_filter.mpr ⟨hmem, ?_⟩)
            simp [htask, htype, hid, hchunk]
          · rw [heq, hlive, transcript_snoc]
    · have hstreams : w'.console.streams = w.console.streams := by
        cases hm with
        | feed _ _ _ _ hw | connect hw | disconnect hw | answer _ hw | requestFails hw => rw [hw]
        | marshal _ _ _ _ hw => rw [hw]
        | load _ _ hw => rw [hw, Console.load]
        | receive => exact absurd rfl ha
      simp only [Console.live, hstreams]
      exact ih.step hm ha

/-- **What a page displays** of one process: every task once, and live output that its
execution has printed, whatever is dropped, however often the connection is lost and
whenever the list of tasks comes. -/
theorem displayed_of_run (h : (watch timeout).Run tr w) : Displayed w := by
  refine ⟨(nodup_of_run h).1, fun id => ?_⟩
  obtain ⟨old, new, hpub, -, hlines⟩ := transcript_of_run h
  obtain ⟨lines, hsub, hlive⟩ := hlines id
  refine ⟨lines, ?_, hlive⟩
  rw [hpub, printed_append]
  exact hsub.trans (List.sublist_append_left _ _)

/-- A page that was disconnected while the execution started shows what it prints. -/
theorem displayed_of_run_sample : ∃ tr w, (watch 30).Run tr w ∧ Displayed w ∧
    w.console.live 1 = "ok\n" := by
  obtain ⟨tr, w, hrun, hlive⟩ := exists_watchRun 30
    (.connect :: keptLife.take 8 ++ [.marshal false, .receive, .disconnect, .connect] ++
      (keptLife.drop 8).take 2 ++ [.marshal false, .receive])
    (fun r => r.2.console.live 1)
    (show _ = some "ok\n" by decide +kernel)
  exact ⟨tr, w, hrun, displayed_of_run hrun, hlive⟩

end

end Server
end Shrimp
