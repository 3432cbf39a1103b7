import Shrimp.Server.Feed

/-!
# The events of a task, in order

Between `Enqueue` and `Publish` of the handler a tick may claim the task and say
so, and then `task.created` comes late.  Apart from that the events of a task are
the publishes of one goroutine after another.

## Main definitions

* `InOrder` — what the console may rely on about a task.
* `CreatedFirst` — `task.claimed` is not published before `task.created`.
* `Told`, `Led` — what holds of a feed in whatever order the publishers come, and
  what holds in addition when the handler comes first.

## Main results

* `told_of_run`, `led_of_run` — the run lemmas.
* `inOrder_iff` — **the events of every task come in order exactly when every
  `task.claimed` comes after its `task.created`.**
-/

namespace Shrimp
namespace Server

/-! ### The order of the events -/

/-- The events of a whole life: `n` chunks, and a last event of type `k`. -/
def wholeLife (n : ℕ) (k : Bus.EventType) : List Bus.EventType :=
  .created :: .claimed :: .running :: (List.replicate n .chunk ++ [k])

/-- What the console may rely on about a task. -/
structure Ordered (f : Feed) (id : ℤ) : Prop where
  /-- The events so far begin a whole life. -/
  begins : ∃ n k, k.terminal ∧ Feed.about f.published id <+: wholeLife n k
  /-- When the execution of the task has returned, they are one. -/
  whole : ∀ h ∈ f.deployment.cluster.holdings, h.taskID = id → h.phase = .ended →
    ∃ n k, k.terminal ∧ Feed.about f.published id = wholeLife n k
  /-- A subscriber that hears the terminal event, and drops no event since it
  subscribed, ends with the snapshot of that event. -/
  last : ∀ old since e, f.published = old ++ since → e ∈ since → e.taskID = id →
    e.type.terminal → ∀ tasks, copy (since.foldl onmessage tasks) id = e.task

/-- The task was created through `handleCreateTask` of this process: the handler
is about to publish or has published. -/
def CreatedHere (f : Feed) (id : ℤ) : Prop :=
  f.creating.contains id ∨ .created ∈ Feed.about f.published id

/-- **The events of the task are in order**, when it was created here. -/
def InOrder (f : Feed) (id : ℤ) : Prop := CreatedHere f id → Ordered f id

/-- **The handler comes first**: no `task.claimed` is published of a task whose
handler has yet to publish `task.created`. -/
def CreatedFirst (m : Lts.Move Feed Feed.Act) : Prop :=
  match m.label with
  | .claimed i => ∀ v ∈ m.pre.voices[i]?, m.pre.creating.contains v.taskID = false
  | _ => True

instance (m : Lts.Move Feed Feed.Act) : Decidable (CreatedFirst m) :=
  match m with
  | ⟨f, .claimed i, _⟩ =>
    inferInstanceAs (Decidable (∀ v ∈ f.voices[i]?, f.creating.contains v.taskID = false))
  | ⟨_, .op _, _⟩ | ⟨_, .created _, _⟩ | ⟨_, .running _, _⟩ | ⟨_, .chunk .., _⟩
  | ⟨_, .terminal .., _⟩ => .isTrue trivial

/-! ### The events about a task -/

theorem Feed.about_snoc (es : List Bus.Event) (e : Bus.Event) (id : ℤ) :
    about (es ++ [e]) id = about es id ++ if e.taskID = id then [e.type] else [] := by
  unfold about
  rw [List.filter_append, List.map_append]
  congr 1
  by_cases h : e.taskID = id
  · simp [h]
  · simp [h]

/-- The events an execution has published, by what has been heard of it. -/
def Heard.Said : Heard → List Bus.EventType → Prop
  | .nothing, ks => ks = []
  | .claimed, ks => ks = [.claimed]
  | .running, ks => ∃ n, ks = .claimed :: .running :: List.replicate n .chunk
  | .ended, ks => ∃ n k, k.terminal ∧ ks = .claimed :: .running :: (List.replicate n .chunk ++ [k])

/-- **One more publish of an execution.** -/
theorem Heard.Said.speak {h h' : Heard} {ks : List Bus.EventType} {k : Bus.EventType}
    (hs : h.Said ks) (hk : Speaks h k h') : h'.Said (ks ++ [k]) := by
  cases hk with
  | claimed =>
    rw [show ks = [] from hs]
    rfl
  | running =>
    rw [show ks = [.claimed] from hs]
    exact ⟨0, rfl⟩
  | chunk =>
    obtain ⟨n, rfl⟩ := hs
    refine ⟨n + 1, ?_⟩
    rw [List.replicate_succ', List.cons_append, List.cons_append]
  | terminal hk =>
    obtain ⟨n, rfl⟩ := hs
    exact ⟨n, k, hk, rfl⟩

/-- Behind `task.created`, what an execution has published begins a whole life. -/
theorem Heard.Said.begins {h : Heard} {ks : List Bus.EventType} (hs : h.Said ks) :
    ∃ n k, k.terminal ∧ .created :: ks <+: wholeLife n k := by
  cases h with
  | nothing => exact ⟨0, .completed, rfl, [.claimed, .running, .completed], by rw [hs]; rfl⟩
  | claimed => exact ⟨0, .completed, rfl, [.running, .completed], by rw [hs]; rfl⟩
  | running =>
    obtain ⟨n, rfl⟩ := hs
    exact ⟨n, .completed, rfl, [.completed], rfl⟩
  | ended =>
    obtain ⟨n, k, hk, rfl⟩ := hs
    exact ⟨n, k, hk, List.prefix_rfl⟩

theorem Speaks.ne_created {h h' : Heard} {k : Bus.EventType} (hk : Speaks h k h') :
    k ≠ .created := by
  rintro rfl
  cases hk with
  | terminal hk => cases hk

/-! ### The claims of a cluster without recoveries -/

section

variable {s s' : Cluster} {ev : Event}

open Cluster

theorem claims_of_effect (h : Effect s s' ev) : s'.claims = s.claims ++ (s.claimed ev).toList := by
  have same : s'.holdings = s.holdings → s.claimed ev = none →
      s'.claims = s.claims ++ (s.claimed ev).toList := by
    intro hexecs hc
    rw [claims, hexecs, hc, Option.toList_none, List.append_nil, claims]
  have ofSet : ∀ {i : ℕ} {h0 : Holding} {p : Phase}, s.holdings[i]? = some h0 →
      s'.holdings = s.holdings.set i { h0 with phase := p } → s.claimed ev = none →
      s'.claims = s.claims ++ (s.claimed ev).toList := by
    intro i h0 p hi hexecs hc
    rw [claims_of_set hi hexecs, hc, Option.toList_none, List.append_nil]
  cases h with
  | quiet hrows hexecs hclaimed => exact same hexecs hclaimed
  | enqueue id hnew hget hexecs => exact same hexecs rfl
  | claim workerID id row hrow hpending hqueue hexecs hclaimed =>
    rw [hclaimed, claims, hexecs, List.map_append, claims]
    rfl
  | progress i h0 p hi hp hqueue hexecs hclaimed => exact ofSet hi hexecs hclaimed
  | markRunning h0 hi hp hqueue hexecs => exact ofSet hi hexecs rfl
  | write h0 o hi hp hqueue hexecs => exact ofSet hi hexecs rfl
  | recover hqueue hexecs => exact same hexecs rfl
  | crash hqueue hexecs =>
    rw [claims_of_crash hexecs]
    exact (List.append_nil _).symm

/-- No task is claimed twice: the row of one that has been is not pending. -/
structure Settled (s : Cluster) : Prop where
  distinct : s.claims.Nodup
  notPending : ∀ id ∈ s.claims, ∃ l, s.lease id = some l ∧ l.status ≠ .pending

/-- **The step lemma**, for every step but a recovery behind a claim. -/
theorem settled_of_effect (hO : Owned false s) (hS : Settled s) (h : Effect s s' ev)
    (hrec : ∀ timeout now, ev = .recover timeout now → s.claims = []) : Settled s' := by
  -- no row becomes pending without a recovery, and before the recovery nobody has claimed
  have hstays : ∀ id ∈ s.claims, ∃ l, s'.lease id = some l ∧ l.status ≠ .pending := by
    intro id hid
    obtain ⟨l, hl, hne⟩ := hS.notPending id hid
    obtain ⟨l', hl', hst⟩ := statusStep_of_effect hO h hl
    refine ⟨l', hl', ?_⟩
    revert hst hne
    generalize l.status = st
    generalize l'.status = st'
    intro hne hst
    cases hst with
    | stay => exact hne
    | claim | start =>
      intro hpending
      cases hpending
    | finish hheld hterm =>
      rintro rfl
      cases hterm
    | recover hheld =>
      rw [hrec _ _ rfl] at hid
      cases hid
  have hcl := claims_of_effect h
  cases hc : s.claimed ev with
  | none =>
    rw [hc, Option.toList_none, List.append_nil] at hcl
    exact ⟨hcl ▸ hS.distinct, fun id hid => hstays id (hcl ▸ hid)⟩
  | some id =>
    rw [hc, Option.toList_some] at hcl
    obtain ⟨row, hrow, hpending, l', hl', hne⟩ : ∃ row, s.queue.get id = some row ∧
        row.status = .pending ∧ ∃ l', s'.lease id = some l' ∧ l'.status ≠ .pending := by
      cases h with
      | claim workerID id' row hrow hpending hqueue hexecs hclaimed =>
        rw [hclaimed] at hc
        cases hc
        refine ⟨row, hrow, hpending, ?_⟩
        rw [lease_of_claim hqueue, if_pos rfl, lease, hrow]
        refine ⟨_, rfl, ?_⟩
        intro hne
        cases hne
      | quiet hrows hexecs hclaimed | progress i h0 p hi hp hqueue hexecs hclaimed =>
        rw [hclaimed] at hc
        cases hc
      | _ => cases hc
    -- a claim takes a pending row, so one that nobody has claimed
    have hnew : id ∉ s.claims := by
      intro hid
      obtain ⟨l, hl, hne'⟩ := hS.notPending id hid
      rw [lease, hrow] at hl
      cases hl
      exact hne' hpending
    rw [← List.concat_eq_append] at hcl
    refine ⟨?_, fun id' hid' => ?_⟩
    · rw [hcl]
      exact hS.distinct.concat hnew
    · rw [hcl, List.concat_eq_append, List.mem_append, List.mem_singleton] at hid'
      rcases hid' with hid' | rfl
      · exact hstays id' hid'
      · exact ⟨l', hl', hne⟩

/-- An execution that has returned had returned before, or returns now. -/
theorem ended_of_step (hstep : s.step ev = some s') (hcrash : ∀ d, ev ≠ .crash d) {i : ℕ}
    {h' : Holding} (hi : s'.holdings[i]? = some h') (hp : h'.phase = .ended) :
    (∃ h, s.holdings[i]? = some h ∧ h.phase = .ended) ∨ ev = .done i := by
  by_cases hdone : ev = .done i
  · exact .inr hdone
  -- an execution leaves its write only by returning
  have hwritten : ∀ {h : Holding} {o : Outcome} {ok : Bool}, s.holdings[i]? = some h →
      h.phase ≠ .written o ok := by
    intro h o ok hi0 hp0
    have hkept := getElem?_of_written hstep hdone hcrash hi0 hp0
    rw [hi] at hkept
    cases hkept
    rw [hp] at hp0
    cases hp0
  -- a move of one execution, which is another one or does not end here
  have ofSet : ∀ {j : ℕ} {h0 : Holding} {p : Phase}, s.holdings[j]? = some h0 →
      s'.holdings = s.holdings.set j { h0 with phase := p } → (j = i → p ≠ .ended) →
      ∃ h, s.holdings[i]? = some h ∧ h.phase = .ended := by
    intro j h0 p hj hexecs hne
    rw [hexecs] at hi
    rcases getElem?_set_cases hi with ⟨rfl, rfl⟩ | ⟨-, hi⟩
    · exact absurd hp (hne rfl)
    · exact ⟨h', hi, hp⟩
  refine .inl ?_
  cases effect_of_step hstep with
  | quiet _ hexecs | enqueue _ _ _ hexecs | recover _ hexecs => exact ⟨h', hexecs ▸ hi, hp⟩
  | claim _ _ _ _ _ _ hexecs =>
    rw [hexecs] at hi
    rcases getElem?_snoc_cases hi with hi | ⟨-, rfl⟩
    · exact ⟨h', hi, hp⟩
    · cases hp
  | progress j h0 p hj hpj _ hexecs =>
    refine ofSet hj hexecs ?_
    rintro rfl rfl
    generalize hphase : h0.phase = q at hpj
    cases hpj with
    | done => exact hwritten hj hphase
  | markRunning h0 hj _ _ hexecs | write h0 o hj _ _ hexecs => exact ofSet hj hexecs nofun
  | crash => exact absurd rfl (hcrash _)

end

/-! ### What every run keeps -/

section

variable {timeout : Time} {f f' : Feed} {id : ℤ}

namespace Feed

/-- What the execution of a task has published. -/
def spoken (f : Feed) (id : ℤ) : List Bus.EventType :=
  (about f.published id).filter (· ≠ .created)

/-- The ids of the tasks the executions are of. -/
def taskIDs (f : Feed) : List ℤ := f.voices.map Voice.taskID

end Feed

/-- What holds of a feed, in whatever order the publishers come. -/
structure Told (f : Feed) : Prop where
  confined : Confined f.deployment
  settled : Settled f.deployment.cluster
  /-- Nothing is claimed before the recovery. -/
  booted : ∀ d, f.deployment.process = some ⟨d, false⟩ → f.deployment.cluster.claims = []
  claims : f.taskIDs = f.deployment.cluster.claims
  /-- What is spoken of has a row. -/
  stored : ∀ id, f.deployment.cluster.lease id = none →
    f.creating.get? id = none ∧ Feed.about f.published id = []
  /-- A handler publishes once. -/
  unsaid : ∀ id, f.creating.contains id → .created ∉ Feed.about f.published id
  said : ∀ v ∈ f.voices, v.heard.Said (f.spoken v.taskID)
  silent : ∀ id, id ∉ f.taskIDs → f.spoken id = []
  /-- All events but the chunks carry the task. -/
  carried : ∀ e ∈ f.published, e.type ≠ .chunk → e.task.isSome
  /-- An execution that has returned has published its terminal event. -/
  returned : ∀ (i : ℕ) (h : Holding), f.deployment.cluster.holdings[i]? = some h →
    h.phase = .ended → f.heard i = some .ended

theorem Owned.writing {s : Cluster} (h : Owned true s) : Owned false s where
  last hi hb := h.last hi (Phase.busy_of_writing hb)
  fits hi hb := h.fits hi (Phase.busy_of_writing hb)

theorem Told.nodup (hT : Told f) : f.taskIDs.Nodup := by
  rw [hT.claims]
  exact hT.settled.distinct

theorem Told.eq_of_taskID_eq (hT : Told f) {i j : ℕ} {v w : Voice} (hi : f.voices[i]? = some v)
    (hj : f.voices[j]? = some w) (h : w.taskID = v.taskID) : j = i := by
  have hget : ∀ {k : ℕ} {u : Voice}, f.voices[k]? = some u → f.taskIDs[k]? = some u.taskID := by
    intro k u hk
    rw [Feed.taskIDs, List.getElem?_map, hk, Option.map_some]
  obtain ⟨hlt, hval⟩ := List.getElem?_eq_some_iff.mp (hget hj)
  obtain ⟨hlt', hval'⟩ := List.getElem?_eq_some_iff.mp (hget hi)
  exact (hT.nodup.getElem_inj_iff).mp (hval.trans (h.trans hval'.symm))

theorem Told.lease_ne_none (hT : Told f) (hid : id ∈ f.taskIDs) :
    f.deployment.cluster.lease id ≠ none := by
  obtain ⟨l, hl, -⟩ := hT.settled.notPending id (hT.claims ▸ hid)
  rw [hl]
  nofun

/-- The tasks of the executions a step launches are those it claims. -/
theorem Feed.map_launched (f : Feed) (op : Operation) :
    (f.launched op).map Voice.taskID =
      (f.deployment.cluster.claimed (f.deployment.event timeout op)).toList := by
  cases op with
  | start | recover | crash => rfl
  | run ev =>
    cases ev with
    | claim d agentIDs locked scan now =>
      simp only [launched, Deployment.event, Cluster.claimed]
      cases f.deployment.cluster.daemons[d]? with
      | none => rfl
      | some dm =>
        simp only [Option.bind_some]
        cases f.deployment.cluster.queue.claim dm.workerID agentIDs locked scan now <;> rfl
    | _ => rfl

theorem Feed.heard_of_mem_launched {op : Operation} {v : Voice} (h : v ∈ f.launched op) :
    v.heard = .nothing := by
  unfold launched at h
  split at h
  · simp only [Option.mem_toList, Option.bind_eq_some_iff, Option.map_eq_some_iff] at h
    obtain ⟨dm, -, r, -, rfl⟩ := h
    rfl
  · cases h

/-- A handler that waits after an operation waited before, or has just inserted a
row under a new key. -/
theorem Feed.get?_creatingAfter {op : Operation} {D : Deployment}
    (hstep : f.deployment.step timeout op = some D) {t : Task}
    (h : (f.creatingAfter op).get? id = some t) :
    f.creating.get? id = some t ∨
      f.deployment.cluster.lease id = none ∧ D.cluster.lease id ≠ none := by
  unfold creatingAfter at h
  split at h
  · next lost agentID prompt priority now =>
    rw [Dict.get?_insert] at h
    split at h
    · next heq =>
      change id = f.deployment.cluster.queue.seq + lost + 1 at heq
      obtain ⟨-, hcluster⟩ := Deployment.step_eq_some_iff.mp hstep
      have hD := Option.some.inj hcluster
      refine .inr ⟨?_, ?_⟩
      · rw [Cluster.lease, Queue.get_of_seq_lt (by omega)]
        rfl
      · rw [Cluster.lease, ← hD]
        dsimp only
        rw [Queue.get_enqueue, if_pos heq, Option.map_some]
        exact Option.some_ne_none _
    · exact .inl h
  · exact .inl h

theorem Feed.process_of_recover {op : Operation} {p : Option Process} (htakes : f.takes op)
    (hnext : f.deployment.next op = some p) {timeout' now : Time}
    (hev : f.deployment.event timeout op = .recover timeout' now) :
    ∃ d, f.deployment.process = some ⟨d, false⟩ := by
  cases op with
  | start | crash => cases htakes
  | recover now =>
    obtain ⟨d, hd, -⟩ := Deployment.next_recover_eq_some_iff.mp hnext
    exact ⟨d, hd⟩
  | run ev =>
    change ev = _ at hev
    subst hev
    obtain ⟨k, -, hof, -⟩ := Deployment.next_run_eq_some_iff.mp hnext
    cases hof

theorem Feed.event_ne_crash {op : Operation} {p : Option Process} (htakes : f.takes op)
    (hnext : f.deployment.next op = some p) (d : ℕ) : f.deployment.event timeout op ≠ .crash d := by
  intro hev
  cases op with
  | start | crash => cases htakes
  | recover now => cases hev
  | run ev =>
    change ev = _ at hev
    subst hev
    obtain ⟨k, -, hof, -⟩ := Deployment.next_run_eq_some_iff.mp hnext
    cases hof

/-- Before its recovery a process claims nothing. -/
theorem Feed.claimed_eq_none {op : Operation} {d : ℕ} (htakes : f.takes op)
    (hnext : f.deployment.next op = some (some ⟨d, false⟩)) :
    f.deployment.process = some ⟨d, false⟩ ∧
      f.deployment.cluster.claimed (f.deployment.event timeout op) = none := by
  cases op with
  | start | crash => cases htakes
  | recover now =>
    obtain ⟨d', -, hd'⟩ := Deployment.next_recover_eq_some_iff.mp hnext
    cases hd'
  | run ev =>
    obtain ⟨k, hk, hof, hd⟩ := Deployment.next_run_eq_some_iff.mp hnext
    cases hd
    refine ⟨hk, ?_⟩
    cases ev with
    | claim => simp [Event.ofProcess] at hof
    | _ => rfl

theorem Feed.heard_after {op : Operation} {D : Deployment} {i : ℕ} {h : Heard}
    (hi : f.heard i = some h) : (f.after op D).heard i = some h := by
  rw [heard, Option.map_eq_some_iff] at hi ⊢
  obtain ⟨v, hv, hheard⟩ := hi
  exact ⟨v, (List.getElem?_append_left (List.getElem?_eq_some_iff.mp hv).1).trans hv, hheard⟩

/-- The operations on the deployment keep what holds of a feed. -/
theorem told_of_op (hT : Told f) {op : Operation} {D : Deployment} (htakes : f.takes op)
    (hstep : f.deployment.step timeout op = some D) : Told (f.after op D) := by
  obtain ⟨hnext, hcluster⟩ := Deployment.step_eq_some_iff.mp hstep
  have heff := effect_of_step hcluster
  have hO := hT.confined.owned.writing
  have hrec : ∀ timeout' now, f.deployment.event timeout op = .recover timeout' now →
      f.deployment.cluster.claims = [] := by
    intro timeout' now hev
    obtain ⟨d, hd⟩ := Feed.process_of_recover htakes hnext hev
    exact hT.booted d hd
  have hsettled := settled_of_effect hO hT.settled heff hrec
  have hclaims : (f.after op D).taskIDs = D.cluster.claims := by
    rw [claims_of_effect heff, ← hT.claims, ← f.map_launched]
    exact List.map_append
  -- a row that is not there was not there before
  have hrows : ∀ id, D.cluster.lease id = none → f.deployment.cluster.lease id = none := by
    intro id hnone
    by_contra hne
    obtain ⟨l, hl⟩ := Option.ne_none_iff_exists'.mp hne
    obtain ⟨l', hl', -⟩ := statusStep_of_effect hO heff hl
    rw [hnone] at hl'
    cases hl'
  -- nor is there an execution of a task that has none
  have hids : ∀ id, id ∉ (f.after op D).taskIDs → id ∉ f.taskIDs := by
    intro id hid hmem
    refine hid ?_
    rw [Feed.taskIDs, Feed.after, List.map_append]
    exact List.mem_append_left _ hmem
  constructor
  case confined => exact confined_of_step hT.confined hstep
  case settled => exact hsettled
  case booted =>
    intro d hd
    rw [show (f.after op D).deployment = D from rfl] at hd ⊢
    rw [hd] at hnext
    obtain ⟨hproc, hclaimed⟩ := Feed.claimed_eq_none htakes hnext
    rw [claims_of_effect heff, hT.booted d hproc, hclaimed]
    rfl
  case claims => exact hclaims
  case stored =>
    intro id hnone
    obtain ⟨hget, habout⟩ := hT.stored id (hrows id hnone)
    refine ⟨?_, habout⟩
    by_contra hne
    obtain ⟨t, ht⟩ := Option.ne_none_iff_exists'.mp hne
    rcases Feed.get?_creatingAfter hstep ht with ht | ⟨-, hsome⟩
    · rw [hget] at ht
      cases ht
    · exact hsome hnone
  case unsaid =>
    intro id hcontains
    obtain ⟨t, ht⟩ := Option.isSome_iff_exists.mp hcontains
    rcases Feed.get?_creatingAfter hstep ht with ht | ⟨hnone, -⟩
    · exact hT.unsaid id (Option.isSome_iff_exists.mpr ⟨t, ht⟩)
    · rw [show (f.after op D).published = f.published from rfl, (hT.stored id hnone).2]
      exact List.not_mem_nil
  case said =>
    intro v hv
    rcases List.mem_append.mp hv with hv | hv
    · exact hT.said v hv
    · -- the new execution is of a task none was of before
      rw [Feed.heard_of_mem_launched hv]
      refine hT.silent v.taskID fun hmem => ?_
      have hnodup := hsettled.distinct
      rw [← hclaims, Feed.taskIDs, Feed.after, List.map_append] at hnodup
      exact List.disjoint_of_nodup_append hnodup hmem (List.mem_map_of_mem hv)
  case silent => exact fun id hid => hT.silent id (hids id hid)
  case carried => exact hT.carried
  case returned =>
    intro i h' hi hp
    rcases ended_of_step hcluster (Feed.event_ne_crash htakes hnext) hi hp with
      ⟨h, hi0, hp0⟩ | hdone
    · exact Feed.heard_after (hT.returned i h hi0 hp0)
    · refine Feed.heard_after ?_
      cases op with
      | start | crash => cases htakes
      | recover now => cases hdone
      | run ev =>
        change ev = _ at hdone
        subst hdone
        exact of_decide_eq_true htakes

theorem Feed.spoken_snoc (g : Feed) (e : Bus.Event) (hg : g.published = f.published ++ [e])
    (id : ℤ) : g.spoken id =
      f.spoken id ++ if e.taskID = id ∧ e.type ≠ .created then [e.type] else [] := by
  rw [spoken, hg, about_snoc, List.filter_append, spoken]
  congr 1
  by_cases h : e.taskID = id
  · by_cases hk : e.type = .created <;> simp [h, hk]
  · simp [h]

theorem told_of_created (hT : Told f) {t : Task} (hget : f.creating.get? id = some t)
    (hf : f' = { f with
      creating := f.creating.erase id
      published := f.published ++ [⟨.created, some t, id, "", ""⟩] }) : Told f' := by
  -- the handler's event is the only one that is not an execution's
  have hspoken : ∀ id', f'.spoken id' = f.spoken id' := by
    intro id'
    have hpublished : f'.published = f.published ++ [⟨.created, some t, id, "", ""⟩] := by rw [hf]
    rw [Feed.spoken_snoc f' _ hpublished]
    simp
  have habout : ∀ id', id' ≠ id → Feed.about f'.published id' = Feed.about f.published id' := by
    intro id' hne
    rw [hf, Feed.about_snoc, if_neg (Ne.symm hne), List.append_nil]
  have hcreating : ∀ id',
      f'.creating.get? id' = if id' = id then none else f.creating.get? id' := by
    intro id'
    rw [hf, Dict.get?_erase]
  have hsame : f'.deployment = f.deployment ∧ f'.voices = f.voices := by
    rw [hf]
    exact ⟨rfl, rfl⟩
  obtain ⟨hdep, hvoices⟩ := hsame
  have hids : f'.taskIDs = f.taskIDs := by rw [Feed.taskIDs, hvoices, Feed.taskIDs]
  constructor
  case confined => exact hdep ▸ hT.confined
  case settled => exact hdep ▸ hT.settled
  case booted => exact hdep ▸ hT.booted
  case claims => rw [hids, hdep, hT.claims]
  case stored =>
    intro id' hnone
    rw [hdep] at hnone
    obtain ⟨hget', habout'⟩ := hT.stored id' hnone
    have hne : id' ≠ id := by
      rintro rfl
      rw [hget] at hget'
      cases hget'
    rw [hcreating, if_neg hne, habout id' hne]
    exact ⟨hget', habout'⟩
  -- the handler that has published no longer waits
  case unsaid =>
    intro id' hcontains
    rw [Dict.contains, hcreating] at hcontains
    split at hcontains
    · cases hcontains
    · next hne =>
      rw [habout id' hne]
      exact hT.unsaid id' hcontains
  case said =>
    intro v hv
    rw [hspoken]
    exact hT.said v (hvoices ▸ hv)
  case silent =>
    intro id' hid
    rw [hspoken]
    exact hT.silent id' (hids ▸ hid)
  case carried =>
    intro e he hne
    rw [hf, List.mem_append, List.mem_singleton] at he
    rcases he with he | rfl
    · exact hT.carried e he hne
    · rfl
  case returned =>
    intro i h hi hp
    rw [Feed.heard, hvoices]
    exact hT.returned i h (hdep ▸ hi) hp

theorem told_of_say (hT : Told f) {i : ℕ} {v v' : Voice} {e : Bus.Event}
    (hi : f.voices[i]? = some v) (htask : v'.taskID = v.taskID) (hid : e.taskID = v.taskID)
    (hspeaks : Speaks v.heard e.type v'.heard) (hcarried : e.type ≠ .chunk → e.task.isSome)
    (hf : f' = f.say i v' e) : Told f' := by
  -- the event is about the task of the execution, and about no other
  have hspoken : ∀ id',
      f'.spoken id' = f.spoken id' ++ if v.taskID = id' then [e.type] else [] := by
    intro id'
    have hpublished : f'.published = f.published ++ [e] := by rw [hf, Feed.say]
    rw [Feed.spoken_snoc f' _ hpublished, hid]
    simp only [hspeaks.ne_created, ne_eq, not_false_eq_true, and_true]
  have habout : ∀ id', id' ≠ v.taskID →
      Feed.about f'.published id' = Feed.about f.published id' := by
    intro id' hne
    rw [hf, Feed.say, Feed.about_snoc, hid, if_neg (Ne.symm hne), List.append_nil]
  have hsame : f'.deployment = f.deployment ∧ f'.creating = f.creating := by
    rw [hf]
    exact ⟨rfl, rfl⟩
  obtain ⟨hdep, hcreating⟩ := hsame
  have hvoices : f'.voices = f.voices.set i v' := by rw [hf, Feed.say]
  have hids : f'.taskIDs = f.taskIDs := by
    rw [Feed.taskIDs, hvoices, List.map_set, htask]
    refine set_eq_self ?_
    rw [List.getElem?_map, hi, Option.map_some]
  have hmem : v.taskID ∈ f.taskIDs := List.mem_map_of_mem (List.mem_of_getElem? hi)
  constructor
  case confined => exact hdep ▸ hT.confined
  case settled => exact hdep ▸ hT.settled
  case booted => exact hdep ▸ hT.booted
  case claims => rw [hids, hdep, hT.claims]
  case stored =>
    intro id' hnone
    rw [hdep] at hnone
    have hne : id' ≠ v.taskID := by
      rintro rfl
      exact hT.lease_ne_none hmem hnone
    rw [hcreating, habout id' hne]
    exact hT.stored id' hnone
  case unsaid =>
    intro id' hcontains
    rw [hf, Feed.say, Feed.about_snoc, List.mem_append, not_or]
    refine ⟨hT.unsaid id' (hcreating ▸ hcontains), ?_⟩
    split
    · rw [List.mem_singleton]
      exact hspeaks.ne_created.symm
    · exact List.not_mem_nil
  case said =>
    intro w hw
    obtain ⟨j, hj⟩ := List.mem_iff_getElem?.mp hw
    rw [hvoices] at hj
    rcases getElem?_set_cases hj with ⟨-, rfl⟩ | ⟨hne, hj⟩
    · rw [hspoken, htask, if_pos rfl]
      exact (hT.said v (List.mem_of_getElem? hi)).speak hspeaks
    · -- the other executions are of other tasks
      rw [hspoken, if_neg fun heq => hne (hT.eq_of_taskID_eq hi hj heq.symm), List.append_nil]
      exact hT.said w (List.mem_of_getElem? hj)
  case silent =>
    intro id' hid'
    rw [hids] at hid'
    have hne : v.taskID ≠ id' := by
      rintro rfl
      exact hid' hmem
    rw [hspoken, if_neg hne, List.append_nil]
    exact hT.silent id' hid'
  case carried =>
    intro e' he hne
    rw [hf, Feed.say, List.mem_append, List.mem_singleton] at he
    rcases he with he | rfl
    · exact hT.carried e' he hne
    · exact hcarried hne
  case returned =>
    intro j h hj hp
    have hheard := hT.returned j h (hdep ▸ hj) hp
    have hne : j ≠ i := by
      rintro rfl
      rw [Feed.heard, hi, Option.map_some] at hheard
      rw [Option.some.inj hheard] at hspeaks
      cases hspeaks
    rw [Feed.heard, hvoices, List.getElem?_set_ne hne.symm]
    exact hheard

/-- **The step lemma.** -/
theorem told_of_step {a : Feed.Act} (hT : Told f) (h : f.step timeout a = some f') : Told f' := by
  cases Feed.step_cases h with
  | op D htakes hstep hf => exact hf ▸ told_of_op hT htakes hstep
  | created t hget hf => exact told_of_created hT hget hf
  | say i v v' e hf hi htask hid hspeaks hcarried =>
    exact told_of_say hT hi htask hid hspeaks hcarried hf

theorem told_fresh (q : Queue) (workerID : String) : Told (.fresh q workerID) := by
  constructor
  case confined =>
    have hO : Owned true (Feed.fresh q workerID).deployment.cluster := by
      constructor <;> exact fun {i h} hi => by cases hi
    exact ⟨hO, fun h hmem => by cases hmem⟩
  case settled => exact ⟨List.nodup_nil, fun id hid => by cases hid⟩
  case booted => exact fun _ _ => rfl
  case claims => rfl
  case stored => exact fun _ _ => ⟨rfl, rfl⟩
  case unsaid => exact fun _ h => by cases h
  case said => exact fun v hv => by cases hv
  case silent => exact fun _ _ => rfl
  case carried => exact fun e he => by cases he
  case returned => exact fun i h hi => by cases hi

/-- **The run lemma**, for every order of the publishers. -/
theorem told_of_run {tr : List (Lts.Move Feed Feed.Act)} (h : (feed timeout).Run tr f) :
    Told f := by
  refine h.invariant (I := fun _ f => Told f) ?_ fun _ _ _ _ _ hT hstep => told_of_step hT hstep
  rintro f ⟨q, workerID, rfl⟩
  exact told_fresh q workerID

/-! ### Runs in which the handler comes first -/

/-- What holds in addition, when the handler comes first. -/
structure Led (f : Feed) : Prop where
  waiting : ∀ id, f.creating.contains id → Feed.about f.published id = []
  first : ∀ id, .created ∈ Feed.about f.published id →
    ∃ ks, Feed.about f.published id = .created :: ks ∧ .created ∉ ks

/-- An execution of which something has been heard has published. -/
theorem Heard.Said.ne_nil {h : Heard} {ks : List Bus.EventType} (hs : h.Said ks)
    (hne : h ≠ .nothing) : ks ≠ [] := by
  rintro rfl
  cases h with
  | nothing => exact hne rfl
  | claimed => cases hs
  | running =>
    obtain ⟨n, hs⟩ := hs
    cases hs
  | ended =>
    obtain ⟨n, k, -, hs⟩ := hs
    cases hs

/-- **The step lemma.** -/
theorem led_of_step {a : Feed.Act} (hT : Told f) (hL : Led f) (h : f.step timeout a = some f')
    (hfirst : CreatedFirst ⟨f, a, f'⟩) : Led f' := by
  cases Feed.step_cases h with
  | op D htakes hstep hf =>
    subst hf
    refine ⟨fun id hcontains => ?_, hL.first⟩
    obtain ⟨t, ht⟩ := Option.isSome_iff_exists.mp hcontains
    rcases Feed.get?_creatingAfter hstep ht with ht | ⟨hnone, -⟩
    · exact hL.waiting id (Option.isSome_iff_exists.mpr ⟨t, ht⟩)
    · exact (hT.stored id hnone).2
  | @created id t hget hf =>
    have habout : ∀ id', Feed.about f'.published id' =
        Feed.about f.published id' ++ if id = id' then [.created] else [] := by
      intro id'
      rw [hf, Feed.about_snoc]
    have hempty := hL.waiting id (Option.isSome_iff_exists.mpr ⟨t, hget⟩)
    refine ⟨fun id' hcontains => ?_, fun id' hmem => ?_⟩
    · rw [hf, Dict.contains, Dict.get?_erase] at hcontains
      split at hcontains
      · cases hcontains
      · next hne => rw [habout, if_neg (Ne.symm hne), List.append_nil, hL.waiting id' hcontains]
    · by_cases heq : id = id'
      · subst heq
        rw [habout, hempty, if_pos rfl]
        exact ⟨[], rfl, List.not_mem_nil⟩
      · rw [habout, if_neg heq, List.append_nil] at hmem ⊢
        exact hL.first id' hmem
  -- an execution that publishes has its task's handler behind it
  | say i v v' e hf hi htask hid hspeaks hcarried hclaimed =>
    have habout : ∀ id', Feed.about f'.published id' =
        Feed.about f.published id' ++ if v.taskID = id' then [e.type] else [] := by
      intro id'
      rw [hf, Feed.say, Feed.about_snoc, hid]
    refine ⟨fun id' hcontains => ?_, fun id' hmem => ?_⟩
    · have hwaits : f.creating.contains id' := by
        rw [hf, Feed.say] at hcontains
        exact hcontains
      have hempty := hL.waiting id' hwaits
      have hne : v.taskID ≠ id' := by
        rintro rfl
        by_cases hv : v.heard = .nothing
        · -- this publish is the claim's, and the handler has come first
          have htype : e.type = .claimed := by
            rw [hv] at hspeaks
            generalize e.type = k, v'.heard = h at hspeaks
            cases hspeaks
            rfl
          obtain rfl := hclaimed.mp htype
          rw [hfirst v hi] at hwaits
          cases hwaits
        · refine (hT.said v (List.mem_of_getElem? hi)).ne_nil hv ?_
          rw [Feed.spoken, hempty]
          rfl
      rw [habout, if_neg hne, List.append_nil, hempty]
    · have hne : .created ∉ (if v.taskID = id' then [e.type] else []) := by
        split
        · rw [List.mem_singleton]
          exact hspeaks.ne_created.symm
        · exact List.not_mem_nil
      rw [habout] at hmem ⊢
      obtain ⟨ks, hks, hnot⟩ := hL.first id' ((List.mem_append.mp hmem).resolve_right hne)
      refine ⟨ks ++ if v.taskID = id' then [e.type] else [], by rw [hks, List.cons_append], ?_⟩
      rw [List.mem_append, not_or]
      exact ⟨hnot, hne⟩

/-- **The run lemma.** -/
theorem led_of_run {tr : List (Lts.Move Feed Feed.Act)} (h : (feed timeout).Run tr f)
    (hfirst : ∀ m ∈ tr, CreatedFirst m) : Led f := by
  refine Lts.Run.invariant_of (C := CreatedFirst) (I := fun _ f => Led f) ?_ ?_ h hfirst
  · rintro f ⟨q, workerID, rfl⟩
    exact ⟨fun _ _ => rfl, fun id hmem => by cases hmem⟩
  · intro tr f a f' hrun hL hstep hC
    exact led_of_step (told_of_run hrun) hL hstep hC

/-- A terminal event stands at the end of a whole life only. -/
theorem eq_nil_of_prefix_wholeLife {ks ks' : List Bus.EventType} {k k' : Bus.EventType} {n : ℕ}
    (hk : k.terminal) (h : ks ++ k :: ks' <+: wholeLife n k') :
    ks' = [] ∧ ks ++ [k] = wholeLife n k' := by
  -- nothing before the end of a whole life is terminal
  have hinit : k ∉ .created :: .claimed :: .running :: List.replicate n .chunk := by
    intro hmem
    simp only [List.mem_cons, List.mem_replicate] at hmem
    rcases hmem with rfl | rfl | rfl | ⟨-, rfl⟩ <;> cases hk
  have hlife : wholeLife n k' =
      (.created :: .claimed :: .running :: List.replicate n .chunk) ++ [k'] := rfl
  rw [hlife, List.prefix_concat_iff] at h
  rcases h with h | h
  · rcases List.eq_nil_or_concat ks' with rfl | ⟨r, x, rfl⟩
    · exact ⟨rfl, h⟩
    · rw [List.concat_eq_append, ← List.cons_append, ← List.append_assoc] at h
      obtain ⟨hpre, -⟩ := List.append_inj' h rfl
      exact absurd (hpre ▸ List.mem_append_right _ List.mem_cons_self) hinit
  · exact absurd (h.subset (List.mem_append_right _ List.mem_cons_self)) hinit

/-- **In order, from what holds of the run.** -/
theorem inOrder_of_led (hT : Told f) (hL : Led f) (id : ℤ) : InOrder f id := by
  intro hhere
  -- the task waits for its handler, or `task.created` is the first event
  have hcases : Feed.about f.published id = [] ∧ f.spoken id = [] ∨
      Feed.about f.published id = .created :: f.spoken id := by
    rcases hhere with hcontains | hmem
    · have hempty := hL.waiting id hcontains
      exact .inl ⟨hempty, by rw [Feed.spoken, hempty]; rfl⟩
    · obtain ⟨ks, hks, hnot⟩ := hL.first id hmem
      refine .inr ?_
      rw [Feed.spoken, hks, List.filter_cons_of_neg (by simp), List.filter_eq_self.mpr]
      intro k hk
      exact decide_eq_true (fun heq => hnot (heq ▸ hk))
  have hbegins : ∃ n k, k.terminal ∧ Feed.about f.published id <+: wholeLife n k := by
    rcases hcases with ⟨hempty, -⟩ | hks
    · exact ⟨0, .completed, rfl, hempty ▸ List.nil_prefix⟩
    · rw [hks]
      by_cases hid : id ∈ f.taskIDs
      · obtain ⟨v, hv, rfl⟩ := List.mem_map.mp hid
        exact (hT.said v hv).begins
      · rw [hT.silent id hid]
        exact ⟨0, .completed, rfl, [.claimed, .running, .completed], rfl⟩
  refine ⟨hbegins, ?_, ?_⟩
  · intro h hmem heq hp
    obtain ⟨i, hi⟩ := List.mem_iff_getElem?.mp hmem
    obtain ⟨v, hv, hended⟩ := Option.map_eq_some_iff.mp (hT.returned i h hi hp)
    -- the voice of that execution has said everything
    have htask : v.taskID = id := by
      have hget : f.taskIDs[i]? = some v.taskID := by
        rw [Feed.taskIDs, List.getElem?_map, hv, Option.map_some]
      rw [hT.claims, Cluster.getElem?_claims hi, heq] at hget
      exact (Option.some.inj hget).symm
    have hsaid := hT.said v (List.mem_of_getElem? hv)
    rw [hended, htask] at hsaid
    rcases hcases with ⟨-, hsilent⟩ | hks
    · exact absurd hsilent (hsaid.ne_nil nofun)
    · obtain ⟨n, k, hk, hspoken⟩ := hsaid
      exact ⟨n, k, hk, by rw [hks, hspoken, wholeLife]⟩
  · intro old since e hpub hmem heq hterm tasks
    obtain ⟨before, after, rfl⟩ := List.append_of_mem hmem
    obtain ⟨n, k, hk, hpre⟩ := hbegins
    have habout : Feed.about f.published id = Feed.about (old ++ before) id ++
        e.type :: Feed.about after id := by
      rw [hpub, Feed.about, ← List.append_assoc, List.filter_append, List.map_append,
        List.filter_cons_of_pos (by simp [heq]), List.map_cons, Feed.about, Feed.about]
    rw [habout] at hpre
    obtain ⟨hnil, -⟩ := eq_nil_of_prefix_wholeLife hterm hpre
    have hafter : ∀ e' ∈ after, e'.taskID ≠ id := by
      intro e' he' heq'
      rw [Feed.about, List.map_eq_nil_iff, List.filter_eq_nil_iff] at hnil
      exact hnil e' he' (by simp [heq'])
    have hne : e.type ≠ .chunk := by
      intro hchunk
      rw [hchunk] at hterm
      cases hterm
    have hsome := hT.carried e (by rw [hpub]; simp) hne
    rw [List.foldl_append, List.foldl_cons, copy_foldl_of_ne hafter, ← heq,
      copy_onmessage hne hsome]

/-- A claim that is published before the handler's event is out of order. -/
theorem not_inOrder_of_step {i : ℕ} (hT : Told f) (h : f.step timeout (.claimed i) = some f')
    {v : Voice} (hi : f.voices[i]? = some v) (hwaits : f.creating.contains v.taskID) :
    ¬InOrder f' v.taskID := by
  intro hin
  obtain ⟨w, hw, h⟩ := Feed.onVoice_eq_some_iff.mp h
  obtain rfl := Option.some.inj (hw.symm.trans hi)
  split at h
  · next hv =>
    cases h
    have hsaid := hT.said w (List.mem_of_getElem? hi)
    rw [hv] at hsaid
    have hempty : Feed.about f.published w.taskID = [] := by
      refine List.eq_nil_iff_forall_not_mem.mpr fun k hk => ?_
      have hne : k ≠ .created := by
        rintro rfl
        exact hT.unsaid w.taskID hwaits hk
      have hspoken : k ∈ f.spoken w.taskID := List.mem_filter.mpr ⟨hk, by simp [hne]⟩
      rw [show f.spoken w.taskID = [] from hsaid] at hspoken
      cases hspoken
    obtain ⟨⟨n, k, hk, ks, hks⟩, -, -⟩ := hin (.inl hwaits)
    rw [Feed.say, Feed.about_snoc, hempty, if_pos rfl] at hks
    cases hks
  · cases h

/-- **The events of every task created here come in order, in every state of a run,
exactly when every `task.claimed` comes after its `task.created`.** -/
theorem inOrder_iff {tr : List (Lts.Move Feed Feed.Act)} (h : (feed timeout).Run tr f) :
    (∀ m ∈ tr, ∀ id, InOrder m.post id) ↔ ∀ m ∈ tr, CreatedFirst m := by
  constructor
  · intro hall m hm
    obtain ⟨tr₁, hrun, hstep⟩ := h.step_of_mem hm
    obtain ⟨g, a, g'⟩ := m
    unfold CreatedFirst
    split
    · next i ha =>
      change a = _ at ha
      subst ha
      intro v hv
      by_contra hwaits
      exact not_inOrder_of_step (told_of_run hrun) hstep hv (Bool.eq_true_of_not_eq_false hwaits)
        (hall _ hm v.taskID)
    · trivial
  · intro hfirst m hm id
    obtain ⟨tr₁, tr₂, rfl⟩ := List.append_of_mem hm
    have hrun : (feed timeout).Run (tr₁ ++ [m]) m.post := h.split.1.snoc h.split.2
    refine inOrder_of_led (told_of_run hrun) (led_of_run hrun fun m' hm' => hfirst m' ?_) id
    rcases List.mem_append.mp hm' with hm' | hm'
    · exact List.mem_append_left _ hm'
    · rw [List.mem_singleton.mp hm']
      exact hm

/-- What is executed from a process that has just started is a run. -/
theorem exists_feedRun {α : Type} (timeout : Time) (acts : List Feed.Act)
    (g : List (Lts.Move Feed Feed.Act) × Feed → α) {a : α}
    (h : (Lts.exec (Feed.step · timeout) (.fresh .empty "w1") acts).map g = some a) :
    ∃ tr f, (feed timeout).Run tr f ∧ g (tr, f) = a := by
  have hstart : (feed timeout).start (.fresh .empty "w1") := ⟨.empty, "w1", rfl⟩
  exact Lts.Run.exists_of_exec hstart g h

/-- The life of a task, whose handler publishes early or late. -/
def lifeActs (early late : List Feed.Act) : List Feed.Act := [
  .op (.recover 0), .op (.run (.enqueue 0 7 "fix the build" 2 1))] ++ early ++ [
  .op (.run (.claim 0 [7] [] (fun _ => 0) 2)), .claimed 0, .op (.run (.start 0)),
  .op (.run (.markRunning 0 true 3)), .running 0, .op (.run (.spawn 0)), .chunk 0 "stdout" "ok",
  .op (.run (.exit 0 "ok" none)), .op (.run (.write 0 true 4)), .terminal 0 true,
  .op (.run (.done 0))] ++ late

theorem inOrder_iff_sample : ∃ tr f, (feed 30).Run tr f ∧
    Feed.about f.published 1 = wholeLife 1 .completed ∧ ∀ m ∈ tr, ∀ id, InOrder m.post id := by
  obtain ⟨tr, f, hrun, hf⟩ := exists_feedRun 30 (lifeActs [.created 1] [])
    (fun r => (decide (∀ m ∈ r.1, CreatedFirst m), Feed.about r.2.published 1))
    (show _ = some (true, wholeLife 1 .completed) by decide +kernel)
  rw [Prod.mk.injEq, decide_eq_true_eq] at hf
  exact ⟨tr, f, hrun, hf.2, (inOrder_iff hrun).mpr hf.1⟩

/-- **A tick between `Enqueue` and `Publish`**: the task is claimed, run and
completed before its handler publishes, and a console that has heard it all shows
the finished task as pending. -/
theorem inOrder_counterexample : ¬∀ tr f, (feed 30).Run tr f → ∀ id, InOrder f id := by
  intro hall
  obtain ⟨tr, f, hrun, hf⟩ := exists_feedRun 30 (lifeActs [] [.created 1])
    (fun r => (Feed.about r.2.published 1,
      (copy (r.2.published.foldl onmessage []) 1).map Task.status,
      (r.2.published.find? fun e => e.type.terminal).map fun e =>
        (e.taskID, e.task.map Task.status)))
    (show _ = some ([.claimed, .running, .chunk, .completed, .created], some Status.pending,
      some ((1 : ℤ), some Status.completed)) by decide +kernel)
  simp only [Prod.mk.injEq] at hf
  obtain ⟨habout, hcopy, hterm⟩ := hf
  obtain ⟨e, hfind, he⟩ := Option.map_eq_some_iff.mp hterm
  simp only [Prod.mk.injEq] at he
  obtain ⟨hid, hstatus⟩ := he
  have hin := hall tr f hrun 1 (.inr (by rw [habout]; decide))
  have hlast := hin.last [] f.published e rfl (List.mem_of_find?_eq_some hfind) hid
    (by simpa using List.find?_some hfind) []
  rw [hlast, hstatus] at hcopy
  cases hcopy

end

end Server
end Shrimp
