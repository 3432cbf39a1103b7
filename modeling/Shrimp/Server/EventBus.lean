import Mathlib.Data.List.Perm.Basic
import Shrimp.Lib.Dict
import Shrimp.Lib.Run

/-!
# The event bus (`server/events.go`)

`Subscribe` makes a channel and registers it, the function it returns drops the
channel from the map and closes it, and `Publish` offers an event to every
registered channel and drops it for those that are full.  The map is guarded by
a lock that `Publish` takes for reading: any number of calls of `Publish` are in
their loops at once, and neither a registration nor a close comes between two
sends of one call.  Receivers take no lock.

Each send of a `Publish` is one step, so the publishers interleave with each
other and with the receivers at any of their sends.  The bus does nothing with
an event but hand it on, so the type of the events is a parameter.

## Main definitions

* `Chan` — a buffered channel; `none` is the panic of an operation.
* `EventBus`, `Op`, `EventBus.step`, `eventBus` — the transition system.
* `Step` — what a step does while the registered channels are open.
* `BusInv` — the invariant.

## Main results

* `BusInv.step_of_busStep` — no operation panics.
* `Step.busInv` — a step keeps the registered channels open.
* `exec_publish` — a `Publish` comes to its end by its own steps.
* `BusInv.neverWaits` — **the loop of a `Publish` never waits.**
-/

namespace Shrimp
namespace Server
namespace Bus

/-! ### Channels -/

/-- The capacity of a subscriber's channel. -/
def chanCap : ℕ := 256

/-- A buffered channel. -/
structure Chan (β : Type) where
  buffer : List β := []
  closed : Bool := false

namespace Chan

variable {β : Type}

/-- `select { case ch <- x: default: }`. -/
def trySend (ch : Chan β) (x : β) : Option (Chan β) :=
  if ch.closed then none
  else if ch.buffer.length < chanCap then some { ch with buffer := ch.buffer ++ [x] }
  else some ch

/-- `close(ch)`. -/
def close (ch : Chan β) : Option (Chan β) :=
  if ch.closed then none else some { ch with closed := true }

end Chan

/-! ### The bus -/

/-- An event with the call of `Publish` that sends it. -/
structure Sent (P α : Type) where
  publisher : P
  /-- The number of the call among all calls of `Publish`. -/
  call : ℕ
  event : α
  deriving DecidableEq

/-- A call of `Publish` that holds the lock: the channels its loop has still to
visit. -/
structure Publishing (P α : Type) where
  sent : Sent P α
  todo : List ℕ

/-- The bus.  A subscriber is the number of its channel. -/
structure EventBus (P α : Type) where
  /-- The channels that were made, oldest first. -/
  chans : List (Chan (Sent P α)) := []
  /-- The keys of the map. -/
  subs : List ℕ := []
  /-- The calls of `Publish` that hold the lock for reading. -/
  readers : Dict P (Publishing P α) := ∅
  /-- How many calls of `Publish` there have been. -/
  calls : ℕ := 0
  /-- A send or a close hit a closed channel. -/
  panicked : Bool := false

/-- The steps. -/
inductive Op (P α : Type)
  /-- `Subscribe`. -/
  | subscribe
  /-- A call of the function `Subscribe` returned. -/
  | unsubscribe (i : ℕ)
  /-- `Publish` takes the lock; `range` visits the map in some order. -/
  | publish (p : P) (e : α) (order : List ℕ)
  /-- The loop of a `Publish` visits its next channel. -/
  | send (p : P)
  /-- `Publish` returns. -/
  | finish (p : P)
  /-- A subscriber receives. -/
  | receive (i : ℕ)

namespace EventBus

variable {P α : Type}

/-- A channel after an operation. -/
def setChan (b : EventBus P α) (i : ℕ) (ch : Chan (Sent P α)) : EventBus P α :=
  { b with chans := b.chans.set i ch }

/-- The outcome of an operation on a channel. -/
def put (b : EventBus P α) (i : ℕ) : Option (Chan (Sent P α)) → EventBus P α
  | some ch => b.setChan i ch
  | none => { b with panicked := true }

/-- The events a subscriber has still to read. -/
def buffer (b : EventBus P α) (i : ℕ) : List (Sent P α) :=
  ((b.chans[i]?).map Chan.buffer).getD []

variable [DecidableEq P]

/-- A `Publish` has its loop still to run over these channels. -/
def visit (b : EventBus P α) (p : P) (x : Sent P α) (todo : List ℕ) : EventBus P α :=
  { b with readers := b.readers.insert p ⟨x, todo⟩ }

/-- A `Publish` begins. -/
def beginPublish (b : EventBus P α) (p : P) (e : α) (order : List ℕ) : EventBus P α :=
  { b.visit p ⟨p, b.calls, e⟩ order with calls := b.calls + 1 }

/-- One step.  The writers wait for the lock, a publisher only for its last
call. -/
def step (b : EventBus P α) : Op P α → Option (EventBus P α)
  | .subscribe =>
    if b.readers.entries.isEmpty then
      some { b with chans := b.chans ++ [{}], subs := b.subs ++ [b.chans.length] }
    else none
  | .unsubscribe i =>
    match b.chans[i]? with
    | some ch =>
      if b.readers.entries.isEmpty then
        if i ∈ b.subs then some ({ b with subs := b.subs.erase i }.put i ch.close) else some b
      else none
    | none => none
  | .publish p e order =>
    match b.readers.get? p with
    | some _ => none
    | none =>
      if order.Perm b.subs then some (b.beginPublish p e order) else none
  | .send p =>
    match b.readers.get? p with
    | some ⟨x, i :: todo⟩ =>
      match b.chans[i]? with
      | some ch => some ((b.visit p x todo).put i (ch.trySend x))
      | none => none
    | _ => none
  | .finish p =>
    match b.readers.get? p with
    | some ⟨_, []⟩ => some { b with readers := b.readers.erase p }
    | _ => none
  | .receive i =>
    match b.chans[i]? with
    | some ⟨_ :: rest, closed⟩ => some (b.setChan i ⟨rest, closed⟩)
    -- a closed channel yields the zero value, and says so
    | some ⟨[], true⟩ => some b
    | _ => none

/-- One step of a process; one that has panicked is gone. -/
def busStep (b : EventBus P α) (op : Op P α) : Option (EventBus P α) :=
  if b.panicked then none else b.step op

/-- What a call of `Publish` has still to send to a subscriber. -/
def pending (b : EventBus P α) (p : P) (i : ℕ) : List (Sent P α) :=
  match b.readers.get? p with
  | some c => if i ∈ c.todo then [c.sent] else []
  | none => []

end EventBus

/-- The system of a bus. -/
def eventBus (P α : Type) [DecidableEq P] : Lts (EventBus P α) (Op P α) :=
  .ofStep (fun b => b = {}) EventBus.busStep

/-- A history of a bus. -/
abbrev BusTrace (P α : Type) := List (Lts.Move (EventBus P α) (Op P α))

/-! ### Channels after an operation -/

section Channels

variable {P α : Type} {b : EventBus P α} {i j : ℕ} {ch₀ : Chan (Sent P α)}

theorem buffer_of_chan (h : b.chans[i]? = some ch₀) : b.buffer i = ch₀.buffer := by
  simp [EventBus.buffer, h]

/-- A channel that an operation was made on, and the others. -/
theorem getElem?_setChan (ch : Chan (Sent P α)) (h : b.chans[i]? = some ch₀) :
    (b.setChan i ch).chans[j]? = if j = i then some ch else b.chans[j]? := by
  have hlt : i < b.chans.length := (List.getElem?_eq_some_iff.mp h).1
  change (b.chans.set i ch)[j]? = _
  rw [List.getElem?_set, if_pos hlt]
  by_cases hji : j = i
  · rw [if_pos hji.symm, if_pos hji]
  · rw [if_neg (Ne.symm hji), if_neg hji]

theorem buffer_setChan (ch : Chan (Sent P α)) (h : b.chans[i]? = some ch₀) :
    (b.setChan i ch).buffer j = if j = i then ch.buffer else b.buffer j := by
  rw [EventBus.buffer, getElem?_setChan ch h]
  by_cases hji : j = i
  · rw [if_pos hji, if_pos hji]
    rfl
  · rw [if_neg hji, if_neg hji]
    rfl

theorem opened_setChan (ch : Chan (Sent P α)) (h : b.chans[i]? = some ch₀)
    (hclosed : ch.closed = ch₀.closed) :
    (∃ c, (b.setChan i ch).chans[j]? = some c ∧ c.closed = false) ↔
      ∃ c, b.chans[j]? = some c ∧ c.closed = false := by
  rw [getElem?_setChan ch h]
  by_cases hji : j = i
  · subst hji
    simp [h, hclosed]
  · rw [if_neg hji]

theorem setChan_self (h : b.chans[i]? = some ch₀) : b.setChan i ch₀ = b := by
  obtain ⟨hlt, hget⟩ := List.getElem?_eq_some_iff.mp h
  rw [EventBus.setChan, ← hget, List.set_getElem_self]

/-- A new channel has nothing to read, as before it was made. -/
theorem buffer_snoc :
    ({ b with chans := b.chans ++ [{}] } : EventBus P α).buffer i = b.buffer i := by
  rw [EventBus.buffer, EventBus.buffer]
  rcases lt_trichotomy i b.chans.length with hlt | rfl | hgt
  · rw [List.getElem?_append_left hlt]
  · simp
  · rw [List.getElem?_eq_none (by simp; omega), List.getElem?_eq_none (by omega)]

end Channels

/-! ### What a step does -/

section Steps

variable {P α : Type} [DecidableEq P]

/-- What a step does while the registered channels are open. -/
inductive Step : EventBus P α → Op P α → EventBus P α → Prop
  /-- A new subscriber. -/
  | subscribe {b : EventBus P α} : (∀ p, b.readers.get? p = none) →
      Step b .subscribe { b with chans := b.chans ++ [{}], subs := b.subs ++ [b.chans.length] }
  /-- The first unsubscribe. -/
  | unsubscribe {b : EventBus P α} {i : ℕ} {ch : Chan (Sent P α)} : b.chans[i]? = some ch →
      (∀ p, b.readers.get? p = none) → i ∈ b.subs →
      Step b (.unsubscribe i)
        ({ b with subs := b.subs.erase i }.setChan i { ch with closed := true })
  /-- Another unsubscribe. -/
  | again {b : EventBus P α} {i : ℕ} : i < b.chans.length → i ∉ b.subs →
      Step b (.unsubscribe i) b
  /-- A `Publish` begins. -/
  | publish {b : EventBus P α} {p : P} {e : α} {order : List ℕ} : b.readers.get? p = none →
      order.Perm b.subs →
      Step b (.publish p e order) (b.beginPublish p e order)
  /-- A channel with room takes the event. -/
  | send {b : EventBus P α} {p : P} {x : Sent P α} {i : ℕ} {todo : List ℕ}
      {ch : Chan (Sent P α)} : b.readers.get? p = some ⟨x, i :: todo⟩ → b.chans[i]? = some ch →
      ch.buffer.length < chanCap →
      Step b (.send p) ((b.visit p x todo).setChan i { ch with buffer := ch.buffer ++ [x] })
  /-- A full channel loses the event. -/
  | drop {b : EventBus P α} {p : P} {x : Sent P α} {i : ℕ} {todo : List ℕ} :
      b.readers.get? p = some ⟨x, i :: todo⟩ → (b.buffer i).length = chanCap →
      Step b (.send p) (b.visit p x todo)
  /-- A `Publish` returns. -/
  | finish {b : EventBus P α} {p : P} {x : Sent P α} : b.readers.get? p = some ⟨x, []⟩ →
      Step b (.finish p) { b with readers := b.readers.erase p }
  /-- A subscriber receives an event. -/
  | receive {b : EventBus P α} {i : ℕ} {x : Sent P α} {rest : List (Sent P α)}
      {closed : Bool} : b.chans[i]? = some ⟨x :: rest, closed⟩ →
      Step b (.receive i) (b.setChan i ⟨rest, closed⟩)
  /-- A subscriber learns that its channel is closed. -/
  | closed {b : EventBus P α} {i : ℕ} : b.buffer i = [] → Step b (.receive i) b

/-- **The invariant of the bus**: exactly the registered channels are open, and a
`Publish` has only registered ones to visit, each once. -/
structure BusInv (b : EventBus P α) : Prop where
  running : b.panicked = false
  nodup : b.subs.Nodup
  opened : ∀ i, i ∈ b.subs ↔ ∃ ch, b.chans[i]? = some ch ∧ ch.closed = false
  bounded : ∀ i, (b.buffer i).length ≤ chanCap
  visits : ∀ p c, b.readers.get? p = some c →
    c.sent.publisher = p ∧ c.todo.Nodup ∧ ∀ i ∈ c.todo, i ∈ b.subs

variable {b b' : EventBus P α} {op : Op P α}

theorem idle_of_isEmpty (h : b.readers.entries.isEmpty = true) (p : P) :
    b.readers.get? p = none := by
  rw [Dict.get?, List.isEmpty_iff.mp h]
  rfl

theorem BusInv.open_of_mem (hb : BusInv b) {i : ℕ} {ch : Chan (Sent P α)} (hmem : i ∈ b.subs)
    (hch : b.chans[i]? = some ch) : ch.closed = false := by
  obtain ⟨ch', hch', hopen⟩ := (hb.opened i).mp hmem
  rwa [← Option.some.inj (hch'.symm.trans hch)]

/-- **What a step does**, from a state in which the registered channels are
open: no operation panics. -/
theorem BusInv.step_of_busStep (hb : BusInv b) (h : b.busStep op = some b') : Step b op b' := by
  rw [EventBus.busStep, if_neg (by simp [hb.running])] at h
  -- every operation with a channel finds it open, or finds the channel taken from the map
  cases op with
  | subscribe =>
    simp only [EventBus.step] at h
    split at h
    · next hempty =>
      cases h
      exact .subscribe (idle_of_isEmpty hempty)
    · cases h
  | unsubscribe i =>
    simp only [EventBus.step] at h
    split at h
    · next ch hch =>
      split at h
      · next hempty =>
        split at h
        · next hmem =>
          cases h
          rw [Chan.close, if_neg (by simp [hb.open_of_mem hmem hch])]
          exact .unsubscribe hch (idle_of_isEmpty hempty) hmem
        · next hmem =>
          cases h
          exact .again (List.getElem?_eq_some_iff.mp hch).1 hmem
      · cases h
    · cases h
  | publish p e order =>
    simp only [EventBus.step] at h
    split at h
    · cases h
    · next hidle =>
      split at h
      · next hperm =>
        cases h
        exact .publish hidle hperm
      · cases h
  | send p =>
    simp only [EventBus.step] at h
    split at h
    · next x i todo hcall =>
      split at h
      · next ch hch =>
        cases h
        obtain ⟨-, -, hsubs⟩ := hb.visits p _ hcall
        rw [Chan.trySend, if_neg (by simp [hb.open_of_mem (hsubs i List.mem_cons_self) hch])]
        split
        · next hroom => exact .send hcall hch hroom
        · next hfull =>
          have hlen := hb.bounded i
          rw [buffer_of_chan hch] at hlen
          have hput : (b.visit p x todo).put i (some ch) = b.visit p x todo := setChan_self hch
          rw [hput]
          exact .drop hcall (by rw [buffer_of_chan hch]; omega)
      · cases h
    · cases h
  | finish p =>
    simp only [EventBus.step] at h
    split at h
    · next hcall =>
      cases h
      exact .finish hcall
    · cases h
  | receive i =>
    simp only [EventBus.step] at h
    split at h
    · next hch =>
      cases h
      exact .receive hch
    · next hch =>
      cases h
      exact .closed (by rw [buffer_of_chan hch])
    · cases h

theorem busInv_init : BusInv ({} : EventBus P α) where
  running := rfl
  nodup := List.nodup_nil
  opened i := by simp
  bounded i := Nat.zero_le _
  visits p c h := by cases h

/-! ### The operations and the invariant -/

theorem BusInv.subscribe (hb : BusInv b) (hidle : ∀ p, b.readers.get? p = none) :
    BusInv { b with chans := b.chans ++ [{}], subs := b.subs ++ [b.chans.length] } := by
  -- the new channel is not registered yet, as every registered channel is there
  have hnew : b.chans.length ∉ b.subs := by
    intro hmem
    obtain ⟨ch, hch, -⟩ := (hb.opened _).mp hmem
    rw [List.getElem?_eq_none (Nat.le_refl _)] at hch
    cases hch
  refine ⟨hb.running, ?_, ?_, ?_, ?_⟩
  · exact List.nodup_append.mpr ⟨hb.nodup, List.nodup_singleton _, by
      rintro i hi j hj rfl
      rw [List.mem_singleton.mp hj] at hi
      exact hnew hi⟩
  · intro i
    rw [List.mem_append, hb.opened i, List.mem_singleton]
    rcases lt_trichotomy i b.chans.length with hlt | rfl | hgt
    · rw [List.getElem?_append_left hlt]
      exact or_iff_left (Nat.ne_of_lt hlt)
    · simp
    · rw [List.getElem?_eq_none (Nat.le_of_lt hgt),
        List.getElem?_eq_none (by rw [List.length_append, List.length_singleton]; omega)]
      simp
      omega
  · intro i
    exact (congrArg List.length buffer_snoc).trans_le (hb.bounded i)
  · intro p c hc
    rw [hidle p] at hc
    cases hc

theorem BusInv.unsubscribe (hb : BusInv b) (hidle : ∀ p, b.readers.get? p = none) {i : ℕ}
    {ch : Chan (Sent P α)} (hch : b.chans[i]? = some ch) :
    BusInv ({ b with subs := b.subs.erase i }.setChan i { ch with closed := true }) := by
  refine ⟨hb.running, hb.nodup.erase i, ?_, ?_, ?_⟩
  · intro j
    have hget := getElem?_setChan (j := j) { ch with closed := true } hch
    change j ∈ b.subs.erase i ↔
      ∃ c, (b.setChan i { ch with closed := true }).chans[j]? = some c ∧ c.closed = false
    rw [hget, hb.nodup.mem_erase_iff, hb.opened j]
    by_cases hji : j = i
    · simp [hji]
    · rw [if_neg hji]
      exact and_iff_right hji
  · intro j
    have hbuf := buffer_setChan (j := j) { ch with closed := true } hch
    change ((b.setChan i { ch with closed := true }).buffer j).length ≤ chanCap
    rw [hbuf]
    split
    · rw [← buffer_of_chan hch]
      exact hb.bounded i
    · exact hb.bounded j
  · intro p c hc
    change b.readers.get? p = some c at hc
    rw [hidle p] at hc
    cases hc

/-- An operation that neither opens nor closes a channel, and keeps to its capacity. -/
theorem BusInv.setChan (hb : BusInv b) {i : ℕ} {ch ch₀ : Chan (Sent P α)}
    (h : b.chans[i]? = some ch₀) (hclosed : ch.closed = ch₀.closed)
    (hlen : ch.buffer.length ≤ chanCap) : BusInv (b.setChan i ch) where
  running := hb.running
  nodup := hb.nodup
  opened _ := (hb.opened _).trans (opened_setChan ch h hclosed).symm
  bounded j := by
    rw [buffer_setChan ch h]
    split
    · exact hlen
    · exact hb.bounded j
  visits := hb.visits

theorem BusInv.visit (hb : BusInv b) {p : P} {x : Sent P α} {todo : List ℕ}
    (hx : x.publisher = p) (hnodup : todo.Nodup) (hsubs : ∀ i ∈ todo, i ∈ b.subs) :
    BusInv (b.visit p x todo) := by
  refine ⟨hb.running, hb.nodup, hb.opened, hb.bounded, ?_⟩
  intro q c hc
  change (b.readers.insert p _).get? q = some c at hc
  rw [Dict.get?_insert] at hc
  split at hc
  · next hq =>
    cases hc
    exact ⟨hx.trans hq.symm, hnodup, hsubs⟩
  · exact hb.visits q c hc

theorem BusInv.beginPublish (hb : BusInv b) {order : List ℕ} (hperm : order.Perm b.subs) (p : P)
    (e : α) : BusInv (b.beginPublish p e order) := by
  have h := hb.visit (x := ⟨p, b.calls, e⟩) rfl (hperm.nodup_iff.mpr hb.nodup)
    fun i hi => hperm.mem_iff.mp hi
  exact ⟨h.running, h.nodup, h.opened, h.bounded, h.visits⟩

theorem BusInv.goOn (hb : BusInv b) {p : P} {x : Sent P α} {i : ℕ} {todo : List ℕ}
    (hcall : b.readers.get? p = some ⟨x, i :: todo⟩) : BusInv (b.visit p x todo) := by
  obtain ⟨hpub, hnodup, hsubs⟩ := hb.visits p _ hcall
  exact hb.visit hpub (List.nodup_cons.mp hnodup).2 fun j hj => hsubs j (List.mem_cons_of_mem _ hj)

theorem BusInv.finish (hb : BusInv b) (p : P) :
    BusInv { b with readers := b.readers.erase p } := by
  refine ⟨hb.running, hb.nodup, hb.opened, hb.bounded, ?_⟩
  intro q c hc
  rw [Dict.get?_erase] at hc
  split at hc
  · cases hc
  · exact hb.visits q c hc

/-- **A step keeps the registered channels open.** -/
theorem Step.busInv (h : Step b op b') (hb : BusInv b) : BusInv b' := by
  cases h with
  | subscribe hidle => exact hb.subscribe hidle
  | unsubscribe hch hidle hmem => exact hb.unsubscribe hidle hch
  | again => exact hb
  | publish hidle hperm => exact hb.beginPublish hperm _ _
  | send hcall hch hroom =>
    refine (hb.goOn hcall).setChan hch rfl ?_
    rw [List.length_append, List.length_singleton]
    exact hroom
  | drop hcall hfull => exact hb.goOn hcall
  | finish hcall => exact hb.finish _
  | @receive i x rest closed hch =>
    refine hb.setChan hch rfl ?_
    have hlen := hb.bounded i
    rw [buffer_of_chan hch, List.length_cons] at hlen
    exact Nat.le_of_succ_le hlen
  | closed => exact hb

/-- Every run keeps the registered channels open. -/
theorem busInv_of_run {tr : BusTrace P α} (h : (eventBus P α).Run tr b) : BusInv b := by
  refine h.invariant (I := fun _ b => BusInv b) ?_ fun tr b op b' _ hI hstep =>
    (hI.step_of_busStep hstep).busInv hI
  rintro b rfl
  exact busInv_init

theorem step_of_run {tr : BusTrace P α} (h : (eventBus P α).Run tr b)
    (hstep : b.busStep op = some b') : Step b op b' :=
  (busInv_of_run h).step_of_busStep hstep

end Steps

/-! ### Publishing -/

section Publishing

variable {P α : Type} [DecidableEq P] {b : EventBus P α} {p : P}

/-- Any `Publish` can go on with its loop, whatever its subscribers do. -/
theorem exists_send (hb : BusInv b) {x : Sent P α} {i : ℕ} {todo : List ℕ}
    (hcall : b.readers.get? p = some ⟨x, i :: todo⟩) :
    ∃ b', b.busStep (.send p) = some b' ∧ b'.readers.get? p = some ⟨x, todo⟩ := by
  obtain ⟨-, -, hsubs⟩ := hb.visits p _ hcall
  obtain ⟨ch, hch, -⟩ := (hb.opened i).mp (hsubs i List.mem_cons_self)
  refine ⟨(b.visit p x todo).put i (ch.trySend x), ?_, ?_⟩
  · rw [EventBus.busStep, if_neg (by simp [hb.running]), EventBus.step, hcall]
    dsimp only
    rw [hch]
  · have hvisit : (b.visit p x todo).readers.get? p = some ⟨x, todo⟩ :=
      Dict.get?_insert_self _ _ _
    cases ch.trySend x <;> exact hvisit

/-- **A `Publish` comes to its end by its own steps**, one for each channel it
has still to visit and one to return. -/
theorem exec_publish (hb : BusInv b) {x : Sent P α} {todo : List ℕ}
    (hcall : b.readers.get? p = some ⟨x, todo⟩) :
    ∃ tr d, Lts.exec EventBus.busStep b (List.replicate todo.length (.send p) ++ [.finish p]) =
      some (tr, d) ∧ d.readers.get? p = none := by
  induction todo generalizing b with
  | nil =>
    have hstep : b.busStep (.finish p) = some { b with readers := b.readers.erase p } := by
      rw [EventBus.busStep, if_neg (by simp [hb.running]), EventBus.step, hcall]
    have hexec : Lts.exec EventBus.busStep b [.finish p] =
        some ([⟨b, .finish p, { b with readers := b.readers.erase p }⟩],
          { b with readers := b.readers.erase p }) := by
      rw [Lts.exec, hstep]
      rfl
    exact ⟨_, _, hexec, (Dict.get?_erase _ _ _).trans (if_pos rfl)⟩
  | cons i todo ih =>
    obtain ⟨b', hstep, hcall'⟩ := exists_send hb hcall
    obtain ⟨tr, d, hexec, hd⟩ := ih ((hb.step_of_busStep hstep).busInv hb) hcall'
    refine ⟨⟨b, .send p, b'⟩ :: tr, d, ?_, hd⟩
    rw [List.length_cons, List.replicate_succ, List.cons_append, Lts.exec, hstep]
    dsimp only
    rw [hexec]

/-- **The loop of a `Publish` never waits.**  One that is under way comes to its
end by its own steps, and a publisher without one can begin one in any order of
the map. -/
structure NeverWaits (b : EventBus P α) : Prop where
  begins : ∀ p e order, b.readers.get? p = none → order.Perm b.subs →
    ∃ b', b.busStep (.publish p e order) = some b'
  ends : ∀ p c, b.readers.get? p = some c → ∃ tr d,
    Lts.exec EventBus.busStep b (List.replicate c.todo.length (.send p) ++ [.finish p]) =
      some (tr, d) ∧ d.readers.get? p = none

theorem BusInv.neverWaits (hb : BusInv b) : NeverWaits b where
  begins p e order hidle hperm := by
    refine ⟨b.beginPublish p e order, ?_⟩
    rw [EventBus.busStep, if_neg (by simp [hb.running]), EventBus.step, hidle]
    exact if_pos hperm
  ends _ _ hcall := exec_publish hb hcall

end Publishing

end Bus
end Server
end Shrimp
