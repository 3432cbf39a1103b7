import Mathlib.Logic.Function.Basic
import Shrimp.Server.EventBus

/-!
# What a subscriber of the bus receives

A subscriber receives the events its channel was given, in that order.  Its
account compares them, publisher by publisher, with the events published while
it was registered: a step publishes one, hands one over or loses one, and
nothing else changes the account.

## Main definitions

* `received`, `offered`, `DropsFor` — the events a subscriber has received, those
  published while it was registered, and the moves that drop one.
* `Registered` — the history of a subscriber that has not unsubscribed.
* `Account`, `Ledger` — what a subscriber got, and what is due to it.
* `Delivery` — what a subscriber is guaranteed.

## Main results

* `Step.ledger` — **a step keeps the account of every subscriber.**
* `mem_subs_iff_registered` — who is in the map.
* `delivery_of_run` — **the delivery guarantee of the bus.**
-/

namespace Shrimp
namespace Server
namespace Bus

/-! ### Histories -/

section Histories

variable {P α : Type}

/-- The event a move hands to a subscriber. -/
def receives (i : ℕ) (m : Lts.Move (EventBus P α) (Op P α)) : Option (Sent P α) :=
  match m.label with
  | .receive j => if j = i then (m.pre.buffer i).head? else none
  | _ => none

/-- The events a subscriber has received. -/
def received (tr : BusTrace P α) (i : ℕ) : List (Sent P α) := tr.filterMap (receives i)

/-- The event a move publishes while a subscriber is registered. -/
def offers (i : ℕ) (m : Lts.Move (EventBus P α) (Op P α)) : Option (Sent P α) :=
  match m.label with
  | .publish p e _ => if i ∈ m.pre.subs then some ⟨p, m.pre.calls, e⟩ else none
  | _ => none

/-- The events published between the `Subscribe` and the unsubscribe of a
subscriber. -/
def offered (tr : BusTrace P α) (i : ℕ) : List (Sent P α) := tr.filterMap (offers i)

/-- The history of a subscriber that has subscribed and not unsubscribed. -/
def Registered (tr : BusTrace P α) (i : ℕ) : Prop :=
  (∃ m ∈ tr, m.label = .subscribe ∧ m.pre.chans.length = i) ∧
    ∀ m ∈ tr, m.label ≠ .unsubscribe i

variable [DecidableEq P]

/-- A move that sends an event to a subscriber who has as many events to read as
its channel holds. -/
def DropsFor (i : ℕ) (x : Sent P α) (m : Lts.Move (EventBus P α) (Op P α)) : Prop :=
  m.label = .send x.publisher ∧
    (∃ todo, m.pre.readers.get? x.publisher = some ⟨x, i :: todo⟩) ∧
    (m.pre.buffer i).length = chanCap

end Histories

/-! ### Accounts -/

section Accounts

variable {P α : Type} [DecidableEq P]

/-- The events of a publisher. -/
def ofPublisher (p : P) (xs : List (Sent P α)) : List (Sent P α) :=
  xs.filter fun x => x.publisher = p

theorem ofPublisher_snoc (p : P) (xs : List (Sent P α)) (x : Sent P α) :
    ofPublisher p (xs ++ [x]) = ofPublisher p xs ++ if x.publisher = p then [x] else [] := by
  rw [ofPublisher, List.filter_append, ofPublisher]
  by_cases h : x.publisher = p <;> simp [h]

/-- **The account of a subscriber.**  Of the events `off` that were published for
it, numbered below `n`, it `got`, publisher by publisher, a part in their order,
with what is still `due` at the end; and it got all but those that were `lost`. -/
structure Account (got : List (Sent P α)) (due : P → List (Sent P α)) (off : List (Sent P α))
    (lost : Sent P α → Prop) (n : ℕ) : Prop where
  owed : ∀ p, (ofPublisher p got ++ due p).Sublist (ofPublisher p off)
  kept : ∀ x ∈ off, x ∈ got ∨ x ∈ due x.publisher ∨ lost x
  ordered : off.Pairwise fun x y => x.call < y.call
  numbered : ∀ x ∈ off, x.call < n

variable {got off : List (Sent P α)} {due : P → List (Sent P α)} {lost lost' : Sent P α → Prop}
  {n : ℕ} {x : Sent P α}

theorem Account.publish (h : Account got due off lost n) (hdue : due x.publisher = [])
    (hn : x.call = n) :
    Account got (Function.update due x.publisher [x]) (off ++ [x]) lost (n + 1) where
  owed p := by
    rw [ofPublisher_snoc]
    by_cases hp : x.publisher = p
    · subst hp
      have howed := h.owed x.publisher
      rw [hdue, List.append_nil] at howed
      rw [Function.update_self, if_pos rfl]
      exact howed.append (List.Sublist.refl _)
    · rw [Function.update_of_ne (Ne.symm hp), if_neg hp, List.append_nil]
      exact h.owed p
  kept y hy := by
    rcases List.mem_append.mp hy with hy | hy
    · rcases h.kept y hy with hgot | hmem | hlost
      · exact Or.inl hgot
      · refine Or.inr (Or.inl ?_)
        -- its publisher has another event on its way, so it is another publisher
        have hne : y.publisher ≠ x.publisher := by
          intro heq
          rw [heq, hdue] at hmem
          cases hmem
        rwa [Function.update_of_ne hne]
      · exact Or.inr (Or.inr hlost)
    · obtain rfl := List.mem_singleton.mp hy
      rw [Function.update_self]
      exact Or.inr (Or.inl List.mem_cons_self)
  ordered := by
    refine List.pairwise_append.mpr ⟨h.ordered, List.pairwise_singleton _ _, fun y hy z hz => ?_⟩
    rw [List.mem_singleton.mp hz, hn]
    exact h.numbered y hy
  numbered y hy := by
    rcases List.mem_append.mp hy with hy | hy
    · exact Nat.lt_succ_of_lt (h.numbered y hy)
    · rw [List.mem_singleton.mp hy, hn]
      exact Nat.lt_succ_self n

theorem Account.accept (h : Account got due off lost n) (hdue : due x.publisher = [x]) :
    Account (got ++ [x]) (Function.update due x.publisher []) off lost n where
  owed p := by
    rw [ofPublisher_snoc]
    by_cases hp : x.publisher = p
    · subst hp
      rw [Function.update_self, if_pos rfl, List.append_nil, ← hdue]
      exact h.owed x.publisher
    · rw [Function.update_of_ne (Ne.symm hp), if_neg hp, List.append_nil]
      exact h.owed p
  kept y hy := by
    rcases h.kept y hy with hgot | hmem | hlost
    · exact Or.inl (List.mem_append_left _ hgot)
    · by_cases heq : y.publisher = x.publisher
      · rw [heq, hdue] at hmem
        exact Or.inl (List.mem_append_right _ hmem)
      · refine Or.inr (Or.inl ?_)
        rwa [Function.update_of_ne heq]
    · exact Or.inr (Or.inr hlost)
  ordered := h.ordered
  numbered := h.numbered

theorem Account.drop (h : Account got due off lost n) (hdue : due x.publisher = [x])
    (hlost : lost x) : Account got (Function.update due x.publisher []) off lost n where
  owed p := by
    by_cases hp : p = x.publisher
    · subst hp
      rw [Function.update_self, List.append_nil]
      exact (List.sublist_append_left _ _).trans (h.owed x.publisher)
    · rw [Function.update_of_ne hp]
      exact h.owed p
  kept y hy := by
    rcases h.kept y hy with hgot | hmem | hlost'
    · exact Or.inl hgot
    · by_cases heq : y.publisher = x.publisher
      · rw [heq, hdue] at hmem
        rw [List.mem_singleton.mp hmem]
        exact Or.inr (Or.inr hlost)
      · refine Or.inr (Or.inl ?_)
        rwa [Function.update_of_ne heq]
    · exact Or.inr (Or.inr hlost')
  ordered := h.ordered
  numbered := h.numbered

/-- More may have been published for others, and more may be lost. -/
theorem Account.mono (h : Account got due off lost n) (hlost : ∀ x, lost x → lost' x) {n' : ℕ}
    (hn : n ≤ n') : Account got due off lost' n' where
  owed := h.owed
  kept x hx := (h.kept x hx).imp_right (Or.imp_right (hlost x))
  ordered := h.ordered
  numbered x hx := (h.numbered x hx).trans_le hn

end Accounts

/-! ### What is owed to a subscriber -/

section Trace

variable {P α : Type} {tr : BusTrace P α} {b b' : EventBus P α} {i : ℕ}

theorem received_snoc (m : Lts.Move (EventBus P α) (Op P α)) :
    received (tr ++ [m]) i = received tr i ++ (receives i m).toList := by
  rw [received, List.filterMap_append]
  cases h : receives i m <;> simp [received, h]

theorem offered_snoc (m : Lts.Move (EventBus P α) (Op P α)) :
    offered (tr ++ [m]) i = offered tr i ++ (offers i m).toList := by
  rw [offered, List.filterMap_append]
  cases h : offers i m <;> simp [offered, h]

/-- The events a subscriber has received or can still read. -/
def taken (tr : BusTrace P α) (b : EventBus P α) (i : ℕ) : List (Sent P α) :=
  received tr i ++ b.buffer i

/-- What a subscriber got does not change with a move in which it receives
nothing and its channel gets nothing. -/
theorem taken_snoc_of_none {m : Lts.Move (EventBus P α) (Op P α)} (hrec : receives i m = none)
    (hbuf : b'.buffer i = b.buffer i) : taken (tr ++ [m]) b' i = taken tr b i := by
  rw [taken, received_snoc, hrec, Option.toList_none, List.append_nil, hbuf, taken]

end Trace

section Ledgers

variable {P α : Type} [DecidableEq P] {tr : BusTrace P α} {b b' : EventBus P α} {op : Op P α}
  {i : ℕ}

/-- The account of a subscriber in a run. -/
def Ledger (tr : BusTrace P α) (b : EventBus P α) (i : ℕ) : Prop :=
  Account (taken tr b i) (fun p => b.pending p i) (offered tr i)
    (fun x => ∃ m ∈ tr, DropsFor i x m) b.calls

theorem dropped_snoc {m : Lts.Move (EventBus P α) (Op P α)} (x : Sent P α)
    (h : ∃ m' ∈ tr, DropsFor i x m') : ∃ m' ∈ tr ++ [m], DropsFor i x m' := by
  obtain ⟨m', hm', hdrops⟩ := h
  exact ⟨m', List.mem_append_left _ hm', hdrops⟩

theorem pending_of_get? {p : P} {c : Publishing P α} (h : b.readers.get? p = some c) :
    b.pending p i = if i ∈ c.todo then [c.sent] else [] := by
  rw [EventBus.pending, h]

theorem pending_eq_nil {p : P} (h : b.readers.get? p = none) : b.pending p i = [] := by
  rw [EventBus.pending, h]

/-- What is on its way while a `Publish` has its loop still to run. -/
theorem pending_visit (b : EventBus P α) (p : P) (x : Sent P α) (todo : List ℕ) (i : ℕ) :
    (fun q => (b.visit p x todo).pending q i) =
      Function.update (fun q => b.pending q i) p (if i ∈ todo then [x] else []) := by
  funext q
  rw [EventBus.pending, EventBus.visit]
  dsimp only
  rw [Dict.get?_insert]
  by_cases hq : q = p
  · subst hq
    rw [if_pos rfl, Function.update_self]
  · rw [if_neg hq, Function.update_of_ne hq]
    rfl

/-- A move that leaves what a subscriber got, and what is on its way to it. -/
theorem Ledger.same {m : Lts.Move (EventBus P α) (Op P α)} (h : Ledger tr b i)
    (htaken : taken (tr ++ [m]) b' i = taken tr b i) (hoffers : offers i m = none)
    (hpending : ∀ p, b'.pending p i = b.pending p i) (hcalls : b'.calls = b.calls) :
    Ledger (tr ++ [m]) b' i := by
  unfold Ledger
  rw [htaken, offered_snoc, hoffers, Option.toList_none, List.append_nil, hcalls,
    funext hpending]
  exact Account.mono h dropped_snoc (Nat.le_refl _)

/-- A `Publish` begins: its event is on its way to the registered subscribers. -/
theorem Ledger.publish (h : Ledger tr b i) {p : P} {e : α} {order : List ℕ}
    (hidle : b.readers.get? p = none) (hperm : order.Perm b.subs) :
    Ledger (tr ++ [⟨b, .publish p e order, b.beginPublish p e order⟩])
      (b.beginPublish p e order) i := by
  have hpending : (fun q => (b.beginPublish p e order).pending q i) =
      Function.update (fun q => b.pending q i) p
        (if i ∈ b.subs then [⟨p, b.calls, e⟩] else []) := by
    rw [← if_congr hperm.mem_iff rfl rfl]
    exact pending_visit b p ⟨p, b.calls, e⟩ order i
  unfold Ledger
  rw [taken_snoc_of_none rfl rfl, offered_snoc, hpending]
  by_cases hmem : i ∈ b.subs
  · rw [if_pos hmem, show (offers i _).toList = [⟨p, b.calls, e⟩] by rw [offers]; simp [hmem]]
    exact (Account.publish (x := ⟨p, b.calls, e⟩) h (pending_eq_nil hidle) rfl).mono dropped_snoc
      (Nat.le_refl _)
  · rw [if_neg hmem, show (offers i _).toList = [] by rw [offers]; simp [hmem], List.append_nil,
      ← pending_eq_nil hidle (i := i), Function.update_eq_self p]
    exact Account.mono h dropped_snoc (Nat.le_succ _)

/-- The loop of a `Publish` visits a channel, which takes the event or loses
it. -/
theorem Ledger.visit (h : Ledger tr b i) (hb : BusInv b) {p : P} {x : Sent P α} {j : ℕ}
    {todo : List ℕ} (hcall : b.readers.get? p = some ⟨x, j :: todo⟩)
    (hpending : ∀ q, b'.pending q i = (b.visit p x todo).pending q i)
    (hcalls : b'.calls = b.calls)
    (hbuf : b'.buffer i = b.buffer i ++ (if i = j then [x] else []) ∨
      b'.buffer i = b.buffer i ∧ (i = j → (b.buffer i).length = chanCap)) :
    Ledger (tr ++ [⟨b, .send p, b'⟩]) b' i := by
  obtain ⟨hpub, hnodup, -⟩ := hb.visits p _ hcall
  subst hpub
  dsimp only at *
  have hoff : offered (tr ++ [⟨b, .send x.publisher, b'⟩]) i = offered tr i := by
    rw [offered_snoc]
    exact List.append_nil _
  have hvisit := (funext hpending).trans (pending_visit b x.publisher x todo i)
  by_cases hij : i = j
  · -- it is the subscriber's own channel, which the loop visits once
    subst hij
    rw [if_neg (List.nodup_cons.mp hnodup).1] at hvisit
    have hdue : b.pending x.publisher i = [x] := by
      rw [pending_of_get? hcall, if_pos List.mem_cons_self]
    have hacc := Account.mono h (dropped_snoc (m := ⟨b, .send x.publisher, b'⟩))
      (Nat.le_refl b.calls)
    unfold Ledger
    rw [hoff, hcalls, hvisit]
    rcases hbuf with hbuf | ⟨hbuf, hfull⟩
    · have htaken : taken (tr ++ [⟨b, .send x.publisher, b'⟩]) b' i = taken tr b i ++ [x] := by
        rw [taken, received_snoc, hbuf, if_pos rfl, taken]
        simp [receives]
      rw [htaken]
      exact hacc.accept hdue
    · rw [taken_snoc_of_none rfl hbuf]
      exact hacc.drop hdue ⟨_, List.mem_append_right _ List.mem_cons_self, rfl, ⟨todo, hcall⟩,
        hfull rfl⟩
  · have hsame : b'.buffer i = b.buffer i := by
      rcases hbuf with hbuf | ⟨hbuf, -⟩
      · rw [hbuf, if_neg hij, List.append_nil]
      · exact hbuf
    refine h.same (taken_snoc_of_none rfl hsame) rfl (fun q => ?_) hcalls
    rw [congrFun hvisit q]
    by_cases hq : q = x.publisher
    · subst hq
      rw [Function.update_self, pending_of_get? hcall]
      simp [hij]
    · rw [Function.update_of_ne hq]

/-- **A step keeps the account of every subscriber.** -/
theorem Step.ledger (h : Step b op b') (hb : BusInv b) (hl : Ledger tr b i) :
    Ledger (tr ++ [⟨b, op, b'⟩]) b' i := by
  cases h with
  | subscribe => exact hl.same (taken_snoc_of_none rfl buffer_snoc) rfl (fun _ => rfl) rfl
  | @unsubscribe j ch hch =>
    refine hl.same (taken_snoc_of_none rfl ?_) rfl (fun _ => rfl) rfl
    refine (buffer_setChan (j := i) { ch with closed := true } hch).trans ?_
    split
    · next hij => rw [hij, buffer_of_chan hch]
    · rfl
  | again => exact hl.same (taken_snoc_of_none rfl rfl) rfl (fun _ => rfl) rfl
  | publish hidle hperm => exact hl.publish hidle hperm
  | @send p x j todo ch hcall hch =>
    refine hl.visit hb hcall (fun _ => rfl) rfl (Or.inl ?_)
    refine (buffer_setChan (j := i) { ch with buffer := ch.buffer ++ [x] } hch).trans ?_
    by_cases hij : i = j
    · rw [if_pos hij, if_pos hij, hij, buffer_of_chan hch]
    · rw [if_neg hij, if_neg hij, List.append_nil]
  | drop hcall hfull =>
    refine hl.visit hb hcall (fun _ => rfl) rfl (Or.inr ⟨rfl, ?_⟩)
    rintro rfl
    exact hfull
  | @finish p x hcall =>
    refine hl.same (taken_snoc_of_none rfl rfl) rfl (fun q => ?_) rfl
    have hget := Dict.get?_erase b.readers p q
    by_cases hq : q = p
    · subst hq
      rw [if_pos rfl] at hget
      rw [pending_eq_nil hget, pending_of_get? hcall]
      rfl
    · rw [if_neg hq] at hget
      rw [EventBus.pending, EventBus.pending]
      dsimp only
      rw [hget]
  | @receive j x rest closed hch =>
    refine hl.same ?_ rfl (fun _ => rfl) rfl
    rw [taken, received_snoc, receives, taken, buffer_setChan _ hch]
    by_cases hij : j = i
    · subst hij
      simp [buffer_of_chan hch]
    · simp [hij, Ne.symm hij]
  | @closed j hempty =>
    refine hl.same (taken_snoc_of_none ?_ rfl) rfl (fun _ => rfl) rfl
    rw [receives]
    dsimp only
    split
    · next hij =>
      subst hij
      rw [hempty]
      rfl
    · rfl

/-- Every run keeps the account of every subscriber. -/
theorem ledger_of_run (h : (eventBus P α).Run tr b) (i : ℕ) : Ledger tr b i := by
  refine h.invariant (I := fun tr b => Ledger tr b i) ?_ fun tr b op b' hrun hI hstep =>
    (step_of_run hrun hstep).ledger (busInv_of_run hrun) hI
  rintro b rfl
  exact ⟨fun _ => List.Sublist.refl _, nofun, List.Pairwise.nil, nofun⟩

end Ledgers

/-! ### Registered subscribers -/

section History

variable {P α : Type} [DecidableEq P] {tr : BusTrace P α} {b b' : EventBus P α} {op : Op P α}

/-- The channels and the map as the history of the calls has them. -/
structure CallHistory (tr : BusTrace P α) (b : EventBus P α) : Prop where
  made : ∀ i, i < b.chans.length ↔ ∃ m ∈ tr, m.label = .subscribe ∧ m.pre.chans.length = i
  called : ∀ m ∈ tr, ∀ i, m.label = .unsubscribe i → i < b.chans.length
  subs : ∀ i, i ∈ b.subs ↔ i < b.chans.length ∧ ∀ m ∈ tr, m.label ≠ .unsubscribe i

omit [DecidableEq P] in
/-- A move that is neither a `Subscribe` nor an unsubscribe. -/
theorem CallHistory.same {m : Lts.Move (EventBus P α) (Op P α)} (h : CallHistory tr b)
    (hsub : m.label ≠ .subscribe) (hunsub : ∀ i, m.label ≠ .unsubscribe i)
    (hlen : b'.chans.length = b.chans.length) (hsubs : b'.subs = b.subs) :
    CallHistory (tr ++ [m]) b' where
  made i := by
    rw [hlen, h.made i]
    simp [hsub]
  called m' hm' i hlabel := by
    rw [hlen]
    rcases List.mem_append.mp hm' with hm' | hm'
    · exact h.called m' hm' i hlabel
    · rw [List.mem_singleton.mp hm'] at hlabel
      exact absurd hlabel (hunsub i)
  subs i := by
    rw [hsubs, hlen, h.subs i]
    simp [or_imp, forall_and, hunsub]

theorem Step.callHistory (h : Step b op b') (hb : BusInv b) (hc : CallHistory tr b) :
    CallHistory (tr ++ [⟨b, op, b'⟩]) b' := by
  cases h with
  | subscribe =>
    refine ⟨fun i => ?_, fun m hm i hlabel => ?_, fun i => ?_⟩
    · rw [List.length_append, List.length_singleton, Nat.lt_succ_iff_lt_or_eq, hc.made i]
      simp [or_and_right, exists_or, eq_comm]
    · rw [List.length_append, List.length_singleton]
      rcases List.mem_append.mp hm with hm | hm
      · exact Nat.lt_succ_of_lt (hc.called m hm i hlabel)
      · rw [List.mem_singleton.mp hm] at hlabel
        cases hlabel
    · rw [List.mem_append, List.mem_singleton, hc.subs i, List.length_append,
        List.length_singleton, Nat.lt_succ_iff_lt_or_eq]
      -- nobody can have unsubscribed from the new channel before it was made
      have hnew : i = b.chans.length → ∀ m ∈ tr, m.label ≠ .unsubscribe i := by
        rintro rfl m hm hlabel
        exact absurd (hc.called m hm _ hlabel) (Nat.lt_irrefl _)
      simp only [List.mem_append, List.mem_singleton, or_imp, forall_and, forall_eq, ne_eq,
        reduceCtorEq, not_false_eq_true, and_true]
      tauto
  | @unsubscribe j ch hch hidle hmem =>
    have hlen : (EventBus.setChan { b with subs := b.subs.erase j } j
        { ch with closed := true }).chans.length = b.chans.length := List.length_set
    refine ⟨fun i => ?_, fun m hm i hlabel => ?_, fun i => ?_⟩
    · rw [hlen, hc.made i]
      simp
    · rw [hlen]
      rcases List.mem_append.mp hm with hm | hm
      · exact hc.called m hm i hlabel
      · rw [List.mem_singleton.mp hm] at hlabel
        cases hlabel
        exact (List.getElem?_eq_some_iff.mp hch).1
    · rw [hlen]
      change i ∈ b.subs.erase j ↔ _
      rw [hb.nodup.mem_erase_iff, hc.subs i]
      simp only [List.mem_append, List.mem_singleton, or_imp, forall_and, forall_eq, ne_eq,
        Op.unsubscribe.injEq]
      tauto
  | @again j hlt hmem =>
    refine ⟨fun i => ?_, fun m hm i hlabel => ?_, fun i => ?_⟩
    · rw [hc.made i]
      simp
    · rcases List.mem_append.mp hm with hm | hm
      · exact hc.called m hm i hlabel
      · rw [List.mem_singleton.mp hm] at hlabel
        cases hlabel
        exact hlt
    · have hnot : i = j → ¬(i < b.chans.length ∧ ∀ m ∈ tr, m.label ≠ .unsubscribe i) := by
        rintro rfl
        rwa [← hc.subs i]
      rw [hc.subs i]
      simp only [List.mem_append, List.mem_singleton, or_imp, forall_and, forall_eq, ne_eq,
        Op.unsubscribe.injEq]
      tauto
  | publish => exact hc.same (by simp) (by simp) rfl rfl
  | send => exact hc.same (by simp) (by simp) List.length_set rfl
  | drop => exact hc.same (by simp) (by simp) rfl rfl
  | finish => exact hc.same (by simp) (by simp) rfl rfl
  | receive => exact hc.same (by simp) (by simp) List.length_set rfl
  | closed => exact hc.same (by simp) (by simp) rfl rfl

/-- **The map has the subscribers that have subscribed and not unsubscribed.** -/
theorem mem_subs_iff_registered (h : (eventBus P α).Run tr b) (i : ℕ) :
    i ∈ b.subs ↔ Registered tr i := by
  have hc : CallHistory tr b := by
    refine h.invariant (I := fun tr b => CallHistory tr b) ?_ fun tr b op b' hrun hI hstep =>
      (step_of_run hrun hstep).callHistory (busInv_of_run hrun) hI
    rintro b rfl
    exact ⟨by simp, nofun, by simp⟩
  rw [hc.subs i, hc.made i]
  rfl

end History

/-! ### Delivery -/

section Delivery

variable {P α : Type} [DecidableEq P]

/-- **What a subscriber is guaranteed.**  It is in the map as long as it has
subscribed and not unsubscribed.  Of each publisher it has received a part of
what was published in that time, in order and no event twice.  What it has not
received was dropped because its channel was full, or is in its channel, where
it stays when the subscriber unsubscribes before reading it, or is still to be
sent to it by a `Publish` that holds the lock. -/
structure Delivery (tr : BusTrace P α) (b : EventBus P α) (i : ℕ) : Prop where
  registered : i ∈ b.subs ↔ Registered tr i
  subsequence : ∀ p,
    (ofPublisher p (received tr i)).Sublist (ofPublisher p (offered tr i))
  once : (received tr i).Nodup
  missing : ∀ x ∈ offered tr i, x ∉ received tr i →
    (∃ m ∈ tr, DropsFor i x m) ∨ x ∈ b.buffer i ∨ x ∈ b.pending x.publisher i ∧ i ∈ b.subs

variable {tr : BusTrace P α} {b : EventBus P α}

/-- No event is received twice when none of any publisher is. -/
theorem nodup_of_ofPublisher {xs : List (Sent P α)} (h : ∀ p, (ofPublisher p xs).Nodup) :
    xs.Nodup := by
  induction xs with
  | nil => exact List.nodup_nil
  | cons x xs ih =>
    have hcons : ∀ p, ofPublisher p (x :: xs) =
        if x.publisher = p then x :: ofPublisher p xs else ofPublisher p xs := by
      intro p
      rw [ofPublisher, List.filter_cons, ofPublisher]
      simp
    refine List.nodup_cons.mpr ⟨fun hmem => ?_, ih fun p => ?_⟩
    · have hown := h x.publisher
      rw [hcons, if_pos rfl] at hown
      exact (List.nodup_cons.mp hown).1 (List.mem_filter.mpr ⟨hmem, by simp⟩)
    · have hp := h p
      rw [hcons] at hp
      split at hp
      · exact (List.nodup_cons.mp hp).2
      · exact hp

theorem delivery_of_ledger (hb : BusInv b) {i : ℕ} (h : Ledger tr b i)
    (hreg : i ∈ b.subs ↔ Registered tr i) : Delivery tr b i where
  registered := hreg
  subsequence p := by
    refine List.Sublist.trans ?_ ((List.sublist_append_left _ _).trans (h.owed p))
    exact (List.sublist_append_left _ _).filter _
  once := by
    refine nodup_of_ofPublisher fun p => ?_
    -- the calls of what was published are numbered in order
    have hoff : (offered tr i).Nodup := h.ordered.imp fun hlt heq => by
      rw [heq] at hlt
      exact Nat.lt_irrefl _ hlt
    refine (List.Sublist.trans ?_ (h.owed p)).nodup (hoff.filter _)
    refine List.Sublist.trans ?_ (List.sublist_append_left _ _)
    exact (List.sublist_append_left _ _).filter _
  missing x hx hnot := by
    rcases h.kept x hx with hgot | hdue | hlost
    · exact Or.inr (Or.inl ((List.mem_append.mp hgot).resolve_left hnot))
    · refine Or.inr (Or.inr ⟨hdue, ?_⟩)
      cases hcall : b.readers.get? x.publisher with
      | none =>
        rw [pending_eq_nil hcall] at hdue
        cases hdue
      | some c =>
        rw [pending_of_get? hcall] at hdue
        split at hdue
        · next hmem => exact (hb.visits _ _ hcall).2.2 i hmem
        · cases hdue
    · exact Or.inl hlost

/-- **The delivery guarantee of the bus.**  Whatever the order of the steps, no
send and no close hits a closed channel, no `Publish` waits for a subscriber, and
every subscriber gets what it is guaranteed. -/
theorem delivery_of_run (h : (eventBus P α).Run tr b) :
    b.panicked = false ∧ NeverWaits b ∧ ∀ i, Delivery tr b i := by
  have hb := busInv_of_run h
  exact ⟨hb.running, hb.neverWaits,
    fun i => delivery_of_ledger hb (ledger_of_run h i) (mem_subs_iff_registered h i)⟩

end Delivery

/-- Two publishers and a subscriber that unsubscribes twice, before it reads the
second event. -/
theorem delivery_of_run_sample : ∃ tr b, (eventBus String String).Run tr b ∧
    b.panicked = false ∧ received tr 0 = [⟨"server", 0, "task.created"⟩] ∧
    ∃ x ∈ offered tr 0, x ∉ received tr 0 ∧ x ∈ b.buffer 0 := by
  have hstart : (eventBus String String).start {} := rfl
  obtain ⟨tr, b, hrun, h⟩ := Lts.Run.exists_of_exec hstart
    (fun r => (received r.1 0, offered r.1 0, r.2.buffer 0))
    (show (Lts.exec EventBus.busStep _
      [.subscribe, .publish "server" "task.created" [0], .publish "daemon" "task.claimed" [0],
        .send "server", .send "daemon", .receive 0, .finish "daemon", .finish "server",
        .unsubscribe 0, .unsubscribe 0]).map _ = some
      ([⟨"server", 0, "task.created"⟩],
        [⟨"server", 0, "task.created"⟩, ⟨"daemon", 1, "task.claimed"⟩],
        [⟨"daemon", 1, "task.claimed"⟩]) by decide +kernel)
  simp only [Prod.mk.injEq] at h
  obtain ⟨hrec, hoff, hbuf⟩ := h
  refine ⟨tr, b, hrun, (delivery_of_run hrun).1, hrec, ⟨"daemon", 1, "task.claimed"⟩, ?_, ?_, ?_⟩
  · rw [hoff]
    simp
  · rw [hrec]
    simp
  · rw [hbuf]
    simp

end Bus
end Server
end Shrimp
