import Shrimp.Server.Console

/-!
# The last word (`web/app/page.tsx`)

What the page shows of a task is what it was told last, be it old: a list that was
read before the task was run may come behind its terminal event.  And what says that a
task has ended need not be its terminal event: `task.running`, marshalled late, does.

## Main definitions

* `ListsStand` — what a list tells of a finished task stands.
* `LastWord` — the page has received an event, and it was the last word.

## Main results

* `fair_of_run` — what the messages say of a finished task is so.
* `copy_eq_tells` — a page shows of a task what it was told last.
* `right_iff` — **a page shows a finished task as it is exactly when what it was told
  last of the task says that it is finished.**
* `settled_of_shown` — **a terminal event is the last word**, once the list is there.
-/

namespace Shrimp
namespace Server

section

variable {timeout : Time} {w w' : Watch} {tr : List (Lts.Move Watch Watch.Act)} {id : ℤ}

/-- **What a list tells of a finished task stands.** -/
def ListsStand (tr : List (Lts.Move Watch Watch.Act)) (w : Watch) : Prop :=
  ∀ ts, w.request = .answered ts ∨ .list ts ∈ inputs tr → ∀ id t, copy ts id = some t →
    t.status.terminal →
      ∃ row, w.feed.deployment.cluster.queue.get id = some row ∧ row.status = t.status

theorem mem_of_copy {ts : List (ℤ × Task)} {t : Task} (h : copy ts id = some t) :
    (id, t) ∈ ts := by
  obtain ⟨⟨i, t'⟩, hfind, rfl⟩ := Option.map_eq_some_iff.mp h
  have hid : i = id := by simpa using List.find?_some hfind
  subst hid
  exact List.mem_of_find?_eq_some hfind

/-- **The run lemma.** -/
theorem listsStand_of_run (h : (watch timeout).Run tr w) : ListsStand tr w := by
  refine h.invariant (I := fun tr w => ListsStand tr w) ?_ ?_
  · rintro w ⟨q, workerID, rfl⟩ ts (hts | hts)
    · cases hts
    · cases hts
  · intro tr w a w' hrun ih hstep ts hts id t hcopy hterm
    have hold : w.request = .answered ts ∨ .list ts ∈ inputs tr →
        ∃ row, w.feed.deployment.cluster.queue.get id = some row ∧ row.status = t.status :=
      fun hor => ih ts hor id t hcopy hterm
    rw [inputs_snoc, List.mem_append] at hts
    cases Watch.step_cases hstep with
    | @feed a kept f es hfeed hpub hw =>
      subst hw
      obtain ⟨row, hrow, hst⟩ := hold (hts.imp_right fun hin => by simpa [Watch.input] using hin)
      exact ⟨row, finished_of_feed (told_of_run (feedRun_of_watch hrun)) hfeed hrow (hst ▸ hterm),
        hst⟩
    | connect hw | disconnect hw =>
      subst hw
      exact hold (hts.imp_right fun hin => by simpa [Watch.input] using hin)
    | requestFails hw =>
      subst hw
      rcases hts with hts | hts
      · cases hts
      · exact hold (.inr (by simpa [Watch.input] using hts))
    | marshal s ss wire hconn hw =>
      subst hw
      exact hold (hts.imp_right fun hin => by simpa [Watch.input] using hin)
    | receive e es channel hconn hw =>
      subst hw
      exact hold (hts.imp_right fun hin => by simpa [Watch.input, hconn] using hin)
    | @answer scan hrequest hw =>
      subst hw
      rcases hts with hts | hts
      · cases hts
        exact ⟨t, Queue.get_of_mem_list (mem_of_copy hcopy), rfl⟩
      · exact hold (.inr (by simpa [Watch.input] using hts))
    | load ts' hrequest hw =>
      subst hw
      rcases hts with hts | hts | hts
      · cases hts
      · exact hold (.inr hts)
      · simp only [Watch.input, hrequest, Option.toList_some, List.mem_singleton,
          Input.list.injEq] at hts
        exact hold (.inl (by rw [hrequest, hts]))

/-- What the page has been told, and what is on its way, is fair. -/
structure FairlyTold (tr : List (Lts.Move Watch Watch.Act)) (w : Watch) : Prop where
  told : ∀ e, .event e ∈ inputs tr → Fair w.feed e
  wire : ∀ c ∈ w.conn, ∀ e ∈ c.wire, Fair w.feed e
  channel : ∀ c ∈ w.conn, ∀ s ∈ c.channel, s.Fair w.feed

/-- **The run lemma.** -/
theorem fair_of_run (h : (watch timeout).Run tr w) : FairlyTold tr w := by
  refine h.invariant (I := fun tr w => FairlyTold tr w) ?_ ?_
  · rintro w ⟨q, workerID, rfl⟩
    constructor
    case told => intro e he; cases he
    case wire | channel => intro c hc; cases hc
  · intro tr w a w' hrun ih hstep
    have hfeed := feedRun_of_watch hrun
    have hT := told_of_run hfeed
    have hH := honest_of_run hfeed
    -- what a step that is no arrival has told, was told before
    have htold : a ≠ .receive → ∀ e, .event e ∈ inputs (tr ++ [⟨w, a, w'⟩]) →
        .event e ∈ inputs tr := by
      intro hne e he
      rw [inputs_snoc, List.mem_append] at he
      refine he.resolve_right fun he => ?_
      cases a with
      | receive => exact hne rfl
      | load =>
        simp only [Watch.input] at he
        split at he <;> simp at he
      | _ => simp [Watch.input] at he
    cases Watch.step_cases hstep with
    | @feed a kept f es hfeed hpub hw =>
      have htold := htold (by simp)
      subst hw
      constructor
      case told => exact fun e he => (ih.told e (htold e he)).step hT hfeed
      case wire =>
        intro c hc e he
        obtain ⟨c, hc', rfl⟩ := Option.map_eq_some_iff.mp hc
        exact (ih.wire c hc' e he).step hT hfeed
      case channel =>
        intro c hc s hs
        obtain ⟨c, hc', rfl⟩ := Option.map_eq_some_iff.mp hc
        rcases List.mem_append.mp hs with hs | hs
        · exact (ih.channel c hc' s hs).step hT hfeed
        · cases kept with
          | false => cases hs
          | true =>
            obtain ⟨e, he, rfl⟩ := List.mem_map.mp hs
            exact (honest_of_step hT hH hfeed).2 es hpub e he
    | connect hw | disconnect hw =>
      have htold := htold (by simp)
      subst hw
      exact ⟨fun e he => ih.told e (htold e he), by simp, by simp⟩
    | marshal s ss wire hconn hw =>
      have htold := htold (by simp)
      subst hw
      constructor
      case told => exact fun e he => ih.told e (htold e he)
      case wire =>
        intro c hc e he
        cases hc
        rcases List.mem_append.mp he with he | he
        · exact ih.wire _ hconn e he
        · rw [List.mem_singleton.mp he]
          exact Sent.fair_marshal hT hH (ih.channel _ hconn s List.mem_cons_self) _
      case channel =>
        intro c hc s' hs'
        cases hc
        exact ih.channel _ hconn s' (List.mem_cons_of_mem _ hs')
    | receive e es channel hconn hw =>
      subst hw
      constructor
      case told =>
        intro e' he'
        rw [inputs_snoc, List.mem_append] at he'
        rcases he' with he' | he'
        · exact ih.told e' he'
        · obtain rfl : e' = e := by simpa [Watch.input, hconn] using he'
          exact ih.wire _ hconn e' List.mem_cons_self
      case wire =>
        intro c hc e' he'
        cases hc
        exact ih.wire _ hconn e' (List.mem_cons_of_mem _ he')
      case channel =>
        intro c hc s hs
        cases hc
        exact ih.channel _ hconn s hs
    | answer hrequest hw | load ts hrequest hw | requestFails hw =>
      have htold := htold (by simp)
      subst hw
      exact ⟨fun e he => ih.told e (htold e he), ih.wire, ih.channel⟩

/-- **A page shows of a task what it was told last.** -/
theorem copy_eq_tells (h : (watch timeout).Run tr w) (id : ℤ) :
    copy w.console.tasks id = (lastAbout id tr).bind (Input.tells id) := by
  refine h.invariant
    (I := fun tr w => copy w.console.tasks id = (lastAbout id tr).bind (Input.tells id)) ?_ ?_
  · rintro w ⟨q, workerID, rfl⟩
    rfl
  · intro tr w a w' hrun ih hstep
    cases Watch.step_cases hstep with
    | feed f es hfeed hpub hw =>
      rw [hw, lastAbout_snoc_of_not_about (by simp [Watch.input])]
      exact ih
    | connect hw | disconnect hw | requestFails hw =>
      rw [hw, lastAbout_snoc_of_not_about (by simp [Watch.input])]
      exact ih
    | answer hrequest hw =>
      rw [hw, lastAbout_snoc_of_not_about (by simp [Watch.input])]
      exact ih
    | load ts hrequest hw =>
      rw [hw, lastAbout_snoc_of_about (i := .list ts) (by simp [Watch.input, hrequest]) rfl]
      rfl
    | marshal s ss wire hconn hw =>
      rw [hw, lastAbout_snoc_of_not_about (by simp [Watch.input])]
      exact ih
    | receive e es channel hconn hw =>
      subst hw
      change copy (w.console.receive e).tasks id = _
      rw [Console.tasks_receive]
      by_cases habout : (Input.event e).about id = true
      · rw [lastAbout_snoc_of_about (by simp [Watch.input, hconn]) habout]
        simp only [Input.about, decide_eq_true_eq] at habout
        obtain ⟨rfl, hne⟩ := habout
        exact copy_onmessage hne
          (((fair_of_run hrun).wire _ hconn e List.mem_cons_self).carried hne)
      · have hnot : (Input.event e).about id = false := by simpa using habout
        rw [lastAbout_snoc_of_not_about (by simp [Watch.input, hconn, hnot]), ← ih]
        simp only [Input.about, decide_eq_false_iff_not, not_and, not_not] at hnot
        by_cases hid : e.taskID = id
        · rw [onmessage, if_pos (hnot hid)]
        · exact copy_onmessage_of_ne hid

/-- **A page shows a finished task as it is exactly when what it was told last of the
task says that it is finished**: its terminal event, another event of it that was
marshalled behind the terminal write, or a list that has it as finished. -/
theorem right_iff (h : (watch timeout).Run tr w) {row : Task}
    (hrow : w.feed.deployment.cluster.queue.get id = some row) (hterm : row.status.terminal) :
    (copy w.console.tasks id).map Task.status = some row.status ↔
      (lastAbout id tr).any (Input.finished id) = true := by
  rw [copy_eq_tells h id]
  cases hlast : lastAbout id tr with
  | none => simp
  | some i =>
    rw [Option.bind_some, Option.any_some]
    obtain ⟨hin, habout⟩ := mem_of_lastAbout hlast
    cases i with
    | event e =>
      simp only [Input.about, decide_eq_true_eq] at habout
      obtain ⟨rfl, hne⟩ := habout
      have hfair := (fair_of_run h).told e hin
      obtain ⟨t, ht⟩ := Option.isSome_iff_exists.mp (hfair.carried hne)
      change e.task.map Task.status = _ ↔
        (e.type.terminal || e.task.any fun t => t.status.terminal) = true
      rw [ht, Option.map_some, Option.some.injEq, Option.any_some, Bool.or_eq_true]
      constructor
      · intro hst
        rw [hst]
        exact .inr hterm
      · exact fun hor => (hfair.bears t ht hor).agrees row hrow hterm
    | list ts =>
      change (copy ts id).map Task.status = _ ↔ (copy ts id).any (fun t => t.status.terminal) = true
      cases hcopy : copy ts id with
      | none => simp
      | some t =>
        rw [Option.map_some, Option.some.injEq, Option.any_some]
        constructor
        · intro hst
          rw [hst, hterm]
        · intro hfin
          obtain ⟨row', hrow', hst⟩ := listsStand_of_run h ts (.inr hin) id t hcopy hfin
          rw [hrow] at hrow'
          cases hrow'
          exact hst.symm

/-- **The terminal event is dropped, and `task.running` comes late**: it was marshalled
behind the terminal write, and the page is right. -/
theorem right_iff_sample : ∃ tr w row, (watch 30).Run tr w ∧
    w.feed.deployment.cluster.queue.get 1 = some row ∧ row.status = .completed ∧
    ((inputs tr).filterMap Input.event?).all (fun e => !e.type.terminal) ∧
    (copy w.console.tasks 1).map Task.status = some row.status := by
  obtain ⟨tr, w, hrun, hf⟩ := exists_watchRun 30
    (.connect :: keptLife.take 12 ++ [.feed (.terminal 0 true) false] ++
      List.replicate 3 (.marshal false) ++ List.replicate 3 .receive)
    (fun r => ((r.2.feed.deployment.cluster.queue.get 1).map Task.status,
      ((inputs r.1).filterMap Input.event?).all (fun e => !e.type.terminal),
      (lastAbout 1 r.1).any (Input.finished 1)))
    (show _ = some (some Status.completed, true, true) by decide +kernel)
  simp only [Prod.mk.injEq] at hf
  obtain ⟨hstatus, hopen, hlast⟩ := hf
  obtain ⟨row, hrow, hst⟩ := Option.map_eq_some_iff.mp hstatus
  exact ⟨tr, w, row, hrun, hrow, hst, hopen, (right_iff hrun hrow (by rw [hst]; rfl)).mpr hlast⟩

/-! ### The last word -/

/-- Behind a terminal event stands an execution that has published it. -/
theorem Told.exists_ended (hT : Told f) {e : Bus.Event} (he : e ∈ f.published)
    (hterm : e.type.terminal) :
    ∃ (i : ℕ) (v : Voice), f.voices[i]? = some v ∧ v.taskID = e.taskID ∧ v.heard = .ended := by
  have hspoken : e.type ∈ f.spoken e.taskID := by
    refine List.mem_filter.mpr ⟨List.mem_map_of_mem (List.mem_filter.mpr ⟨he, by simp⟩), ?_⟩
    refine decide_eq_true fun heq => ?_
    rw [heq] at hterm
    cases hterm
  have hid : e.taskID ∈ f.taskIDs := by
    by_contra hnot
    rw [hT.silent _ hnot] at hspoken
    cases hspoken
  obtain ⟨v, hv, htask⟩ := List.mem_map.mp hid
  obtain ⟨i, hi⟩ := List.mem_iff_getElem?.mp hv
  refine ⟨i, v, hi, htask, ?_⟩
  have hsaid := hT.said v hv
  rw [htask] at hsaid
  -- before the end nothing terminal has been said
  have hnot : ∀ n, e.type ∉ .claimed :: .running :: List.replicate n .chunk := by
    intro n hmem
    simp only [List.mem_cons, List.mem_replicate] at hmem
    rcases hmem with heq | heq | ⟨-, heq⟩ <;> rw [heq] at hterm <;> cases hterm
  cases hheard : v.heard with
  | ended => rfl
  | nothing =>
    rw [hheard] at hsaid
    rw [show f.spoken e.taskID = [] from hsaid] at hspoken
    cases hspoken
  | claimed =>
    rw [hheard] at hsaid
    rw [show f.spoken e.taskID = [.claimed] from hsaid, List.mem_singleton] at hspoken
    rw [hspoken] at hterm
    cases hterm
  | running =>
    rw [hheard] at hsaid
    obtain ⟨n, hn⟩ := hsaid
    exact absurd (hn ▸ hspoken) (hnot n)

/-- Behind the terminal event of a task nothing is published of it, when its handler
comes first. -/
theorem taskID_ne_of_terminal {f : Feed} (hT : Told f) (hL : Led f) {old new : List Bus.Event}
    (hpub : f.published = old ++ new) {e e' : Bus.Event} (he : e ∈ old) (hterm : e.type.terminal)
    (he' : e' ∈ new) : e'.taskID ≠ e.taskID := by
  intro heq
  obtain ⟨before, after, rfl⟩ := List.append_of_mem he
  have habout : Feed.about f.published e.taskID = Feed.about before e.taskID ++
      e.type :: Feed.about (after ++ new) e.taskID := by
    rw [hpub, Feed.about, List.append_assoc, List.filter_append, List.map_append,
      List.cons_append, List.filter_cons_of_pos (by simp), List.map_cons, Feed.about, Feed.about]
  have hmem : e'.type ∈ Feed.about (after ++ new) e.taskID :=
    List.mem_map_of_mem (List.mem_filter.mpr ⟨List.mem_append_right _ he', by simp [heq]⟩)
  obtain ⟨i, v, hv, htask, hended⟩ := hT.exists_ended (by rw [hpub]; simp) hterm
  have hsaid := hT.said v (List.mem_of_getElem? hv)
  rw [htask] at hsaid
  obtain ⟨n, k, -, hpre⟩ := hsaid.begins
  by_cases hcreated : .created ∈ Feed.about f.published e.taskID
  · obtain ⟨ks, hks, hnot⟩ := hL.first e.taskID hcreated
    have hspoken : f.spoken e.taskID = ks := by
      rw [Feed.spoken, hks, List.filter_cons_of_neg (by simp), List.filter_eq_self.mpr]
      exact fun k hk => decide_eq_true fun heq => hnot (heq ▸ hk)
    rw [hspoken, ← hks, habout] at hpre
    obtain ⟨hnil, -⟩ := eq_nil_of_prefix_wholeLife hterm hpre
    rw [hnil] at hmem
    cases hmem
  · have hspoken : f.spoken e.taskID = Feed.about f.published e.taskID := by
      refine List.filter_eq_self.mpr fun k hk => decide_eq_true fun heq => hcreated (heq ▸ hk)
    rw [hspoken, habout, ← List.cons_append] at hpre
    obtain ⟨hnil, -⟩ := eq_nil_of_prefix_wholeLife hterm hpre
    rw [hnil] at hmem
    cases hmem

theorem feedMoves_subset {tr tr' : List (Lts.Move Watch Watch.Act)} (h : tr ⊆ tr') :
    feedMoves tr ⊆ feedMoves tr' := by
  intro m hm
  obtain ⟨m', hm', heq⟩ := List.mem_filterMap.mp hm
  exact List.mem_filterMap.mpr ⟨m', h hm', heq⟩

/-- The page has received this event, and it was the last word. -/
structure LastWord (e : Bus.Event) (w : Watch) : Prop where
  told : Told w.feed
  led : Led w.feed
  replied : w.request.pending = false
  received : InTransit w fun old => ∃ e₀ ∈ old, e₀.bare = e.bare
  shown : copy w.console.tasks e.taskID = e.task
  cleared : ∀ t ∈ e.task, t.status.terminal → w.console.streams.get? e.taskID = none

/-- **The step lemma.** -/
theorem LastWord.step {e : Bus.Event} (h : LastWord e w) (hterm : e.type.terminal) {a : Watch.Act}
    (hm : Watch.Moves timeout w w' a)
    (hfirst : ∀ m ∈ feedMoves [⟨w, a, w'⟩], CreatedFirst m) : LastWord e w' := by
  have hway : a ≠ .receive → InTransit w' fun old => ∃ e₀ ∈ old, e₀.bare = e.bare :=
    h.received.step hm
  cases hm with
  | @feed a kept f es hfeed hpub hw =>
    have hway := hway (by simp)
    subst hw
    have hC := hfirst ⟨w.feed, a, f⟩ (by simp [feedMoves, Watch.ofFeed])
    exact ⟨told_of_step h.told hfeed, led_of_step h.told h.led hfeed hC, h.replied, hway, h.shown,
      h.cleared⟩
  | connect hw | disconnect hw =>
    have hway := hway (by simp)
    subst hw
    exact ⟨h.told, h.led, h.replied, hway, h.shown, h.cleared⟩
  | requestFails hw =>
    have hway := hway (by simp)
    subst hw
    exact ⟨h.told, h.led, rfl, hway, h.shown, h.cleared⟩
  | answer hrequest | load _ hrequest =>
    have hreplied := h.replied
    rw [hrequest] at hreplied
    cases hreplied
  | marshal s ss wire hconn hw =>
    have hway := hway (by simp)
    subst hw
    exact ⟨h.told, h.led, h.replied, hway, h.shown, h.cleared⟩
  | receive e' es channel hconn hw =>
    -- what arrives later was published later, of another task
    obtain ⟨old, new, hpub, ⟨e₀, he₀, hbare⟩, e₁, he₁, hbare'⟩ := h.received.exists_new hconn
    have hne : e'.taskID ≠ e.taskID := by
      obtain ⟨htype, htask, -⟩ := Bus.Event.eq_of_bare hbare
      rw [← htask, ← (Bus.Event.eq_of_bare hbare').2.1]
      exact taskID_ne_of_terminal h.told h.led hpub he₀ (htype ▸ hterm) he₁
    have hway := h.received.receive (Q := fun old => ∃ e₀ ∈ old, e₀.bare = e.bare) hconn hw
      fun old mid ⟨e₀, he₀, hbare⟩ _ => ⟨e₀, List.mem_append_left _ he₀, hbare⟩
    subst hw
    refine ⟨h.told, h.led, h.replied, hway, ?_, fun t ht hfin => ?_⟩
    · change copy (w.console.receive e').tasks e.taskID = e.task
      rw [Console.tasks_receive, copy_onmessage_of_ne hne, h.shown]
    · exact (Console.get?_streams_receive_of_ne hne).trans (h.cleared t ht hfin)

theorem lastWord_of_receive {tr : List (Lts.Move Watch Watch.Act)}
    (h : (watch timeout).Run tr w) (hfirst : ∀ m ∈ feedMoves tr, CreatedFirst m)
    (hreplied : w.request.pending = false) {e : Bus.Event} {es : List Bus.Event}
    {channel : List Sent} (hconn : w.conn = some ⟨channel, e :: es⟩) (hterm : e.type.terminal)
    (hw : w' = { w with conn := some ⟨channel, es⟩, console := w.console.receive e }) :
    LastWord e w' := by
  have hfeed := feedRun_of_watch h
  have hT := told_of_run hfeed
  have hne : e.type ≠ .chunk := by
    intro heq
    rw [heq] at hterm
    cases hterm
  have hsome := ((fair_of_run h).wire _ hconn e List.mem_cons_self).carried hne
  have hway := (transcript_of_run h).receive (Q := fun old => ∃ e₀ ∈ old, e₀.bare = e.bare)
    hconn hw fun old mid _ ⟨e₀, he₀, hbare⟩ => ⟨e₀, List.mem_append_right _ he₀, hbare⟩
  subst hw
  refine ⟨hT, led_of_run hfeed hfirst, hreplied, hway, ?_, fun t ht hfin => ?_⟩
  · change copy (w.console.receive e).tasks e.taskID = e.task
    rw [Console.tasks_receive, copy_onmessage hne hsome]
  · change (w.console.receive e).streams.get? e.taskID = none
    rw [Console.receive, if_neg hne, show e.task = some t from ht]
    dsimp only
    rw [if_pos hfin, Dict.get?_erase, if_pos rfl]

/-- **A terminal event is the last word**: once the list of tasks is there, and when the
handlers come first, a page that has received the terminal event of a task shows
the task of that event, without live output if it is finished, to the end of the
run, whatever is dropped and however often the connection is lost. -/
theorem settled_of_shown {tr₁ tr₂ : List (Lts.Move Watch Watch.Act)}
    {m : Lts.Move Watch Watch.Act} (h : (watch timeout).Run (tr₁ ++ m :: tr₂) w)
    (hfirst : ∀ m' ∈ feedMoves (tr₁ ++ m :: tr₂), CreatedFirst m')
    (hreplied : m.pre.request.pending = false) {e : Bus.Event}
    (hin : m.pre.input m.label = some (.event e)) (hterm : e.type.terminal) :
    copy w.console.tasks e.taskID = e.task ∧
      ∀ t ∈ e.task, t.status.terminal → w.console.streams.get? e.taskID = none := by
  obtain ⟨pre, a, post⟩ := m
  obtain ⟨hrun, hstep⟩ := h.split
  change pre.request.pending = false at hreplied
  change pre.input a = some (.event e) at hin
  have hpost : LastWord e post := by
    cases Watch.step_cases hstep with
    | receive e' es channel hconn hw =>
      change pre.conn = some ⟨channel, e' :: es⟩ at hconn
      obtain rfl : e' = e := by simpa [Watch.input, hconn] using hin
      exact lastWord_of_receive hrun
        (fun m' hm' => hfirst m' (feedMoves_subset (List.subset_append_left _ _) hm'))
        hreplied hconn hterm hw
    | load ts hrequest =>
      change pre.request = .answered ts at hrequest
      simp [Watch.input, hrequest] at hin
    | _ => cases hin
  have hlast := (h.invariant_after (I := LastWord e)
    (C := fun m' => ∀ m'' ∈ feedMoves [m'], CreatedFirst m'')
    (fun c a c' hc hs hC => hc.step hterm (Watch.step_cases hs) hC) hpost ?_).1
  · exact ⟨hlast.shown, hlast.cleared⟩
  · intro m' hm' m'' hm''
    refine hfirst m'' (feedMoves_subset ?_ hm'')
    rw [List.cons_subset]
    exact ⟨List.mem_append_right _ (List.mem_cons_of_mem _ hm'), List.nil_subset _⟩

theorem settled_of_shown_sample : ∃ tr w, (watch 30).Run tr w ∧
    (copy w.console.tasks 1).map Task.result = some (some "ok") ∧
    w.console.streams.get? 1 = none := by
  obtain ⟨tr, w, hrun, hf⟩ := exists_watchRun 30
    (watchActs [.answer (fun _ => 0), .load] [.disconnect, .connect])
    (fun r => (decide (∀ m ∈ feedMoves r.1, CreatedFirst m),
      (r.1[26]?).bind fun m => ((m.pre.input m.label).bind Input.event?).bind fun e =>
        e.task.map fun t => (decide (m.pre.request.pending = false ∧ e.taskID = 1 ∧
          e.type.terminal = true ∧ t.status = .completed), t.result)))
    (show _ = some (true, some (true, some "ok")) by decide +kernel)
  simp only [Prod.mk.injEq, decide_eq_true_eq] at hf
  obtain ⟨hfirst, hf⟩ := hf
  obtain ⟨m, hm, hf⟩ := Option.bind_eq_some_iff.mp hf
  obtain ⟨e, he, hf⟩ := Option.bind_eq_some_iff.mp hf
  obtain ⟨i, hin, he⟩ := Option.bind_eq_some_iff.mp he
  obtain rfl := Input.event?_eq_some_iff.mp he
  obtain ⟨t, ht, hf⟩ := Option.map_eq_some_iff.mp hf
  simp only [Prod.mk.injEq, decide_eq_true_eq] at hf
  obtain ⟨⟨hreplied, hid, hterm, hstatus⟩, hresult⟩ := hf
  obtain ⟨tr₁, tr₂, rfl⟩ := List.append_of_mem (List.mem_of_getElem? hm)
  obtain ⟨hcopy, hlive⟩ := settled_of_shown hrun hfirst hreplied hin hterm
  rw [hid, ht] at hcopy
  rw [hid] at hlive
  refine ⟨_, w, hrun, by rw [hcopy, Option.map_some, hresult], hlive t ht ?_⟩
  rw [hstatus]
  rfl

end

end Server
end Shrimp
