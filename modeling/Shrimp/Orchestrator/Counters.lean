import Mathlib.Data.List.Dedup
import Shrimp.Orchestrator.Budget
import Shrimp.Orchestrator.Consult

/-!
# The redo counters

A workflow counts three kinds of redoing: rollbacks, by the phase they go to;
guard retries, by dispatch and number of rollbacks; and rounds of consultation,
counted anew from each `continue_planning` on.  What one move does to the
counters is read off the move itself: the answer it gives, the result it
accepts, the record it adds to the log.  So the counters count the moves of the
history.

## Main definitions

* `rolledBackTo`, `continuesPlanning`, `consults` — what a move is counted as.
* `retriedSubagent`, `retryLogged` — the guard retry a record of the log is about.
* `Counted` — what a move does to the counters.

## Main results

* `counted_of_advance` — **every step is counted as what it is.**
* `counters_of_run` — **the counters of a run count its moves, each its own.**
-/

namespace Shrimp

/-! ### The guard retries of the log -/

/-- The subagent a record of the log schedules a retry of: what stands between
`guard-retry-pending:` and the last `:[`, where the checks begin. -/
def retriedSubagent (note : String) : Option String :=
  (note.toList.dropPrefix? "guard-retry-pending:".toList).map fun rest =>
    String.ofList ((rest.reverse.dropWhile (· != '[')).drop 2).reverse

/-- A name, its checks and what follows them: only the name may have a
bracket. -/
theorem drop_dropWhile_reverse {sub rest : List Char} (h : '[' ∉ rest) :
    (((sub ++ ':' :: '[' :: rest).reverse.dropWhile (· != '[')).drop 2).reverse = sub := by
  have hrest : ∀ c ∈ rest.reverse, (c != '[') = true := by
    intro c hc
    rw [bne_iff_ne]
    rintro rfl
    exact h (List.mem_reverse.mp hc)
  rw [List.reverse_append, List.reverse_cons, List.reverse_cons, List.append_assoc,
    List.append_assoc, List.dropWhile_append_of_pos hrest]
  simp

theorem notMem_intercalate {c : Char} {sep : List Char} (hsep : c ∉ sep) :
    ∀ {xs : List (List Char)}, (∀ x ∈ xs, c ∉ x) → c ∉ sep.intercalate xs
  | [], _ => by simp [List.intercalate]
  | [x], h => by simpa [List.intercalate] using h x (by simp)
  | x :: y :: xs, h => by
    rw [List.intercalate_cons_cons]
    simp only [List.mem_append, not_or]
    exact ⟨⟨h x (by simp), hsep⟩, notMem_intercalate hsep fun z hz => h z (by simp [hz])⟩

theorem bracket_notMem_severeIds (findings : List GuardWarning) :
    '[' ∉ (severeIds findings).toList := by
  rw [severeIds, String.toList_intercalate]
  refine notMem_intercalate (by decide) ?_
  intro x hx
  obtain ⟨id, hid, rfl⟩ := List.mem_map.mp hx
  rw [List.mem_insertionSort, List.mem_dedup] at hid
  obtain ⟨f, -, rfl⟩ := List.mem_map.mp hid
  cases f.checkId <;> decide

theorem bracket_notMem_nat (n : ℕ) : '[' ∉ (toString n).toList := by
  intro h
  change '[' ∈ (Nat.repr n).toList at h
  rw [Nat.toList_repr] at h
  have := Nat.isDigit_of_mem_toDigits (by omega) (by omega) h
  revert this
  decide

/-- **A record that schedules a retry names its subagent**, whatever brackets and
colons that name has. -/
theorem retriedSubagent_retryNote (sub : String) (findings : List GuardWarning) (attempt : ℕ) :
    retriedSubagent (s!"guard-retry-pending:{sub}:[{severeIds findings}] " ++
      s!"attempt={attempt}/{guardRetryLimit}") = some sub := by
  have hrest : '[' ∉ (severeIds findings).toList ++ "] ".toList ++ "attempt=".toList ++
      (toString attempt).toList ++ "/1".toList := by
    simp only [List.mem_append, not_or]
    exact ⟨⟨⟨⟨bracket_notMem_severeIds findings, by decide⟩, by decide⟩,
      bracket_notMem_nat attempt⟩, by decide⟩
  have hnote : (s!"guard-retry-pending:{sub}:[{severeIds findings}] " ++
      s!"attempt={attempt}/{guardRetryLimit}").toList = "guard-retry-pending:".toList ++
        (sub.toList ++ ':' :: '[' :: ((severeIds findings).toList ++ "] ".toList ++
          "attempt=".toList ++ (toString attempt).toList ++ "/1".toList)) := by
    simp only [String.toList_append, List.append_assoc]
    rfl
  rw [retriedSubagent, hnote, List.dropPrefix?_append_of_beq _ (by simp), Option.map_some,
    drop_dropWhile_reverse hrest, String.ofList_toList]

/-! The notes with several numbers in them schedule no retry; the others are read
off where they are written. -/

theorem retriedSubagent_asksNote (round : ℕ) : retriedSubagent (asksNote round) = none := by
  delta asksNote
  simp only [retriedSubagent, String.toList_append]
  rfl

theorem retriedSubagent_surfacedNote (exhausted : Bool) :
    retriedSubagent (surfacedNote exhausted) = none := by
  delta surfacedNote
  simp only [retriedSubagent, String.toList_append]
  rfl

theorem retriedSubagent_consultNote (round : ℕ) (answer : String) :
    retriedSubagent (consultNote round answer) = none := by
  delta consultNote
  simp only [retriedSubagent, String.toList_append]
  rfl

theorem retriedSubagent_reviewedNote (taskId : String) (passed : Bool) :
    retriedSubagent (reviewedNote taskId passed) = none := by
  delta reviewedNote
  simp only [retriedSubagent, String.toList_append]
  rfl

theorem retriedSubagent_codexFinalNote (answer : String) (passed : Bool) :
    retriedSubagent (codexFinalNote answer passed) = none := by
  delta codexFinalNote
  simp only [retriedSubagent, String.toList_append]
  rfl

theorem retriedSubagent_loopExitNote (s : WorkflowState) :
    retriedSubagent (loopExitNote s) = none := by
  delta loopExitNote
  simp only [retriedSubagent, String.toList_append]
  rfl

/-- The retry a move logs: its stage and its subagent. -/
def retryLogged (m : Lts.Move Config Event) : Option (Stage × String) :=
  m.post.state.stageLog.getLast?.bind fun record =>
    (retriedSubagent record.note).map fun sub => (record.stage, sub)

/-! ### What a move is counted as -/

section Counted

variable (env : Env)

/-- The phase a move rolls back to: that of an accepted answer. -/
def rolledBackTo (m : Lts.Move Config Event) : Option Stage :=
  match gateAnswered env m with
  | some (gate, answer) => if answer ∈ gate.options then rollbackPhases.lookup answer else none
  | none => none

/-- Does a move start a new round of consultations? -/
def continuesPlanning (m : Lts.Move Config Event) : Bool :=
  gateAnswered env m == some (.gate15, "continue_planning") && m.post.node == some .planningPhase

/-- Does a move complete a consultation? -/
def consults (m : Lts.Move Config Event) : Bool :=
  m.pre.node == some .planningDevConsult && (acceptedResult env m).isSome

/-- **A move is counted as what it is.** -/
structure Counted (m : Lts.Move Config Event) : Prop where
  retryCount : m.post.state.retryCount =
    m.pre.state.retryCount + if (rolledBackTo env m).isSome then 1 else 0
  rollbackCounts : m.post.state.rollbackCounts =
    match rolledBackTo env m with
    | some phase => m.pre.state.rollbackCounts.insert phase.value
        (m.pre.state.rollbackCounts.getD phase.value 0 + 1)
    | none => m.pre.state.rollbackCounts
  guardRetries : m.post.state.guardRetries =
    match retryLogged m with
    | some (stage, sub) => m.pre.state.guardRetries.insert
        (guardRetryKey stage sub m.pre.state.retryCount)
        (attemptsSoFar m.pre.state stage sub + 1)
    | none => m.pre.state.guardRetries
  /-- A retry is within its budget. -/
  within : ∀ stage sub, retryLogged m = some (stage, sub) →
    attemptsSoFar m.pre.state stage sub < guardRetryLimit
  round : m.post.state.planningConsultationRound =
    if continuesPlanning env m then 0
    else m.pre.state.planningConsultationRound + if consults env m then 1 else 0
  consultations : m.post.state.planningConsultations.map ConsultationRecord.roundIndex =
    m.pre.state.planningConsultations.map ConsultationRecord.roundIndex ++
      if consults env m then [m.pre.state.planningConsultationRound + 1] else []

variable {env}

theorem retryLogged_of_append {c : Config} {e : Event} {next : Option Node}
    {s s' : WorkflowState} {record : StageRecord} (h : s'.stageLog = s.stageLog ++ [record]) :
    retryLogged ⟨c, e, ⟨next, s'⟩⟩ =
      (retriedSubagent record.note).map fun sub => (record.stage, sub) := by
  rw [retryLogged, h, List.getLast?_concat]
  rfl

theorem Counted.none {m : Lts.Move Config Event} (hroll : rolledBackTo env m = none)
    (hcont : continuesPlanning env m = false) (hcons : consults env m = false)
    (hlog : retryLogged m = none) (hrc : m.post.state.retryCount = m.pre.state.retryCount)
    (hrb : m.post.state.rollbackCounts = m.pre.state.rollbackCounts)
    (hgr : m.post.state.guardRetries = m.pre.state.guardRetries)
    (hround : m.post.state.planningConsultationRound = m.pre.state.planningConsultationRound)
    (hcs : m.post.state.planningConsultations = m.pre.state.planningConsultations) :
    Counted env m where
  retryCount := by simp [hroll, hrc]
  rollbackCounts := by rw [hroll, hrb]
  guardRetries := by rw [hlog, hgr]
  within stage sub h := by rw [hlog] at h; cases h
  round := by simp [hcont, hcons, hround]
  consultations := by simp [hcons, hcs]

theorem Counted.rollback {m : Lts.Move Config Event} (phase : Stage)
    (hroll : rolledBackTo env m = some phase) (hcont : continuesPlanning env m = false)
    (hcons : consults env m = false) (hlog : retryLogged m = Option.none)
    (hrc : m.post.state.retryCount = m.pre.state.retryCount + 1)
    (hrb : m.post.state.rollbackCounts = m.pre.state.rollbackCounts.insert phase.value
      (m.pre.state.rollbackCounts.getD phase.value 0 + 1))
    (hgr : m.post.state.guardRetries = m.pre.state.guardRetries)
    (hround : m.post.state.planningConsultationRound = m.pre.state.planningConsultationRound)
    (hcs : m.post.state.planningConsultations = m.pre.state.planningConsultations) :
    Counted env m where
  retryCount := by simp [hroll, hrc]
  rollbackCounts := by rw [hroll, hrb]
  guardRetries := by rw [hlog, hgr]
  within stage sub h := by rw [hlog] at h; cases h
  round := by simp [hcont, hcons, hround]
  consultations := by simp [hcons, hcs]

section Flags

variable {n : Node} {s : WorkflowState} {e : Event} {c' : Config}

theorem gate?_eq_none_of_target {t : Target} (ht : n.target s = some t) : n.gate? = none := by
  cases n <;> first | rfl | cases ht

/-- Away from the gates nothing is rolled back or continued. -/
theorem rolledBackTo_of_gate? (hn : n.gate? = none) :
    rolledBackTo env ⟨⟨some n, s⟩, e, c'⟩ = none := by
  simp [rolledBackTo, gateAnswered, hn]

theorem continuesPlanning_of_gate? (hn : n.gate? = none) :
    continuesPlanning env ⟨⟨some n, s⟩, e, c'⟩ = false := by
  simp [continuesPlanning, gateAnswered, hn]

theorem consults_of_ne (hn : n ≠ .planningDevConsult) :
    consults env ⟨⟨some n, s⟩, e, c'⟩ = false := by
  simp [consults, hn]

theorem lookup_rollbackPhases {answer : String} (h : answer ∉ rollbacks) :
    rollbackPhases.lookup answer = none := by
  rw [List.lookup_eq_none_iff]
  intro p hp
  rw [bne_iff_ne]
  rintro rfl
  exact h (by revert p; decide)

theorem lookup_of_mem_rollbackPhases {answer : String} {phase : Stage}
    (h : (answer, phase) ∈ rollbackPhases) : rollbackPhases.lookup answer = some phase := by
  simp only [rollbackPhases, List.mem_cons, Prod.mk.injEq, List.not_mem_nil, or_false] at h
  rcases h with ⟨rfl, rfl⟩ | ⟨rfl, rfl⟩ | ⟨rfl, rfl⟩ <;> rfl

theorem ne_continue_of_mem_rollbackPhases {answer : String} {phase : Stage}
    (h : (answer, phase) ∈ rollbackPhases) : answer ≠ "continue_planning" := by
  simp only [rollbackPhases, List.mem_cons, Prod.mk.injEq, List.not_mem_nil, or_false] at h
  rcases h with ⟨rfl, -⟩ | ⟨rfl, -⟩ | ⟨rfl, -⟩ <;> decide

variable {w : World} {value : Json}

theorem acceptedResult_of_passes {t : Target} {findings : List GuardWarning}
    {artifacts : Dict String ArtifactRef} (ht : n.target s = some t)
    (h : Passes env w t s value findings artifacts) :
    acceptedResult env ⟨⟨some n, s⟩, .resume w value, c'⟩ = some (t, value) := by
  obtain ⟨hg, hsev⟩ := h
  simp [acceptedResult, handedIn, ht, hg, hsev]

theorem payload_gate (gate : Gate) : (gate.node.payload env s).isSome := by
  cases gate <;> rfl

theorem consults_gate (gate : Gate) :
    consults env ⟨⟨some gate.node, s⟩, e, c'⟩ = false :=
  consults_of_ne (by cases gate <;> simp [Gate.node])

theorem rolledBackTo_gate (gate : Gate) :
    rolledBackTo env ⟨⟨some gate.node, s⟩, .resume w value, c'⟩ =
    if gateAnswer env value ∈ gate.options then rollbackPhases.lookup (gateAnswer env value)
    else none := by
  rw [rolledBackTo, gateAnswered_gate]

theorem continuesPlanning_gate_of_ne (gate : Gate)
    (h : gateAnswer env value ≠ "continue_planning") :
    continuesPlanning env ⟨⟨some gate.node, s⟩, .resume w value, c'⟩ = false := by
  simp [continuesPlanning, gateAnswered_gate, h]

/-! ### What the returns of the nodes are counted as -/

variable {s' : WorkflowState} {node' : Option Node}

/-- A move that logs no retry, away from the gates and the consultation. -/
theorem counted_of_plain (hg : n.gate? = none) (hne : n ≠ .planningDevConsult)
    {record : StageRecord} (hlog : s'.stageLog = s.stageLog ++ [record])
    (hnote : retriedSubagent record.note = none) (hrc : s'.retryCount = s.retryCount)
    (hrb : s'.rollbackCounts = s.rollbackCounts) (hgr : s'.guardRetries = s.guardRetries)
    (hround : s'.planningConsultationRound = s.planningConsultationRound)
    (hcs : s'.planningConsultations = s.planningConsultations) :
    Counted env ⟨⟨some n, s⟩, e, ⟨node', s'⟩⟩ := by
  have hretry : retryLogged ⟨⟨some n, s⟩, e, ⟨node', s'⟩⟩ = none := by
    rw [retryLogged_of_append hlog, hnote, Option.map_none]
  exact Counted.none (rolledBackTo_of_gate? hg) (continuesPlanning_of_gate? hg)
    (consults_of_ne hne) hretry hrc hrb hgr hround hcs

/-- A rejected result: the workflow is blocked, or the one record is logged that
schedules a retry, counted on the budget it is about. -/
theorem counted_of_guard {t : Target} {findings : List GuardWarning} (ht : n.target s = some t)
    (hr : Rejects env w t s value findings)
    (hout : handleGuardOutcome w s findings t.stage t.subagent = some s') :
    Counted env ⟨⟨some n, s⟩, .resume w value, ⟨node', s'⟩⟩ := by
  have hg := gate?_eq_none_of_target ht
  -- a rejected result is no consultation
  have hcons : ∀ c', consults env ⟨⟨some n, s⟩, .resume w value, c'⟩ = false := by
    intro c'
    rw [consults, acceptedResult_of_rejects ht hr]
    exact Bool.and_false _
  obtain ⟨-, ⟨-, rfl⟩ | ⟨hlt, rfl⟩⟩ := handleGuardOutcome_cases w hout
  -- over the limit: the workflow is blocked, and the log says so
  · refine Counted.none (rolledBackTo_of_gate? hg) (continuesPlanning_of_gate? hg) (hcons _) ?_
      rfl rfl rfl rfl rfl
    rw [retryLogged_of_append (s := s) rfl]
    simp only [retriedSubagent, String.toList_append]
    rfl
  -- within the limit: the log names the stage and the subagent that are retried
  · have hlog : retryLogged ⟨⟨some n, s⟩, .resume w value,
        ⟨node', guardRetry w s findings t.stage t.subagent⟩⟩ = some (t.stage, t.subagent) := by
      rw [retryLogged_of_append (s := s) rfl, retriedSubagent_retryNote]
      rfl
    refine ⟨?_, ?_, ?_, ?_, ?_, ?_⟩
    · rw [rolledBackTo_of_gate? hg]
      rfl
    · rw [rolledBackTo_of_gate? hg]
      rfl
    · rw [hlog]
      rfl
    · intro stage sub h
      rw [hlog] at h
      cases h
      exact hlt
    · rw [continuesPlanning_of_gate? hg, hcons]
      rfl
    · rw [hcons]
      exact (List.append_nil _).symm

theorem counted_of_consult {t : Target} {findings : List GuardWarning}
    {artifacts : Dict String ArtifactRef} (ht : Node.planningDevConsult.target s = some t)
    (hpass : Passes env w t s value findings artifacts)
    (hlog : retryLogged ⟨⟨some .planningDevConsult, s⟩, .resume w value, ⟨node', s'⟩⟩ = none)
    (hrc : s'.retryCount = s.retryCount) (hrb : s'.rollbackCounts = s.rollbackCounts)
    (hgr : s'.guardRetries = s.guardRetries)
    (hround : s'.planningConsultationRound = s.planningConsultationRound + 1)
    (hcs : s'.planningConsultations.map ConsultationRecord.roundIndex =
      s.planningConsultations.map ConsultationRecord.roundIndex ++
        [s.planningConsultationRound + 1]) :
    Counted env ⟨⟨some .planningDevConsult, s⟩, .resume w value, ⟨node', s'⟩⟩ := by
  have hroll : ∀ c', rolledBackTo env ⟨⟨some .planningDevConsult, s⟩, .resume w value, c'⟩ =
      none := fun c' => rolledBackTo_of_gate? rfl
  have hcont : ∀ c', continuesPlanning env ⟨⟨some .planningDevConsult, s⟩, .resume w value,
      c'⟩ = false := fun c' => continuesPlanning_of_gate? rfl
  have hcons : ∀ c', consults env ⟨⟨some .planningDevConsult, s⟩, .resume w value, c'⟩ =
      true := by
    intro c'
    rw [consults, acceptedResult_of_passes ht hpass]
    rfl
  -- the consultation rolls nothing back and retries nobody; it adds one round
  refine ⟨?_, ?_, ?_, ?_, ?_, ?_⟩
  · rw [hroll]
    exact hrc
  · rw [hroll]
    exact hrb
  · rw [hlog]
    exact hgr
  · intro stage sub h
    rw [hlog] at h
    cases h
  · rw [hcont, hcons]
    exact hround
  · rw [hcons]
    exact hcs

/-- An accepted `continue_planning` opens a new series of rounds. -/
theorem counted_of_continued (ha : gateAnswer env value = "continue_planning")
    (hlog : retryLogged ⟨⟨some .gate15, s⟩, .resume w value, ⟨some .planningPhase, s'⟩⟩ = none)
    (hrc : s'.retryCount = s.retryCount) (hrb : s'.rollbackCounts = s.rollbackCounts)
    (hgr : s'.guardRetries = s.guardRetries) (hround : s'.planningConsultationRound = 0)
    (hcs : s'.planningConsultations = s.planningConsultations) :
    Counted env ⟨⟨some .gate15, s⟩, .resume w value, ⟨some .planningPhase, s'⟩⟩ := by
  have hroll : ∀ c', rolledBackTo env ⟨⟨some .gate15, s⟩, .resume w value, c'⟩ = none := by
    intro c'
    refine (rolledBackTo_gate .gate15).trans ?_
    rw [ha]
    rfl
  have hcont : continuesPlanning env ⟨⟨some .gate15, s⟩, .resume w value,
      ⟨some .planningPhase, s'⟩⟩ = true := by
    have hans : gateAnswered env ⟨⟨some .gate15, s⟩, .resume w value,
        ⟨some .planningPhase, s'⟩⟩ = some (.gate15, gateAnswer env value) := rfl
    rw [continuesPlanning, hans, ha]
    rfl
  have hcons : ∀ c', consults env ⟨⟨some .gate15, s⟩, .resume w value, c'⟩ = false :=
    fun c' => consults_gate .gate15
  -- the answer rolls nothing back and retries nobody; the rounds begin anew
  refine ⟨?_, ?_, ?_, ?_, ?_, ?_⟩
  · rw [hroll]
    exact hrc
  · rw [hroll]
    exact hrb
  · rw [hlog]
    exact hgr
  · intro stage sub h
    rw [hlog] at h
    cases h
  · rw [hcont]
    exact hround
  · rw [hcons, hcs]
    exact (List.append_nil _).symm

end Flags

/-- **Every step is counted as what it is.** -/
theorem counted_of_advance {c c' : Config} {e : Event} (h : advance env c e = some c') :
    Counted env ⟨c, e, c'⟩ := by
  obtain ⟨n, hn, hret, hnext, he⟩ := returns_of_advance h
  obtain ⟨_, s⟩ := c
  obtain rfl : _ = some n := hn
  obtain ⟨node', s'⟩ := c'
  cases hret with
  | init | pm | planBlocked | dev | rev | loopNext =>
    refine counted_of_plain rfl (by simp) rfl ?_ rfl rfl rfl rfl rfl
    simp only [retriedSubagent, String.toList_append]
    rfl
  | planAsks =>
    exact counted_of_plain rfl (by simp) rfl (retriedSubagent_asksNote _) rfl rfl rfl rfl rfl
  | codex =>
    exact counted_of_plain rfl (by simp) rfl (retriedSubagent_reviewedNote _ _) rfl rfl rfl rfl rfl
  | codexFinal =>
    exact counted_of_plain rfl (by simp) rfl (retriedSubagent_codexFinalNote _ _) rfl rfl rfl rfl
      rfl
  | loopExit =>
    exact counted_of_plain rfl (by simp) rfl (retriedSubagent_loopExitNote s) rfl rfl rfl rfl rfl
  | planned ht hpass hcons hnote =>
    refine counted_of_plain rfl (by simp) rfl ?_ rfl rfl rfl rfl rfl
    obtain rfl | ⟨exhausted, rfl⟩ := hnote
    · simp only [retriedSubagent, String.toList_append]
      rfl
    · exact retriedSubagent_surfacedNote exhausted
  | noCurrent hwhich hsub =>
    obtain ⟨rfl, rfl⟩ | ⟨rfl, rfl⟩ := hwhich
    all_goals
      refine counted_of_plain rfl (by simp) rfl ?_ rfl rfl rfl rfl rfl
      simp only [retriedSubagent]
      rfl
  | @guard _ t findings _ ht hr hout =>
    rw [he ((payload_isSome_iff env n s).mpr (Or.inr (by rw [ht]; rfl)))]
    exact counted_of_guard ht hr hout
  | @consult t findings artifacts pending ht hpass =>
    rw [he rfl]
    refine counted_of_consult ht hpass ?_ rfl rfl rfl rfl List.map_append
    rw [retryLogged_of_append (s := s) rfl, retriedSubagent_consultNote]
    rfl
  | @answered gate nextStage note hopt hroll hcont hnote =>
    rw [he (payload_gate gate)]
    refine Counted.none ?_ (continuesPlanning_gate_of_ne gate hcont) (consults_gate gate) ?_ rfl rfl
      rfl rfl rfl
    · rw [rolledBackTo_gate, lookup_rollbackPhases hroll, ite_self]
    · rw [retryLogged_of_append (s := s) rfl]
      obtain rfl | rfl := hnote <;> cases gate <;>
        simp only [retriedSubagent, String.toList_append] <;> rfl
  -- a gate that refuses is blocked, whatever phase the answer names
  | @refused gate checkId detail note hopt hnote =>
    rw [he (payload_gate gate)]
    have hblocked : node' = none :=
      Option.some.inj (hnext.symm.trans (successor_gate_blocked rfl))
    refine Counted.none ?_ ?_ (consults_gate gate) ?_ rfl rfl rfl rfl rfl
    · rw [rolledBackTo_gate]
      split
      · next hmem =>
        rw [hopt hmem]
        rfl
      · rfl
    · simp [continuesPlanning, hblocked]
    · rw [retryLogged_of_append (s := s) rfl]
      obtain rfl | ⟨why, rfl⟩ := hnote
      · cases gate <;> simp only [retriedSubagent, String.toList_append] <;> rfl
      · simp only [retriedSubagent, String.toList_append]
        rfl
  -- the phase that is logged is the one the answer names
  | @rolledBack gate phase note hopt hphase hdev hnote =>
    rw [he (payload_gate gate)]
    refine Counted.rollback phase ?_ (continuesPlanning_gate_of_ne gate ?_)
      (consults_gate gate) ?_ rfl rfl rfl rfl rfl
    · rw [rolledBackTo_gate, if_pos hopt, lookup_of_mem_rollbackPhases hphase]
    · exact ne_continue_of_mem_rollbackPhases hphase
    · rw [retryLogged_of_append (s := s) rfl]
      obtain ⟨why, rfl⟩ := hnote
      cases gate <;> simp only [retriedSubagent, String.toList_append] <;> rfl
  | rolledBackToDev ha =>
    obtain ⟨w, value, rfl⟩ : ∃ w value, e = .resume w value := ⟨_, _, he rfl⟩
    refine Counted.rollback .devPhase ?_
      (continuesPlanning_gate_of_ne .gate3 ?_) (consults_gate .gate3) ?_ rfl rfl rfl rfl
      rfl
    · refine (rolledBackTo_gate .gate3).trans ?_
      change gateAnswer env value = _ at ha
      rw [ha]
      rfl
    · change gateAnswer env value = _ at ha
      rw [ha]
      decide
    · rw [retryLogged_of_append (s := s) rfl]
      simp only [retriedSubagent]
      rfl
  | @continued ref ha =>
    obtain ⟨w, value, rfl⟩ : ∃ w value, e = .resume w value := ⟨_, _, he rfl⟩
    change gateAnswer env value = _ at ha
    obtain rfl : node' = some .planningPhase := Option.some.inj hnext.symm
    refine counted_of_continued ha ?_ rfl rfl rfl rfl rfl
    rw [retryLogged_of_append (s := s) rfl]
    simp only [retriedSubagent, String.toList_append]
    rfl

end Counted

/-! ### The counters of a run -/

section Run

variable {env : Env} {tr : List (Lts.Move Config Event)} {c : Config}

/-- What every move adds to a count, a run adds up. -/
theorem count_of_run (p : Lts.Move Config Event → Bool) (count : WorkflowState → ℕ)
    (h0 : ∀ c, Started c → count c.state = 0)
    (hstep : ∀ c e c', advance env c e = some c' →
      count c'.state = count c.state + if p ⟨c, e, c'⟩ then 1 else 0)
    (h : (graph env).Run tr c) : count c.state = tr.countP p := by
  refine h.invariant (I := fun tr c => count c.state = tr.countP p) h0 ?_
  intro tr c e c' _ ih hs
  rw [hstep c e c' hs, ih, List.countP_append, List.countP_singleton]

/-- **The rollbacks are counted.** -/
theorem retryCount_eq_countP (h : (graph env).Run tr c) :
    c.state.retryCount = tr.countP fun m => (rolledBackTo env m).isSome := by
  refine count_of_run _ WorkflowState.retryCount ?_ ?_ h
  · rintro c ⟨_, _, _, _, rfl⟩
    rfl
  · intro c e c' hs
    exact (counted_of_advance hs).retryCount

/-- **They are counted by phase.** -/
theorem rollbackCounts_eq_countP (h : (graph env).Run tr c) (phase : Stage) :
    c.state.rollbackCounts.getD phase.value 0 =
      tr.countP fun m => rolledBackTo env m = some phase := by
  refine count_of_run _ (fun s => s.rollbackCounts.getD phase.value 0) ?_ ?_ h
  · rintro c ⟨_, _, _, _, rfl⟩
    rfl
  · intro c e c' hs
    have hcount := (counted_of_advance hs).rollbackCounts
    dsimp only at hcount
    rw [hcount]
    cases hroll : rolledBackTo env ⟨c, e, c'⟩ with
    | none => simp
    | some phase' =>
      dsimp only
      rw [Dict.getD_insert]
      by_cases heq : phase = phase'
      · subst heq
        simp
      · have hkey : phase.value ≠ phase'.value := fun hv => heq (Stage.value_injective hv)
        rw [if_neg hkey]
        simp [Ne.symm heq]

/-- **The counters by phase add up.** -/
theorem retryCount_eq_sum (h : (graph env).Run tr c) :
    c.state.retryCount = c.state.rollbackCounts.values.sum := by
  refine h.invariant (I := fun _ c => c.state.retryCount = c.state.rollbackCounts.values.sum)
    ?_ ?_
  · rintro c ⟨_, _, _, _, rfl⟩
    rfl
  · intro tr c e c' _ ih hs
    have hcounted := counted_of_advance hs
    have hretry := hcounted.retryCount
    have hphases := hcounted.rollbackCounts
    dsimp only at hretry hphases
    rw [hretry, hphases, ih]
    cases rolledBackTo env ⟨c, e, c'⟩ with
    | none => rfl
    | some phase => exact (Dict.sum_values_insert_add _ _ 1).symm

/-- **A budget counts the retries logged for it.** -/
theorem guardRetries_eq_countP (h : (graph env).Run tr c) (stage : Stage) (sub : String) (r : ℕ) :
    c.state.guardRetries.getD (guardRetryKey stage sub r) 0 =
      tr.countP fun m => retryLogged m = some (stage, sub) ∧ m.pre.state.retryCount = r := by
  refine count_of_run _ (fun s => s.guardRetries.getD (guardRetryKey stage sub r) 0) ?_ ?_ h
  · rintro c ⟨_, _, _, _, rfl⟩
    rfl
  · intro c e c' hs
    have hcount := (counted_of_advance hs).guardRetries
    dsimp only at hcount
    rw [hcount]
    cases hlog : retryLogged ⟨c, e, c'⟩ with
    | none => simp
    | some t =>
      obtain ⟨stage', sub'⟩ := t
      dsimp only
      rw [Dict.getD_insert]
      -- the key of the counter determines the stage, the subagent and the attempt
      by_cases heq : guardRetryKey stage sub r = guardRetryKey stage' sub' c.state.retryCount
      · obtain ⟨rfl, rfl, rfl⟩ := guardRetryKey_inj heq
        simp [attemptsSoFar]
      · have hne : ¬((stage', sub') = (stage, sub) ∧ c.state.retryCount = r) := by
          rintro ⟨h, rfl⟩
          cases h
          exact heq rfl
        rw [if_neg heq]
        simpa using hne

/-- **No budget is overdrawn**, and there are no other budgets. -/
theorem guardRetries_le (h : (graph env).Run tr c) :
    ∀ k v, c.state.guardRetries.get? k = some v →
      v ≤ guardRetryLimit ∧ ∃ stage sub r, k = guardRetryKey stage sub r := by
  refine h.invariant (I := fun _ c => ∀ k v, c.state.guardRetries.get? k = some v →
    v ≤ guardRetryLimit ∧ ∃ stage sub r, k = guardRetryKey stage sub r) ?_ ?_
  · rintro c ⟨_, _, _, _, rfl⟩ k v hk
    cases hk
  · intro tr c e c' _ ih hs k v hk
    have hcounted := counted_of_advance hs
    have hcount := hcounted.guardRetries
    dsimp only at hcount
    rw [hcount] at hk
    -- only a retry writes a counter, and it does so below the limit
    cases hlog : retryLogged ⟨c, e, c'⟩ with
    | none =>
      rw [hlog] at hk
      exact ih k v hk
    | some t =>
      obtain ⟨stage, sub⟩ := t
      have hlt := hcounted.within stage sub hlog
      rw [hlog] at hk
      dsimp only at hk
      rw [Dict.get?_insert] at hk
      split at hk
      · next hkey =>
        cases hk
        exact ⟨hlt, stage, sub, _, hkey⟩
      · exact ih k v hk

/-! ### Rounds of consultation -/

theorem countP_since_snoc (tr : List (Lts.Move Config Event)) (m : Lts.Move Config Event) :
    (Lts.since (continuesPlanning env) (tr ++ [m])).countP (consults env) =
      if continuesPlanning env m then 0
      else (Lts.since (continuesPlanning env) tr).countP (consults env) +
        if consults env m then 1 else 0 := by
  rw [Lts.since_snoc]
  split
  · rfl
  · rw [List.countP_append, List.countP_singleton]

/-- **A round is the number of consultations since the planning was last
continued.** -/
theorem round_eq_countP (h : (graph env).Run tr c) :
    c.state.planningConsultationRound =
      (Lts.since (continuesPlanning env) tr).countP (consults env) := by
  refine h.invariant (I := fun tr c => c.state.planningConsultationRound =
    (Lts.since (continuesPlanning env) tr).countP (consults env)) ?_ ?_
  · rintro c ⟨_, _, _, _, rfl⟩
    rfl
  · intro tr c e c' _ ih hs
    have hround := (counted_of_advance hs).round
    dsimp only at hround
    rw [hround, countP_since_snoc, ih]

/-- **There are never more rounds than the limit**, and fewer while the
consultation is about to run. -/
theorem round_le (h : (graph env).Run tr c) :
    c.state.planningConsultationRound ≤ maxPlanningConsultations ∧
      (c.node = some .planningDevConsult →
        c.state.planningConsultationRound < maxPlanningConsultations) := by
  refine h.invariant (I := fun _ c =>
    c.state.planningConsultationRound ≤ maxPlanningConsultations ∧
      (c.node = some .planningDevConsult →
        c.state.planningConsultationRound < maxPlanningConsultations)) ?_ ?_
  · rintro c ⟨_, _, _, _, rfl⟩
    exact ⟨Nat.zero_le _, fun h => by cases h⟩
  · rintro tr c e c' hrun ⟨hle, hlt⟩ hs
    have hround := (counted_of_advance hs).round
    dsimp only at hround
    refine ⟨?_, ?_⟩
    · -- a round is only added by the consultation, which runs below the limit
      rw [hround]
      split
      · exact Nat.zero_le _
      · cases hcons : consults env ⟨c, e, c'⟩ with
        | false => simpa using hle
        | true =>
          have hn : c.node = some .planningDevConsult := by
            rw [consults, Bool.and_eq_true, beq_iff_eq] at hcons
            exact hcons.1
          exact hlt hn
    · intro hn
      rcases entersConsult (control_of_run hrun) hs hn with
        ⟨w, value, findings, t, hnode, -, -, -, hs'⟩ | ⟨w, value, t, -, -, -, -, hasks⟩
      · rw [hs']
        exact hlt hnode
      · rw [hasks.same]
        exact hasks.round

/-- The numbers of the rounds of each part of a history between two
`continue_planning`. -/
def roundIndices (env : Env) (tr : List (Lts.Move Config Event)) : List ℕ :=
  (tr.splitOnP (continuesPlanning env)).flatMap fun part =>
    List.range' 1 (part.countP (consults env))

/-- A consultation adds the next number to the last part; a `continue_planning`
opens a new part. -/
theorem roundIndices_snoc (tr : List (Lts.Move Config Event)) {m : Lts.Move Config Event}
    (hm : continuesPlanning env m = true → consults env m = false) :
    roundIndices env (tr ++ [m]) = roundIndices env tr ++
      if consults env m then
        [(Lts.since (continuesPlanning env) tr).countP (consults env) + 1] else [] := by
  unfold roundIndices
  cases hcont : continuesPlanning env m with
  | true =>
    rw [List.splitOnP_append_cons _ _ hcont, hm hcont]
    simp
  -- the last part of the history grows by the move
  | false =>
    obtain ⟨before, hparts⟩ := Lts.exists_splitOnP_eq (continuesPlanning env) tr
    have hold := hparts [] (by simp)
    rw [List.append_nil, List.append_nil] at hold
    rw [hparts [m] (by simpa using hcont), hold, List.flatMap_append, List.flatMap_append,
      List.append_assoc]
    congr 1
    simp only [List.flatMap_cons, List.flatMap_nil, List.append_nil, List.countP_append,
      List.countP_singleton]
    split
    · rw [List.range'_concat, Nat.one_mul, Nat.add_comm 1]
    · rw [List.append_nil, Nat.add_zero]

theorem consults_of_continuesPlanning {m : Lts.Move Config Event}
    (h : continuesPlanning env m = true) : consults env m = false := by
  by_contra hcons
  rw [Bool.not_eq_false, consults, Bool.and_eq_true, beq_iff_eq] at hcons
  obtain ⟨⟨node, s⟩, e, c'⟩ := m
  obtain rfl : node = some .planningDevConsult := hcons.1
  rw [continuesPlanning_of_gate? rfl] at h
  cases h

/-- **The rounds are numbered without gap.** -/
theorem roundIndex_eq (h : (graph env).Run tr c) :
    c.state.planningConsultations.map ConsultationRecord.roundIndex = roundIndices env tr := by
  refine h.invariant (I := fun tr c =>
    c.state.planningConsultations.map ConsultationRecord.roundIndex = roundIndices env tr) ?_ ?_
  · rintro c ⟨_, _, _, _, rfl⟩
    rfl
  · intro tr c e c' hrun ih hs
    have hcons := (counted_of_advance hs).consultations
    dsimp only at hcons
    rw [hcons, roundIndices_snoc tr consults_of_continuesPlanning, ih, round_eq_countP hrun]

/-- **The counters of a run count its moves, each its own.**  The rollbacks are
the accepted rollback answers, in all and by phase; a budget is the number of
retries logged for its dispatch while as many rollbacks were counted as its key
says, and never more than the limit; the round is the number of consultations
since the last accepted `continue_planning` and never more than the limit; and
between two of these the consultations are numbered 1, 2, 3 and so on. -/
theorem counters_of_run (h : (graph env).Run tr c) :
    (c.state.retryCount = c.state.rollbackCounts.values.sum ∧
      (c.state.retryCount = tr.countP fun m => (rolledBackTo env m).isSome) ∧
      ∀ phase : Stage, c.state.rollbackCounts.getD phase.value 0 =
        tr.countP fun m => rolledBackTo env m = some phase) ∧
    (∀ k v, c.state.guardRetries.get? k = some v → v ≤ guardRetryLimit ∧
      ∃ stage sub r, k = guardRetryKey stage sub r ∧ v =
        tr.countP fun m => retryLogged m = some (stage, sub) ∧ m.pre.state.retryCount = r) ∧
    (c.state.planningConsultationRound =
        (Lts.since (continuesPlanning env) tr).countP (consults env) ∧
      c.state.planningConsultationRound ≤ maxPlanningConsultations) ∧
    c.state.planningConsultations.map ConsultationRecord.roundIndex =
      (tr.splitOnP (continuesPlanning env)).flatMap fun part =>
        List.range' 1 (part.countP (consults env)) := by
  refine ⟨⟨retryCount_eq_sum h, retryCount_eq_countP h, rollbackCounts_eq_countP h⟩, ?_,
    ⟨round_eq_countP h, (round_le h).1⟩, roundIndex_eq h⟩
  intro k v hk
  obtain ⟨hle, stage, sub, r, rfl⟩ := guardRetries_le h k v hk
  refine ⟨hle, stage, sub, r, rfl, ?_⟩
  rw [← guardRetries_eq_countP h, Dict.getD, hk, Option.getD_some]

end Run

/-- After a rollback to PM and a consultation there are one of each. -/
theorem counters_of_run_sample : ∃ tr c, (graph sampleEnv).Run tr c ∧
    c.state.retryCount = 1 ∧
    (tr.countP fun m => (rolledBackTo sampleEnv m).isSome) = 1 ∧
    (Lts.since (continuesPlanning sampleEnv) tr).countP (consults sampleEnv) = 1 := by
  obtain ⟨tr, c, hrun, h⟩ := exists_sampleRun
    [.tick sampleWorld, sampleResult "h1" [], sampleAnswer "h2" "rollback_to_pm",
      sampleResult "h3" [], sampleAnswer "h4" "approve", sampleQuestion "h5" [],
      sampleResult "h6" []]
    (fun r => (r.2.state.retryCount, r.2.state.planningConsultationRound))
    (show _ = some (1, 1) by decide +kernel)
  obtain ⟨hretry, hround⟩ := Prod.mk.inj h
  obtain ⟨⟨-, hcount, -⟩, -, ⟨hsince, -⟩, -⟩ := counters_of_run hrun
  exact ⟨tr, c, hrun, hretry, hcount.symm.trans hretry, hsince.symm.trans hround⟩

end Shrimp
