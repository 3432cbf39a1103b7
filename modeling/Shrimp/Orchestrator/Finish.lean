import Shrimp.Orchestrator.GateClaims

/-!
# No dead end

A workflow that is neither done nor blocked can always be finished, and little is
needed for it: the guard lets a result pass that says no more than that it is
done, whatever is on disk, and no retry budget or round of consultations that was
used up before stands in its way.  So subagents that answer nothing else and a
user who approves lead every open workflow to its end, in a number of moves that
depends on where it stands.

## Main definitions

* `bareResult`, `bareApproval` — the shortest accepted result and answer.
* `Config.finishing` — the move towards the end.
* `Config.distance` — how many of them are left.

## Main results

* `not_rejects_bareResult` — the guard does not reject the bare result.
* `exists_finishing_step` — **each of these moves can be made, and brings the end
  one move closer.**
* `done_of_run` — **every open workflow can be finished.**
-/

namespace Shrimp

/-! ### The moves towards the end -/

/-- A result that says that it is done, and nothing else. -/
def bareResult : Json := .obj [("status", .str "done")]

/-- A decision that approves, and nothing else. -/
def bareApproval : Json := .obj [("answer", .str "approve")]

/-- The dictionary of the bare result. -/
def bareDict : Obj := Dict.ofList [("status", .str "done")]

/-- What is answered to a node. -/
def Node.bareAnswer (n : Node) : Json := if n.gate?.isSome then bareApproval else bareResult

/-- The move towards the end, in surroundings that may change from move to move. -/
def Config.finishing (w : Config → World) (c : Config) : Event :=
  match c.node with
  | none | some .init | some .devLoopRouter => .tick (w c)
  | some n => .resume (w c) n.bareAnswer

/-- The subtasks the DEV loop has still to enter. -/
def subtasksAhead (s : WorkflowState) : ℕ :=
  s.subtasks.length - (s.currentSubtaskIndex + 1).toNat

/-- How many moves towards the end are left.  In front of the planner no plan
counts: the bare result makes an empty one. -/
def Config.distance (c : Config) : ℕ :=
  match c.node with
  | none => 0
  | some .init => 10
  | some .pmPhase => 9
  | some .gate1 => 8
  | some .planningPhase => 7
  | some .planningDevConsult => 8
  | some .gate15 => 6 + 3 * subtasksAhead c.state
  | some .devLoopRouter => 5 + 3 * subtasksAhead c.state
  | some .devSubtaskDispatch => 7 + 3 * subtasksAhead c.state
  | some .devCodexReview => 6 + 3 * subtasksAhead c.state
  | some .gate2 => 4
  | some .revDispatch => 3
  | some .revCodexFinal => 2
  | some .gate3 => 1

theorem distance_pos {c : Config} {n : Node} (h : c.node = some n) : 0 < c.distance := by
  unfold Config.distance
  rw [h]
  cases n <;> simp

theorem eq_gate3_of_distance {n : Node} {s : WorkflowState}
    (h : Config.distance ⟨some n, s⟩ = 0 + 1) : n = .gate3 := by
  simp only [Config.distance] at h
  cases n with
  | gate3 => rfl
  | _ =>
    dsimp only at h
    omega

/-! ### The bare result -/

section Bare

variable {env : Env} {w : World} {s s' : WorkflowState} {n : Node} {t : Target}

theorem asDict_bareResult : bareResult.asDict = some bareDict := rfl

theorem get?_bareDict (k : String) :
    bareDict.get? k = if k = "status" then some (.str "done") else none :=
  Dict.get?_insert ..

theorem claimedPaths_bareResult (artifactPaths : Dict String String) :
    claimedPaths artifactPaths bareResult = [] := by
  have hnone : artifactUpdates bareDict = none := by
    rw [artifactUpdates, get?_bareDict, if_neg (by decide)]
    rfl
  rw [claimedPaths, asDict_bareResult, Option.bind_some, hnone]

theorem not_rejectable_bareResult (stage : Stage) : ¬Rejectable env w s bareResult stage := by
  rintro (hnone | ⟨d, hd, hlegal | ⟨declared, hstage, -⟩⟩ | ⟨path, hpath, -⟩)
  · cases hnone
  · cases hd
    exact hlegal ⟨"done", by decide, (get?_bareDict _).trans (if_pos rfl)⟩
  · cases hd
    have hnone := (get?_bareDict "stage").symm.trans hstage
    cases hnone
  · rw [claimedPaths_bareResult] at hpath
    cases hpath

/-- **A dispatch does not reject the bare result**, in any state and on any disk. -/
theorem not_rejects_bareResult {findings : List GuardWarning} :
    ¬Rejects env w t s bareResult findings := by
  rintro ⟨⟨artifacts, hg⟩, hsev⟩
  exact not_rejectable_bareResult t.stage ((hasSevere_guardFindings hg).mp hsev)

theorem exists_run_bareResult (hdefault : env.phaseSummary ∅ ≠ none)
    (hreasons : ∀ ss : List String, env.reasons (ss.map .str) = some ss)
    (hn : n ∈ Node.dispatches) : ∃ s', n.run env w s bareResult = .ok s' := by
  have hgate : claimObject bareDict = none := by
    rw [claimObject, get?_bareDict, if_neg (by decide)]
    rfl
  have hsurvives : Survives env w n s bareResult bareDict := by
    refine (survives_iff hdefault hreasons hn asDict_bareResult
      (Or.inl ((get?_bareDict _).trans (if_neg (by decide)))) ?_).mpr ?_
    · intro gate xs hsome
      rw [hgate] at hsome
      cases hsome
    · refine fun t _ => ⟨?_, Or.inr ?_⟩
      · rw [claimedPaths_bareResult]
        exact fun path h => absurd h List.not_mem_nil
      · have hconsume : handledByConsume bareDict = true := by
          simp only [handledByConsume, hgate, get?_bareDict]
          rfl
        cases n <;> exact hconsume
  obtain ⟨s', hrun, -⟩ := hsurvives
  exact ⟨s', hrun⟩

/-- The planner's bare result is an empty plan for Gate 1.5. -/
theorem planning_bareResult (h : Node.planningPhase.run env w s bareResult = .ok s') :
    s'.stage = .gate15 ∧ s'.subtasks = [] := by
  rw [Node.run, planningPhaseNode] at h
  obtain ⟨findings, artifacts, hg, hout | ⟨-, s'', hacc, rfl⟩⟩ := dispatchNode_cases env w h
  · obtain ⟨hsev, -⟩ := handleGuardOutcome_cases w hout
    exact absurd ⟨⟨artifacts, hg⟩, hsev⟩
      (not_rejects_bareResult (t := ⟨.planningPhase, "planner", ["plan", "task_list"]⟩))
  · simp only [bind_eq_ok] at hacc
    obtain ⟨consumed, hc, hacc⟩ := hacc
    obtain ⟨summary, claim, -, rfl⟩ := exists_of_consumeSubagentResult hc
    have hanswer : resultAnswer env (resultDict env bareResult) = "done" := rfl
    simp only [consumedOf, hanswer] at hacc
    rw [if_neg (by decide), if_neg (by simp), if_neg (by decide)] at hacc
    cases hacc
    rw [clearPending_stage, clearPending_subtasks]
    exact ⟨rfl, rfl⟩

end Bare

/-! ### Each move brings the end closer -/

section Closer

variable {env : Env} {w : World} {s s' : WorkflowState} {n : Node} {c c' : Config}

theorem exists_successor (hn : n ∈ Node.dispatches) (s' : WorkflowState) :
    ∃ next, n.successor s' = some next := by
  cases n with
  | planningPhase =>
    rw [Node.successor, routeAfterPlanning]
    split_ifs <;> exact ⟨_, rfl⟩
  | pmPhase => exact ⟨_, lookup_dispatchEdges ..⟩
  | planningDevConsult => exact ⟨_, lookup_dispatchEdges ..⟩
  | devSubtaskDispatch => exact ⟨_, lookup_dispatchEdges ..⟩
  | devCodexReview => exact ⟨_, lookup_dispatchEdges ..⟩
  | revDispatch => exact ⟨_, lookup_dispatchEdges ..⟩
  | revCodexFinal => exact ⟨_, lookup_dispatchEdges ..⟩
  | _ => exact absurd hn (by decide)

theorem advance_resume {t : Target} (ht : n.target s = some t) (value : Json) :
    advance env ⟨some n, s⟩ (.resume w value) = n.leave (n.run env w s value) := by
  have hpayload := (payload_isSome_iff env n s).mpr (Or.inr (by rw [ht]; rfl))
  obtain ⟨payload, hpayload⟩ := Option.isSome_iff_exists.mp hpayload
  simp only [advance, hpayload]

/-- A consistent configuration at a dispatch node has somebody to dispatch. -/
theorem Control.exists_target (hc : Control ⟨some n, s⟩) (hn : n ∈ Node.dispatches) :
    ∃ t, n.target s = some t := by
  cases n with
  | devSubtaskDispatch =>
    obtain ⟨subtask, hsub⟩ := hc.exists_currentSubtask (Or.inl rfl)
    exact ⟨devTarget subtask, by rw [Node.target, hsub, Option.map_some]⟩
  | devCodexReview =>
    obtain ⟨subtask, hsub⟩ := hc.exists_currentSubtask (Or.inr rfl)
    exact ⟨codexTarget subtask, by rw [Node.target, hsub, Option.map_some]⟩
  | pmPhase => exact ⟨_, rfl⟩
  | planningPhase => exact ⟨_, rfl⟩
  | planningDevConsult => exact ⟨_, rfl⟩
  | revDispatch => exact ⟨_, rfl⟩
  | revCodexFinal => exact ⟨_, rfl⟩
  | _ => exact absurd hn (by decide)

theorem gate_node_notMem (gate : Gate) : gate.node ∉ Node.dispatches := by
  cases gate <;> decide

/-- **A dispatch that is answered with the bare result leads on.** -/
theorem distance_dispatch (hn : n ∈ Node.dispatches)
    (hrun : n.run env w s bareResult = .ok c'.state)
    (h : Step env ⟨some n, s⟩ (.resume w bareResult) c') :
    c'.distance + 1 = Config.distance ⟨some n, s⟩ := by
  generalize hc : (⟨some n, s⟩ : Config) = c at h
  generalize he : Event.resume w bareResult = e at h
  cases h with
  -- the guard has nothing against the bare result, so that it is not sent back
  | guardBlocked ht hr =>
    cases he
    exact absurd hr not_rejects_bareResult
  | guardRetry ht hr =>
    cases he
    exact absurd hr not_rejects_bareResult
  | accepted hon ht hacc hstage hsame =>
    cases he
    cases hc
    simp only [onward, List.mem_cons, Prod.mk.injEq, List.not_mem_nil, or_false] at hon
    rcases hon with ⟨rfl, rfl⟩ | ⟨rfl, rfl⟩ | ⟨rfl, rfl⟩ | ⟨rfl, rfl⟩ | ⟨rfl, rfl⟩
    · rfl
    · -- the planner asks nothing
      rw [(planning_bareResult hrun).1] at hstage
      cases hstage
    · rfl
    · rfl
    · rfl
  | planBlocked ht hacc hstage =>
    cases he
    cases hc
    rw [(planning_bareResult hrun).1] at hstage
    cases hstage
  -- an empty plan leads to Gate 1.5 with no subtask ahead
  | planned ht hacc hstage hsub =>
    cases he
    cases hc
    have hempty := (planning_bareResult hrun).2
    dsimp only at hempty
    simp only [Config.distance, subtasksAhead, hempty, List.length_nil]
    omega
  -- a DEV result leaves the subtasks and the index, and its node is one move nearer
  | dev hsub hacc hstage hsubtasks hindex =>
    cases hc
    simp only [Config.distance, subtasksAhead, hsubtasks, hindex]
    omega
  | codex hsub hacc hstage hsubtasks hindex =>
    cases hc
    simp only [Config.distance, subtasksAhead, hsubtasks, hindex]
    omega
  | answered => cases hc; exact absurd hn (gate_node_notMem _)
  | done => cases hc; exact absurd hn (gate_node_notMem .gate3)
  | refused => cases hc; exact absurd hn (gate_node_notMem _)
  | init => cases he
  | loopNext => cases he
  | loopExit => cases he

/-- **A gate that approves leads on.** -/
theorem advance_bareApproval (gate : Gate) (s : WorkflowState) :
    ∃ c', advance env ⟨some gate.node, s⟩ (.resume w bareApproval) = some c' ∧
      c'.distance + 1 = Config.distance ⟨some gate.node, s⟩ ∧
      (gate = .gate3 → c'.node = none ∧ c'.state.stage = .done) := by
  have hnode : ∀ handle, gateNode env w s gate bareApproval handle =
      handle (gateRecord env w gate bareApproval) "approve" := by
    intro handle
    have hmem : "approve" ∈ gate.options := by cases gate <;> decide
    exact if_pos hmem
  -- the four gates approve alike and lead to the next phase
  cases gate with
  | gate1 =>
    refine ⟨⟨some .planningPhase, gateReturn w s .gate1 (gateRecord env w .gate1 bareApproval)
      .planningPhase "gate-1-approved"⟩, ?_, rfl, by simp⟩
    change Node.gate1.leave (gate1Node env w s bareApproval) = _
    rw [gate1Node, hnode]
    rfl
  | gate15 =>
    refine ⟨⟨some .devLoopRouter, gateReturn w s .gate15 (gateRecord env w .gate15 bareApproval)
      .devPhase "gate-1-5-approved"⟩, ?_, ?_, by simp⟩
    · change Node.gate15.leave (gate15Node env w s bareApproval) = _
      rw [gate15Node, hnode]
      rfl
    · simp only [Config.distance, subtasksAhead, gateReturn]
      exact Nat.add_right_comm _ _ _
  | gate2 =>
    refine ⟨⟨some .revDispatch, gateReturn w s .gate2 (gateRecord env w .gate2 bareApproval)
      .revPhase "gate-2-approved"⟩, ?_, rfl, by simp⟩
    change Node.gate2.leave (gate2Node env w s bareApproval) = _
    rw [gate2Node, hnode]
    rfl
  | gate3 =>
    refine ⟨⟨none, gateReturn w s .gate3 (gateRecord env w .gate3 bareApproval) .done
      "gate-3-approved"⟩, ?_, rfl, fun _ => ⟨rfl, rfl⟩⟩
    change Node.gate3.leave (gate3Node env w s bareApproval) = _
    rw [gate3Node, hnode]
    rfl

/-- **The router of the DEV loop leads on.** -/
theorem distance_devLoopRouter (hlow : -1 ≤ s.currentSubtaskIndex)
    (h : Step env ⟨some .devLoopRouter, s⟩ (.tick w) c') :
    c'.distance + 1 = Config.distance ⟨some .devLoopRouter, s⟩ := by
  generalize hc : (⟨some .devLoopRouter, s⟩ : Config) = c at h
  generalize he : Event.tick w = e at h
  cases h with
  | init => cases hc
  | loopNext hlt =>
    cases hc
    simp only [Config.distance, subtasksAhead]
    omega
  | loopExit hge =>
    cases hc
    simp only [Config.distance, subtasksAhead]
    omega
  | _ => cases he

theorem exists_advance_devLoopRouter (hlow : -1 ≤ s.currentSubtaskIndex) :
    ∃ c', advance env ⟨some .devLoopRouter, s⟩ (.tick w) = some c' := by
  have hrun : ∃ s', devLoopRouterNode w s = .ok s' := by
    unfold devLoopRouterNode
    extract_lets nextIndex
    split
    · next hlt =>
      have hget : ∃ subtask, pyIndex s.subtasks nextIndex = .ok subtask := by
        have hpos : ¬nextIndex < 0 := by omega
        have hbound : nextIndex.toNat < s.subtasks.length := by omega
        rw [pyIndex, if_neg hpos, List.getElem?_eq_getElem hbound]
        exact ⟨_, if_pos (by omega)⟩
      obtain ⟨subtask, hget⟩ := hget
      rw [hget]
      exact ⟨_, rfl⟩
    · exact ⟨_, rfl⟩
  obtain ⟨s', hrun⟩ := hrun
  have hnext : ∃ next, Node.devLoopRouter.successor s' = some next := by
    rw [Node.successor, routeAfterDevLoop]
    split_ifs <;> exact ⟨_, rfl⟩
  obtain ⟨next, hnext⟩ := hnext
  exact ⟨⟨next, s'⟩, leave_eq_some_iff.mpr ⟨s', next, hrun, hnext, rfl⟩⟩

/-- **Each move towards the end can be made, and brings the end one move
closer.** -/
theorem exists_finishing_step (hdefault : env.phaseSummary ∅ ≠ none)
    (hreasons : ∀ ss : List String, env.reasons (ss.map .str) = some ss) (w : Config → World)
    (hc : Control c) (hn : c.node = some n) :
    ∃ c', advance env c (c.finishing w) = some c' ∧ c'.distance + 1 = c.distance ∧
      (c'.distance = 0 → c'.node = none ∧ c'.state.stage = .done) := by
  obtain ⟨_, s⟩ := c
  obtain rfl := hn
  -- only the last gate is one move away from the end
  have hopen : ∀ {c' : Config}, c'.distance + 1 = Config.distance ⟨some n, s⟩ → n ≠ .gate3 →
      c'.distance = 0 → c'.node = none ∧ c'.state.stage = .done := by
    intro c' hd hne hzero
    rw [hzero] at hd
    exact absurd (eq_gate3_of_distance hd.symm) hne
  -- a dispatch node returns on the bare result, by the edge of an accepted one
  by_cases hdispatch : n ∈ Node.dispatches
  · obtain ⟨t, ht⟩ := hc.exists_target hdispatch
    have hruns : ∃ s', n.run env (w ⟨some n, s⟩) s bareResult = .ok s' :=
      exists_run_bareResult hdefault hreasons hdispatch
    obtain ⟨s', hrun⟩ := hruns
    obtain ⟨next, hnext⟩ := exists_successor hdispatch s'
    have hstep : advance env ⟨some n, s⟩ (.resume (w ⟨some n, s⟩) bareResult) =
        some ⟨next, s'⟩ := by
      rw [advance_resume ht]
      exact leave_eq_some_iff.mpr ⟨s', next, hrun, hnext, rfl⟩
    have hlabel : Config.finishing w ⟨some n, s⟩ = .resume (w ⟨some n, s⟩) bareResult := by
      cases n <;> first | rfl | exact absurd hdispatch (by decide)
    have hd := distance_dispatch hdispatch hrun (step_of_advance hc hstep)
    rw [hlabel]
    refine ⟨_, hstep, hd, hopen hd ?_⟩
    rintro rfl
    exact absurd hdispatch (by decide)
  -- the others are the entry node, the router and the gates
  · cases n with
    | init => exact ⟨_, rfl, rfl, nofun⟩
    | devLoopRouter =>
      have hadvance : ∃ c', advance env ⟨some .devLoopRouter, s⟩
          (.tick (w ⟨some .devLoopRouter, s⟩)) = some c' :=
        exists_advance_devLoopRouter hc.indexLow
      obtain ⟨c', hstep⟩ := hadvance
      have hd := distance_devLoopRouter hc.indexLow (step_of_advance hc hstep)
      exact ⟨c', hstep, hd, hopen hd (by simp)⟩
    | gate1 =>
      obtain ⟨c', hstep, hd, -⟩ := advance_bareApproval .gate1 s
      exact ⟨c', hstep, hd, hopen hd (by simp)⟩
    | gate15 =>
      obtain ⟨c', hstep, hd, -⟩ := advance_bareApproval .gate15 s
      exact ⟨c', hstep, hd, hopen hd (by simp)⟩
    | gate2 =>
      obtain ⟨c', hstep, hd, -⟩ := advance_bareApproval .gate2 s
      exact ⟨c', hstep, hd, hopen hd (by simp)⟩
    | gate3 =>
      obtain ⟨c', hstep, hd, hend⟩ := advance_bareApproval .gate3 s
      exact ⟨c', hstep, hd, fun _ => hend rfl⟩
    | _ => exact absurd (by decide) hdispatch

end Closer

/-! ### The end -/

/-- **Every open workflow can be finished**: from every configuration that a run
reaches short of the end, whatever retries and consultations were used up on the
way, subagents that say no more than that they are done and a user who approves
lead to DONE, in exactly as many moves as the end is away, and nothing else is
answered on the way. -/
theorem done_of_run {env : Env} {tr : List (Lts.Move Config Event)} {c : Config} {n : Node}
    (hdefault : env.phaseSummary ∅ ≠ none)
    (hreasons : ∀ ss : List String, env.reasons (ss.map .str) = some ss) (w : Config → World)
    (h : (graph env).Run tr c) (hn : c.node = some n) :
    ∃ tr' d, (graph env).Run (tr ++ tr') d ∧ d.node = none ∧ d.state.stage = .done ∧
      tr'.length = c.distance ∧ ∀ m ∈ tr', m.label = m.pre.finishing w := by
  have hclose : ∀ tr c k, (graph env).Run tr c → True → c.distance = k + 1 →
      ∃ c', (graph env).step c (c.finishing w) c' ∧ True ∧ c'.distance = k ∧
        (k = 0 → c'.node = none ∧ c'.state.stage = .done) := by
    intro tr c k hrun _ hk
    -- a distance that is not zero is that of a node
    have hnode : ∃ n, c.node = some n := by
      cases hc : c.node with
      | none => simp [Config.distance, hc] at hk
      | some n => exact ⟨n, rfl⟩
    obtain ⟨n, hn⟩ := hnode
    obtain ⟨c', hstep, hd, hend⟩ :=
      exists_finishing_step hdefault hreasons w (control_of_run hrun) hn
    rw [hk] at hd
    have hk' := Nat.succ.inj hd
    exact ⟨c', hstep, trivial, hk', fun hzero => hend (hk'.trans hzero)⟩
  obtain ⟨tr', d, hrun, ⟨hnode, hstage⟩, hlen, hall⟩ :=
    h.exists_following (I := fun _ => True) (Config.finishing w) Config.distance hclose
      trivial (distance_pos hn)
  exact ⟨tr', d, hrun, hnode, hstage, hlen, hall⟩

/-- From the dispatch of the PM, with its retry used up. -/
theorem done_of_run_sample : ∃ tr c tr' d, (graph sampleEnv).Run tr c ∧
    c.node = some .pmPhase ∧ 0 < c.state.guardRetries.entries.length ∧
    (graph sampleEnv).Run (tr ++ tr') d ∧ d.state.stage = .done ∧ tr'.length = 9 := by
  obtain ⟨tr, c, hrun, h⟩ := exists_sampleRun
    [.tick sampleWorld, .resume sampleWorld .null]
    (fun r => (r.2.node, r.2.state.guardRetries.entries.length))
    (show _ = some (some Node.pmPhase, 1) by decide +kernel)
  obtain ⟨hn, hretries⟩ := Prod.mk.inj h
  obtain ⟨tr', d, hrun', -, hstage, hlen, -⟩ := done_of_run (by simp [sampleEnv])
    sampleEnv_reasons (fun _ => sampleWorld) hrun hn
  refine ⟨tr, c, tr', d, hrun, hn, by rw [hretries]; exact Nat.one_pos, hrun', hstage, ?_⟩
  rw [hlen, Config.distance, hn]

end Shrimp
