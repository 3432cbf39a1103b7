import Shrimp.Lib.Run
import Shrimp.Orchestrator.Payload

/-!
# The graph

`build_graph`: the thirteen nodes, the routers and the edges between them, as a
labelled transition system.  A node runs on the current state, its update
replaces the fields it names, and the router of the node picks the next node
from the state after the update.  A node that interrupts moves only when a value
is resumed; a node that raises does not move.

## Main definitions

* `Node`, `Node.run`, `Node.payload` — the nodes.
* `Target`, `Node.target` — what a node dispatches.
* `Route`, the routers, `Node.successor` — the edges.
* `Config`, `Event`, `advance`, `graph` — the transition system.

## Main results

* `payload_isSome_iff` — a node interrupts exactly when it is a gate or has
  somebody to dispatch.
-/

namespace Shrimp

/-- The nodes. -/
inductive Node
  | init
  | pmPhase
  | gate1
  | planningPhase
  | planningDevConsult
  | gate15
  | devLoopRouter
  | devSubtaskDispatch
  | devCodexReview
  | gate2
  | revDispatch
  | revCodexFinal
  | gate3
  deriving DecidableEq, Repr, Inhabited

/-- Whom a dispatch is for, and the artifacts it expects. -/
structure Target where
  stage : Stage
  subagent : String
  expectedArtifacts : List String
  deriving DecidableEq, Inhabited

/-- The developer's dispatch for a subtask. -/
def devTarget (subtask : SubtaskSpec) : Target where
  stage := .devPhase
  subagent := s!"dev_agent[{subtask.taskId}]"
  expectedArtifacts := ["dev_summary", "dev_self_check", "dev_changed_files"]

/-- The reviewer's dispatch for a subtask. -/
def codexTarget (subtask : SubtaskSpec) : Target where
  stage := .devPhase
  subagent := s!"codex_reviewer[{subtask.taskId}]"
  expectedArtifacts := []

namespace Node

/-- The stage a workflow is in while a node is about to run. -/
def stage : Node → Stage
  | init => .init
  | pmPhase => .pmPhase
  | gate1 => .gate1
  | planningPhase => .planningPhase
  | planningDevConsult => .planningPhase
  | gate15 => .gate15
  | devLoopRouter => .devPhase
  | devSubtaskDispatch => .devPhase
  | devCodexReview => .devPhase
  | gate2 => .gate2
  | revDispatch => .revPhase
  | revCodexFinal => .revPhase
  | gate3 => .gate3

/-- The gate a node asks at. -/
def gate? : Node → Option Gate
  | gate1 => some .gate1
  | gate15 => some .gate15
  | gate2 => some .gate2
  | gate3 => some .gate3
  | _ => none

/-- Whom a node dispatches; the DEV nodes dispatch for the current subtask. -/
def target (s : WorkflowState) : Node → Option Target
  | pmPhase => some ⟨.pmPhase, "pm_agent", ["pm_spec", "pm_risks"]⟩
  | planningPhase => some ⟨.planningPhase, "planner", ["plan", "task_list"]⟩
  | planningDevConsult => some ⟨.planningPhase, "dev_agent[consult]", []⟩
  | devSubtaskDispatch => (currentSubtask s).map devTarget
  | devCodexReview => (currentSubtask s).map codexTarget
  | revDispatch => some ⟨.revPhase, "rev_agent", ["rev_report", "acceptance_checklist"]⟩
  | revCodexFinal => some ⟨.revPhase, "codex_final", []⟩
  | _ => none

end Node

/-- The node that asks at a gate. -/
def Gate.node : Gate → Node
  | gate1 => .gate1
  | gate15 => .gate15
  | gate2 => .gate2
  | gate3 => .gate3

section Run

variable (env : Env)

/-- Run a node on a state and the value its `interrupt` returned; a node that
does not interrupt ignores the value. -/
def Node.run (w : World) (s : WorkflowState) (value : Json) :
    Node → Except PyError WorkflowState
  | .init => .ok (initNode w s)
  | .pmPhase => pmPhaseNode env w s value
  | .gate1 => gate1Node env w s value
  | .planningPhase => planningPhaseNode env w s value
  | .planningDevConsult => planningDevConsultNode env w s value
  | .gate15 => gate15Node env w s value
  | .devLoopRouter => devLoopRouterNode w s
  | .devSubtaskDispatch => devSubtaskDispatchNode env w s value
  | .devCodexReview => devCodexReviewNode env w s value
  | .gate2 => gate2Node env w s value
  | .revDispatch => revDispatchNode env w s value
  | .revCodexFinal => revCodexFinalNode env w s value
  | .gate3 => gate3Node env w s value

/-- What a node hands to `interrupt`; `none` when it runs through. -/
def Node.payload (s : WorkflowState) : Node → Option Json
  | .init => none
  | .pmPhase => some (pmPhasePayload env s)
  | .gate1 => some (gate1Payload s)
  | .planningPhase => some (planningPhasePayload env s)
  | .planningDevConsult => some (planningDevConsultPayload env s)
  | .gate15 => some (gate15Payload s)
  | .devLoopRouter => none
  | .devSubtaskDispatch => (currentSubtask s).map (devSubtaskPayload env s)
  | .devCodexReview => (currentSubtask s).map (devCodexReviewPayload env s)
  | .gate2 => some (gate2Payload s)
  | .revDispatch => some (revDispatchPayload env s)
  | .revCodexFinal => some (revCodexFinalPayload env s)
  | .gate3 => some (gate3Payload s)

/-- **A node interrupts exactly when it is a gate or has somebody to
dispatch.** -/
theorem payload_isSome_iff (n : Node) (s : WorkflowState) :
    (n.payload env s).isSome ↔ n.gate?.isSome ∨ (n.target s).isSome := by
  cases n <;> simp [Node.payload, Node.gate?, Node.target]

end Run

/-! ### The edges -/

/-- The labels the routers return. -/
inductive Route
  | approved
  | rollback
  | rejected
  | continue
  | retry
  | consult
  | toGate
  | blocked
  | rollbackDev
  | rollbackPlanning
  | rollbackPm
  | exit
  | next
  deriving DecidableEq, Repr

/-- `_route_after_gate_1`. -/
def routeAfterGate1 (s : WorkflowState) : Route :=
  if s.stage = .planningPhase then .approved
  else if s.stage = .pmPhase then .rollback
  else .rejected

/-- `_route_after_gate_1_5`. -/
def routeAfterGate15 (s : WorkflowState) : Route :=
  if s.stage = .devPhase then .approved
  else if s.stage = .pmPhase then .rollback
  else if s.stage = .planningPhase then .continue
  else .rejected

/-- `_route_after_planning`. -/
def routeAfterPlanning (s : WorkflowState) : Route :=
  -- a retry leaves the stage alone, so it is looked for first
  if s.pendingGuardRetry.isSome then .retry
  else if s.stage = .planningPhase then .consult
  else if s.stage = .gate15 then .toGate
  else .blocked

/-- `_route_after_gate_2`. -/
def routeAfterGate2 (s : WorkflowState) : Route :=
  if s.stage = .revPhase then .approved
  else if s.stage = .planningPhase then .rollbackPlanning
  else if s.stage = .pmPhase then .rollbackPm
  else .rejected

/-- `_route_after_dev_loop`. -/
def routeAfterDevLoop (s : WorkflowState) : Route :=
  if s.stage = .gate2 then .exit else .next

/-- `_route_dispatch_outcome`. -/
def routeDispatchOutcome (s : WorkflowState) : Route :=
  if s.pendingGuardRetry.isSome then .retry
  else if s.stage = .blocked then .blocked
  else .next

/-- `_route_after_gate_3`. -/
def routeAfterGate3 (s : WorkflowState) : Route :=
  if s.stage = .done then .approved
  else if s.stage = .devPhase then .rollbackDev
  else if s.stage = .planningPhase then .rollbackPlanning
  else if s.stage = .pmPhase then .rollbackPm
  else .rejected

/-- The edges of a dispatch node: back to itself, on to the next node, or to
`END`. -/
def dispatchEdges (self next : Node) : List (Route × Option Node) :=
  [(.retry, some self), (.next, some next), (.blocked, none)]

/-- The edge a node takes after its update: a label of its router, looked up in
its map.  `some none` is `END`; `none` is a label the map does not have. -/
def Node.successor (s : WorkflowState) : Node → Option (Option Node)
  | .init => some (some .pmPhase)
  | .pmPhase => (dispatchEdges .pmPhase .gate1).lookup (routeDispatchOutcome s)
  | .gate1 =>
    [(.approved, some .planningPhase), (.rollback, some .pmPhase), (.rejected, none)].lookup
      (routeAfterGate1 s)
  | .planningPhase =>
    [(.retry, some .planningPhase), (.consult, some .planningDevConsult),
      (.toGate, some .gate15), (.blocked, none)].lookup (routeAfterPlanning s)
  | .planningDevConsult =>
    (dispatchEdges .planningDevConsult .planningPhase).lookup (routeDispatchOutcome s)
  | .gate15 =>
    [(.approved, some .devLoopRouter), (.rollback, some .pmPhase),
      (.continue, some .planningPhase), (.rejected, none)].lookup (routeAfterGate15 s)
  | .devLoopRouter =>
    [(.next, some .devSubtaskDispatch), (.exit, some .gate2)].lookup (routeAfterDevLoop s)
  | .devSubtaskDispatch =>
    (dispatchEdges .devSubtaskDispatch .devCodexReview).lookup (routeDispatchOutcome s)
  | .devCodexReview =>
    (dispatchEdges .devCodexReview .devLoopRouter).lookup (routeDispatchOutcome s)
  | .gate2 =>
    [(.approved, some .revDispatch), (.rollbackPlanning, some .planningPhase),
      (.rollbackPm, some .pmPhase), (.rejected, none)].lookup (routeAfterGate2 s)
  | .revDispatch => (dispatchEdges .revDispatch .revCodexFinal).lookup (routeDispatchOutcome s)
  | .revCodexFinal => (dispatchEdges .revCodexFinal .gate3).lookup (routeDispatchOutcome s)
  | .gate3 =>
    [(.approved, none), (.rollbackDev, some .devLoopRouter),
      (.rollbackPlanning, some .planningPhase), (.rollbackPm, some .pmPhase),
      (.rejected, none)].lookup (routeAfterGate3 s)

/-! ### The transition system -/

/-- A configuration: the node about to run (`none` is `END`) and the state. -/
structure Config where
  node : Option Node
  state : WorkflowState

/-- What moves a workflow: the execution of a node that runs through, or a value
resumed to a node that interrupted. -/
inductive Event
  | tick (w : World)
  | resume (w : World) (value : Json)

section Graph

variable (env : Env)

/-- The configuration after a node returned. -/
def Node.leave (n : Node) : Except PyError WorkflowState → Option Config
  | .ok s => (n.successor s).map fun next => ⟨next, s⟩
  | .error _ => none

/-- One step of the graph. -/
def advance (c : Config) (e : Event) : Option Config :=
  match c.node with
  | none => none
  | some n =>
    match n.payload env c.state, e with
    | none, .tick w => n.leave (n.run env w c.state .null)
    | some _, .resume w value => n.leave (n.run env w c.state value)
    | _, _ => none

/-- Is this the configuration a workflow is started in? -/
def Started (c : Config) : Prop :=
  ∃ workflowId artifactBaseDir userMsgs permissionPolicies,
    c = ⟨some .init,
      WorkflowState.fresh workflowId artifactBaseDir userMsgs permissionPolicies⟩

/-- **The workflow graph.** -/
def graph : Lts Config Event := .ofStep Started (advance env)

end Graph

end Shrimp
