import Mathlib.Data.List.Infix
import Shrimp.Orchestrator.Control

/-!
# What a gate leaves behind

A gate that blocks and a gate that asks for another round of planning are the
two answers after which somebody has to find out what happened.  A gate that
blocks touches the audit trail and nothing of the work; a gate that continues
records the hint it was given, by path and hash.

The hash is taken over the text of the hint, which was read with universal
newlines.  It is the hash of the file unless the file has a carriage return.

## Main definitions

* `Blocks` — what a gate that blocks leaves behind.
* `Continues` — what a gate that continues the planning leaves behind.
* `Identifies` — the recorded hint identifies the file.
* `returnsCounted` — the pairs of a carriage return and a newline in a text.

## Main results

* `gate_leaves` — **a gate that blocks changes nothing but the audit trail**, and
  one that continues records one hint.
* `size_translateNewlines` — what reading with universal newlines does to the
  length of a text.
* `identifies_iff` — **the recorded hint identifies the file** exactly when the
  file has no carriage return, collisions of the hash apart.
-/

namespace Shrimp

section Leaves

variable {env : Env} {w : World} {s s' : WorkflowState} {value : Json}

/-- A gate that blocks leaves everything but the audit trail as it was.  An
explicit rejection is no finding, anything else is one severe finding. -/
structure Blocks (env : Env) (s : WorkflowState) (value : Json) (s' : WorkflowState) : Prop where
  work : s' = { s with
    stage := .blocked
    decisions := s'.decisions
    stageLog := s'.stageLog
    warnings := s'.warnings
    updatedAt := s'.updatedAt }
  decided : ∃ record, s'.decisions = s.decisions ++ [record]
  rejected : gateAnswer env value = "reject" → s'.warnings = s.warnings
  warned : gateAnswer env value ≠ "reject" →
    ∃ f, s'.warnings = s.warnings ++ [f] ∧ f.severity = .severe

/-- A gate that continues the planning records one hint, starts a new round of
consultations, and counts no rollback. -/
structure Continues (s s' : WorkflowState) : Prop where
  stage : s'.stage = .planningPhase
  hint : ∃ ref, s'.userPlanningHints = s.userPlanningHints ++ [ref]
  round : s'.planningConsultationRound = 0
  retryCount : s'.retryCount = s.retryCount
  rollbackCounts : s'.rollbackCounts = s.rollbackCounts

theorem blocks_gateRefuse (gate : Gate) (record : Decision) (checkId : CheckId) (detail : Detail)
    (note : String) (hreject : gateAnswer env value ≠ "reject") :
    Blocks env s value (gateRefuse w s gate record checkId detail note) where
  work := rfl
  decided := ⟨record, rfl⟩
  rejected := fun h => absurd h hreject
  warned := fun _ => ⟨_, rfl, rfl⟩

theorem blocks_gateReturn (gate : Gate) (record : Decision) (note : String)
    (hreject : gateAnswer env value = "reject") :
    Blocks env s value (gateReturn w s gate record .blocked note) where
  work := rfl
  decided := ⟨record, rfl⟩
  rejected := fun _ => rfl
  warned := fun h => absurd hreject h

/-- An answer the gate does not allow is not the rejection it does. -/
theorem blocks_gateInvalidAnswer (gate : Gate) (record : Decision)
    (hopt : gateAnswer env value ∉ gate.options) :
    Blocks env s value (gateInvalidAnswerReturn w s gate (gateAnswer env value) record) := by
  refine blocks_gateRefuse gate record _ _ _ ?_
  intro hreject
  rw [hreject] at hopt
  cases gate <;> exact absurd (by decide) hopt

/-- What a gate leaves behind. -/
def Leaves (env : Env) (s : WorkflowState) (value : Json) (s' : WorkflowState) : Prop :=
  (s'.stage = .blocked → Blocks env s value s') ∧
    (gateAnswer env value = "continue_planning" → s'.stage ≠ .blocked → Continues s s')

theorem Blocks.leaves (h : Blocks env s value s') : Leaves env s value s' := by
  refine ⟨fun _ => h, fun _ hne => absurd ?_ hne⟩
  rw [h.work]

/-- A gate that approves or rolls back on one of its answers. -/
theorem leaves_of_answer (phase : Stage) {answer : String} {t : WorkflowState}
    {otherwise : Except PyError WorkflowState}
    (h : (if gateAnswer env value = answer then .ok t else otherwise) = .ok s')
    (hstage : t.stage = phase) (hphase : phase ≠ .blocked) (hne : answer ≠ "continue_planning")
    (hother : gateAnswer env value ≠ answer → otherwise = .ok s' → Leaves env s value s') :
    Leaves env s value s' := by
  by_cases ha : gateAnswer env value = answer
  · rw [if_pos ha] at h
    cases h
    refine ⟨fun hblocked => absurd (hstage.symm.trans hblocked) hphase, fun hcont => ?_⟩
    rw [ha] at hcont
    exact absurd hcont hne
  · rw [if_neg ha] at h
    exact hother ha h

/-- A gate that continues the planning, or blocks on the hint. -/
theorem leaves_continuePlanning {record : Decision}
    (ha : gateAnswer env value = "continue_planning")
    (h : continuePlanning env w s record value = .ok s') : Leaves env s value s' := by
  obtain ⟨checkId, detail, note, rfl⟩ | ⟨ref, note, rfl⟩ := continuePlanning_cases h
  · refine (blocks_gateRefuse .gate15 record checkId detail note ?_).leaves
    rw [ha]
    decide
  · refine ⟨fun hblocked => ?_, fun _ _ => ⟨rfl, ⟨ref, rfl⟩, rfl, rfl, rfl⟩⟩
    cases hblocked

theorem leaves_gate1 (h : gate1Node env w s value = .ok s') : Leaves env s value s' := by
  obtain ⟨hopt, hh⟩ | ⟨hopt, rfl⟩ := gateNode_cases h
  · apply leaves_of_answer .planningPhase hh rfl (by decide) (by decide)
    intro hnapprove hh
    apply leaves_of_answer .pmPhase hh rfl (by decide) (by decide)
    intro hnpm hh
    cases hh
    exact (blocks_gateReturn .gate1 _ _
      (by simpa [Gate.options, hnapprove, hnpm] using hopt)).leaves
  · exact (blocks_gateInvalidAnswer .gate1 _ hopt).leaves

theorem leaves_gate15 (h : gate15Node env w s value = .ok s') : Leaves env s value s' := by
  obtain ⟨hopt, hh⟩ | ⟨hopt, rfl⟩ := gateNode_cases h
  · apply leaves_of_answer .devPhase hh rfl (by decide) (by decide)
    intro hnapprove hh
    apply leaves_of_answer .pmPhase hh rfl (by decide) (by decide)
    intro hnpm hh
    split at hh
    · next ha => exact leaves_continuePlanning ha hh
    · next hncont =>
      cases hh
      exact (blocks_gateReturn .gate15 _ _
        (by simpa [Gate.options, hnapprove, hnpm, hncont] using hopt)).leaves
  · exact (blocks_gateInvalidAnswer .gate15 _ hopt).leaves

theorem leaves_gate2 (h : gate2Node env w s value = .ok s') : Leaves env s value s' := by
  obtain ⟨hopt, hh⟩ | ⟨hopt, rfl⟩ := gateNode_cases h
  · apply leaves_of_answer .revPhase hh rfl (by decide) (by decide)
    intro hnapprove hh
    apply leaves_of_answer .planningPhase hh rfl (by decide) (by decide)
    intro hnplan hh
    apply leaves_of_answer .pmPhase hh rfl (by decide) (by decide)
    intro hnpm hh
    cases hh
    exact (blocks_gateReturn .gate2 _ _
      (by simpa [Gate.options, hnapprove, hnplan, hnpm] using hopt)).leaves
  · exact (blocks_gateInvalidAnswer .gate2 _ hopt).leaves

theorem leaves_gate3 (h : gate3Node env w s value = .ok s') : Leaves env s value s' := by
  obtain ⟨hopt, hh⟩ | ⟨hopt, rfl⟩ := gateNode_cases h
  · apply leaves_of_answer .done hh rfl (by decide) (by decide)
    intro hnapprove hh
    apply leaves_of_answer .devPhase hh rfl (by decide) (by decide)
    intro hndev hh
    apply leaves_of_answer .planningPhase hh rfl (by decide) (by decide)
    intro hnplan hh
    apply leaves_of_answer .pmPhase hh rfl (by decide) (by decide)
    intro hnpm hh
    cases hh
    exact (blocks_gateReturn .gate3 _ _
      (by simpa [Gate.options, hnapprove, hndev, hnplan, hnpm] using hopt)).leaves
  · exact (blocks_gateInvalidAnswer .gate3 _ hopt).leaves

/-- **A gate that blocks changes nothing but the audit trail**, whatever the
state, the decision and the files are; a gate that continues the planning
records one hint. -/
theorem gate_leaves (gate : Gate) (h : gate.node.run env w s value = .ok s') :
    (s'.stage = .blocked → Blocks env s value s') ∧
      (gateAnswer env value = "continue_planning" → s'.stage ≠ .blocked → Continues s s') := by
  cases gate with
  | gate1 => exact leaves_gate1 h
  | gate15 => exact leaves_gate15 h
  | gate2 => exact leaves_gate2 h
  | gate3 => exact leaves_gate3 h

end Leaves

/-- A decision that continues the planning with a file. -/
def sampleHint : Json :=
  .obj [("answer", .str "continue_planning"), ("user_hint_path", .str "hint.md")]

/-- A gate that blocks on a hint that is not on disk. -/
theorem gate_leaves_sample : ∃ s',
    Gate.gate15.node.run sampleEnv sampleWorld sampleStart.state sampleHint = .ok s' ∧
      s'.stage = .blocked ∧ Blocks sampleEnv sampleStart.state sampleHint s' := by
  have hruns : ((Gate.gate15.node.run sampleEnv sampleWorld sampleStart.state
      sampleHint).toOption.map WorkflowState.stage) = some .blocked := by decide +kernel
  obtain ⟨s', h, hstage⟩ := Option.map_eq_some_iff.mp hruns
  exact ⟨s', ok_of_toOption h, hstage, (gate_leaves .gate15 (ok_of_toOption h)).1 hstage⟩

/-! ### Reading with universal newlines -/

/-- The number of bytes of a text in UTF-8. -/
def byteLength : Text → ℕ
  | [] => 0
  | c :: cs => c.utf8Size + byteLength cs

/-- The number of pairs of a carriage return and a newline. -/
def returnsCounted : Text → ℕ
  | '\r' :: '\n' :: cs => returnsCounted cs + 1
  | _ :: cs => returnsCounted cs
  | [] => 0

/-- A text with a newline for every carriage return. -/
def replaceReturns (cs : Text) : Text := cs.map fun c => if c = '\r' then '\n' else c

theorem size_toUTF8_ofList (cs : Text) : (String.ofList cs).toUTF8.size = byteLength cs := by
  induction cs with
  | nil => rfl
  | cons c cs ih =>
    have hsplit : String.ofList (c :: cs) = String.singleton c ++ String.ofList cs := by
      rw [String.singleton_eq_ofList, ← String.ofList_append]
      rfl
    rw [String.toUTF8_eq_toByteArray, String.size_toByteArray] at ih ⊢
    rw [hsplit, String.utf8ByteSize_append, String.utf8ByteSize_singleton, ih]
    rfl

theorem translateNewlines_return {cs : Text} (h : ∀ cs', cs ≠ '\n' :: cs') :
    translateNewlines ('\r' :: cs) = '\n' :: translateNewlines cs := by
  rw [translateNewlines]
  exact h

theorem translateNewlines_cons {c : Char} {cs : Text} (h : c ≠ '\r') :
    translateNewlines (c :: cs) = c :: translateNewlines cs := by
  rw [translateNewlines]
  · intro cs' hc
    exact absurd hc h
  · exact h

theorem returnsCounted_cons {c : Char} {cs : Text}
    (h : ∀ cs', c = '\r' → cs ≠ '\n' :: cs') :
    returnsCounted (c :: cs) = returnsCounted cs := by
  rw [returnsCounted]
  exact h

/-- **What reading a text does to its length**: every pair of a carriage return
and a newline loses a byte. -/
theorem size_translateNewlines (cs : Text) :
    byteLength (translateNewlines cs) + returnsCounted cs = byteLength cs := by
  have hcr : Char.utf8Size '\r' = 1 := by decide
  have hlf : Char.utf8Size '\n' = 1 := by decide
  induction cs using translateNewlines.induct with
  | case1 cs ih =>
    simp only [translateNewlines, returnsCounted, byteLength, hcr, hlf]
    omega
  | case2 cs hne ih =>
    rw [translateNewlines_return hne, returnsCounted_cons fun cs' _ => hne cs', byteLength,
      byteLength, hcr, hlf]
    omega
  | case3 c cs hne hc ih =>
    rw [translateNewlines_cons hc, returnsCounted_cons hne, byteLength, byteLength]
    omega
  | case4 => rfl

/-- A text without such a pair is read with a newline for every carriage
return. -/
theorem translateNewlines_of_returnsCounted {cs : Text} (h : returnsCounted cs = 0) :
    translateNewlines cs = replaceReturns cs := by
  induction cs using translateNewlines.induct with
  | case1 cs ih =>
    rw [returnsCounted] at h
    omega
  | case2 cs hne ih =>
    rw [returnsCounted_cons fun cs' _ => hne cs'] at h
    rw [translateNewlines_return hne, ih h]
    rfl
  | case3 c cs hne hc ih =>
    rw [returnsCounted_cons hne] at h
    rw [translateNewlines_cons hc, ih h, replaceReturns, replaceReturns, List.map_cons, if_neg hc]
  | case4 => rfl

theorem translateNewlines_of_notMem {cs : Text} (h : '\r' ∉ cs) : translateNewlines cs = cs := by
  induction cs with
  | nil => rfl
  | cons c cs ih =>
    obtain ⟨hc, hcs⟩ := List.ne_and_not_mem_of_not_mem_cons h
    rw [translateNewlines_cons (Ne.symm hc), ih hcs]

theorem notMem_replaceReturns (cs : Text) : '\r' ∉ replaceReturns cs := by
  intro h
  obtain ⟨c, -, hc⟩ := List.mem_map.mp h
  split at hc
  · exact absurd hc (by decide)
  · next hne => exact hne hc

/-! ### The recorded hint -/

section Hint

variable {env : Env} {w : World} {s s' : WorkflowState} {value : Json} {bytes : ByteArray}
  {text : String}

/-- The path a decision names its hint by. -/
def userHintPath (env : Env) (decision : Json) : String :=
  strip (env.getStr (decision.asDict.getD ∅) "user_hint_path" "")

/-- The hint that was recorded last identifies a file with these bytes. -/
def Identifies (env : Env) (s s' : WorkflowState) (bytes : ByteArray) : Prop :=
  ∃ ref, s'.userPlanningHints = s.userPlanningHints ++ [ref] ∧
    ref.sha256 = env.hexdigest bytes ∧ ref.byteLength = bytes.size

/-- A collision of the hash: a text with carriage returns, none of them before a
newline, and the text with newlines in their place. -/
def Collides (env : Env) (text : String) : Prop :=
  '\r' ∈ text.toList ∧ returnsCounted text.toList = 0 ∧
    env.sha256 (String.ofList (replaceReturns text.toList)) = env.sha256 text

theorem Collides.collision (h : Collides env text) :
    String.ofList (replaceReturns text.toList) ≠ text ∧
      env.sha256 (String.ofList (replaceReturns text.toList)) = env.sha256 text := by
  obtain ⟨hmem, -, hsha⟩ := h
  refine ⟨fun heq => ?_, hsha⟩
  have hlist := congrArg String.toList heq
  rw [String.toList_ofList] at hlist
  rw [← hlist] at hmem
  exact notMem_replaceReturns _ hmem

theorem toUTF8_of_fromUTF8? (h : String.fromUTF8? bytes = some text) : text.toUTF8 = bytes := by
  unfold String.fromUTF8? at h
  split at h
  · cases h
    rfl
  · cases h

theorem fromUTF8?_toUTF8 (text : String) : String.fromUTF8? text.toUTF8 = some text := by
  unfold String.fromUTF8?
  rw [String.toUTF8_eq_toByteArray, dif_pos text.isValidUTF8]
  rfl

theorem gateNode_of_option {gate : Gate}
    {handle : Decision → String → Except PyError WorkflowState}
    (hopt : gateAnswer env value ∈ gate.options) :
    gateNode env w s gate value handle =
      handle (gateRecord env w gate value) (gateAnswer env value) := by
  change (if gateAnswer env value ∈ gate.options then
    handle (gateRecord env w gate value) (gateAnswer env value) else _) = _
  rw [if_pos hopt]

/-- What Gate 1.5 does with the answer that continues the planning. -/
theorem gate15Node_of_continue (ha : gateAnswer env value = "continue_planning") :
    gate15Node env w s value =
      continuePlanning env w s (gateRecord env w .gate15 value) value := by
  have hopt : gateAnswer env value ∈ Gate.gate15.options := by
    rw [ha]
    decide
  rw [gate15Node, gateNode_of_option hopt, ha]
  rw [if_neg (by decide), if_neg (by decide), if_pos rfl]

/-- Gate 1.5 continues the planning with a file of UTF-8 text that is not too
large. -/
theorem exists_gate15_continue (ha : gateAnswer env value = "continue_planning")
    (hpath : userHintPath env value ≠ "")
    (hstat : w.statSize (userHintPath env value) = .ok bytes.size)
    (hsize : bytes.size ≤ maxUserHintBytes)
    (hbytes : w.readBytes (userHintPath env value) = .ok bytes)
    (htext : String.fromUTF8? bytes = some text) :
    ∃ s', gate15Node env w s value = .ok s' ∧ s'.stage = .planningPhase := by
  rw [gate15Node_of_continue ha]
  unfold continuePlanning
  extract_lets path
  change path ≠ "" at hpath
  change w.statSize path = .ok bytes.size at hstat
  change w.readBytes path = .ok bytes at hbytes
  rw [if_neg hpath]
  simp only [hstat, if_neg (Nat.not_lt.mpr hsize), hbytes, htext]
  exact ⟨_, rfl, rfl⟩

/-- The hint that is recorded is that of the text that is read. -/
theorem hint_of_continuePlanning {record : Decision}
    (h : continuePlanning env w s record value = .ok s') (hstage : s'.stage ≠ .blocked)
    (hbytes : w.readBytes (userHintPath env value) = .ok bytes)
    (htext : String.fromUTF8? bytes = some text) :
    s'.userPlanningHints = s.userPlanningHints ++ [hintRef env w s (userHintPath env value)
      (String.ofList (translateNewlines text.toList))] := by
  unfold continuePlanning at h
  extract_lets path at h
  change w.readBytes path = .ok bytes at hbytes
  split at h
  · cases h
    exact absurd rfl hstage
  split at h
  · cases h
    exact absurd rfl hstage
  · cases h
  split at h
  · cases h
    exact absurd rfl hstage
  simp only [hbytes, htext] at h
  cases h
  rfl

/-- **The recorded hint identifies the file** exactly when the file has no
carriage return, unless the hash collides: whenever Gate 1.5 continues the
planning with a file of UTF-8 text. -/
theorem identifies_iff (h : gate15Node env w s value = .ok s')
    (ha : gateAnswer env value = "continue_planning") (hstage : s'.stage = .planningPhase)
    (hbytes : w.readBytes (userHintPath env value) = .ok bytes)
    (htext : String.fromUTF8? bytes = some text) :
    Identifies env s s' bytes ↔ '\r' ∉ text.toList ∨ Collides env text := by
  have hcont := (gate15Node_of_continue ha).symm.trans h
  have hhints := hint_of_continuePlanning hcont (by rw [hstage]; decide) hbytes htext
  have hutf8 := toUTF8_of_fromUTF8? htext
  -- the hash and the size of the file are those of its bytes, before any translation
  have hfile : env.sha256 text = env.hexdigest bytes := by rw [Env.sha256, hutf8]
  have hsize : byteLength text.toList = bytes.size := by
    rw [← hutf8, ← size_toUTF8_ofList, String.ofList_toList]
  -- the translation drops one byte for every pair of a carriage return and a line feed
  have htotal := size_translateNewlines text.toList
  rw [hsize] at htotal
  constructor
  -- equal sizes leave no such pair, and then equal hashes make the carriage returns collide
  · rintro ⟨ref, href, hsha, hlen⟩
    rw [hhints] at href
    obtain rfl := List.singleton_inj.mp (List.append_cancel_left href)
    by_cases hcr : '\r' ∈ text.toList
    · simp only [hintRef, size_toUTF8_ofList] at hlen
      have hpairs : returnsCounted text.toList = 0 := by omega
      refine Or.inr ⟨hcr, hpairs, ?_⟩
      rw [← translateNewlines_of_returnsCounted hpairs, hfile]
      exact hsha
    · exact Or.inl hcr
  · intro hcond
    refine ⟨_, hhints, ?_⟩
    simp only [hintRef, size_toUTF8_ofList]
    -- without a carriage return the text is the file; else the collision gives the hash
    rcases hcond with hcr | ⟨-, hpairs, hsha⟩
    · rw [translateNewlines_of_notMem hcr, hsize, String.ofList_toList, hfile]
      exact ⟨rfl, rfl⟩
    · rw [← translateNewlines_of_returnsCounted hpairs] at hsha
      rw [hsha, hfile]
      exact ⟨rfl, by omega⟩

end Hint

/-- A disk with one file. -/
def worldWith (text : String) : World where
  now := "2026-01-01T00:00:00Z"
  pathExists _ := .ok true
  statSize _ := .ok text.toUTF8.size
  readBytes _ := .ok text.toUTF8

theorem exists_sampleHint (text : String) (hsize : text.toUTF8.size ≤ maxUserHintBytes) :
    ∃ s', gate15Node sampleEnv (worldWith text) sampleStart.state sampleHint = .ok s' ∧
      s'.stage = .planningPhase :=
  exists_gate15_continue (by decide +kernel) (by decide +kernel) rfl hsize rfl
    (fromUTF8?_toUTF8 text)

/-- A file with newlines alone is identified. -/
theorem identifies_iff_sample : ∃ s',
    gate15Node sampleEnv (worldWith "split it\n") sampleStart.state sampleHint = .ok s' ∧
      Identifies sampleEnv sampleStart.state s' "split it\n".toUTF8 := by
  obtain ⟨s', h, hstage⟩ := exists_sampleHint "split it\n" (by decide +kernel)
  refine ⟨s', h, ?_⟩
  exact (identifies_iff h (by decide +kernel) hstage rfl (fromUTF8?_toUTF8 _)).mpr
    (Or.inl (by decide +kernel))

/-- **A file with a carriage return before a newline is not identified.** -/
theorem identifies_counterexample :
    ¬∀ env w s s' value bytes text, gate15Node env w s value = .ok s' →
      gateAnswer env value = "continue_planning" → s'.stage = .planningPhase →
      w.readBytes (userHintPath env value) = .ok bytes → String.fromUTF8? bytes = some text →
      bytes.size ≤ maxUserHintBytes → Identifies env s s' bytes := by
  intro hidentifies
  obtain ⟨s', h, hstage⟩ := exists_sampleHint "split it\r\n" (by decide +kernel)
  have ha : gateAnswer sampleEnv sampleHint = "continue_planning" := by decide +kernel
  obtain ⟨ref, href, -, hlen⟩ := hidentifies _ _ _ s' _ _ _ h ha hstage rfl
    (fromUTF8?_toUTF8 "split it\r\n") (by decide +kernel)
  rw [gate15Node_of_continue ha] at h
  rw [hint_of_continuePlanning h (by rw [hstage]; decide) rfl (fromUTF8?_toUTF8 _)] at href
  obtain rfl := List.singleton_inj.mp (List.append_cancel_left href)
  exact absurd hlen (by decide +kernel)

end Shrimp
