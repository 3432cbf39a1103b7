import Mathlib.Logic.Function.Basic
import Shrimp.Lib.LineScanner
import Shrimp.Lib.Run

/-!
# The runner

A run launches a child process and drains its two output pipes, each in a
goroutine of its own that scans lines, appends those of stdout to the result and
forwards every line to a callback.  When both goroutines are through, the run
waits for the process and returns.

A goroutine ends when its scanner does, and the error of the scanner is not
looked at.

## Main definitions

* `Call`, `Stream`, `Drain`, `RunState`, `RunOp` — what a run is given, and where it
  and its goroutines are.
* `RunState.step`, `runner` — the transition system.
* `Complete` — the result has every line, and so do the calls of the callback.
* `Call.limit` — the length a line has to stay below.

## Main results

* `draining_of_step` — one step preserves the invariant.
* `exists_returned` — every run can be carried on until it returns.
* `complete_iff_of_run` — **a successful run is complete exactly when every line is
  short enough.**
-/

namespace Shrimp
namespace Server

open LineScanner (lf lines rawLines dropCR joined Scanner)

/-! ### The state of a run -/

/-- The pipes of the child. -/
inductive Stream
  | stdout
  | stderr
  deriving DecidableEq, Repr

/-- Why the process was not started. -/
inductive LaunchError
  | stdinPipe
  | stdoutPipe
  | stderrPipe
  | start
  deriving DecidableEq, Repr

/-- The errors `Run` returns. -/
inductive RunError
  | emptyCommand
  | launch (e : LaunchError)
  | context
  | exited
  deriving DecidableEq, Repr

/-- What `Run` is given that it looks at: the command, the `MaxLineBytes` of the
runner, and whether there is a callback. -/
structure Call where
  command : String
  maxLineBytes : ℤ
  onChunk : Bool
  deriving DecidableEq

/-- The `MaxLineBytes` of `NewRunner`. -/
def newRunnerMaxLineBytes : ℤ := 1048576

/-- `64*1024`, the capacity of the buffer a scanner is given. -/
def bufferSize : ℕ := 65536

/-- Where a goroutine is. -/
inductive DrainPhase
  /-- In `Scan`, before the split function. -/
  | scanning
  /-- In `Scan`, at the read. -/
  | reading
  /-- `Scan` returned true. -/
  | scanned (line : List UInt8)
  /-- Past the capture. -/
  | captured (line : List UInt8)
  /-- `Scan` returned false. -/
  | done
  deriving DecidableEq

/-- A goroutine that drains a pipe: its scanner, what the child writes and it has
not read, and where it is. -/
structure Drain where
  scanner : Scanner
  unread : List UInt8
  phase : DrainPhase := .scanning
  deriving DecidableEq

/-- Where `Run` itself is. -/
inductive Stage
  | starting
  /-- In `wg.Wait` or `cmd.Wait`. -/
  | draining
  | returned (result : List UInt8) (err : Option RunError)
  deriving DecidableEq

/-- A run: its goroutines, the result so far, the calls of `onChunk` so far, and
whether the context is canceled. -/
structure RunState where
  drains : Stream → Drain
  out : List UInt8 := []
  chunks : List (Stream × List UInt8) := []
  canceled : Bool := false
  stage : Stage := .starting

/-- The steps. -/
inductive RunOp
  /-- The pipes are made and the process is started, or not. -/
  | launch (e : Option LaunchError)
  /-- The context is canceled. -/
  | cancel
  /-- A pass of the loop in `Scan`, up to its read. -/
  | scan (st : Stream)
  /-- The read returns the next `k` bytes. -/
  | read (st : Stream) (k : ℕ)
  /-- The read returns the end of the stream. -/
  | eof (st : Stream)
  /-- The critical section. -/
  | capture (st : Stream)
  /-- `onChunk`. -/
  | forward (st : Stream)
  /-- `wg.Wait` has returned, and `cmd.Wait` returns, with an error or not.  What
  nobody has read is still in the pipe then. -/
  | wait (failed : Bool)
  deriving DecidableEq

namespace Drain

/-- A goroutine at its start. -/
def start (maxLineBytes : ℤ) (stream : List UInt8) : Drain where
  scanner := { size := bufferSize, maxTokenSize := maxLineBytes }
  unread := stream

/-- `Scan`, up to its read. -/
def scan (d : Drain) : Option Drain :=
  match d.phase with
  | .scanning =>
    match d.scanner.attempt with
    | .token line s => some { d with scanner := s, phase := .scanned line }
    | .stop s => some { d with scanner := s, phase := .done }
    | .read s => some { d with scanner := s, phase := .reading }
  | _ => none

/-- A read that returns bytes, at least one. -/
def read (d : Drain) (k : ℕ) : Option Drain :=
  match d.phase with
  | .reading =>
    if 0 < k ∧ k ≤ d.scanner.space ∧ k ≤ d.unread.length then
      some ⟨d.scanner.fill (d.unread.take k), d.unread.drop k, .scanning⟩
    else none
  | _ => none

/-- A read that returns the end of the stream: the child has closed its end. -/
def eof (d : Drain) : Option Drain :=
  match d.phase with
  | .reading =>
    if d.unread = [] then some { d with scanner := d.scanner.close, phase := .scanning } else none
  | _ => none

end Drain

namespace RunState

/-- The state with another state of one goroutine. -/
def setDrain (s : RunState) (st : Stream) (d : Drain) : RunState :=
  { s with drains := Function.update s.drains st d }

/-- One step of `Run` or of a goroutine. -/
def step (call : Call) (s : RunState) : RunOp → Option RunState
  | .launch e =>
    if s.stage = .starting then
      if call.command = "" then some { s with stage := .returned [] (some .emptyCommand) }
      else
        match e with
        | some e => some { s with stage := .returned [] (some (.launch e)) }
        | none => some { s with stage := .draining }
    else none
  | .cancel => some { s with canceled := true }
  | .scan st =>
    if s.stage = .draining then (s.drains st).scan.map (s.setDrain st) else none
  | .read st k =>
    if s.stage = .draining then ((s.drains st).read k).map (s.setDrain st) else none
  | .eof st =>
    if s.stage = .draining then (s.drains st).eof.map (s.setDrain st) else none
  | .capture st =>
    if s.stage = .draining then
      match (s.drains st).phase with
      | .scanned line =>
        let s' := s.setDrain st { s.drains st with phase := .captured line }
        -- `capture` is true for stdout only
        some { s' with out := if st = .stdout then s.out ++ line ++ [lf] else s.out }
      | _ => none
    else none
  | .forward st =>
    if s.stage = .draining then
      match (s.drains st).phase with
      | .captured line =>
        let s' := s.setDrain st { s.drains st with phase := .scanning }
        some { s' with chunks := if call.onChunk then s.chunks ++ [(st, line)] else s.chunks }
      | _ => none
    else none
  | .wait failed =>
    if s.stage = .draining ∧ (s.drains .stdout).phase = .done ∧
        (s.drains .stderr).phase = .done then
      let err : Option RunError :=
        if failed then if s.canceled then some .context else some .exited else none
      some { s with stage := .returned s.out err }
    else none

end RunState

/-- The system of one call of `Run`, for what the child writes to each pipe. -/
def runner (call : Call) (output : Stream → List UInt8) : Lts RunState RunOp :=
  .ofStep (fun s => s = { drains := fun st => Drain.start call.maxLineBytes (output st) })
    (RunState.step call)

/-- The lines `onChunk` was called with for a stream. -/
def chunksOf (st : Stream) (chunks : List (Stream × List UInt8)) : List (List UInt8) :=
  (chunks.filter fun c => c.1 = st).map Prod.snd

/-- **The result and the calls of the callback have every line**, in order. -/
def Complete (call : Call) (output : Stream → List UInt8) (result : List UInt8)
    (c : RunState) : Prop :=
  result = joined (lines (output .stdout)) ∧
    (call.onChunk = true → chunksOf .stdout c.chunks = lines (output .stdout))

/-- The length a line has to stay below. -/
def Call.limit (call : Call) : ℕ := Scanner.limit bufferSize call.maxLineBytes

/-! ### The invariant -/

/-- The line that is scanned and not in the result. -/
def DrainPhase.uncaptured : DrainPhase → List (List UInt8)
  | .scanned line => [line]
  | _ => []

/-- The line that is scanned and not forwarded. -/
def DrainPhase.unforwarded : DrainPhase → List (List UInt8)
  | .scanned line => [line]
  | .captured line => [line]
  | _ => []

/-- A goroutine follows its stream: the lines it has scanned are `raws`, all of
them short, what it holds and has not read has the others, and it ends with the
stream or before a line that is too long. -/
structure Follows (call : Call) (st : Stream) (stream : List UInt8) (raws : List (List UInt8))
    (d : Drain) (out : List UInt8) (chunks : List (List UInt8)) : Prop where
  short : ∀ raw ∈ raws, raw.length < call.limit
  captured : st = .stdout → out ++ joined d.phase.uncaptured = joined (raws.map dropCR)
  forwarded : call.onChunk = true → chunks ++ d.phase.unforwarded = raws.map dropCR
  active : d.phase ≠ .done → Scanner.Inv bufferSize call.maxLineBytes d.scanner d.unread ∧
    rawLines stream = raws ++ rawLines (d.scanner.data ++ d.unread)
  reading : d.phase = .reading → d.scanner.err = none ∧ 0 < d.scanner.space
  ended : d.phase = .done → rawLines stream = raws ∨
    ∃ raw more, rawLines stream = raws ++ raw :: more ∧ call.limit ≤ raw.length

section

variable {call : Call} {st : Stream} {stream out : List UInt8} {raws chunks : List (List UInt8)}
  {d d' : Drain}

theorem follows_start (call : Call) (st : Stream) (stream : List UInt8) :
    Follows call st stream [] (.start call.maxLineBytes stream) [] [] where
  short raw h := by cases h
  captured _ := rfl
  forwarded _ := rfl
  active _ := ⟨Scanner.Inv.initial _ _ _, rfl⟩
  reading h := by cases h
  ended h := by cases h

theorem Follows.scan (h : Follows call st stream raws d out chunks) (hd : d.scan = some d') :
    ∃ raws', Follows call st stream raws' d' out chunks := by
  unfold Drain.scan at hd
  split at hd
  · next hphase =>
    obtain ⟨hinv, hrest⟩ := h.active (by rw [hphase]; intro hdone; cases hdone)
    have hcap := h.captured
    have hfor := h.forwarded
    rw [hphase] at hcap hfor
    simp only [DrainPhase.uncaptured, DrainPhase.unforwarded, List.append_nil,
      LineScanner.joined_nil] at hcap hfor
    split at hd
    -- a line is handed out: it is short, and what follows it has still to come
    · next line s htok =>
      cases hd
      obtain ⟨hinv', -, -, raw, hraw, rfl, hshort⟩ := Scanner.attempt_token hinv htok
      refine ⟨raws ++ [raw], ⟨?_, ?_, ?_, ?_, ?_, ?_⟩⟩
      · intro x hx
        rcases List.mem_append.mp hx with hx | hx
        · exact h.short x hx
        · rw [List.mem_singleton.mp hx]
          exact hshort
      · intro hst
        rw [List.map_append, LineScanner.joined_append, ← hcap hst]
        rfl
      · intro hon
        rw [List.map_append, ← hfor hon]
        rfl
      · intro _
        refine ⟨hinv', ?_⟩
        rw [hrest, hraw, List.append_assoc, List.singleton_append]
      · intro hread
        cases hread
      · intro hdone
        cases hdone
    -- the scan ends behind the last line, or at one that does not fit the buffer
    · next s hstop =>
      cases hd
      refine ⟨raws, ⟨h.short, ?_, ?_, fun hne => absurd rfl hne, ?_, fun _ => ?_⟩⟩
      · intro hst
        rw [← hcap hst]
        exact List.append_nil _
      · intro hon
        rw [← hfor hon]
        exact List.append_nil _
      · intro hread
        cases hread
      · rcases Scanner.attempt_stop hinv (by decide) hstop with hnil | ⟨raw, more, hraw, hlong⟩
        · exact Or.inl (by rw [hrest, hnil, List.append_nil])
        · exact Or.inr ⟨raw, more, by rw [hrest, hraw], hlong⟩
    -- `Scan` asks for more: nothing has been handed out
    · next s hread =>
      cases hd
      obtain ⟨hinv', hdata, herr, -, hspace⟩ := Scanner.attempt_read hinv hread
      refine ⟨raws, ⟨h.short, ?_, ?_, fun _ => ⟨hinv', by rw [hrest, hdata]⟩,
        fun _ => ⟨herr, hspace⟩, ?_⟩⟩
      · intro hst
        rw [← hcap hst]
        exact List.append_nil _
      · intro hon
        rw [← hfor hon]
        exact List.append_nil _
      · intro hdone
        cases hdone
  · cases hd

/-- A goroutine that has read scans again, if what it holds and has not read is the
same as before. -/
theorem Follows.resume (h : Follows call st stream raws d out chunks) (hphase : d.phase = .reading)
    {s : Scanner} {unread : List UInt8} (hinv : Scanner.Inv bufferSize call.maxLineBytes s unread)
    (hsame : s.data ++ unread = d.scanner.data ++ d.unread) :
    Follows call st stream raws ⟨s, unread, .scanning⟩ out chunks := by
  obtain ⟨-, hrest⟩ := h.active (by rw [hphase]; intro hdone; cases hdone)
  have hcap := h.captured
  have hfor := h.forwarded
  rw [hphase] at hcap hfor
  refine ⟨h.short, hcap, hfor, fun _ => ⟨hinv, ?_⟩, ?_, ?_⟩
  · rw [hsame]
    exact hrest
  · intro hread
    cases hread
  · intro hdone
    cases hdone

theorem Follows.read (h : Follows call st stream raws d out chunks) {k : ℕ}
    (hd : d.read k = some d') : Follows call st stream raws d' out chunks := by
  unfold Drain.read at hd
  split at hd
  · next hphase =>
    split at hd
    · next hk =>
      cases hd
      obtain ⟨hinv, -⟩ := h.active (by rw [hphase]; intro hdone; cases hdone)
      obtain ⟨herr, -⟩ := h.reading hphase
      apply h.resume hphase (hinv.fill herr hk.2.1 hk.2.2)
      simp only [Scanner.fill]
      rw [List.append_assoc, List.take_append_drop]
    · cases hd
  · cases hd

theorem Follows.eof (h : Follows call st stream raws d out chunks) (hd : d.eof = some d') :
    Follows call st stream raws d' out chunks := by
  unfold Drain.eof at hd
  split at hd
  · next hphase =>
    split at hd
    · next hunread =>
      cases hd
      obtain ⟨hinv, -⟩ := h.active (by rw [hphase]; intro hdone; cases hdone)
      obtain ⟨-, hspace⟩ := h.reading hphase
      have hclose : Scanner.Inv bufferSize call.maxLineBytes d.scanner.close d.unread := by
        rw [hunread] at hinv ⊢
        exact hinv.close hspace
      exact h.resume hphase hclose rfl
    · cases hd
  · cases hd

/-- The critical section appends the line that was scanned. -/
theorem Follows.capture (h : Follows call st stream raws d out chunks) {line : List UInt8}
    (hphase : d.phase = .scanned line) :
    Follows call st stream raws { d with phase := .captured line }
      (if st = .stdout then out ++ line ++ [lf] else out) chunks := by
  have hcap := h.captured
  have hfor := h.forwarded
  rw [hphase] at hcap hfor
  refine ⟨h.short, fun hst => ?_, hfor, fun _ => ?_, ?_, ?_⟩
  · rw [if_pos hst, ← hcap hst]
    simp only [DrainPhase.uncaptured, LineScanner.joined_nil, LineScanner.joined_singleton,
      List.append_nil, List.append_assoc]
  · exact h.active (by rw [hphase]; intro hdone; cases hdone)
  · intro hread
    cases hread
  · intro hdone
    cases hdone

/-- The callback is called with the line that was captured. -/
theorem Follows.forward (h : Follows call st stream raws d out chunks) {line : List UInt8}
    (hphase : d.phase = .captured line) :
    Follows call st stream raws { d with phase := .scanning } out
      (if call.onChunk then chunks ++ [line] else chunks) := by
  have hcap := h.captured
  have hfor := h.forwarded
  rw [hphase] at hcap hfor
  refine ⟨h.short, hcap, fun hon => ?_, fun _ => ?_, ?_, ?_⟩
  · rw [if_pos hon, ← hfor hon]
    exact List.append_nil _
  · exact h.active (by rw [hphase]; intro hdone; cases hdone)
  · intro hread
    cases hread
  · intro hdone
    cases hdone

end

theorem chunksOf_snoc (st st' : Stream) (chunks : List (Stream × List UInt8))
    (line : List UInt8) :
    chunksOf st (chunks ++ [(st', line)]) =
      if st' = st then chunksOf st chunks ++ [line] else chunksOf st chunks := by
  unfold chunksOf
  rw [List.filter_append, List.map_append]
  split
  · next h => simp [h]
  · next h => simp [h]

/-- **The invariant**: both goroutines follow their streams, and a run that has
returned without an error has waited for them. -/
structure Draining (call : Call) (output : Stream → List UInt8) (s : RunState) : Prop where
  follows : ∀ st, ∃ raws, Follows call st (output st) raws (s.drains st) s.out
    (chunksOf st s.chunks)
  returned : ∀ result, s.stage = .returned result none →
    (s.drains .stdout).phase = .done ∧ result = s.out

section

variable {call : Call} {output : Stream → List UInt8} {s s' : RunState} {op : RunOp}

theorem draining_start (call : Call) (output : Stream → List UInt8) :
    Draining call output { drains := fun st => Drain.start call.maxLineBytes (output st) } where
  follows st := ⟨[], follows_start call st (output st)⟩
  returned result h := by cases h

/-- One goroutine moves; the result is touched by that of stdout only, and the
calls for the other stream stay. -/
theorem Draining.setDrain (h : Draining call output s) (hstage : s.stage = .draining)
    {st : Stream} {d : Drain} {out : List UInt8} {chunks : List (Stream × List UInt8)}
    (hd : ∀ raws, Follows call st (output st) raws (s.drains st) s.out (chunksOf st s.chunks) →
      ∃ raws', Follows call st (output st) raws' d out (chunksOf st chunks))
    (hout : st ≠ .stdout → out = s.out)
    (hchunks : ∀ st', st' ≠ st → chunksOf st' chunks = chunksOf st' s.chunks) :
    Draining call output { s.setDrain st d with out := out, chunks := chunks } := by
  refine ⟨fun st' => ?_, fun result hret => ?_⟩
  · obtain ⟨raws, hraws⟩ := h.follows st'
    simp only [RunState.setDrain]
    by_cases hst : st' = st
    · cases hst
      rw [Function.update_self]
      exact hd raws hraws
    · rw [Function.update_of_ne hst, hchunks st' hst]
      refine ⟨raws, { hraws with captured := fun hstdout => ?_ }⟩
      rw [hout (by rw [← hstdout]; exact Ne.symm hst)]
      exact hraws.captured hstdout
  · change s.stage = _ at hret
    rw [hstage] at hret
    cases hret

/-- **One step preserves the invariant.** -/
theorem draining_of_step (h : Draining call output s) (hstep : s.step call op = some s') :
    Draining call output s' := by
  -- an operation of the caller, or one of the two goroutines on its own stream
  cases op with
  | launch e =>
    simp only [RunState.step] at hstep
    split at hstep
    · split at hstep
      · cases hstep
        exact ⟨h.follows, fun result hret => by cases hret⟩
      · split at hstep <;> cases hstep
        · exact ⟨h.follows, fun result hret => by cases hret⟩
        · exact ⟨h.follows, fun result hret => by cases hret⟩
    · cases hstep
  | cancel =>
    cases hstep
    exact ⟨h.follows, h.returned⟩
  | scan st =>
    simp only [RunState.step] at hstep
    split at hstep
    · next hstage =>
      obtain ⟨d, hd, rfl⟩ := Option.map_eq_some_iff.mp hstep
      exact h.setDrain hstage (fun _ hraws => hraws.scan hd) (fun _ => rfl) fun _ _ => rfl
    · cases hstep
  | read st k =>
    simp only [RunState.step] at hstep
    split at hstep
    · next hstage =>
      obtain ⟨d, hd, rfl⟩ := Option.map_eq_some_iff.mp hstep
      exact h.setDrain hstage (fun raws hraws => ⟨raws, hraws.read hd⟩) (fun _ => rfl)
        fun _ _ => rfl
    · cases hstep
  | eof st =>
    simp only [RunState.step] at hstep
    split at hstep
    · next hstage =>
      obtain ⟨d, hd, rfl⟩ := Option.map_eq_some_iff.mp hstep
      exact h.setDrain hstage (fun raws hraws => ⟨raws, hraws.eof hd⟩) (fun _ => rfl)
        fun _ _ => rfl
    · cases hstep
  | capture st =>
    simp only [RunState.step] at hstep
    split at hstep
    · next hstage =>
      split at hstep
      · next line hphase =>
        cases hstep
        exact h.setDrain hstage (fun raws hraws => ⟨raws, hraws.capture hphase⟩)
          (fun hst => if_neg hst) fun _ _ => rfl
      · cases hstep
    · cases hstep
  | forward st =>
    simp only [RunState.step] at hstep
    split at hstep
    · next hstage =>
      split at hstep
      · next line hphase =>
        cases hstep
        refine h.setDrain hstage (fun raws hraws => ⟨raws, ?_⟩) (fun _ => rfl) ?_
        · have hnext := hraws.forward hphase
          split
          · next hon =>
            rw [if_pos hon] at hnext
            rw [chunksOf_snoc, if_pos rfl]
            exact hnext
          · next hon =>
            rw [if_neg hon] at hnext
            exact hnext
        · intro st' hst
          split
          · rw [chunksOf_snoc, if_neg (Ne.symm hst)]
          · rfl
      · cases hstep
    · cases hstep
  -- `Wait` returns only behind both goroutines
  | wait failed =>
    simp only [RunState.step] at hstep
    split at hstep
    · next hdone =>
      cases hstep
      refine ⟨h.follows, fun result hret => ⟨hdone.2.1, ?_⟩⟩
      obtain ⟨hout, -⟩ := Stage.returned.inj hret
      exact hout.symm
    · cases hstep

theorem draining_of_run {tr : List (Lts.Move RunState RunOp)} {c : RunState}
    (h : (runner call output).Run tr c) : Draining call output c := by
  refine h.invariant (I := fun _ c => Draining call output c) ?_ ?_
  · rintro c rfl
    exact draining_start call output
  · intro tr c op c' _ hinv hstep
    exact draining_of_step hinv hstep

end

/-! ### Completeness -/

theorem length_joined_pos (line : List UInt8) (more : List (List UInt8)) :
    0 < (joined (line :: more)).length := by
  rw [joined, List.flatMap_cons, List.length_append, List.length_append]
  simp only [List.length_singleton]
  omega

/-- A goroutine that has ended has all lines exactly when all of them are short. -/
theorem Follows.complete_iff {call : Call} {stream out : List UInt8}
    {raws chunks : List (List UInt8)} {d : Drain}
    (h : Follows call .stdout stream raws d out chunks) (hdone : d.phase = .done) :
    (out = joined (lines stream) ∧ (call.onChunk = true → chunks = lines stream)) ↔
      ∀ raw ∈ rawLines stream, raw.length < call.limit := by
  have hout := h.captured rfl
  have hchunks := h.forwarded
  rw [hdone] at hout hchunks
  simp only [DrainPhase.uncaptured, DrainPhase.unforwarded, LineScanner.joined_nil,
    List.append_nil] at hout hchunks
  rcases h.ended hdone with hall | ⟨raw, more, hmore, hlong⟩
  · unfold lines
    rw [hall]
    exact ⟨fun _ => h.short, fun _ => ⟨hout, hchunks⟩⟩
  · refine ⟨fun hcomplete => ?_, fun hshort => ?_⟩
    · -- the lines from the long one on are missing from the result
      have hlen := congrArg List.length (hout.symm.trans hcomplete.1)
      unfold lines at hlen
      rw [hmore, List.map_append, List.map_cons, LineScanner.joined_append,
        List.length_append] at hlen
      have hpos := length_joined_pos (dropCR raw) (more.map dropCR)
      omega
    · have hlt := hshort raw (by rw [hmore]; simp)
      omega

/-! ### Every run can be carried on until it returns -/

/-- How far a goroutine is from the statement after `Scan`. -/
def DrainPhase.rank : DrainPhase → ℕ
  | .scanned _ => 3
  | .captured _ => 2
  | .scanning => 1
  | .reading => 0
  | .done => 0

/-- The measure that every step of a goroutine lowers: a byte counts twice while
it is not read. -/
def Drain.work (d : Drain) : ℕ :=
  8 * d.unread.length + 4 * d.scanner.data.length + (if d.scanner.err = none then 4 else 0) +
    d.phase.rank

/-- What is left to do for both goroutines. -/
def RunState.work (s : RunState) : ℕ := (s.drains .stdout).work + (s.drains .stderr).work

theorem work_setDrain {s : RunState} {st : Stream} {d : Drain}
    (h : d.work < (s.drains st).work) : (s.setDrain st d).work < s.work := by
  cases st with
  | stdout =>
    have hother : (s.setDrain .stdout d).drains .stderr = s.drains .stderr := rfl
    have hself : (s.setDrain .stdout d).drains .stdout = d := rfl
    unfold RunState.work
    rw [hother, hself]
    omega
  | stderr =>
    have hother : (s.setDrain .stderr d).drains .stdout = s.drains .stdout := rfl
    have hself : (s.setDrain .stderr d).drains .stderr = d := rfl
    unfold RunState.work
    rw [hother, hself]
    omega

section

variable {call : Call} {output : Stream → List UInt8} {s : RunState}

theorem Follows.scan_work {st : Stream} {stream out : List UInt8} {raws chunks : List (List UInt8)}
    {d : Drain} (h : Follows call st stream raws d out chunks) (hphase : d.phase = .scanning) :
    ∃ d', d.scan = some d' ∧ d'.work < d.work := by
  obtain ⟨hinv, -⟩ := h.active (by rw [hphase]; intro hdone; cases hdone)
  unfold Drain.scan
  rw [hphase]
  simp only
  cases hattempt : d.scanner.attempt with
  | token line s =>
    refine ⟨_, rfl, ?_⟩
    obtain ⟨-, herr, hlt, -⟩ := Scanner.attempt_token hinv hattempt
    simp only [Drain.work, hphase, DrainPhase.rank, herr]
    omega
  | stop s =>
    refine ⟨_, rfl, ?_⟩
    obtain ⟨herr, hle⟩ := Scanner.attempt_stop_err hattempt
    simp only [Drain.work, hphase, DrainPhase.rank, if_neg herr]
    omega
  | read s =>
    refine ⟨_, rfl, ?_⟩
    obtain ⟨-, hdata, herr, herr', -⟩ := Scanner.attempt_read hinv hattempt
    simp only [Drain.work, hphase, DrainPhase.rank, hdata, herr, herr']
    omega

/-- A goroutine at its read can read a byte or the end of the stream. -/
theorem Follows.read_work {st : Stream} {stream out : List UInt8} {raws chunks : List (List UInt8)}
    {d : Drain} (h : Follows call st stream raws d out chunks) (hphase : d.phase = .reading) :
    (∃ d', d.eof = some d' ∧ d'.work < d.work) ∨
      ∃ d', d.read 1 = some d' ∧ d'.work < d.work := by
  obtain ⟨herr, hspace⟩ := h.reading hphase
  by_cases hunread : d.unread = []
  · refine Or.inl ⟨{ d with scanner := d.scanner.close, phase := .scanning }, ?_, ?_⟩
    · unfold Drain.eof
      rw [hphase]
      exact if_pos hunread
    · simp only [Drain.work, hphase, DrainPhase.rank, if_pos herr, Scanner.close, reduceCtorEq,
        if_false]
      omega
  · have hpos : 0 < d.unread.length := List.length_pos_iff.mpr hunread
    refine Or.inr ⟨⟨d.scanner.fill (d.unread.take 1), d.unread.drop 1, .scanning⟩, ?_, ?_⟩
    · unfold Drain.read
      rw [hphase]
      exact if_pos ⟨by omega, hspace, hpos⟩
    · simp only [Drain.work, hphase, DrainPhase.rank, Scanner.fill, List.length_append,
        List.length_take, List.length_drop, herr, if_pos]
      omega

/-- **A goroutine that has not ended can move**, which is work done. -/
theorem exists_step_of_active (h : Draining call output s) (hstage : s.stage = .draining)
    {st : Stream} (hactive : (s.drains st).phase ≠ .done) :
    ∃ op s', s.step call op = some s' ∧ s'.stage = .draining ∧ s'.work < s.work := by
  obtain ⟨raws, hraws⟩ := h.follows st
  -- whatever the goroutine is about to do lowers its work
  cases hphase : (s.drains st).phase with
  | scanning =>
    obtain ⟨d, hd, hlt⟩ := hraws.scan_work hphase
    refine ⟨.scan st, s.setDrain st d, ?_, hstage, work_setDrain hlt⟩
    simp only [RunState.step]
    rw [if_pos hstage, hd]
    rfl
  | reading =>
    rcases hraws.read_work hphase with ⟨d, hd, hlt⟩ | ⟨d, hd, hlt⟩
    · refine ⟨.eof st, s.setDrain st d, ?_, hstage, work_setDrain hlt⟩
      simp only [RunState.step]
      rw [if_pos hstage, hd]
      rfl
    · refine ⟨.read st 1, s.setDrain st d, ?_, hstage, work_setDrain hlt⟩
      simp only [RunState.step]
      rw [if_pos hstage, hd]
      rfl
  | scanned line =>
    have hlt : Drain.work { s.drains st with phase := .captured line } < (s.drains st).work := by
      simp only [Drain.work, hphase, DrainPhase.rank]
      omega
    refine ⟨.capture st,
      { s.setDrain st { s.drains st with phase := .captured line } with
        out := if st = .stdout then s.out ++ line ++ [lf] else s.out }, ?_, hstage,
      work_setDrain hlt⟩
    simp only [RunState.step]
    rw [if_pos hstage, hphase]
  | captured line =>
    have hlt : Drain.work { s.drains st with phase := .scanning } < (s.drains st).work := by
      simp only [Drain.work, hphase, DrainPhase.rank]
      omega
    refine ⟨.forward st,
      { s.setDrain st { s.drains st with phase := .scanning } with
        chunks := if call.onChunk then s.chunks ++ [(st, line)] else s.chunks }, ?_, hstage,
      work_setDrain hlt⟩
    simp only [RunState.step]
    rw [if_pos hstage, hphase]
  | done => exact absurd hphase hactive

/-- A run whose goroutines are started can be carried on until it returns
without an error. -/
theorem exists_returned_of_draining {tr : List (Lts.Move RunState RunOp)}
    (h : (runner call output).Run tr s) (hstage : s.stage = .draining) :
    ∃ tr' c result, (runner call output).Run tr' c ∧ c.stage = .returned result none := by
  induction hwork : s.work using Nat.strongRecOn generalizing tr s with
  | ind n ih =>
    by_cases hdone : (s.drains .stdout).phase = .done ∧ (s.drains .stderr).phase = .done
    · refine ⟨_, { s with stage := .returned s.out none }, s.out, h.snoc (e := .wait false) ?_, rfl⟩
      exact if_pos ⟨hstage, hdone⟩
    · have hactive : ∃ st, (s.drains st).phase ≠ .done := by
        rcases not_and_or.mp hdone with hst | hst
        · exact ⟨.stdout, hst⟩
        · exact ⟨.stderr, hst⟩
      obtain ⟨st, hst⟩ := hactive
      obtain ⟨op, s', hstep, hstage', hlt⟩ :=
        exists_step_of_active (draining_of_run h) hstage hst
      exact ih s'.work (by omega) (h.snoc hstep) hstage' rfl

/-- **Whatever the child writes, there is a run that returns without an error.** -/
theorem exists_returned (call : Call) (output : Stream → List UInt8)
    (hcommand : call.command ≠ "") :
    ∃ tr c result, (runner call output).Run tr c ∧ c.stage = .returned result none := by
  let s₀ : RunState := { drains := fun st => Drain.start call.maxLineBytes (output st) }
  have hstart : (runner call output).Run [] s₀ := .start rfl
  have hlaunch : s₀.step call (.launch none) = some { s₀ with stage := .draining } := by
    simp only [RunState.step]
    rw [if_pos rfl, if_neg hcommand]
  exact exists_returned_of_draining (hstart.snoc hlaunch) rfl

end

/-! ### Successful runs -/

/-- A returned run is complete exactly when every line of stdout is short. -/
theorem Draining.complete_iff {call : Call} {output : Stream → List UInt8} {c : RunState}
    {result : List UInt8} (h : Draining call output c) (hret : c.stage = .returned result none) :
    Complete call output result c ↔ ∀ raw ∈ rawLines (output .stdout), raw.length < call.limit := by
  obtain ⟨hdone, rfl⟩ := h.returned result hret
  obtain ⟨raws, hraws⟩ := h.follows .stdout
  exact hraws.complete_iff hdone

/-- **A run that returns without an error has every line of stdout in its result,
and has called the callback with each of them, exactly when every line is shorter
than the limit**: what comes from a longer line on is lost without an error. -/
theorem complete_iff_of_run {call : Call} {output : Stream → List UInt8}
    {tr : List (Lts.Move RunState RunOp)} {c : RunState} {result : List UInt8}
    (h : (runner call output).Run tr c) (hret : c.stage = .returned result none) :
    Complete call output result c ↔ ∀ raw ∈ rawLines (output .stdout), raw.length < call.limit :=
  (draining_of_run h).complete_iff hret

/-- What the daemon calls the runner with. -/
def sampleCall : Call where
  command := "claude"
  maxLineBytes := newRunnerMaxLineBytes
  onChunk := true

/-- Two lines, the first with a carriage return and the second without an end. -/
def sampleOutput : Stream → List UInt8
  | .stdout => [97, 13, 10, 98]
  | .stderr => []

theorem complete_iff_of_run_sample :
    ∃ tr c, (runner sampleCall sampleOutput).Run tr c ∧
      c.stage = .returned [97, 10, 98, 10] none ∧
      (Complete sampleCall sampleOutput [97, 10, 98, 10] c ↔
        ∀ raw ∈ rawLines (sampleOutput .stdout), raw.length < sampleCall.limit) := by
  have hstart : (runner sampleCall sampleOutput).start
      { drains := fun st => Drain.start sampleCall.maxLineBytes (sampleOutput st) } := rfl
  obtain ⟨tr, c, hrun, hc⟩ := Lts.Run.exists_of_exec hstart (fun r => r.2.stage)
    (show (Lts.exec (RunState.step sampleCall) _
      [.launch none, .scan .stdout, .read .stdout 4, .scan .stdout, .scan .stderr,
        .capture .stdout, .forward .stdout, .scan .stdout, .eof .stdout, .scan .stdout,
        .eof .stderr, .scan .stderr, .capture .stdout, .forward .stdout, .scan .stdout,
        .wait false]).map _ = some (Stage.returned [97, 10, 98, 10] none) by decide)
  exact ⟨tr, c, hrun, hc, complete_iff_of_run hrun hc⟩

/-- A frame of one MiB without a line break is lost, and the run returns no error. -/
theorem complete_iff_of_run_counterexample :
    ∃ output tr c result, output .stdout = List.replicate 1048576 120 ∧
      (runner sampleCall output).Run tr c ∧ c.stage = .returned result none ∧
      ¬ Complete sampleCall output result c := by
  let output : Stream → List UInt8 := fun st =>
    match st with
    | .stdout => List.replicate 1048576 120
    | .stderr => []
  obtain ⟨tr, c, result, hrun, hret⟩ := exists_returned sampleCall output (by decide)
  have hlines : rawLines (output .stdout) = [List.replicate 1048576 120] := by
    refine LineScanner.rawLines_of_notMem ?_ ?_
    · intro hmem
      exact absurd (List.eq_of_mem_replicate hmem) (by decide)
    · exact List.ne_nil_of_length_pos (by rw [List.length_replicate]; decide)
  have hlong : ¬ Complete sampleCall output result c := by
    rw [(draining_of_run hrun).complete_iff hret, hlines]
    intro hshort
    have hlt := hshort _ (List.mem_singleton_self _)
    rw [List.length_replicate] at hlt
    exact absurd hlt (by decide)
  exact ⟨output, tr, c, result, rfl, hrun, hret, hlong⟩

end Server
end Shrimp
