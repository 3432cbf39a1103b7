import Mathlib.Data.List.Basic
import Mathlib.Data.Int.Notation

/-!
# A line scanner over a bounded buffer

A scanner reads a stream of bytes into a buffer that grows up to a bound, and
hands out the lines of the stream one at a time.  A line that does not fit in
the buffer together with its newline stops it for good.

## Main definitions

* `rawLines` — the lines of a stream, as they stand.
* `lines`, `joined` — the lines as they are handed out, and their concatenation.
* `scanLines` — the split function.
* `Scanner`, `Scanner.attempt` — the scanner, and one pass of its loop.
* `Scanner.limit` — the length a line has to stay below.
* `Scanner.Inv` — the invariant of a scanner that has not stopped.

## Main results

* `Scanner.attempt_token` — **a token is the next line**, and it is a short one.
* `Scanner.attempt_stop` — **a scanner stops at the end of the stream or before a
  line that is too long.**
* `Scanner.attempt_read` — a scanner that reads has room to read into.
-/

namespace LineScanner

/-! ### Lines -/

/-- The line feed. -/
def lf : UInt8 := 10

/-- The carriage return. -/
def cr : UInt8 := 13

/-- The lines of a stream without their line feeds.  A line feed at the end of
the stream does not open another line. -/
def rawLines : List UInt8 → List (List UInt8)
  | [] => []
  | b :: bs =>
    if b = lf then [] :: rawLines bs
    else
      match rawLines bs with
      | [] => [[b]]
      | line :: rest => (b :: line) :: rest

/-- A line without its trailing carriage return. -/
def dropCR (line : List UInt8) : List UInt8 :=
  if line.getLast? = some cr then line.dropLast else line

/-- The lines of a stream as a scanner hands them out. -/
def lines (stream : List UInt8) : List (List UInt8) :=
  (rawLines stream).map dropCR

/-- Lines, each followed by a line feed. -/
def joined (ls : List (List UInt8)) : List UInt8 :=
  ls.flatMap fun line => line ++ [lf]

@[simp] theorem joined_nil : joined [] = [] := rfl

@[simp] theorem joined_singleton (line : List UInt8) : joined [line] = line ++ [lf] := by
  rw [joined, List.flatMap_singleton]

@[simp] theorem joined_append (ls ls' : List (List UInt8)) :
    joined (ls ++ ls') = joined ls ++ joined ls' :=
  List.flatMap_append

theorem rawLines_append_lf {line : List UInt8} (h : lf ∉ line) (rest : List UInt8) :
    rawLines (line ++ lf :: rest) = line :: rawLines rest := by
  induction line with
  | nil => rw [List.nil_append, rawLines, if_pos rfl]
  | cons b line ih =>
    obtain ⟨hb, hline⟩ := not_or.mp (mt List.mem_cons.mpr h)
    rw [List.cons_append, rawLines, if_neg (Ne.symm hb), ih hline]

theorem rawLines_of_notMem {line : List UInt8} (h : lf ∉ line) (hne : line ≠ []) :
    rawLines line = [line] := by
  induction line with
  | nil => exact absurd rfl hne
  | cons b line ih =>
    obtain ⟨hb, hline⟩ := not_or.mp (mt List.mem_cons.mpr h)
    rw [rawLines, if_neg (Ne.symm hb)]
    cases line with
    | nil => rfl
    | cons b' line => rw [ih hline (by simp)]

/-- What has no line feed is the beginning of a line. -/
theorem exists_rawLines_append {data : List UInt8} (h : lf ∉ data) (hne : data ≠ [])
    (rest : List UInt8) :
    ∃ line more, rawLines (data ++ rest) = line :: more ∧ data.length ≤ line.length := by
  by_cases hrest : lf ∈ rest
  · obtain ⟨as, bs, rfl, has⟩ := List.eq_append_cons_of_mem hrest
    refine ⟨data ++ as, rawLines bs, ?_, by simp⟩
    rw [← List.append_assoc]
    exact rawLines_append_lf (by simp [h, has]) bs
  · refine ⟨data ++ rest, [], rawLines_of_notMem ?_ ?_, by simp⟩
    · simp [h, hrest]
    · simp [hne]

/-! ### The split function -/

/-- The split function: how far the input advances and the token, or `none` for
more data. -/
def scanLines (data : List UInt8) (atEOF : Bool) : Option (ℕ × List UInt8) :=
  if atEOF = true ∧ data = [] then none
  else if lf ∈ data then some (data.idxOf lf + 1, dropCR (data.take (data.idxOf lf)))
  else if atEOF = true then some (data.length, dropCR data)
  else none

/-- **A token is the first line of the data.**  It ends in a line feed, or the
stream ends with it. -/
theorem scanLines_some {data token rest : List UInt8} {atEOF : Bool} {n : ℕ}
    (h : scanLines data atEOF = some (n, token)) (hrest : atEOF = true → rest = []) :
    ∃ line, rawLines (data ++ rest) = line :: rawLines (data.drop n ++ rest) ∧
      token = dropCR line ∧ 0 < n ∧ n ≤ data.length ∧
        (line.length < data.length ∨ atEOF = true ∧ line = data) := by
  unfold scanLines at h
  split at h
  · cases h
  -- with a line feed, the line ends there; without one, the data is the last line or too little
  · next hend =>
    split at h
    · next hmem =>
      obtain ⟨as, bs, rfl, has⟩ := List.eq_append_cons_of_mem hmem
      have hidx : (as ++ lf :: bs).idxOf lf = as.length := by
        rw [List.idxOf_append_of_notMem has, List.idxOf_cons_self, Nat.add_zero]
      rw [hidx, List.take_left' rfl] at h
      cases h
      refine ⟨as, ?_, rfl, by omega, by simp, Or.inl (by simp)⟩
      rw [List.append_assoc, List.cons_append, rawLines_append_lf has,
        List.drop_append, List.drop_of_length_le (by omega)]
      simp
    · next hmem =>
      split at h
      · next heof =>
        cases h
        have hne : data ≠ [] := fun hnil => hend ⟨heof, hnil⟩
        have hpos : 0 < data.length := List.length_pos_iff.mpr hne
        refine ⟨data, ?_, rfl, hpos, Nat.le_refl _, Or.inr ⟨heof, rfl⟩⟩
        rw [hrest heof, List.append_nil, List.append_nil, List.drop_length,
          rawLines_of_notMem hmem hne]
        rfl
      · cases h

theorem scanLines_none {data : List UInt8} {atEOF : Bool} (h : scanLines data atEOF = none) :
    lf ∉ data ∧ (atEOF = true → data = []) := by
  unfold scanLines at h
  split at h
  · next hend => exact ⟨by simp [hend.2], fun _ => hend.2⟩
  · split at h
    · cases h
    · next hmem =>
      split at h
      · cases h
      · next heof => exact ⟨hmem, fun h' => absurd h' heof⟩

/-! ### The scanner -/

/-- Why a scanner has no more input. -/
inductive ScanError
  /-- The reader is at its end. -/
  | eof
  /-- The token does not fit. -/
  | tooLong
  deriving DecidableEq, Repr

/-- A scanner: what it holds and has not handed out, where that begins in the
buffer, the length of the buffer, the bound on it, and the error. -/
structure Scanner where
  data : List UInt8 := []
  start : ℕ := 0
  size : ℕ
  maxTokenSize : ℤ
  err : Option ScanError := none
  deriving DecidableEq

/-- What a pass of the loop comes to. -/
inductive Outcome
  /-- A token is returned. -/
  | token (line : List UInt8) (s : Scanner)
  /-- There is no token and there will be none. -/
  | stop (s : Scanner)
  /-- More data has to be read. -/
  | read (s : Scanner)
  deriving DecidableEq

namespace Scanner

/-- The size of a first buffer. -/
def startBufSize : ℕ := 4096

/-- Move the data to the beginning of the buffer if there is lots of empty space
before it or space is needed. -/
def shift (s : Scanner) : Scanner :=
  if 0 < s.start ∧ (s.start + s.data.length = s.size ∨ s.size / 2 < s.start) then
    { s with start := 0 }
  else s

/-- Double a full buffer, within the bound; `none` when it has the bound. -/
def grow (s : Scanner) : Option Scanner :=
  if s.start + s.data.length = s.size then
    if s.maxTokenSize ≤ s.size then none
    else
      some { s with
        start := 0
        size := min (if s.size * 2 = 0 then startBufSize else s.size * 2) s.maxTokenSize.toNat }
  else some s

/-- One pass of the loop, up to the read. -/
def attempt (s : Scanner) : Outcome :=
  match if s.data ≠ [] ∨ s.err.isSome then scanLines s.data s.err.isSome else none with
  | some (n, line) => .token line { s with start := s.start + n, data := s.data.drop n }
  | none =>
    if s.err.isSome then .stop { s with start := 0, data := [] }
    else
      match s.shift.grow with
      | none => .stop { s.shift with err := some .tooLong }
      | some s' => .read s'

/-- The room behind the data. -/
def space (s : Scanner) : ℕ := s.size - (s.start + s.data.length)

/-- A read that returned bytes. -/
def fill (s : Scanner) (bs : List UInt8) : Scanner := { s with data := s.data ++ bs }

/-- A read that returned the end of the stream. -/
def close (s : Scanner) : Scanner := { s with err := some .eof }

/-- The length a line has to stay below, for a buffer that starts with `size₀`
bytes and a bound. -/
def limit (size₀ : ℕ) (bound : ℤ) : ℕ := max size₀ bound.toNat

/-- **The invariant** of a scanner that has not stopped, with what is still to be
read. -/
structure Inv (size₀ : ℕ) (bound : ℤ) (s : Scanner) (unread : List UInt8) : Prop where
  bound_eq : s.maxTokenSize = bound
  le_size : size₀ ≤ s.size
  size_le : s.size ≤ limit size₀ bound
  fits : s.start + s.data.length ≤ s.size
  open_or : s.err = none ∨ s.err = some .eof ∧ unread = [] ∧ s.data.length < limit size₀ bound

theorem shift_data (s : Scanner) : s.shift.data = s.data := by
  unfold shift
  split <;> rfl

theorem shift_err (s : Scanner) : s.shift.err = s.err := by
  unfold shift
  split <;> rfl

variable {size₀ : ℕ} {bound : ℤ} {s s' : Scanner} {unread line : List UInt8}

theorem Inv.shift (h : Inv size₀ bound s unread) : Inv size₀ bound s.shift unread := by
  unfold Scanner.shift
  split
  · exact ⟨h.bound_eq, h.le_size, h.size_le, by have hfits := h.fits; simp only; omega, h.open_or⟩
  · exact h

/-- **Growing** fails for a buffer that has its limit, and leaves room. -/
theorem grow_cases (h : Inv size₀ bound s unread) :
    (s.grow = none ∧ s.start + s.data.length = s.size ∧ limit size₀ bound = s.size) ∨
      ∃ s', s.grow = some s' ∧ Inv size₀ bound s' unread ∧ s'.data = s.data ∧
        s'.err = s.err ∧ 0 < s'.space := by
  have hb := h.bound_eq
  have hlo := h.le_size
  have hhi := h.size_le
  have hfits := h.fits
  unfold grow
  unfold limit at hhi ⊢
  split
  · next hfull =>
    -- a full buffer is doubled, up to the longest token; an open one stays
    split
    · next hmax => exact Or.inl ⟨rfl, hfull, by omega⟩
    · next hmax =>
      have hgrown : s.size <
          min (if s.size * 2 = 0 then startBufSize else s.size * 2) s.maxTokenSize.toNat := by
        unfold startBufSize
        split <;> omega
      refine Or.inr ⟨_, rfl, ⟨hb, ?_, ?_, ?_, h.open_or⟩, rfl, rfl, ?_⟩
      · simp only
        omega
      · simp only [limit]
        omega
      · simp only
        omega
      · simp only [space]
        omega
  · next hroom => exact Or.inr ⟨s, rfl, h, rfl, rfl, by unfold space; omega⟩

/-- Data at the end of the buffer was moved to its beginning. -/
theorem shift_start (hfull : s.shift.start + s.shift.data.length = s.shift.size) :
    s.shift.start = 0 := by
  unfold shift at hfull ⊢
  split
  · rfl
  · next hno =>
    rw [if_neg hno] at hfull
    by_contra hpos
    exact hno ⟨Nat.pos_of_ne_zero hpos, Or.inl hfull⟩

/-- What the split function is asked. -/
theorem attempt_split (s : Scanner) :
    (if s.data ≠ [] ∨ s.err.isSome then scanLines s.data s.err.isSome else none) =
      scanLines s.data s.err.isSome := by
  split
  · rfl
  · next hno =>
    obtain ⟨hdata, herr⟩ := not_or.mp hno
    rw [not_not.mp hdata, Bool.eq_false_iff.mpr herr]
    rfl

/-- **A token is the next line**, and it is a short one. -/
theorem attempt_token (h : Inv size₀ bound s unread) (htok : s.attempt = .token line s') :
    Inv size₀ bound s' unread ∧ s'.err = s.err ∧ s'.data.length < s.data.length ∧
      ∃ raw, rawLines (s.data ++ unread) = raw :: rawLines (s'.data ++ unread) ∧
        line = dropCR raw ∧ raw.length < limit size₀ bound := by
  -- behind the end of the stream nothing is unread, and the data is shorter than the limit
  have heof : s.err.isSome = true → unread = [] ∧ s.data.length < limit size₀ bound := by
    intro hsome
    rcases h.open_or with herr | ⟨-, hnil, hlt⟩
    · rw [herr] at hsome
      cases hsome
    · exact ⟨hnil, hlt⟩
  unfold attempt at htok
  rw [attempt_split] at htok
  split at htok
  · next n token hscan =>
    cases htok
    obtain ⟨raw, hraw, rfl, hpos, hle, hlen⟩ := scanLines_some hscan fun hs => (heof hs).1
    have hfits := h.fits
    have hsize := h.size_le
    refine ⟨⟨h.bound_eq, h.le_size, h.size_le, ?_, ?_⟩, rfl, ?_, raw, hraw, rfl, ?_⟩
    · simp only [List.length_drop]
      omega
    · refine h.open_or.imp_right fun ⟨herr, hnil, hlt⟩ => ⟨herr, hnil, ?_⟩
      simp only [List.length_drop]
      omega
    · simp only [List.length_drop]
      omega
    · rcases hlen with hlt | ⟨hs, rfl⟩
      · omega
      · exact (heof hs).2
  · split at htok
    · cases htok
    · split at htok <;> cases htok

/-- **A scanner stops** at the end of the stream, or before a line that is too
long. -/
theorem attempt_stop (h : Inv size₀ bound s unread) (hpos : 0 < size₀)
    (hstop : s.attempt = .stop s') :
    rawLines (s.data ++ unread) = [] ∨
      ∃ raw more, rawLines (s.data ++ unread) = raw :: more ∧
        limit size₀ bound ≤ raw.length := by
  unfold attempt at hstop
  rw [attempt_split] at hstop
  split at hstop
  · cases hstop
  · next hscan =>
    obtain ⟨hlf, hnil⟩ := scanLines_none hscan
    split at hstop
    -- an error with nothing left to split: the stream has ended
    · next hsome =>
      rcases h.open_or with herr | ⟨-, hunread, -⟩
      · rw [herr] at hsome
        cases hsome
      · refine Or.inl ?_
        rw [hnil hsome, hunread]
        rfl
    -- the buffer cannot grow, so that the line it holds the beginning of is too long
    · split at hstop
      · next hgrow =>
        rcases grow_cases h.shift with ⟨-, hfull, hlimit⟩ | ⟨s'', hs'', -⟩
        · have hstart := shift_start hfull
          rw [hstart, shift_data] at hfull
          have hle := h.shift.le_size
          have hne : s.data ≠ [] := List.length_pos_iff.mp (by omega)
          obtain ⟨raw, more, hraw, hlong⟩ := exists_rawLines_append hlf hne unread
          exact Or.inr ⟨raw, more, hraw, by omega⟩
        · rw [hgrow] at hs''
          cases hs''
      · cases hstop

/-- A scanner that has stopped has an error, and holds no more than before. -/
theorem attempt_stop_err (hstop : s.attempt = .stop s') :
    s'.err ≠ none ∧ s'.data.length ≤ s.data.length := by
  unfold attempt at hstop
  rw [attempt_split] at hstop
  split at hstop
  · cases hstop
  · split at hstop
    · next hsome =>
      cases hstop
      exact ⟨Option.isSome_iff_ne_none.mp hsome, Nat.zero_le _⟩
    · split at hstop
      · cases hstop
        refine ⟨(by intro hnone; cases hnone), ?_⟩
        simp only [shift_data]
        exact Nat.le_refl _
      · cases hstop

/-- **A scanner that reads** has lost nothing and has room to read into. -/
theorem attempt_read (h : Inv size₀ bound s unread) (hread : s.attempt = .read s') :
    Inv size₀ bound s' unread ∧ s'.data = s.data ∧ s'.err = none ∧ s.err = none ∧
      0 < s'.space := by
  unfold attempt at hread
  rw [attempt_split] at hread
  split at hread
  · cases hread
  · split at hread
    · cases hread
    -- the split has asked for more, and the buffer has room for it
    · next hopen =>
      split at hread
      · cases hread
      · next s'' hgrow =>
        cases hread
        have herr : s.err = none := Option.not_isSome_iff_eq_none.mp hopen
        rcases grow_cases h.shift with ⟨hnone, -⟩ | ⟨_, hs', hinv, hdata, herr', hspace⟩
        · rw [hgrow] at hnone
          cases hnone
        · rw [hgrow] at hs'
          cases hs'
          exact ⟨hinv, by rw [hdata, shift_data], by rw [herr', shift_err, herr], herr, hspace⟩

/-- A read within the room keeps the invariant. -/
theorem Inv.fill (h : Inv size₀ bound s unread) (herr : s.err = none) {k : ℕ}
    (hk : k ≤ s.space) (hle : k ≤ unread.length) :
    Inv size₀ bound (s.fill (unread.take k)) (unread.drop k) := by
  have hfits := h.fits
  unfold space at hk
  refine ⟨h.bound_eq, h.le_size, h.size_le, ?_, Or.inl herr⟩
  simp only [Scanner.fill, List.length_append, List.length_take]
  omega

/-- So does the end of the stream, as there was room for more. -/
theorem Inv.close (h : Inv size₀ bound s []) (hspace : 0 < s.space) :
    Inv size₀ bound s.close [] := by
  have hfits := h.fits
  have hsize := h.size_le
  unfold space at hspace
  refine ⟨h.bound_eq, h.le_size, h.size_le, h.fits, Or.inr ⟨rfl, rfl, ?_⟩⟩
  simp only [Scanner.close]
  omega

/-- The scanner of an empty buffer. -/
theorem Inv.initial (size₀ : ℕ) (bound : ℤ) (stream : List UInt8) :
    Inv size₀ bound { size := size₀, maxTokenSize := bound } stream :=
  ⟨rfl, Nat.le_refl _, Nat.le_max_left _ _, Nat.zero_le _, Or.inl rfl⟩

end Scanner

end LineScanner
