import Mathlib

/-! Readers that hand out a stream in buffers of their own choice, and the lines of a stream: what
is read through a delimiter, or past it, does not depend on the buffers. -/
namespace BirdCode.Lib

variable {B S : Type*}

/-- A reader of a stream. A buffer is a beginning of what is left, and empty only at the end, and
what is consumed of it is gone from the stream. -/
structure BufferedReader (B S : Type*) where
  fillBuf : S → List B × S
  consume : S → ℕ → S
  left : S → List B
  beginning : ∀ state, (fillBuf state).1 <+: left state
  refilled : ∀ state, left (fillBuf state).2 = left state
  atEnd : ∀ state, (fillBuf state).1 = [] → left state = []
  consumed : ∀ state count, count ≤ (fillBuf state).1.length →
    left (consume (fillBuf state).2 count) = (left state).drop count

section Lines

variable [DecidableEq B] (delimiter : B)

/-- The stream through its first delimiter, or to its end. -/
def firstLine : List B → List B
  | [] => []
  | symbol :: rest => if symbol = delimiter then [symbol] else symbol :: firstLine rest

def afterLine : List B → List B
  | [] => []
  | symbol :: rest => if symbol = delimiter then rest else afterLine rest

variable {delimiter} {stream first second : List B} {symbol : B}

theorem firstLine_append_afterLine (delimiter : B) (stream : List B) :
    firstLine delimiter stream ++ afterLine delimiter stream = stream := by
  induction stream with
  | nil => rfl
  | cons symbol rest ih =>
    rw [firstLine, afterLine]
    split
    · rfl
    · rw [List.cons_append, ih]

theorem afterLine_eq_drop (stream : List B) :
    afterLine delimiter stream = stream.drop (firstLine delimiter stream).length := by
  conv_rhs => rw [← firstLine_append_afterLine delimiter stream]
  rw [List.drop_left' (by rw [firstLine_append_afterLine])]

theorem firstLine_eq_nil : firstLine delimiter stream = [] ↔ stream = [] := by
  cases stream with
  | nil => simp [firstLine]
  | cons symbol rest =>
    rw [firstLine]
    split <;> simp

theorem firstLine_of_notMem (h : delimiter ∉ stream) : firstLine delimiter stream = stream := by
  induction stream with
  | nil => rfl
  | cons symbol rest ih =>
    obtain ⟨hsymbol, hrest⟩ := not_or.mp (mt List.mem_cons.mpr h)
    rw [firstLine, if_neg (Ne.symm hsymbol), ih hrest]

/-- The first line of a stream that starts without a delimiter goes on after the start. -/
theorem firstLine_append (h : delimiter ∉ first) :
    firstLine delimiter (first ++ second) = first ++ firstLine delimiter second := by
  induction first with
  | nil => rfl
  | cons symbol rest ih =>
    obtain ⟨hsymbol, hrest⟩ := not_or.mp (mt List.mem_cons.mpr h)
    rw [List.cons_append, firstLine, if_neg (Ne.symm hsymbol), ih hrest, List.cons_append]

theorem afterLine_append (h : delimiter ∉ first) :
    afterLine delimiter (first ++ second) = afterLine delimiter second := by
  induction first with
  | nil => rfl
  | cons symbol rest ih =>
    obtain ⟨hsymbol, hrest⟩ := not_or.mp (mt List.mem_cons.mpr h)
    rw [List.cons_append, afterLine, if_neg (Ne.symm hsymbol), ih hrest]

theorem firstLine_cons_delimiter : firstLine delimiter (delimiter :: second) = [delimiter] :=
  if_pos rfl

theorem afterLine_cons_delimiter : afterLine delimiter (delimiter :: second) = second := if_pos rfl

theorem afterLine_of_notMem (h : delimiter ∉ stream) : afterLine delimiter stream = [] := by
  have hline : afterLine delimiter (stream ++ []) = [] := afterLine_append h
  rw [List.append_nil] at hline
  exact hline

/-- A beginning with a delimiter already has the first line. -/
theorem firstLine_of_mem (h : delimiter ∈ first) :
    firstLine delimiter (first ++ second) = firstLine delimiter first := by
  induction first with
  | nil => cases h
  | cons symbol rest ih =>
    rw [List.cons_append, firstLine, firstLine]
    split
    · rfl
    · next hsymbol =>
      have hrest : delimiter ∈ rest := by
        rcases List.mem_cons.mp h with heq | hmem
        · exact absurd heq.symm hsymbol
        · exact hmem
      rw [ih hrest]

theorem getLast_firstLine (h : delimiter ∈ stream) :
    (firstLine delimiter stream).getLast? = some delimiter := by
  induction stream with
  | nil => cases h
  | cons symbol rest ih =>
    rw [firstLine]
    split
    · next heq => rw [heq, List.getLast?_singleton]
    · next hsymbol =>
      have hrest : delimiter ∈ rest := by
        rcases List.mem_cons.mp h with heq | hmem
        · exact absurd heq.symm hsymbol
        · exact hmem
      have hne : firstLine delimiter rest ≠ [] := by
        intro hnil
        rw [firstLine_eq_nil.mp hnil] at hrest
        cases hrest
      rw [List.getLast?_cons_of_ne_nil hne, ih hrest]

/-- A beginning that is long enough has the first line. -/
theorem firstLine_take {limit : ℕ} (h : (firstLine delimiter stream).length ≤ limit) :
    firstLine delimiter (stream.take limit) = firstLine delimiter stream := by
  induction stream generalizing limit with
  | nil => rw [List.take_nil]
  | cons symbol rest ih =>
    rw [firstLine] at h ⊢
    cases limit with
    | zero => split at h <;> simp at h
    | succ limit =>
      rw [List.take_succ_cons, firstLine]
      split
      · rfl
      · next hsymbol =>
        rw [if_neg hsymbol, List.length_cons] at h
        rw [ih (by omega)]

/-- One that is shorter than the first line has no delimiter. -/
theorem notMem_take {limit : ℕ} (h : limit < (firstLine delimiter stream).length) :
    delimiter ∉ stream.take limit := by
  intro hmem
  have hline : firstLine delimiter (stream.take limit ++ stream.drop limit) =
      firstLine delimiter (stream.take limit) := firstLine_of_mem hmem
  rw [List.take_append_drop] at hline
  have hle := firstLine_append_afterLine delimiter (stream.take limit)
  replace hle := congrArg List.length hle
  rw [List.length_append, List.length_take, ← hline] at hle
  omega

theorem afterLine_lt (delimiter : B) (h : stream ≠ []) :
    (afterLine delimiter stream).length < stream.length := by
  have hpositive : 0 < (firstLine delimiter stream).length :=
    List.length_pos_of_ne_nil (mt firstLine_eq_nil.mp h)
  have happend := firstLine_append_afterLine delimiter stream
  replace happend := congrArg List.length happend
  rw [List.length_append] at happend
  omega

variable (delimiter) in
/-- The lines of a stream, each through its delimiter. -/
def lines (stream : List B) : List (List B) :=
  if hempty : stream = [] then []
  else
    have := afterLine_lt delimiter hempty
    firstLine delimiter stream :: lines (afterLine delimiter stream)
  termination_by stream.length

theorem lines_nil : lines delimiter ([] : List B) = [] := by
  rw [lines, dif_pos rfl]

theorem lines_of_ne_nil (h : stream ≠ []) : lines delimiter stream =
    firstLine delimiter stream :: lines delimiter (afterLine delimiter stream) := by
  rw [lines, dif_neg h]

theorem flatten_lines (stream : List B) : (lines delimiter stream).flatten = stream := by
  induction stream using lines.induct delimiter with
  | case1 => rw [lines_nil, List.flatten_nil]
  | case2 stream hne _ ih =>
    rw [lines_of_ne_nil hne, List.flatten_cons, ih, firstLine_append_afterLine]

end Lines

section Reads

variable [DecidableEq B] (reader : BufferedReader B S) (delimiter : B)

omit [DecidableEq B] in
theorem BufferedReader.left_lt (reader : BufferedReader B S) (state : S) {count : ℕ}
    (hcount : count ≤ (reader.fillBuf state).1.length) (hpositive : 0 < count) :
    (reader.left (reader.consume (reader.fillBuf state).2 count)).length <
      (reader.left state).length := by
  have hlength := (reader.beginning state).length_le
  rw [reader.consumed state count hcount, List.length_drop]
  omega

/-- `read_until` on `take(limit)`: the frame so far goes on through the delimiter, through the limit
or to the end. -/
def readUntil (limit : ℕ) (frame : List B) (state : S) : List B × S :=
  let buffer := (reader.fillBuf state).1
  let available := buffer.take limit
  if limit = 0 then (frame, state)
  else match available.findIdx? (· = delimiter) with
    | some position =>
      (frame ++ available.take (position + 1),
        reader.consume (reader.fillBuf state).2 (position + 1))
    | none =>
      if hempty : available = [] then (frame, reader.consume (reader.fillBuf state).2 0)
      else
        have := BufferedReader.left_lt reader state
          (List.length_take_le' limit buffer) (List.length_pos_of_ne_nil hempty)
        readUntil (limit - available.length) (frame ++ available)
          (reader.consume (reader.fillBuf state).2 available.length)
  termination_by (reader.left state).length
  decreasing_by exact this

/-- What is left of a line is dropped, buffer by buffer. -/
def drainLine (state : S) : S :=
  let buffer := (reader.fillBuf state).1
  if hempty : buffer = [] then (reader.fillBuf state).2
  else match buffer.findIdx? (· = delimiter) with
    | some position => reader.consume (reader.fillBuf state).2 (position + 1)
    | none =>
      have := BufferedReader.left_lt reader state le_rfl
        (List.length_pos_of_ne_nil hempty)
      drainLine (reader.consume (reader.fillBuf state).2 buffer.length)
  termination_by (reader.left state).length

end Reads

section Laws

variable [DecidableEq B] {delimiter : B} {stream : List B}

theorem notMem_of_findIdx?_eq_none (h : stream.findIdx? (· = delimiter) = none) :
    delimiter ∉ stream := by
  intro hmem
  have hne := List.findIdx?_eq_none_iff.mp h delimiter hmem
  simp at hne

/-- A search for the delimiter ends at the end of the first line. -/
theorem firstLine_of_findIdx?_eq_some {position : ℕ}
    (h : stream.findIdx? (· = delimiter) = some position) :
    delimiter ∈ stream ∧ position + 1 ≤ stream.length ∧
      firstLine delimiter stream = stream.take (position + 1) := by
  induction stream generalizing position with
  | nil => cases h
  | cons symbol rest ih =>
    rw [List.findIdx?_cons] at h
    split at h
    · next heq =>
      cases h
      rw [decide_eq_true_eq] at heq
      subst heq
      refine ⟨List.mem_cons_self, by simp, ?_⟩
      rw [firstLine_cons_delimiter]
      rfl
    · next hne =>
      rw [decide_eq_true_eq] at hne
      obtain ⟨found, hfound, rfl⟩ := Option.map_eq_some_iff.mp h
      obtain ⟨hmem, hlength, hline⟩ := ih hfound
      refine ⟨List.mem_cons_of_mem _ hmem, by simpa using hlength, ?_⟩
      rw [firstLine, if_neg hne, hline, List.take_succ_cons]

variable (reader : BufferedReader B S)

/-- Reading through a delimiter under a limit takes the first line of what the limit allows. -/
theorem readUntil_eq (delimiter : B) (limit : ℕ) (frame : List B) (state : S) :
    (readUntil reader delimiter limit frame state).1 =
        frame ++ firstLine delimiter ((reader.left state).take limit) ∧
      reader.left (readUntil reader delimiter limit frame state).2 =
        (reader.left state).drop
          (firstLine delimiter ((reader.left state).take limit)).length := by
  induction limit, frame, state using readUntil.induct reader delimiter with
  | case1 frame state =>
    rw [readUntil]
    simp [firstLine]
  | case2 limit frame state buffer available hlimit position hposition =>
    obtain ⟨rest, hrest⟩ := reader.beginning state
    obtain ⟨hmem, hlength, hline⟩ := firstLine_of_findIdx?_eq_some hposition
    have htake : (reader.left state).take limit = available ++ rest.take (limit - buffer.length) := by
      rw [← hrest, List.take_append]
    have hbuffer : position + 1 ≤ buffer.length :=
      hlength.trans (List.length_take_le' limit buffer)
    have hread : readUntil reader delimiter limit frame state =
        (frame ++ available.take (position + 1),
          reader.consume (reader.fillBuf state).2 (position + 1)) := by
      rw [readUntil, if_neg hlimit, hposition]
    rw [htake, firstLine_of_mem hmem, hline, hread, List.length_take, Nat.min_eq_left hlength]
    exact ⟨rfl, reader.consumed state _ hbuffer⟩
  | case3 limit frame state buffer available hlimit hnone hempty =>
    have hbuffer : buffer = [] := by
      rcases List.take_eq_nil_iff.mp hempty with hzero | hnil
      · exact absurd hzero hlimit
      · exact hnil
    have hread : readUntil reader delimiter limit frame state =
        (frame, reader.consume (reader.fillBuf state).2 0) := by
      rw [readUntil, if_neg hlimit, hnone, dif_pos hempty]
    have hconsumed := reader.consumed state 0 (Nat.zero_le _)
    rw [hread, reader.atEnd state hbuffer, List.take_nil]
    rw [reader.atEnd state hbuffer] at hconsumed
    exact ⟨(List.append_nil _).symm, hconsumed⟩
  | case4 limit frame state buffer available hlimit hnone hempty _ ih =>
    obtain ⟨rest, hrest⟩ := reader.beginning state
    have hnotMem := notMem_of_findIdx?_eq_none hnone
    have hlength : available.length ≤ buffer.length := List.length_take_le' limit buffer
    have hread : readUntil reader delimiter limit frame state =
        readUntil reader delimiter (limit - available.length) (frame ++ available)
          (reader.consume (reader.fillBuf state).2 available.length) := by
      rw [readUntil, if_neg hlimit, hnone, dif_neg hempty]
    have hconsumed := reader.consumed state _ hlength
    -- the limit cuts the stream behind what was available
    have htake : (reader.left state).take limit = available ++
        ((reader.left state).drop available.length).take (limit - available.length) := by
      by_cases hshort : limit ≤ buffer.length
      · have hwhole : available.length = limit := List.length_take_of_le hshort
        rw [hwhole, Nat.sub_self, List.take_zero, List.append_nil, ← hrest,
          List.take_append_of_le_length hshort]
      · have hall : available = buffer := List.take_of_length_le (by omega)
        rw [hall, ← hrest, List.drop_left, List.take_append]
        exact congrArg (· ++ rest.take (limit - buffer.length)) hall
    rw [hconsumed] at ih
    rw [hread, ih.1, ih.2, htake, firstLine_append hnotMem, List.append_assoc, List.drop_drop,
      List.length_append]
    exact ⟨rfl, rfl⟩

/-- Draining drops the stream through its first delimiter. -/
theorem left_drainLine (state : S) :
    reader.left (drainLine reader delimiter state) = afterLine delimiter (reader.left state) := by
  induction state using drainLine.induct reader delimiter with
  | case1 state buffer hempty =>
    rw [drainLine, dif_pos hempty, reader.refilled, reader.atEnd state hempty]
    rfl
  | case2 state buffer hempty position hposition =>
    obtain ⟨rest, hrest⟩ := reader.beginning state
    obtain ⟨hmem, hlength, hline⟩ := firstLine_of_findIdx?_eq_some hposition
    rw [drainLine, dif_neg hempty, hposition]
    dsimp only
    rw [reader.consumed state _ hlength, afterLine_eq_drop, ← hrest, firstLine_of_mem hmem, hline,
      List.length_take, Nat.min_eq_left hlength]
  | case3 state buffer hempty hnone _ ih =>
    obtain ⟨rest, hrest⟩ := reader.beginning state
    have hnotMem := notMem_of_findIdx?_eq_none hnone
    rw [drainLine, dif_neg hempty, hnone]
    dsimp only
    rw [ih, reader.consumed state _ le_rfl, ← hrest, List.drop_left, afterLine_append hnotMem]

end Laws

section Chunks

/-- The chunks that are left once one with something in it is in front. -/
def refill : List (List B) → List (List B)
  | [] => []
  | chunk :: rest => if chunk.isEmpty then refill rest else chunk :: rest

theorem flatten_refill (chunks : List (List B)) : (refill chunks).flatten = chunks.flatten := by
  induction chunks with
  | nil => rfl
  | cons chunk rest ih =>
    rw [refill]
    split
    · next hempty => rw [ih, List.flatten_cons, List.isEmpty_iff.mp hempty, List.nil_append]
    · rfl

def consumeFirst : List (List B) → ℕ → List (List B)
  | [], _ => []
  | chunk :: rest, count => chunk.drop count :: rest

theorem refill_head {chunks : List (List B)} (h : (refill chunks).headD [] = []) :
    chunks.flatten = [] := by
  induction chunks with
  | nil => rfl
  | cons chunk rest ih =>
    rw [refill] at h
    split at h
    · next hempty => rw [List.flatten_cons, List.isEmpty_iff.mp hempty, List.nil_append, ih h]
    · next hfull => exact absurd (List.isEmpty_iff.mpr h) hfull

/-- A stream that comes in chunks, each handed out as one buffer. -/
def chunkReader : BufferedReader B (List (List B)) where
  fillBuf chunks := ((refill chunks).headD [], refill chunks)
  consume := consumeFirst
  left := List.flatten
  beginning := by
    intro chunks
    rw [← flatten_refill chunks]
    cases refill chunks with
    | nil => exact List.nil_prefix
    | cons chunk rest => exact List.prefix_append _ _
  refilled := flatten_refill
  atEnd := fun _ => refill_head
  consumed := by
    intro chunks count hcount
    rw [← flatten_refill chunks]
    dsimp only at hcount ⊢
    cases hchunks : refill chunks with
    | nil => rw [consumeFirst, List.flatten_nil, List.drop_nil]
    | cons chunk rest =>
      rw [hchunks, List.headD_cons] at hcount
      rw [consumeFirst, List.flatten_cons, List.flatten_cons, List.drop_append_of_le_length hcount]

end Chunks

end BirdCode.Lib
