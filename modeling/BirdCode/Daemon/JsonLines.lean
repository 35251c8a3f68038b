import BirdCode.Lib.BufferedReader
import BirdCode.Store.Records

/-! The JSON-lines connection of the daemon: one frame is one line of the stream. -/
namespace BirdCode.Daemon

open Store Lib

section Connection

variable {S T E : Type}

inductive FrameError (E : Type)
  | decode (error : E)
  | tooLarge (limit : UInt64)

def newline : UInt8 := 0x0a

/-- The reader of a connection and its limit, which `with_limit` asserts to be positive. -/
structure JsonLines (S : Type) where
  reader : BufferedReader UInt8 S
  maxFrameBytes : UInt64
  nonzero : maxFrameBytes ≠ 0

variable (connection : JsonLines S)

/-- What a whole frame is read as. -/
def decodeFrame (decode : Bytes → Except E T) (frame : Bytes) : Except (FrameError E) (Option T) :=
  match decode frame with
  | .ok value => .ok (some value)
  | .error error => .error (.decode error)

def JsonLines.read (decode : Bytes → Except E T) (state : S) :
    Except (FrameError E) (Option T) × S :=
  -- `saturating_add(1)`
  let readLimit := min (connection.maxFrameBytes.toNat + 1) (2 ^ 64 - 1)
  let (frame, state) := readUntil connection.reader newline readLimit [] state
  if frame.length = 0 then (.ok none, state)
  else if frame.length > connection.maxFrameBytes.toNat then
    (.error (.tooLarge connection.maxFrameBytes),
      if frame.getLast? = some newline then state
      else drainLine connection.reader newline state)
  else (decodeFrame decode frame, state)

/-- `serde_json::to_writer` gives the bytes it wrote, and the error it stopped at. -/
def write (encode : T → Bytes × Option E) (value : T) (output : Bytes) :
    Except (FrameError E) Unit × Bytes :=
  let (bytes, failure) := encode value
  match failure with
  | some error => (.error (.decode error), output ++ bytes)
  | none => (.ok (), output ++ bytes ++ [newline])

/-- The state after the first reads of a connection. -/
def JsonLines.after (decodes : ℕ → Bytes → Except E T) : ℕ → S → S
  | 0, state => state
  | count + 1, state => (connection.read (decodes count) (after decodes count state)).2

/-- What is written by writes in turn. -/
def written (encode : T → Bytes × Option E) (values : List T) : Bytes :=
  values.foldl (fun output value => (write encode value output).2) []

end Connection

section Frames

variable {S T E : Type} {connection : JsonLines S} {state : S}

/-- What the line of a frame is answered with. -/
def JsonLines.answer (connection : JsonLines S) (decode : Bytes → Except E T) (line : Bytes) :
    Except (FrameError E) (Option T) :=
  if line.length > connection.maxFrameBytes.toNat then
    .error (.tooLarge connection.maxFrameBytes)
  else decodeFrame decode line

/-- Beyond the largest limit a line would not fit the address space. -/
def JsonLines.Addressable (connection : JsonLines S) (state : S) : Prop :=
  connection.maxFrameBytes.toNat + 1 < 2 ^ 64 ∨
    ∀ line ∈ lines newline (connection.reader.left state), line.length < 2 ^ 64

theorem decodeFrame_ne_none (decode : Bytes → Except E T) (frame : Bytes) :
    decodeFrame decode frame ≠ .ok none := by
  unfold decodeFrame
  cases decode frame <;> simp

theorem answer_ne_none (decode : Bytes → Except E T) (line : Bytes) :
    connection.answer decode line ≠ .ok none := by
  unfold JsonLines.answer
  split
  · simp
  · exact decodeFrame_ne_none decode line

theorem JsonLines.Addressable.line (h : connection.Addressable state)
    (hlimit : 2 ^ 64 ≤ connection.maxFrameBytes.toNat + 1) :
    (firstLine newline (connection.reader.left state)).length < 2 ^ 64 := by
  rcases h with hsmall | hlines
  · omega
  · by_cases hempty : connection.reader.left state = []
    · rw [hempty]
      exact Nat.zero_lt_of_lt (Nat.two_pow_pos 64)
    · apply hlines
      rw [lines_of_ne_nil hempty]
      exact List.mem_cons_self

/-- A read consumes the first line and answers it. -/
theorem read_eq (h : connection.Addressable state) (decode : Bytes → Except E T) :
    connection.reader.left (connection.read decode state).2 =
        afterLine newline (connection.reader.left state) ∧
      (connection.read decode state).1 = if connection.reader.left state = [] then .ok none
        else connection.answer decode (firstLine newline (connection.reader.left state)) := by
  generalize hlimit : min (connection.maxFrameBytes.toNat + 1) (2 ^ 64 - 1) = readLimit
  obtain ⟨hframe, hleft⟩ := readUntil_eq connection.reader newline readLimit [] state
  generalize hread : readUntil connection.reader newline readLimit [] state = result at hframe hleft
  obtain ⟨frame, next⟩ := result
  rw [List.nil_append] at hframe
  have hpositive : 0 < readLimit := by omega
  unfold JsonLines.read
  simp only [hlimit, hread]
  dsimp only at hframe hleft
  by_cases hempty : connection.reader.left state = []
  · rw [hempty, List.take_nil] at hframe hleft
    rw [hempty, if_pos rfl, hframe]
    exact ⟨hleft, rfl⟩
  rw [if_neg hempty]
  have hnonempty : frame.length ≠ 0 := by
    rw [hframe]
    intro hzero
    have htake := firstLine_eq_nil.mp (List.length_eq_zero_iff.mp hzero)
    rcases List.take_eq_nil_iff.mp htake with hnone | hnil
    · omega
    · exact hempty hnil
  rw [if_neg hnonempty]
  by_cases hwhole : (firstLine newline (connection.reader.left state)).length ≤ readLimit
  · -- the frame is the line, drained or not
    rw [firstLine_take hwhole] at hframe hleft
    rw [← afterLine_eq_drop] at hleft
    unfold JsonLines.answer
    rw [← hframe]
    split
    · refine ⟨?_, rfl⟩
      split
      · exact hleft
      · next hlast =>
        have hnotMem : newline ∉ connection.reader.left state := by
          intro hmem
          rw [hframe] at hlast
          exact hlast (getLast_firstLine hmem)
        rw [left_drainLine, hleft, afterLine_of_notMem hnotMem]
        rfl
    · exact ⟨hleft, rfl⟩
  · -- the line goes on behind the limit
    rw [not_le] at hwhole
    have hnotMem := notMem_take hwhole
    rw [firstLine_of_notMem hnotMem] at hframe hleft
    have hline : (firstLine newline (connection.reader.left state)).length ≤
        (connection.reader.left state).length := by
      have happend := congrArg List.length
        (firstLine_append_afterLine newline (connection.reader.left state))
      rw [List.length_append] at happend
      omega
    have htake : ((connection.reader.left state).take readLimit).length = readLimit :=
      List.length_take_of_le (by omega)
    have hover : readLimit = connection.maxFrameBytes.toNat + 1 := by
      by_contra hne
      have hshort := h.line (by omega)
      omega
    have hlast : frame.getLast? ≠ some newline := by
      intro hlast
      rw [hframe] at hlast
      exact hnotMem (List.mem_of_getLast? hlast)
    unfold JsonLines.answer
    rw [if_pos (by rw [hframe, htake]; omega), if_neg hlast, if_pos (by omega)]
    refine ⟨?_, rfl⟩
    dsimp only
    rw [left_drainLine, hleft, htake]
    conv_rhs => rw [← List.take_append_drop readLimit (connection.reader.left state)]
    rw [afterLine_append hnotMem]

theorem lines_afterLine {stream : Bytes} :
    lines newline (afterLine newline stream) = (lines newline stream).drop 1 := by
  by_cases hempty : stream = []
  · rw [hempty, lines_nil, afterLine, lines_nil]
    rfl
  · rw [lines_of_ne_nil hempty]
    rfl

theorem JsonLines.Addressable.read (h : connection.Addressable state)
    (decode : Bytes → Except E T) : connection.Addressable (connection.read decode state).2 := by
  rcases h with hsmall | hlines
  · exact .inl hsmall
  · right
    intro line hline
    rw [(read_eq (.inr hlines) decode).1, lines_afterLine] at hline
    exact hlines line (List.mem_of_mem_drop hline)

/-- After so many reads the stream is at the line of that number. -/
theorem lines_after (h : connection.Addressable state) (decodes : ℕ → Bytes → Except E T)
    (count : ℕ) : connection.Addressable (connection.after decodes count state) ∧
      lines newline (connection.reader.left (connection.after decodes count state)) =
        (lines newline (connection.reader.left state)).drop count := by
  induction count with
  | zero => exact ⟨h, rfl⟩
  | succ count ih =>
    obtain ⟨haddress, hlines⟩ := ih
    refine ⟨haddress.read _, ?_⟩
    rw [JsonLines.after, (read_eq haddress _).1, lines_afterLine, hlines, List.drop_drop]

/-- What is answered at a line, or at the end of the stream. -/
def JsonLines.reply (connection : JsonLines S) (decode : Bytes → Except E T) :
    Option Bytes → Except (FrameError E) (Option T)
  | none => .ok none
  | some line => connection.answer decode line

theorem read_reply (h : connection.Addressable state) (decodes : ℕ → Bytes → Except E T)
    (count : ℕ) :
    (connection.read (decodes count) (connection.after decodes count state)).1 =
      connection.reply (decodes count)
        (lines newline (connection.reader.left state))[count]? := by
  obtain ⟨haddress, hlines⟩ := lines_after h decodes count
  have hline : (lines newline (connection.reader.left state))[count]? =
      (lines newline (connection.reader.left (connection.after decodes count state)))[0]? := by
    rw [hlines, List.getElem?_drop, Nat.add_zero]
  rw [(read_eq haddress _).2, hline]
  by_cases hempty : connection.reader.left (connection.after decodes count state) = []
  · rw [if_pos hempty, hempty, lines_nil]
    rfl
  · rw [if_neg hempty, lines_of_ne_nil hempty]
    rfl

end Frames

section RoundTrip

variable {S T E : Type} {connection : JsonLines S} {state : S}
  {encode : T → Bytes × Option E} {decode : Bytes → Except E T} {values : List T}

/-- A value is written without an error and without a raw newline, is read from the line it makes,
and this line is within the limit. -/
structure Framed (connection : JsonLines S) (encode : T → Bytes × Option E)
    (decode : Bytes → Except E T) (value : T) : Prop where
  encoded : (encode value).2 = none
  compact : newline ∉ (encode value).1
  decoded : decode ((encode value).1 ++ [newline]) = .ok value
  within : (encode value).1.length + 1 ≤ connection.maxFrameBytes.toNat

def frameOf (encode : T → Bytes × Option E) (value : T) : Bytes := (encode value).1 ++ [newline]

theorem written_from (h : ∀ value ∈ values, (encode value).2 = none) (output : Bytes) :
    values.foldl (fun output value => (write encode value output).2) output =
      output ++ (values.map (frameOf encode)).flatten := by
  induction values generalizing output with
  | nil => simp
  | cons value rest ih =>
    have hwrite : (write encode value output).2 = output ++ frameOf encode value := by
      unfold write frameOf
      simp only [h value List.mem_cons_self, List.append_assoc]
    have hrest := ih fun other hother => h other (List.mem_cons_of_mem _ hother)
    rw [List.foldl_cons, hwrite, hrest, List.map_cons, List.flatten_cons, List.append_assoc]

theorem lines_frames (h : ∀ value ∈ values, newline ∉ (encode value).1) :
    lines newline (values.map (frameOf encode)).flatten = values.map (frameOf encode) := by
  induction values with
  | nil => exact lines_nil
  | cons value rest ih =>
    have hvalue := h value List.mem_cons_self
    have hrest := ih fun other hother => h other (List.mem_cons_of_mem _ hother)
    have hsplit : ((value :: rest).map (frameOf encode)).flatten =
        (encode value).1 ++ newline :: (rest.map (frameOf encode)).flatten := by
      simp [frameOf]
    have hne : ((value :: rest).map (frameOf encode)).flatten ≠ [] := by
      rw [hsplit]
      simp
    rw [lines_of_ne_nil hne, hsplit, firstLine_append hvalue, afterLine_append hvalue,
      firstLine_cons_delimiter, afterLine_cons_delimiter, hrest]
    rfl

/-- What is written is read back, line by line. -/
theorem answer_frame {value : T} (h : Framed connection encode decode value) :
    connection.answer decode (frameOf encode value) = .ok (some value) := by
  have hlength : ¬ (frameOf encode value).length > connection.maxFrameBytes.toNat := by
    have hwithin := h.within
    unfold frameOf
    rw [List.length_append, List.length_singleton]
    omega
  have hdecoded : decode (frameOf encode value) = .ok value := h.decoded
  unfold JsonLines.answer decodeFrame
  rw [if_neg hlength, hdecoded]

theorem framed_addressable (h : ∀ value ∈ values, Framed connection encode decode value)
    (hstream : connection.reader.left state = written encode values) :
    connection.Addressable state := by
  right
  have hlimit := connection.maxFrameBytes.toNat_lt
  unfold written at hstream
  rw [hstream, written_from fun value hvalue => (h value hvalue).encoded, List.nil_append,
    lines_frames fun value hvalue => (h value hvalue).compact]
  intro line hline
  obtain ⟨value, hvalue, rfl⟩ := List.mem_map.mp hline
  have hwithin := (h value hvalue).within
  unfold frameOf
  rw [List.length_append, List.length_singleton]
  omega

/-- However a stream is buffered, the reads of a connection answer its lines in turn, and read back
what was written. -/
theorem jsonLines_aligned (connection : JsonLines S) (state : S) :
    (connection.Addressable state → ∀ (T E : Type) (decodes : ℕ → Bytes → Except E T) (count : ℕ),
      let before := connection.after decodes count state
      let stream := lines newline (connection.reader.left state)
      connection.reader.left before = (stream.drop count).flatten ∧
        ((connection.read (decodes count) before).1 = .ok none ↔
          connection.reader.left before = []) ∧
        ∀ line, stream[count]? = some line → (connection.read (decodes count) before).1 =
          if line.length > connection.maxFrameBytes.toNat then
            .error (.tooLarge connection.maxFrameBytes)
          else decodeFrame (decodes count) line) ∧
      ∀ (T E : Type) (encode : T → Bytes × Option E) (decode : Bytes → Except E T)
        (values : List T), (∀ value ∈ values, Framed connection encode decode value) →
        connection.reader.left state = written encode values → ∀ count,
          (connection.read decode (connection.after (fun _ => decode) count state)).1 =
            .ok values[count]? := by
  constructor
  · intro h T E decodes count before stream
    obtain ⟨_, hlines⟩ := lines_after h decodes count
    have hleft : connection.reader.left before = (stream.drop count).flatten := by
      rw [← hlines, flatten_lines]
    refine ⟨hleft, ?_, ?_⟩
    · rw [read_reply h]
      cases hline : stream[count]? with
      | none =>
        have hbeyond := List.getElem?_eq_none_iff.mp hline
        rw [hleft, List.drop_eq_nil_of_le hbeyond]
        exact ⟨fun _ => rfl, fun _ => rfl⟩
      | some line =>
        constructor
        · intro hnone
          exact absurd hnone (answer_ne_none _ _)
        · intro hempty
          rw [hempty, lines_nil] at hlines
          have hbeyond := List.drop_eq_nil_iff.mp hlines.symm
          rw [List.getElem?_eq_none_iff.mpr hbeyond] at hline
          cases hline
    · intro line hline
      rw [read_reply h, hline]
      rfl
  · intro T E encode decode values hframed hstream count
    have hlines : lines newline (connection.reader.left state) = values.map (frameOf encode) := by
      rw [hstream, written, written_from fun value hvalue => (hframed value hvalue).encoded,
        List.nil_append, lines_frames fun value hvalue => (hframed value hvalue).compact]
    rw [read_reply (framed_addressable hframed hstream) (fun _ => decode) count, hlines,
      List.getElem?_map]
    cases hvalue : values[count]? with
    | none => rfl
    | some value => exact answer_frame (hframed value (List.mem_of_getElem? hvalue))

def digitLines : JsonLines (List Bytes) where
  reader := chunkReader
  maxFrameBytes := 2
  nonzero := by decide

def encodeDigit (digit : UInt8) : Bytes × Option Unit := ([digit + 0x30], none)

def decodeDigit : Bytes → Except Unit UInt8
  | [digit, 0x0a] => .ok (digit - 0x30)
  | _ => .error ()

/-- Two digits that come in three chunks are read back, and a third line is the end. -/
theorem jsonLines_aligned_sample :
    (∀ count,
      let before :=
        digitLines.after (fun _ => decodeDigit) count [[0x31], [0x0a, 0x32], [0x0a]]
      (digitLines.read decodeDigit before).1 = .ok none ↔ digitLines.reader.left before = []) ∧
    ∀ count, (digitLines.read decodeDigit
      (digitLines.after (fun _ => decodeDigit) count [[0x31], [0x0a, 0x32], [0x0a]])).1 =
        .ok [1, 2][count]? := by
  constructor
  · intro count
    exact ((jsonLines_aligned digitLines [[0x31], [0x0a, 0x32], [0x0a]]).1 (.inl (by decide)) _ _
      (fun _ => decodeDigit) count).2.1
  · intro count
    refine (jsonLines_aligned digitLines [[0x31], [0x0a, 0x32], [0x0a]]).2 _ _ encodeDigit
      decodeDigit [1, 2] ?_ rfl count
    intro value hvalue
    rcases List.mem_cons.mp hvalue with rfl | hvalue
    · exact ⟨rfl, by decide, rfl, by decide⟩
    · rw [List.mem_singleton.mp hvalue]
      exact ⟨rfl, by decide, rfl, by decide⟩

end RoundTrip

end BirdCode.Daemon
