import BirdCode.Lib.JsonValue

/-! A reader of compact JSON text. It reads back the value that was written, whatever follows its text that
no value begins with. -/
namespace BirdCode.Lib.Json

variable {N : Type} {rest : Text}

section Strings

def hexValue (digit : UInt8) : ℕ := if digit ≤ 0x39 then digit.toNat - 0x30 else digit.toNat - 0x57

def readEscape : Text → Option (Char × Text)
  | 0x22 :: rest => some ('"', rest)
  | 0x5c :: rest => some ('\\', rest)
  | 0x62 :: rest => some (Char.ofNat 0x08, rest)
  | 0x74 :: rest => some (Char.ofNat 0x09, rest)
  | 0x6e :: rest => some (Char.ofNat 0x0a, rest)
  | 0x66 :: rest => some (Char.ofNat 0x0c, rest)
  | 0x72 :: rest => some (Char.ofNat 0x0d, rest)
  | 0x75 :: 0x30 :: 0x30 :: high :: low :: rest =>
    some (Char.ofNat (16 * hexValue high + hexValue low), rest)
  | _ => none

def readPlain (text : Text) : Option (Char × Text) :=
  (text.toByteArray.utf8DecodeChar? 0).map fun c => (c, text.drop c.utf8Size)

def readChar : Text → Option (Char × Text)
  | 0x5c :: rest => readEscape rest
  | text => readPlain text

/-- The characters before the closing quote. -/
def readChars : ℕ → Text → Option (List Char × Text)
  | 0, _ => none
  | fuel + 1, text =>
    if text.head? = some 0x22 then some ([], text.tail)
    else do
      let (c, rest) ← readChar text
      let (chars, rest) ← readChars fuel rest
      return (c :: chars, rest)

def readString : Text → Option (String × Text)
  | 0x22 :: rest => (readChars rest.length rest).map fun (chars, rest) => (String.ofList chars, rest)
  | _ => none

theorem decode_encoded (c : Char) (rest : Text) :
    (String.utf8EncodeChar c ++ rest).toByteArray.utf8DecodeChar? 0 = some c := by
  rw [List.toByteArray_append]
  exact ByteArray.utf8DecodeChar?_utf8EncodeChar_append

theorem readPlain_encoded (c : Char) (rest : Text) :
    readPlain (String.utf8EncodeChar c ++ rest) = some (c, rest) := by
  rw [readPlain, decode_encoded, Option.map_some, ← String.length_utf8EncodeChar c, List.drop_left]

/-- A character whose bytes begin as an ASCII character is that character. -/
theorem eq_of_encoded_cons (ascii : Char) {c : Char} {byte : UInt8} {bytes : Text}
    (hascii : String.utf8EncodeChar ascii = [byte])
    (h : String.utf8EncodeChar c ++ rest = byte :: bytes) : c = ascii := by
  have hdecode := decode_encoded c rest
  rw [h, ← List.singleton_append, ← hascii, decode_encoded] at hdecode
  exact (Option.some.inj hdecode).symm

theorem hexValue_hexDigit (value : ℕ) (h : value < 16) : hexValue (hexDigit value) = value := by
  interval_cases value <;> decide

theorem readChar_escaped (c : Char) (rest : Text) : readChar (escaped c ++ rest) = some (c, rest) := by
  unfold escaped
  split
  · next h => subst h; rfl
  split
  · next h => subst h; rfl
  split
  · next h => rw [← Char.ofNat_toNat c, h]; rfl
  split
  · next h => rw [← Char.ofNat_toNat c, h]; rfl
  split
  · next h => rw [← Char.ofNat_toNat c, h]; rfl
  split
  · next h => rw [← Char.ofNat_toNat c, h]; rfl
  split
  · next h => rw [← Char.ofNat_toNat c, h]; rfl
  split
  · next h =>
    have hhigh := hexValue_hexDigit (c.toNat / 16) (by omega)
    have hlow := hexValue_hexDigit (c.toNat % 16) (by omega)
    have hvalue : 16 * (c.toNat / 16) + c.toNat % 16 = c.toNat := by omega
    simp only [List.cons_append, List.nil_append, readChar, readEscape, hhigh, hlow, hvalue,
      Char.ofNat_toNat]
  · next hbackslash _ _ _ _ _ _ =>
    rw [← readPlain_encoded c rest]
    cases htext : String.utf8EncodeChar c ++ rest with
    | nil => rfl
    | cons byte bytes =>
      by_cases hbyte : byte = 0x5c
      · subst hbyte
        exact absurd (eq_of_encoded_cons '\\' (by decide) htext) hbackslash
      · unfold readChar
        split
        · next heq => exact absurd (List.cons.inj heq).1 hbyte
        · rfl

/-- No character is escaped into a quote, nor into nothing. -/
theorem escaped_cons (c : Char) : ∃ byte bytes, escaped c = byte :: bytes ∧ byte ≠ 0x22 := by
  unfold escaped
  split
  · exact ⟨_, _, rfl, by decide⟩
  next hquote =>
  split
  · exact ⟨_, _, rfl, by decide⟩
  split
  · exact ⟨_, _, rfl, by decide⟩
  split
  · exact ⟨_, _, rfl, by decide⟩
  split
  · exact ⟨_, _, rfl, by decide⟩
  split
  · exact ⟨_, _, rfl, by decide⟩
  split
  · exact ⟨_, _, rfl, by decide⟩
  split
  · exact ⟨_, _, rfl, by decide⟩
  cases htext : String.utf8EncodeChar c with
  | nil =>
    have hsize := congrArg List.length htext
    rw [String.length_utf8EncodeChar, List.length_nil] at hsize
    exact absurd hsize c.utf8Size_pos.ne'
  | cons byte bytes =>
    refine ⟨byte, bytes, rfl, ?_⟩
    rintro rfl
    rw [← List.append_nil (String.utf8EncodeChar c)] at htext
    exact hquote (eq_of_encoded_cons '"' (by decide) htext)

theorem length_flatMap_escaped (chars : List Char) :
    chars.length ≤ (chars.flatMap escaped).length := by
  induction chars with
  | nil => exact le_rfl
  | cons c chars ih =>
    obtain ⟨byte, bytes, hescaped, _⟩ := escaped_cons c
    rw [List.flatMap_cons, hescaped, List.length_cons, List.length_append, List.length_cons]
    omega

theorem readChars_written {chars : List Char} {fuel : ℕ} (hfuel : chars.length < fuel) :
    readChars fuel (chars.flatMap escaped ++ 0x22 :: rest) = some (chars, rest) := by
  induction chars generalizing fuel with
  | nil =>
    obtain ⟨fuel, rfl⟩ := Nat.exists_eq_add_of_lt hfuel
    rfl
  | cons c chars ih =>
    cases fuel with
    | zero => exact absurd hfuel (Nat.not_lt_zero _)
    | succ fuel =>
      obtain ⟨byte, bytes, hescaped, hbyte⟩ := escaped_cons c
      have hread := readChar_escaped c (chars.flatMap escaped ++ 0x22 :: rest)
      have hrest := @ih fuel (Nat.lt_of_succ_lt_succ hfuel)
      rw [List.flatMap_cons, List.append_assoc]
      rw [hescaped, List.cons_append] at hread ⊢
      have hhead : (byte :: (bytes ++ (chars.flatMap escaped ++ 0x22 :: rest))).head? ≠ some 0x22 := by
        simpa using hbyte
      rw [readChars, if_neg hhead, hread]
      dsimp only [Option.bind_eq_bind, Option.bind_some]
      rw [hrest]
      rfl

theorem readString_written (value : String) (rest : Text) :
    readString (string value ++ rest) = some (value, rest) := by
  have hlength := length_flatMap_escaped value.toList
  have hread : readChars (value.toList.flatMap escaped ++ 0x22 :: rest).length
      (value.toList.flatMap escaped ++ 0x22 :: rest) = some (value.toList, rest) := by
    apply readChars_written
    rw [List.length_append, List.length_cons]
    omega
  have htext : string value ++ rest = 0x22 :: (value.toList.flatMap escaped ++ 0x22 :: rest) := by
    simp [string]
  rw [htext, readString, hread]
  simp

end Strings

section Values

variable (numbers : Numbers N)

def isNumeric (byte : UInt8) : Bool :=
  (0x30 ≤ byte ∧ byte ≤ 0x39) ∨ byte ∈ [0x2b, 0x2d, 0x2e, 0x45, 0x65]

def readNumber (text : Text) : Option (JsonTree N × Text) :=
  (numbers.read (text.takeWhile isNumeric)).map fun value =>
    (.number value, text.dropWhile isNumeric)

mutual

/-- The value at the beginning of a text, and the text behind it. -/
def readValue : ℕ → Text → Option (JsonTree N × Text)
  | 0, _ => none
  | _ + 1, 0x6e :: 0x75 :: 0x6c :: 0x6c :: rest => some (.null, rest)
  | _ + 1, 0x74 :: 0x72 :: 0x75 :: 0x65 :: rest => some (.bool true, rest)
  | _ + 1, 0x66 :: 0x61 :: 0x6c :: 0x73 :: 0x65 :: rest => some (.bool false, rest)
  | _ + 1, 0x22 :: rest =>
    (readString (0x22 :: rest)).map fun (value, rest) => (.string value, rest)
  | fuel + 1, 0x5b :: rest =>
    if rest.head? = some 0x5d then some (.array [], rest.tail)
    else (readItems fuel rest).map fun (items, rest) => (.array items, rest)
  | fuel + 1, 0x7b :: rest =>
    if rest.head? = some 0x7d then some (.object [], rest.tail)
    else (readEntries fuel rest).map fun (entries, rest) => (.object entries, rest)
  | _ + 1, text => readNumber numbers text

def readItems : ℕ → Text → Option (List (JsonTree N) × Text)
  | 0, _ => none
  | fuel + 1, text => do
    let (item, rest) ← readValue fuel text
    match rest with
    | 0x5d :: rest => return ([item], rest)
    | 0x2c :: rest =>
      let (items, rest) ← readItems fuel rest
      return (item :: items, rest)
    | _ => none

def readEntries : ℕ → Text → Option (List (String × JsonTree N) × Text)
  | 0, _ => none
  | fuel + 1, text => do
    let (name, rest) ← readString text
    let rest ← if rest.head? = some 0x3a then some rest.tail else none
    let (value, rest) ← readValue fuel rest
    match rest with
    | 0x7d :: rest => return ([(name, value)], rest)
    | 0x2c :: rest =>
      let (entries, rest) ← readEntries fuel rest
      return ((name, value) :: entries, rest)
    | _ => none

end

/-- What follows a value: nothing, or what closes or separates. -/
def Closing (rest : Text) : Prop :=
  ∀ byte ∈ rest.head?, byte = 0x2c ∨ byte = 0x5d ∨ byte = 0x7d

theorem separated_cons (item : Text) (items : List Text) :
    separated (item :: items) = item ++ items.flatMap (0x2c :: ·) := by
  induction items generalizing item with
  | nil => simp [separated]
  | cons next items ih =>
    have hnext := ih next
    simp only [separated, List.intersperse_cons_cons, List.flatten_cons, List.flatMap_cons] at hnext ⊢
    rw [hnext]
    simp

theorem writeItems_eq {items : List (JsonTree N)} :
    writeItems numbers items = items.map (write numbers) := by
  induction items with
  | nil => rfl
  | cons item items ih => rw [writeItems, ih, List.map_cons]

theorem writeEntries_eq {entries : List (String × JsonTree N)} :
    writeEntries numbers entries = entries.map fun entry => (entry.1, write numbers entry.2) := by
  induction entries with
  | nil => rfl
  | cons entry entries ih => rw [writeEntries, ih, List.map_cons]

/-- A value begins with a byte that closes nothing. -/
theorem write_cons (tree : JsonTree N) :
    ∃ byte bytes, write numbers tree = byte :: bytes ∧ byte ≠ 0x5d ∧ byte ≠ 0x7d := by
  cases tree with
  | null => exact ⟨_, _, rfl, by decide, by decide⟩
  | bool value => cases value <;> exact ⟨_, _, rfl, by decide, by decide⟩
  | string value => exact ⟨_, _, rfl, by decide, by decide⟩
  | array items => exact ⟨_, _, rfl, by decide, by decide⟩
  | object entries => exact ⟨_, _, rfl, by decide, by decide⟩
  | number value =>
    obtain ⟨byte, bytes, hwrite, hstart⟩ := numbers.starts value
    refine ⟨byte, bytes, hwrite, ?_, ?_⟩
    · rintro rfl
      exact absurd hstart (by decide)
    · rintro rfl
      exact absurd hstart (by decide)

theorem readNumber_written (value : N) (h : Closing rest) :
    readNumber numbers (numbers.write value ++ rest) = some (.number value, rest) := by
  have hall : ∀ byte ∈ numbers.write value, isNumeric byte = true := fun byte hbyte =>
    decide_eq_true (numbers.numeric value byte hbyte)
  have hstop : rest.takeWhile isNumeric = [] ∧ rest.dropWhile isNumeric = rest := by
    cases rest with
    | nil => exact ⟨rfl, rfl⟩
    | cons byte bytes =>
      have hnot : isNumeric byte = false := by
        rcases h byte rfl with rfl | rfl | rfl <;> decide
      rw [List.takeWhile_cons_of_neg (by simp [hnot]), List.dropWhile_cons_of_neg (by simp [hnot])]
      exact ⟨rfl, rfl⟩
  rw [readNumber, List.takeWhile_append_of_pos hall, List.dropWhile_append_of_pos hall, hstop.1,
    hstop.2, List.append_nil, numbers.read_write, Option.map_some]

/-- The reader takes a number where a text begins as one. -/
theorem readValue_number {byte : UInt8} {bytes : Text} {fuel : ℕ}
    (h : (0x30 ≤ byte ∧ byte ≤ 0x39) ∨ byte = 0x2d) :
    readValue numbers (fuel + 1) (byte :: bytes) = readNumber numbers (byte :: bytes) := by
  unfold readValue
  split
  case h_1 => contradiction
  case h_8 => rfl
  all_goals
    next heq =>
    have hbyte := (List.cons.inj heq).1
    subst hbyte
    exact absurd h (by decide)

/-- A value is read back if it is written before nothing, or before what closes or separates. -/
def Reads (tree : JsonTree N) : Prop :=
  ∀ fuel rest, Closing rest → (write numbers tree).length < fuel →
    readValue numbers fuel (write numbers tree ++ rest) = some (tree, rest)

theorem closing_cons (byte : UInt8) (bytes : Text) (h : byte = 0x2c ∨ byte = 0x5d ∨ byte = 0x7d) :
    Closing (byte :: bytes) := by
  intro other hother
  obtain rfl := Option.some.inj hother
  exact h

theorem readItems_written {item : JsonTree N} {items : List (JsonTree N)} {fuel : ℕ}
    (hreads : ∀ other ∈ item :: items, Reads numbers other)
    (hfuel : (separated (writeItems numbers (item :: items))).length + 1 < fuel) :
    readItems numbers fuel (separated (writeItems numbers (item :: items)) ++ 0x5d :: rest) =
      some (item :: items, rest) := by
  induction items generalizing item fuel with
  | nil =>
    cases fuel with
    | zero => omega
    | succ fuel =>
      have hread := hreads item List.mem_cons_self fuel (0x5d :: rest)
        (closing_cons _ _ (.inr (.inl rfl)))
      simp only [writeItems, separated_cons, List.flatMap_nil, List.append_nil] at hfuel ⊢
      rw [readItems, hread (by omega)]
      rfl
  | cons next items ih =>
    cases fuel with
    | zero => omega
    | succ fuel =>
      rw [List.forall_mem_cons] at hreads
      rw [writeItems, separated_cons, writeItems, List.flatMap_cons, List.cons_append,
        ← separated_cons, ← writeItems] at hfuel ⊢
      rw [List.length_append, List.length_cons] at hfuel
      have hread := hreads.1 fuel (0x2c :: separated (writeItems numbers (next :: items)) ++ 0x5d :: rest)
        (closing_cons _ _ (.inl rfl)) (by omega)
      have hrest := @ih _ fuel hreads.2 (by omega)
      rw [List.append_assoc, readItems, hread]
      simp only [Option.bind_eq_bind, Option.bind_some, List.cons_append, hrest]
      rfl

theorem readEntries_written {entry : String × JsonTree N} {entries : List (String × JsonTree N)} {fuel : ℕ}
    (hreads : ∀ other ∈ entry :: entries, Reads numbers other.2)
    (hfuel : (separated ((writeEntries numbers (entry :: entries)).map member)).length + 1 < fuel) :
    readEntries numbers fuel
      (separated ((writeEntries numbers (entry :: entries)).map member) ++ 0x7d :: rest) =
      some (entry :: entries, rest) := by
  induction entries generalizing entry fuel with
  | nil =>
    obtain ⟨name, value⟩ := entry
    cases fuel with
    | zero => omega
    | succ fuel =>
      simp only [writeEntries, List.map_cons, List.map_nil, separated_cons, List.flatMap_nil,
        List.append_nil, member, List.length_append, List.length_cons] at hfuel ⊢
      have hread := hreads (name, value) List.mem_cons_self fuel (0x7d :: rest)
        (closing_cons _ _ (.inr (.inr rfl)))
      dsimp only at hread
      rw [List.append_assoc, readEntries, readString_written]
      simp only [Option.bind_eq_bind, Option.bind_some, List.cons_append, List.head?_cons, if_true,
        List.tail_cons, hread (by omega)]
      rfl
  | cons next entries ih =>
    obtain ⟨name, value⟩ := entry
    cases fuel with
    | zero => omega
    | succ fuel =>
      rw [List.forall_mem_cons] at hreads
      rw [writeEntries, List.map_cons, separated_cons] at hfuel ⊢
      obtain ⟨other, inner⟩ := next
      rw [writeEntries, List.map_cons, List.flatMap_cons, List.cons_append, ← separated_cons,
        ← List.map_cons, ← writeEntries] at hfuel ⊢
      rw [List.length_append, List.length_cons, member, List.length_append, List.length_cons] at hfuel
      dsimp only at hfuel
      have hread := hreads.1 fuel (0x2c :: separated
        ((writeEntries numbers ((other, inner) :: entries)).map member) ++ 0x7d :: rest)
        (closing_cons _ _ (.inl rfl)) (by dsimp only; omega)
      have hrest := @ih _ fuel hreads.2 (by omega)
      dsimp only at hread
      rw [List.append_assoc, member, List.append_assoc, readEntries, readString_written]
      simp only [Option.bind_eq_bind, Option.bind_some, List.cons_append, List.head?_cons, if_true,
        List.tail_cons] at hread ⊢
      rw [hread]
      simp only [Option.bind_some, hrest]
      rfl

/-- What is written is read back. -/
theorem reads (tree : JsonTree N) : Reads numbers tree := by
  induction tree using JsonTree.induct with
  | hnull =>
    intro fuel rest _ hfuel
    obtain ⟨fuel, rfl⟩ := Nat.exists_eq_succ_of_ne_zero (Nat.ne_zero_of_lt hfuel)
    rfl
  | hbool value =>
    intro fuel rest _ hfuel
    obtain ⟨fuel, rfl⟩ := Nat.exists_eq_succ_of_ne_zero (Nat.ne_zero_of_lt hfuel)
    cases value <;> rfl
  | hnumber value =>
    intro fuel rest hclosing hfuel
    obtain ⟨fuel, rfl⟩ := Nat.exists_eq_succ_of_ne_zero (Nat.ne_zero_of_lt hfuel)
    obtain ⟨byte, bytes, hwrite, hstart⟩ := numbers.starts value
    have hnumber := readNumber_written numbers value hclosing
    rw [write]
    rw [hwrite, List.cons_append] at hnumber ⊢
    rw [readValue_number numbers hstart]
    exact hnumber
  | hstring value =>
    intro fuel rest _ hfuel
    obtain ⟨fuel, rfl⟩ := Nat.exists_eq_succ_of_ne_zero (Nat.ne_zero_of_lt hfuel)
    have hread := readString_written value rest
    rw [write]
    rw [string, List.cons_append, List.cons_append] at hread ⊢
    rw [readValue, hread]
    rfl
  | harray items ih =>
    intro fuel rest _ hfuel
    obtain ⟨fuel, rfl⟩ := Nat.exists_eq_succ_of_ne_zero (Nat.ne_zero_of_lt hfuel)
    cases items with
    | nil => rfl
    | cons item items =>
      obtain ⟨byte, bytes, hwrite, hbyte, _⟩ := write_cons numbers item
      rw [write, array, List.length_append, List.length_cons] at hfuel
      have hread : readItems numbers fuel (separated (writeItems numbers (item :: items)) ++
          0x5d :: rest) = some (item :: items, rest) := by
        apply readItems_written numbers ih
        simp only [List.length_singleton] at hfuel
        omega
      have htext : write numbers (.array (item :: items)) ++ rest =
          0x5b :: (separated (writeItems numbers (item :: items)) ++ 0x5d :: rest) := by
        simp [write, array]
      have hhead : (separated (writeItems numbers (item :: items)) ++ 0x5d :: rest).head? ≠
          some 0x5d := by
        rw [writeItems, separated_cons, hwrite]
        simpa using hbyte
      rw [htext, readValue, if_neg hhead, hread]
      rfl
  | hobject entries ih =>
    intro fuel rest _ hfuel
    obtain ⟨fuel, rfl⟩ := Nat.exists_eq_succ_of_ne_zero (Nat.ne_zero_of_lt hfuel)
    cases entries with
    | nil => rfl
    | cons entry entries =>
      rw [write, object, List.length_append, List.length_cons] at hfuel
      have hread : readEntries numbers fuel
          (separated ((writeEntries numbers (entry :: entries)).map member) ++ 0x7d :: rest) =
          some (entry :: entries, rest) := by
        apply readEntries_written numbers ih
        simp only [List.length_singleton] at hfuel
        omega
      have htext : write numbers (.object (entry :: entries)) ++ rest =
          0x7b :: (separated ((writeEntries numbers (entry :: entries)).map member) ++
            0x7d :: rest) := by
        simp [write, object]
      have hhead : (separated ((writeEntries numbers (entry :: entries)).map member) ++
          0x7d :: rest).head? ≠ some 0x7d := by
        obtain ⟨name, value⟩ := entry
        simp [writeEntries, separated_cons, member, string]
      rw [htext, readValue, if_neg hhead, hread]
      rfl

/-- The value whose text this is. -/
def read (text : Text) : Option (JsonTree N) :=
  match readValue numbers (text.length + 1) text with
  | some (tree, []) => some tree
  | _ => none

theorem read_write (tree : JsonTree N) : read numbers (write numbers tree) = some tree := by
  have hread := reads numbers tree ((write numbers tree).length + 1) [] (by
    intro byte hbyte
    cases hbyte) (Nat.lt_succ_self _)
  rw [List.append_nil] at hread
  rw [read, hread]

theorem write_injective : Function.Injective (write numbers) := by
  intro tree tree' h
  have hread := read_write numbers tree
  rw [h, read_write] at hread
  exact (Option.some.inj hread).symm

end Values

section Integers

/-- The number of decimal digits. -/
def readNatural (text : Text) : ℕ :=
  Nat.ofDigitChars 10 (text.map fun byte => Char.ofNat byte.toNat) 0

def readInteger : Text → Option ℤ
  | 0x2d :: digits => some (-readNatural digits)
  | digits => some (readNatural digits)

theorem toNat_digit {c : Char} (h : c.isDigit = true) : 0x30 ≤ c.toNat ∧ c.toNat ≤ 0x39 := by
  rw [Char.isDigit, Bool.and_eq_true, decide_eq_true_eq, decide_eq_true_eq] at h
  exact h

theorem toNat_digitByte {c : Char} (h : c.isDigit = true) : c.val.toUInt8.toNat = c.toNat := by
  have hdigit := toNat_digit h
  rw [UInt32.toNat_toUInt8]
  exact Nat.mod_eq_of_lt (by
    change c.toNat < 256
    omega)

theorem isDigit_of_toDigits {value : ℕ} {c : Char} (h : c ∈ Nat.toDigits 10 value) :
    c.isDigit = true :=
  Nat.isDigit_of_mem_toDigits (by omega) (by omega) h

theorem readNatural_written (value : ℕ) : readNatural (natural value) = value := by
  have hback : (natural value).map (fun byte => Char.ofNat byte.toNat) = Nat.toDigits 10 value := by
    rw [natural, List.map_map]
    nth_rewrite 2 [← List.map_id (Nat.toDigits 10 value)]
    refine List.map_congr_left fun c hc => ?_
    rw [Function.comp_apply, toNat_digitByte (isDigit_of_toDigits hc), Char.ofNat_toNat]
    rfl
  rw [readNatural, hback, Nat.ofDigitChars_ten_toDigits]

theorem natural_digits (value : ℕ) : ∀ byte ∈ natural value, 0x30 ≤ byte ∧ byte ≤ 0x39 := by
  intro byte hmem
  obtain ⟨c, hc, rfl⟩ := List.mem_map.mp hmem
  have hdigit := toNat_digit (isDigit_of_toDigits hc)
  have hbyte := toNat_digitByte (isDigit_of_toDigits hc)
  rw [UInt8.le_iff_toNat_le, UInt8.le_iff_toNat_le, hbyte]
  exact hdigit

theorem natural_cons (value : ℕ) :
    ∃ byte rest, natural value = byte :: rest ∧ 0x30 ≤ byte ∧ byte ≤ 0x39 := by
  have hpos := length_natural_pos value
  have hdigits := natural_digits value
  cases htext : natural value with
  | nil =>
    rw [htext] at hpos
    exact absurd hpos (lt_irrefl 0)
  | cons byte rest => exact ⟨byte, rest, rfl, hdigits byte (htext ▸ List.mem_cons_self)⟩

/-- Whole numbers. -/
def integers : Numbers ℤ where
  natural value := value
  natural_injective := Nat.cast_injective
  write := integer
  read := readInteger
  read_write := by
    intro value
    cases value with
    | ofNat value =>
      obtain ⟨byte, rest, htext, hlow, _⟩ := natural_cons value
      have hread := readNatural_written value
      have hminus : byte ≠ 0x2d := by
        rintro rfl
        exact absurd hlow (by decide)
      change readInteger (natural value) = some (value : ℤ)
      rw [htext] at hread ⊢
      unfold readInteger
      split
      · next heq => exact absurd (List.cons.inj heq).1 hminus
      · rw [hread]
    | negSucc value =>
      change some (-(readNatural (natural (value + 1)) : ℤ)) = _
      rw [readNatural_written]
      rfl
  numeric := by
    intro value byte hmem
    cases value with
    | ofNat value => exact .inl (natural_digits value byte hmem)
    | negSucc value =>
      rcases List.mem_cons.mp hmem with rfl | hmem
      · exact .inr (by decide)
      · exact .inl (natural_digits _ byte hmem)
  starts := by
    intro value
    cases value with
    | ofNat value =>
      obtain ⟨byte, rest, htext, hdigit⟩ := natural_cons value
      exact ⟨byte, rest, htext, .inl hdigit⟩
    | negSucc value => exact ⟨_, _, rfl, .inr rfl⟩

end Integers

end BirdCode.Lib.Json
