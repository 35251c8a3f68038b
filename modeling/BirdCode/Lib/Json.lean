import Mathlib

/-! Compact JSON text, put together from the text of its parts, and how many bytes it takes. -/
namespace BirdCode.Lib.Json

abbrev Text := List UInt8

/-- The items with a comma between each two. -/
def separated (items : List Text) : Text := (items.intersperse [0x2c]).flatten

def ascii (text : String) : Text := text.toList.map fun c => c.val.toUInt8

/-- The digit of a value below sixteen. -/
def hexDigit (value : ℕ) : UInt8 :=
  if value < 10 then (0x30 + value).toUInt8 else (0x57 + value).toUInt8

/-- Quotes, backslashes and control characters are escaped, and no other character. -/
def escaped (c : Char) : Text :=
  if c = '"' then [0x5c, 0x22]
  else if c = '\\' then [0x5c, 0x5c]
  else if c.toNat = 0x08 then [0x5c, 0x62]
  else if c.toNat = 0x09 then [0x5c, 0x74]
  else if c.toNat = 0x0a then [0x5c, 0x6e]
  else if c.toNat = 0x0c then [0x5c, 0x66]
  else if c.toNat = 0x0d then [0x5c, 0x72]
  else if c.toNat < 0x20 then
    [0x5c, 0x75, 0x30, 0x30, hexDigit (c.toNat / 16), hexDigit (c.toNat % 16)]
  else String.utf8EncodeChar c

def string (value : String) : Text := 0x22 :: value.toList.flatMap escaped ++ [0x22]

def natural (value : ℕ) : Text := (Nat.toDigits 10 value).map fun c => c.val.toUInt8

def integer : ℤ → Text
  | .ofNat value => natural value
  | .negSucc value => 0x2d :: natural (value + 1)

def null : Text := ascii "null"

def boolean (value : Bool) : Text := if value then ascii "true" else ascii "false"

def option {T : Type*} (write : T → Text) : Option T → Text
  | none => null
  | some value => write value

def array (items : List Text) : Text := 0x5b :: separated items ++ [0x5d]

def member (field : String × Text) : Text := string field.1 ++ 0x3a :: field.2

def object (fields : List (String × Text)) : Text :=
  0x7b :: separated (fields.map member) ++ [0x7d]

section Length

theorem length_separated (items : List Text) :
    (separated items).length = (items.map List.length).sum + (items.length - 1) := by
  induction items with
  | nil => rfl
  | cons item rest ih =>
    cases rest with
    | nil => simp [separated]
    | cons next rest =>
      simp only [separated, List.intersperse_cons_cons, List.flatten_cons, List.length_append]
        at ih ⊢
      simp only [ih, List.map_cons, List.sum_cons, List.length_cons, List.length_nil]
      omega

@[simp] theorem length_array (items : List Text) :
    (array items).length = (items.map List.length).sum + (items.length - 1) + 2 := by
  simp [array, length_separated]

/-- One more item takes its own text, and a comma when it is not the first. -/
theorem length_array_concat (items : List Text) (item : Text) :
    (array (items ++ [item])).length =
      (array items).length + item.length + if items.length = 0 then 0 else 1 := by
  simp only [length_array, List.map_append, List.sum_append, List.length_append, List.map_cons,
    List.map_nil, List.sum_singleton, List.length_singleton]
  split <;> omega

/-- What an object takes besides the values: its braces, its commas, and its names. -/
def framing (names : List String) : ℕ :=
  (names.map fun name => (string name).length + 1).sum + (names.length - 1) + 2

theorem length_object (fields : List (String × Text)) :
    (object fields).length =
      framing (fields.map Prod.fst) + (fields.map fun field => field.2.length).sum := by
  have hmembers : (fields.map fun field => (member field).length).sum =
      (fields.map fun field => (string field.1).length + 1).sum +
        (fields.map fun field => field.2.length).sum := by
    rw [← List.sum_map_add]
    congr 1
    refine List.map_congr_left fun field _ => ?_
    simp only [member, List.length_append, List.length_cons]
    omega
  simp only [object, framing, List.length_append, List.length_cons, List.length_nil,
    length_separated, List.length_map, List.map_map, Function.comp_def, hmembers]
  omega

@[simp] theorem length_natural (value : ℕ) :
    (natural value).length = (Nat.toDigits 10 value).length :=
  List.length_map ..

theorem length_natural_le {value count : ℕ} (hcount : 0 < count) (h : value < 10 ^ count) :
    (natural value).length ≤ count := by
  rw [length_natural]
  exact (Nat.length_toDigits_le_iff (by omega) hcount).mpr h

theorem length_natural_pos (value : ℕ) : 0 < (natural value).length := by
  rw [length_natural]
  exact Nat.length_toDigits_pos

theorem length_natural_mono {value bound : ℕ} (h : value ≤ bound) :
    (natural value).length ≤ (natural bound).length := by
  have hbound : bound < 10 ^ (natural bound).length :=
    (Nat.length_toDigits_le_iff (by omega) (length_natural_pos bound)).mp (length_natural bound).ge
  exact length_natural_le (length_natural_pos bound) (h.trans_lt hbound)

theorem length_natural_uint64 (value : UInt64) : (natural value.toNat).length ≤ 20 :=
  length_natural_le (by omega) (value.toNat_lt.trans (by decide))

theorem length_natural_uint32 (value : UInt32) : (natural value.toNat).length ≤ 10 :=
  length_natural_le (by omega) (value.toNat_lt.trans (by decide))

/-- Text without characters to escape takes its own bytes and the quotes. -/
theorem length_string_of_plain {value : String}
    (h : ∀ c ∈ value.toList, escaped c = String.utf8EncodeChar c) :
    (string value).length = value.utf8ByteSize + 2 := by
  have hplain : value.toList.flatMap escaped = value.toList.flatMap String.utf8EncodeChar :=
    List.flatMap_congr h
  have hbytes : (value.toList.flatMap String.utf8EncodeChar).length = value.utf8ByteSize := by
    rw [← String.size_toByteArray, ← String.utf8Encode_toList, List.utf8Encode,
      List.size_toByteArray]
  simp only [string, List.length_append, List.length_cons, List.length_nil, hplain, hbytes]

theorem length_boolean_le (value : Bool) : (boolean value).length ≤ 5 := by
  cases value <;> decide

end Length

end BirdCode.Lib.Json
