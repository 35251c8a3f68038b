import BirdCode.Lib.JsonReading

/-! The canonical text of a JSON value. Values have the same text exactly if they are the same value, in
whatever order their entries were put in. -/
namespace BirdCode.Prompting

open Lib Lib.Json

variable {N : Type} (numbers : Numbers N)

section Encode

mutual

/-- `canonical::encode`. The entries move with their texts, so that it makes no difference that they are
written before they are sorted. -/
def encode : JsonTree N → Text
  | .null => null
  | .bool value => boolean value
  | .number value => numbers.write value
  | .string value => string value
  | .array items => array (encodeItems items)
  | .object entries => object (sortBy Prod.fst (encodeEntries entries))

def encodeItems : List (JsonTree N) → List Text
  | [] => []
  | item :: items => encode item :: encodeItems items

def encodeEntries : List (String × JsonTree N) → List (String × Text)
  | [] => []
  | (name, value) :: entries => (name, encode value) :: encodeEntries entries

end

variable {items : List (JsonTree N)} {entries : List (String × JsonTree N)}

theorem encodeItems_eq : encodeItems numbers items = items.map (encode numbers) := by
  induction items with
  | nil => rfl
  | cons item items ih => rw [encodeItems, ih, List.map_cons]

theorem encodeEntries_eq :
    encodeEntries numbers entries = entries.map fun entry => (entry.1, encode numbers entry.2) := by
  induction entries with
  | nil => rfl
  | cons entry entries ih => rw [encodeEntries, ih, List.map_cons]

/-- The canonical text is the compact text of the sorted value. -/
theorem encode_eq_write (tree : JsonTree N) : encode numbers tree = write numbers tree.sorted := by
  induction tree using JsonTree.induct with
  | hnull | hbool | hnumber | hstring => rfl
  | harray items ih =>
    rw [encode, JsonTree.sorted, write, encodeItems_eq, writeItems_eq, sortedItems_eq, List.map_map]
    congr 1
    exact List.map_congr_left ih
  | hobject entries ih =>
    rw [encode, JsonTree.sorted, write, encodeEntries_eq, writeEntries_eq, sortedEntries_eq]
    congr 1
    have hentries : (entries.map fun entry => (entry.1, encode numbers entry.2)) =
        (entries.map fun entry => (entry.1, entry.2.sorted)).map
          fun entry => (entry.1, write numbers entry.2) := by
      rw [List.map_map]
      refine List.map_congr_left fun entry hmem => ?_
      rw [ih entry hmem]
      rfl
    rw [hentries, sortBy, sortBy, List.map_mergeSort]
    intro _ _ _ _
    rfl

end Encode

section Exact

variable {a b : JsonTree N}

theorem encode_eq_iff (ha : a.distinct = true) (hb : b.distinct = true) :
    encode numbers a = encode numbers b ↔ Same a b := by
  rw [encode_eq_write, encode_eq_write, (write_injective numbers).eq_iff]
  constructor
  · exact same_of_sorted ha hb
  · intro h
    exact h.sorted ha hb

/-- `serde_json::from_str`, which reads back a value that was written. -/
structure Parser (numbers : Numbers N) where
  parse : Text → Option (Value N)
  reads : ∀ value : Value N, ∃ read, parse (write numbers value.tree) = some read ∧
    Same read.tree value.tree

theorem parse_encode (parser : Parser numbers) (ha : a.distinct = true) :
    ∃ read, parser.parse (encode numbers a) = some read ∧ Same read.tree a := by
  obtain ⟨read, hparse, hsame⟩ := parser.reads ⟨a.sorted, distinct_sorted ha⟩
  refine ⟨read, ?_, same_of_sorted read.distinct ha ?_⟩
  · rw [encode_eq_write]
    exact hparse
  · rw [hsame.sorted read.distinct (distinct_sorted ha), sorted_sorted ha]

/-- The reader of compact text. -/
def reader (numbers : Numbers N) : Parser numbers where
  parse text := (read numbers text).bind fun tree =>
    if h : tree.distinct = true then some ⟨tree, h⟩ else none
  reads value := ⟨value, by rw [read_write, Option.bind_some, dif_pos value.distinct],
    same_of_sorted value.distinct value.distinct rfl⟩

end Exact

end BirdCode.Prompting
