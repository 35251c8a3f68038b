import Mathlib

/-! Trees with named children, walked in the order of the names: what lies at most so many levels
below a node, each with its path, in strictly increasing order of the paths. -/
namespace BirdCode.Lib

variable {K A D : Type*}

inductive OrderedTree (K A D : Type*)
  | leaf (value : A)
  | branch (label : D) (children : List (K × OrderedTree K A D))

namespace OrderedTree

section Walk

variable [BEq K]

/-- The node at a path. -/
def lookup : OrderedTree K A D → List K → Option (OrderedTree K A D)
  | tree, [] => some tree
  | .leaf _, _ :: _ => none
  | .branch _ children, name :: path =>
    match children.lookup name with
    | none => none
    | some child => child.lookup path

def sortedNames [LE K] [DecidableLE K] (children : List (K × OrderedTree K A D)) : List K :=
  (children.map Prod.fst).mergeSort

/-- Everything at most so many levels below, a node before what is below it. -/
def under [LE K] [DecidableLE K] :
    ℕ → OrderedTree K A D → List (List K × OrderedTree K A D)
  | 0, _ => []
  | _ + 1, .leaf _ => []
  | levels + 1, .branch _ children => (sortedNames children).flatMap fun name =>
    match children.lookup name with
    | none => []
    | some child =>
      ([name], child) :: (under levels child).map fun (path, node) => (name :: path, node)

/-- No two children of one node have the same name. -/
def Distinct (tree : OrderedTree K A D) : Prop :=
  ∀ path label children, tree.lookup path = some (.branch label children) →
    (children.map Prod.fst).Nodup

end Walk

section Laws

variable [BEq K] {tree child : OrderedTree K A D} {label : D} {levels : ℕ}
  {children : List (K × OrderedTree K A D)} {name : K} {path : List K}

theorem lookup_cons (hchild : children.lookup name = some child) (path : List K) :
    (branch label children).lookup (name :: path) = child.lookup path := by
  rw [lookup, hchild]

theorem lookup_append (first second : List K) (tree : OrderedTree K A D) :
    tree.lookup (first ++ second) = (tree.lookup first).bind (·.lookup second) := by
  induction first generalizing tree with
  | nil => rfl
  | cons name rest ih =>
    cases tree with
    | leaf value => rfl
    | branch label children =>
      rw [List.cons_append, lookup, lookup]
      cases children.lookup name with
      | none => rfl
      | some child => exact ih child

theorem Distinct.of_child (h : (branch label children).Distinct)
    (hchild : children.lookup name = some child) : child.Distinct := by
  intro path label children hpath
  apply h (name :: path) label children
  rw [lookup_cons hchild]
  exact hpath

theorem Distinct.of_lookup (h : tree.Distinct) (hpath : tree.lookup path = some child) :
    child.Distinct := by
  intro rest label children hrest
  apply h (path ++ rest) label children
  rw [lookup_append, hpath]
  exact hrest

variable [LE K] [DecidableLE K]

omit [BEq K] in
theorem mem_sortedNames : name ∈ sortedNames children ↔ ∃ child, (name, child) ∈ children := by
  rw [sortedNames, List.mem_mergeSort]
  simp

/-- What lies below a node is what a path of the allowed length leads to. -/
theorem mem_under [LawfulBEq K] {node : OrderedTree K A D} : (path, node) ∈ tree.under levels ↔
    path ≠ [] ∧ path.length ≤ levels ∧ tree.lookup path = some node := by
  induction levels generalizing tree path with
  | zero =>
    simp only [under, List.not_mem_nil, false_iff]
    rintro ⟨hpath, hlength, _⟩
    exact hpath (List.length_eq_zero_iff.mp (by omega))
  | succ levels ih =>
    cases tree with
    | leaf value =>
      simp only [under, List.not_mem_nil, false_iff]
      rintro ⟨hpath, _, hlookup⟩
      cases path with
      | nil => exact hpath rfl
      | cons name rest => cases hlookup
    | branch label children =>
      simp only [under, List.mem_flatMap]
      constructor
      · rintro ⟨name, _, hmem⟩
        cases hchild : children.lookup name with
        | none =>
          rw [hchild] at hmem
          cases hmem
        | some child =>
          rw [hchild] at hmem
          rcases List.mem_cons.mp hmem with heq | hmem
          · cases heq
            refine ⟨by simp, by simp, ?_⟩
            rw [lookup_cons hchild]
            rfl
          · obtain ⟨⟨rest, found⟩, hfound, heq⟩ := List.mem_map.mp hmem
            cases heq
            obtain ⟨_, hlength, hlookup⟩ := ih.mp hfound
            refine ⟨by simp, by simpa using hlength, ?_⟩
            rw [lookup_cons hchild]
            exact hlookup
      · rintro ⟨hpath, hlength, hlookup⟩
        cases path with
        | nil => exact absurd rfl hpath
        | cons name rest =>
          cases hchild : children.lookup name with
          | none =>
            rw [lookup, hchild] at hlookup
            cases hlookup
          | some child =>
            rw [lookup_cons hchild] at hlookup
            have hmem : (name, child) ∈ children := by
              obtain ⟨before, after, heq, _⟩ := List.lookup_eq_some_iff.mp hchild
              rw [heq]
              simp
            refine ⟨name, mem_sortedNames.mpr ⟨child, hmem⟩, ?_⟩
            rw [hchild]
            cases rest with
            | nil =>
              cases hlookup
              exact List.mem_cons_self
            | cons next rest =>
              refine List.mem_cons_of_mem _ (List.mem_map.mpr ⟨(next :: rest, node), ?_, rfl⟩)
              exact ih.mpr ⟨by simp, by simpa using hlength, hlookup⟩

end Laws

section Order

variable [LE K] [LT K] [DecidableLE K] [Std.IsLinearOrder K] [Std.LawfulOrderLT K] {tree : OrderedTree K A D} {label : D} {levels : ℕ}
  {children : List (K × OrderedTree K A D)}

theorem sortedNames_sorted (h : (children.map Prod.fst).Nodup) :
    (sortedNames children).Pairwise (· < ·) := by
  have hle : (sortedNames children).Pairwise (· ≤ ·) := by
    have hsorted : (sortedNames children).Pairwise fun a b => decide (a ≤ b) = true := by
      apply List.pairwise_mergeSort
      · intro a b c hab hbc
        exact decide_eq_true (Std.le_trans (of_decide_eq_true hab) (of_decide_eq_true hbc))
      · intro a b
        simpa using Std.le_total
    exact hsorted.imp of_decide_eq_true
  have hnodup : (sortedNames children).Nodup :=
    (List.mergeSort_perm (children.map Prod.fst) _).nodup_iff.mpr h
  exact (hle.and hnodup).imp fun ⟨hab, hne⟩ => Std.lt_of_le_of_ne hab hne

/-- A walk meets its paths in strictly increasing order. -/
theorem under_sorted [BEq K] [LawfulBEq K] (h : tree.Distinct) :
    (tree.under levels).Pairwise fun first second => first.1 < second.1 := by
  induction levels generalizing tree with
  | zero => exact List.Pairwise.nil
  | succ levels ih =>
    cases tree with
    | leaf value => exact List.Pairwise.nil
    | branch label children =>
      rw [under, List.pairwise_flatMap]
      constructor
      · intro name _
        cases hchild : children.lookup name with
        | none => exact List.Pairwise.nil
        | some child =>
          refine List.pairwise_cons.mpr ⟨?_, ?_⟩
          · rintro ⟨path, node⟩ hmem
            obtain ⟨⟨rest, found⟩, hfound, heq⟩ := List.mem_map.mp hmem
            cases heq
            obtain ⟨hrest, _, _⟩ := mem_under.mp hfound
            rw [List.cons_lt_cons_iff]
            refine .inr ⟨rfl, ?_⟩
            cases rest with
            | nil => exact absurd rfl hrest
            | cons next rest => exact List.nil_lt_cons next rest
          · refine List.pairwise_map.mpr ((ih (h.of_child hchild)).imp ?_)
            intro first second hlt
            rw [List.cons_lt_cons_iff]
            exact .inr ⟨rfl, hlt⟩
      · refine (sortedNames_sorted (h [] label children rfl)).imp ?_
        -- two subtrees are ordered by the names that lead to them
        intro first second hlt one hone two htwo
        have hhead : ∀ (name : K) (item : List K × OrderedTree K A D),
            (item ∈ match children.lookup name with
              | none => []
              | some child => ([name], child) ::
                (under levels child).map fun (path, node) => (name :: path, node)) →
            ∃ rest, item.1 = name :: rest := by
          intro name item hitem
          cases hchild : children.lookup name with
          | none =>
            rw [hchild] at hitem
            cases hitem
          | some child =>
            rw [hchild] at hitem
            rcases List.mem_cons.mp hitem with rfl | hmem
            · exact ⟨[], rfl⟩
            · obtain ⟨⟨rest, found⟩, _, rfl⟩ := List.mem_map.mp hmem
              exact ⟨rest, rfl⟩
        obtain ⟨_, hfirst⟩ := hhead first one hone
        obtain ⟨_, hsecond⟩ := hhead second two htwo
        rw [hfirst, hsecond, List.cons_lt_cons_iff]
        exact .inl hlt

end Order

end OrderedTree

end BirdCode.Lib
