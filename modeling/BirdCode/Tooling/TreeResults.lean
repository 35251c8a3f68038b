import BirdCode.Tooling.Coherence
import BirdCode.Tooling.ResultBudget
import BirdCode.Tooling.Walks

/-! A tree result answers its operation and stays within the bytes of an artifact. -/
namespace BirdCode.Tooling

open Store Lib

section Listings

variable {bounds : RepositoryToolBounds} {names : List Bytes} {before after : Listed}

/-- The two counters of a walk are within the limits of a listing. -/
structure Listed.Within (bounds : RepositoryToolBounds) (listed : Listed) : Prop where
  entries : listed.directoryEntriesScanned ≤ bounds.maxDirectoryEntriesScanned.toUInt64
  nameBytes : listed.directoryNameBytesScanned ≤ bounds.maxDirectoryNameBytesScanned

theorem Listed.within_zero : Listed.Within bounds ⟨0, 0⟩ :=
  ⟨UInt64.zero_le, UInt64.zero_le⟩

theorem countName_within {name : Bytes} (h : countName bounds before name = .ok after) :
    after.Within bounds := by
  simp only [countName, bind_eq_ok, ensure_eq_ok, pure, Except.pure, Except.ok.injEq] at h
  obtain ⟨_, hentries, _, _, _, hbytes, rfl⟩ := h
  exact ⟨hentries, hbytes⟩

theorem countNames_within (hbefore : before.Within bounds)
    (h : names.foldlM (countName bounds) before = .ok after) : after.Within bounds := by
  induction names generalizing before with
  | nil =>
    cases h
    exact hbefore
  | cons name rest ih =>
    rw [List.foldlM_cons, bind_eq_ok] at h
    obtain ⟨middle, hmiddle, hrest⟩ := h
    exact ih (countName_within hmiddle) hrest

theorem directoryNames_within {children : List (Bytes × Node)} (hbefore : before.Within bounds)
    (h : directoryNames bounds children before = .ok (names, after)) : after.Within bounds := by
  simp only [directoryNames, bind_eq_ok, pure, Except.pure, Except.ok.injEq, Prod.mk.injEq] at h
  obtain ⟨listed, hlisted, _, rfl⟩ := h
  exact countNames_within hbefore hlisted

/-- What holds of all pairs holds of the neighbours. -/
theorem adjacentAll_of_pairwise {T : Type} {rule : T → T → Bool} {items : List T}
    (h : items.Pairwise fun first second => rule first second = true) :
    adjacentAll rule items = true := by
  unfold adjacentAll
  induction items with
  | nil => rfl
  | cons first rest ih =>
    obtain ⟨hfirst, hrest⟩ := List.pairwise_cons.mp h
    cases rest with
    | nil => rfl
    | cons second rest =>
      rw [List.tail_cons, List.zip_cons_cons, List.all_cons, Bool.and_eq_true]
      exact ⟨hfirst second List.mem_cons_self, ih hrest⟩

theorem pathHasPrefixWithDepth_append {path : RepositoryRelativePath} {below : List Bytes}
    {maxDepth : UInt32} (hbelow : below ≠ []) (hlength : below.length ≤ maxDepth.toNat) :
    pathHasPrefixWithDepth (.unix (path.unixComponents ++ below)) path maxDepth = true := by
  have hpositive := List.length_pos_of_ne_nil hbelow
  unfold pathHasPrefixWithDepth
  simp only [RepositoryRelativePath.unixComponents, List.length_append, Bool.and_eq_true,
    decide_eq_true_eq]
  refine ⟨⟨?_, by omega⟩, by omega⟩
  rw [List.isPrefixOf_iff_prefix]
  exact List.prefix_append _ _

end Listings

section Walk

variable {request : WalkRequest} {maxEntries : UInt32} {ceiling : UInt64} {walker : TreeWalker}
  {done : List RepositoryNode}

def entryOf (found : RepositoryNode) : RepositoryTreeEntry := treeEntry found.2 found.1

/-- A walker has kept the first of the nodes it met, all of them unless it is truncated, within its
limits. -/
structure Treed (request : WalkRequest) (maxEntries : UInt32) (ceiling : UInt64)
    (walker : TreeWalker) (done : List RepositoryNode) : Prop where
  kept : walker.entries <+: done.map entryOf
  running : walker.truncated = false → walker.entries = done.map entryOf
  stopped : walker.truncated = true → walker.entries.length < done.length ∧
    (maxEntries.toNat ≤ walker.entries.length ∨
      ∃ next, walker.entries ++ [next] <+: done.map entryOf ∧
        ceiling.toNat < treeLength (widestTree (walker.entries ++ [next])))
  entries : walker.entries.length ≤ maxEntries.toNat
  charged : Charged walker.artifactBudget ceiling (treeLength (widestTree walker.entries))
    walker.entries.length 0
  listed : walker.listed.Within request.bounds

/-- A node that does not fit truncates the walk, and any other is kept. -/
theorem Treed.admitNode (h : Treed request maxEntries ceiling walker done)
    (hrunning : walker.truncated = false) (hroom : walker.entries.length < maxEntries.toNat)
    (path : RepositoryRelativePath) (node : Node) :
    Treed request maxEntries ceiling (walker.admitNode node path) (done ++ [(path, node)]) := by
  have hall := h.running hrunning
  have hdone : (done ++ [(path, node)]).map entryOf = walker.entries ++ [treeEntry node path] := by
    rw [List.map_append, ← hall]
    rfl
  unfold TreeWalker.admitNode
  dsimp only
  split
  · next hadmits =>
    refine ⟨?_, ?_, ?_, ?_, ?_, h.listed⟩
    · rw [hdone]
    · intro _
      exact hdone.symm
    · intro htruncated
      rw [hrunning] at htruncated
      cases htruncated
    · rw [List.length_append, List.length_singleton]
      exact hroom
    · have hcommit := h.charged.commitPrimary hadmits
      dsimp only
      rw [treeLength_concat, List.length_append, List.length_singleton]
      exact hcommit
  · next hfull =>
    refine ⟨?_, ?_, ?_, h.entries, h.charged, h.listed⟩
    · rw [hdone]
      exact List.prefix_append _ _
    · intro hopen
      cases hopen
    · intro _
      have hlength : walker.entries.length = done.length := by rw [hall, List.length_map]
      dsimp only
      refine ⟨?_, .inr ⟨treeEntry node path, ?_, ?_⟩⟩
      · rw [List.length_append, List.length_singleton]
        omega
      · rw [hdone]
      · rw [treeLength_concat]
        have hiff := h.charged.admits_primary (treeEntry node path).json
        have hover := mt hiff.mpr hfull
        omega

theorem treed_keeps : TreeKeeps request maxEntries (Treed request maxEntries ceiling) := by
  refine ⟨?_, ?_, ?_, ?_⟩
  · intro walker done children names listed hlisted h
    exact ⟨h.kept, h.running, h.stopped, h.entries, h.charged,
      directoryNames_within h.listed hlisted⟩
  · intro walker done path node h hrunning hfull
    have hall := h.running hrunning
    refine ⟨?_, ?_, ?_, h.entries, h.charged, h.listed⟩
    · rw [List.map_append]
      exact h.kept.trans (List.prefix_append _ _)
    · intro hopen
      cases hopen
    · intro _
      have hlength : walker.entries.length = done.length := by rw [hall, List.length_map]
      dsimp only
      refine ⟨?_, .inl hfull⟩
      rw [List.length_append, List.length_singleton]
      omega
  · intro walker done path node h hrunning hroom _
    exact h.admitNode hrunning hroom path node
  · intro walker done more htruncated h
    obtain ⟨hproper, hreason⟩ := h.stopped htruncated
    refine ⟨?_, ?_, ?_, h.entries, h.charged, h.listed⟩
    · rw [List.map_append]
      exact h.kept.trans (List.prefix_append _ _)
    · intro hopen
      rw [htruncated] at hopen
      cases hopen
    · intro _
      refine ⟨?_, ?_⟩
      · rw [List.length_append]
        omega
      · rcases hreason with hlimit | ⟨next, hnext, hceiling⟩
        · exact .inl hlimit
        · refine .inr ⟨next, ?_, hceiling⟩
          rw [List.map_append]
          exact hnext.trans (List.prefix_append _ _)

end Walk

section Result

variable {base64 : Bytes → String} {root directory : Node} {path : RepositoryRelativePath}
  {maxDepth maxEntries : UInt32} {bounds : RepositoryToolBounds} {levels : ℕ}
  {result : RepositoryTreeResult}

theorem mem_nodesUnder {found : RepositoryRelativePath} {node : Node} :
    (found, node) ∈ nodesUnder levels directory path ↔ ∃ below, below ≠ [] ∧
      below.length ≤ levels ∧ found = .unix (path.unixComponents ++ below) ∧
        directory.lookup below = some node := by
  unfold nodesUnder
  rw [List.mem_map]
  constructor
  · rintro ⟨⟨below, found⟩, hmem, heq⟩
    cases heq
    obtain ⟨hbelow, hlength, hlookup⟩ := OrderedTree.mem_under.mp hmem
    exact ⟨below, hbelow, hlength, rfl, hlookup⟩
  · rintro ⟨below, hbelow, hlength, rfl, hlookup⟩
    exact ⟨_, OrderedTree.mem_under.mpr ⟨hbelow, hlength, hlookup⟩, rfl⟩

theorem nodesUnder_sorted (h : directory.Distinct) :
    (nodesUnder levels directory path).Pairwise fun first second =>
      pathBefore first.1 second.1 := by
  unfold nodesUnder
  refine List.pairwise_map.mpr ((OrderedTree.under_sorted h).imp ?_)
  intro first second hlt
  exact pathBefore_append hlt

/-- The entry of a regular file has its length, and no other has one. -/
theorem treeEntry_byteLen {node : Node} (h : WellFormed node) :
    (match (treeEntry node path).kind with
      | .regularFile => (treeEntry node path).byteLen.isSome
      | _ => (treeEntry node path).byteLen.isNone) = true := by
  cases node with
  | branch label children => rfl
  | leaf value =>
    cases value with
    | regularFile identity content =>
      have hlength := h.byteLen [] identity content rfl
      have hnonneg : ¬ identity.byteLen.toInt < 0 := by omega
      simp [treeEntry, nodeKind, Tooling.identity, hnonneg]
    | symlink identity => rfl
    | other identity => rfl

/-- What a successful tree has opened, walked and returned. -/
theorem tree_eq_ok (hroot : WellFormed root)
    (h : tree base64 root path maxDepth maxEntries bounds = .ok result) :
    ∃ start walker, WellFormed start ∧ root.lookup path.unixComponents = some start ∧
      Treed ⟨bounds, (identity root).device⟩ maxEntries bounds.maxArtifactBytes walker
        (nodesUnder maxDepth.toNat start path) ∧
      result = {
        entries := walker.entries
        directoryEntriesScanned := walker.listed.directoryEntriesScanned
        directoryNameBytesScanned := walker.listed.directoryNameBytesScanned
        truncated := walker.truncated } := by
  simp only [tree, bind_eq_ok, pure, Except.pure, Except.ok.injEq] at h
  obtain ⟨budget, hbudget, start, hopen, walker, hwalk, rfl⟩ := h
  have hstart := hroot.of_lookup (openDirectory_eq_ok hopen)
  have hcharged := charged_new (treeLength_pos _) preflightSize_tree hbudget
  have hfirst : Treed ⟨bounds, (identity root).device⟩ maxEntries bounds.maxArtifactBytes
      { entries := [], artifactBudget := budget, listed := ⟨0, 0⟩, truncated := false } [] :=
    ⟨List.nil_prefix, fun _ => rfl, fun h => Bool.noConfusion h, Nat.zero_le _, hcharged,
      Listed.within_zero⟩
  have hkept := tree_walk_keeps treed_keeps hstart hwalk hfirst
  rw [List.nil_append] at hkept
  exact ⟨start, walker, hstart, openDirectory_eq_ok hopen, hkept, rfl⟩

theorem tree_coherent (hroot : WellFormed root)
    (h : tree base64 root path maxDepth maxEntries bounds = .ok result) :
    treeIsCoherent bounds path maxDepth maxEntries result = true := by
  obtain ⟨start, walker, hstart, _, hkept, rfl⟩ := tree_eq_ok hroot h
  have hsorted : ((nodesUnder maxDepth.toNat start path).map entryOf).Pairwise
      fun first second => pathBefore first.path second.path :=
    List.pairwise_map.mpr (nodesUnder_sorted hstart.distinct)
  unfold treeIsCoherent
  simp only [Bool.and_eq_true, decide_eq_true_eq, List.all_eq_true]
  refine ⟨⟨⟨⟨hkept.entries, hkept.listed.entries⟩, hkept.listed.nameBytes⟩,
    adjacentAll_of_pairwise (hsorted.sublist hkept.kept.sublist)⟩, ?_⟩
  intro entry hentry
  obtain ⟨⟨found, node⟩, hmem, rfl⟩ := List.mem_map.mp (hkept.kept.subset hentry)
  obtain ⟨below, hbelow, hlength, rfl, hlookup⟩ := mem_nodesUnder.mp hmem
  exact ⟨pathHasPrefixWithDepth_append hbelow hlength,
    treeEntry_byteLen (hstart.of_lookup hlookup)⟩

theorem tree_length_le (hroot : WellFormed root)
    (h : tree base64 root path maxDepth maxEntries bounds = .ok result) :
    treeLength result ≤ bounds.maxArtifactBytes.toNat := by
  obtain ⟨start, walker, _, _, hkept, rfl⟩ := tree_eq_ok hroot h
  exact (treeLength_le _).trans hkept.charged.within

end Result

section Exact

/-- The nodes at most so many levels below a path. -/
structure RepositoryNodes (root : Node) (path : RepositoryRelativePath) (levels : ℕ)
    (nodes : List RepositoryNode) : Prop where
  ordered : nodes.Pairwise fun first second => pathBefore first.1 second.1
  complete : ∀ found node, (found, node) ∈ nodes ↔ ∃ below, below ≠ [] ∧
    below.length ≤ levels ∧ found = .unix (path.unixComponents ++ below) ∧
      root.lookup (path.unixComponents ++ below) = some node

/-- A node under its path, with its kind, and its length if it is a regular file. -/
def describe (found : RepositoryNode) : RepositoryTreeEntry where
  path := found.1
  kind := nodeKind found.2
  byteLen := match found.2 with
    | .leaf (.regularFile _ content) => some (.ofNat content.length)
    | _ => none

/-- A tree result over nodes in the order of their paths. -/
structure TreeExact (nodes : List RepositoryNode) (result : RepositoryTreeResult) : Prop where
  ordered : result.entries.Pairwise fun first second => pathBefore first.path second.path
  listed : result.entries <+: nodes.map describe
  truncated : result.truncated = true ↔ result.entries ≠ nodes.map describe
  unfollowed : ∀ link ∈ result.entries, link.kind ≠ .directory → ∀ entry ∈ result.entries,
    ∀ below ≠ [], entry.path.unixComponents ≠ link.path.unixComponents ++ below

variable {base64 : Bytes → String} {root start : Node} {path : RepositoryRelativePath}
  {maxDepth maxEntries fewer : UInt32} {bounds : RepositoryToolBounds} {levels : ℕ}
  {result smaller : RepositoryTreeResult} {nodes : List RepositoryNode}

theorem entryOf_eq_describe {found : RepositoryNode} (h : WellFormed found.2) :
    entryOf found = describe found := by
  obtain ⟨path, node⟩ := found
  cases node with
  | branch label children => rfl
  | leaf value =>
    cases value with
    | regularFile identity content =>
      have hlength : identity.byteLen.toInt = content.length := h.byteLen [] identity content rfl
      have hnonneg : ¬ identity.byteLen.toInt < 0 := by omega
      simp [entryOf, describe, treeEntry, nodeKind, Tooling.identity, fileByteLen, hlength]
    | symlink identity => rfl
    | other identity => rfl

theorem nodesUnder_repositoryNodes (levels : ℕ) (hroot : WellFormed root)
    (hpath : root.lookup path.unixComponents = some start) :
    RepositoryNodes root path levels (nodesUnder levels start path) := by
  refine ⟨nodesUnder_sorted (hroot.of_lookup hpath).distinct, ?_⟩
  intro found node
  rw [mem_nodesUnder]
  simp only [OrderedTree.lookup_append, hpath, Option.bind_some]

theorem RepositoryNodes.wellFormed (h : RepositoryNodes root path levels nodes)
    (hroot : WellFormed root) {found : RepositoryNode} (hmem : found ∈ nodes) :
    WellFormed found.2 := by
  obtain ⟨below, _, _, _, hlookup⟩ := (h.complete found.1 found.2).mp hmem
  exact hroot.of_lookup hlookup

/-- Nothing is listed below a node that is no directory. -/
theorem RepositoryNodes.unfollowed (h : RepositoryNodes root path levels nodes)
    {link entry : RepositoryNode} (hlink : link ∈ nodes) (hkind : nodeKind link.2 ≠ .directory)
    (hentry : entry ∈ nodes) {below : List Bytes} (hbelow : below ≠ []) :
    entry.1.unixComponents ≠ link.1.unixComponents ++ below := by
  intro heq
  obtain ⟨toLink, _, _, hlinkPath, hlinkNode⟩ := (h.complete link.1 link.2).mp hlink
  obtain ⟨toEntry, _, _, hentryPath, hentryNode⟩ := (h.complete entry.1 entry.2).mp hentry
  rw [hlinkPath, hentryPath] at heq
  change path.unixComponents ++ toEntry = path.unixComponents ++ toLink ++ below at heq
  rw [heq, OrderedTree.lookup_append, hlinkNode, Option.bind_some] at hentryNode
  cases hnode : link.2 with
  | branch label children => exact hkind (by rw [hnode]; rfl)
  | leaf value =>
    rw [hnode] at hentryNode
    cases below with
    | nil => exact hbelow rfl
    | cons name rest => cases hentryNode

theorem Treed.exact {walker : TreeWalker} {request : WalkRequest} {ceiling : UInt64}
    (h : Treed request maxEntries ceiling walker nodes) (hroot : WellFormed root)
    (hnodes : RepositoryNodes root path levels nodes)
    (hentries : result.entries = walker.entries)
    (htruncated : result.truncated = walker.truncated) : TreeExact nodes result := by
  have hdescribe : nodes.map entryOf = nodes.map describe :=
    List.map_congr_left fun found hfound => entryOf_eq_describe (hnodes.wellFormed hroot hfound)
  have hkept := h.kept
  rw [hdescribe, ← hentries] at hkept
  have hsorted : (nodes.map describe).Pairwise fun first second =>
      pathBefore first.path second.path := List.pairwise_map.mpr hnodes.ordered
  refine ⟨hsorted.sublist hkept.sublist, hkept, ?_, ?_⟩
  · rw [htruncated, hentries]
    constructor
    · intro hstopped hall
      have hproper := (h.stopped hstopped).1
      rw [hall, List.length_map] at hproper
      omega
    · intro hproper
      by_contra hrunning
      rw [← hdescribe] at hproper
      exact hproper (h.running (Bool.eq_false_of_not_eq_true hrunning))
  · intro link hlink hkind entry hentry below hbelow
    obtain ⟨linkNode, hlinkNode, rfl⟩ := List.mem_map.mp (hkept.subset hlink)
    obtain ⟨entryNode, hentryNode, rfl⟩ := List.mem_map.mp (hkept.subset hentry)
    exact hnodes.unfollowed hlinkNode hkind hentryNode hbelow

theorem treeLength_mono {first second : List RepositoryTreeEntry} (h : first <+: second) :
    treeLength (widestTree first) ≤ treeLength (widestTree second) := by
  obtain ⟨more, rfl⟩ := h
  induction more using List.reverseRecOn with
  | nil => rw [List.append_nil]
  | append_singleton more entry ih =>
    rw [← List.append_assoc, treeLength_concat]
    omega

/-- A walk with a lower limit keeps no more. -/
theorem Treed.shorter {larger walker : TreeWalker} {request : WalkRequest} {ceiling : UInt64}
    (hlarger : Treed request maxEntries ceiling larger nodes)
    (h : Treed request fewer ceiling walker nodes) (hfewer : fewer ≤ maxEntries) :
    walker.entries <+: larger.entries := by
  rw [UInt32.le_iff_toNat_le] at hfewer
  have hentries := h.entries
  cases hstopped : larger.truncated with
  | false =>
    rw [hlarger.running hstopped]
    exact h.kept
  | true =>
    apply List.prefix_of_prefix_length_le h.kept hlarger.kept
    rcases (hlarger.stopped hstopped).2 with hlimit | ⟨next, hnext, hceiling⟩
    · omega
    · by_contra hlonger
      -- the shorter walk would hold the entry that did not fit
      have hheld : larger.entries ++ [next] <+: walker.entries := by
        apply List.prefix_of_prefix_length_le hnext h.kept
        rw [List.length_append, List.length_singleton]
        omega
      have hle := treeLength_mono hheld
      have hwithin := h.charged.within
      omega

/-- Over a tree that does not change, a tree result holds the first nodes below its start, all of
them unless it reports truncation, and a lower limit only cuts it shorter. -/
theorem tree_exact (hroot : WellFormed root)
    (h : tree base64 root path maxDepth maxEntries bounds = .ok result) :
    ∃ nodes, RepositoryNodes root path maxDepth.toNat nodes ∧ TreeExact nodes result ∧
      ∀ fewer ≤ maxEntries, ∀ smaller,
        tree base64 root path maxDepth fewer bounds = .ok smaller →
          smaller.entries <+: result.entries := by
  obtain ⟨start, walker, _, hstart, hkept, hresult⟩ := tree_eq_ok hroot h
  have hnodes := nodesUnder_repositoryNodes maxDepth.toNat hroot hstart
  refine ⟨_, hnodes, hkept.exact hroot hnodes (by rw [hresult]) (by rw [hresult]), ?_⟩
  intro fewer hfewer smaller hsmaller
  obtain ⟨other, shorter, _, hother, hshorter, hshort⟩ := tree_eq_ok hroot hsmaller
  rw [hstart, Option.some.injEq] at hother
  subst hother
  rw [hresult, hshort]
  exact hkept.shorter hshorter hfewer

def walkedTree : RepositoryTreeResult where
  entries := [⟨.unix [[0x66]], .regularFile, some 3⟩]
  directoryEntriesScanned := 1
  directoryNameBytesScanned := 1
  truncated := false

/-- The one file of the directory is listed. -/
theorem tree_exact_sample : ∃ nodes,
    RepositoryNodes walkedRoot (.unix []) (UInt32.toNat 2) nodes ∧ TreeExact nodes walkedTree ∧
      ∀ fewer ≤ (4 : UInt32), ∀ smaller,
        tree (fun _ => "") walkedRoot (.unix []) 2 fewer walkedBounds = .ok smaller →
          smaller.entries <+: walkedTree.entries :=
  tree_exact walkedRoot_wellFormed (by decide +kernel)

end Exact

end BirdCode.Tooling
