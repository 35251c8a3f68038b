import BirdCode.Tooling.Coherence
import BirdCode.Tooling.Unix

/-! Both walks visit what lies below their start, in the order of the paths: what one visit keeps, a
whole walk keeps. -/
namespace BirdCode.Tooling

open Store Lib

section Nodes

variable {root node : Node} {path below : List Bytes}

theorem WellFormed.of_lookup (h : WellFormed root) (hpath : root.lookup path = some node) :
    WellFormed node := by
  refine ⟨h.distinct.of_lookup hpath, ?_, ?_⟩
  · intro rest identity children hrest
    apply h.named (path ++ rest) identity children
    rw [OrderedTree.lookup_append, hpath]
    exact hrest
  · intro rest identity content hrest
    apply h.byteLen (path ++ rest) identity content
    rw [OrderedTree.lookup_append, hpath]
    exact hrest

theorem openChildDirectory_eq_ok {parent child : Node} {component : Bytes} {rootDevice : UInt64}
    (h : openChildDirectory parent component rootDevice = .ok child) :
    parent.lookup [component] = some child ∧ nodeKind child = .directory := by
  simp only [openChildDirectory, bind_eq_ok, ensure_eq_ok, expect_eq_ok, pure, Except.pure,
    Except.ok.injEq] at h
  obtain ⟨found, hfound, _, hkind, _, _, rfl⟩ := h
  exact ⟨hfound, hkind⟩

theorem foldlM_openChildDirectory {components : List Bytes} {rootDevice : UInt64}
    (h : components.foldlM (fun current component =>
      openChildDirectory current component rootDevice) root = .ok node) :
    root.lookup components = some node := by
  induction components generalizing root with
  | nil =>
    cases h
    rfl
  | cons component rest ih =>
    rw [List.foldlM_cons, bind_eq_ok] at h
    obtain ⟨child, hchild, hrest⟩ := h
    obtain ⟨hlookup, _⟩ := openChildDirectory_eq_ok hchild
    rw [← List.singleton_append, OrderedTree.lookup_append, hlookup]
    exact ih hrest

theorem openDirectory_eq_ok {path : RepositoryRelativePath} {rootDevice : UInt64}
    (h : openDirectory root path rootDevice = .ok node) :
    root.lookup path.unixComponents = some node :=
  foldlM_openChildDirectory h

variable {bounds : RepositoryToolBounds} {rootDevice : UInt64} {directory : Node}
  {parent childPath : RepositoryRelativePath} {name : Bytes}

theorem statEntry_eq_ok
    (h : statEntry bounds rootDevice directory parent name = .ok (node, childPath)) :
    directory.lookup [name] = some node ∧ childPath = appendedPath parent name := by
  simp only [statEntry, bind_eq_ok, expect_eq_ok, pure, Except.pure,
    Except.ok.injEq, Prod.mk.injEq] at h
  obtain ⟨found, hfound, _, _, _, _, rfl, rfl⟩ := h
  exact ⟨hfound, rfl⟩

theorem lookup_singleton {identity : RepositoryFileIdentity} {children : List (Bytes × Node)}
    (h : (OrderedTree.branch identity children : Node).lookup [name] = some node) :
    children.lookup name = some node := by
  rw [OrderedTree.lookup] at h
  cases hchild : children.lookup name with
  | none =>
    rw [hchild] at h
    cases h
  | some child =>
    rw [hchild] at h
    exact h

theorem directoryNames_nil (bounds : RepositoryToolBounds) (listed : Listed) :
    directoryNames bounds [] listed = .ok ([], listed) := by
  simp [directoryNames, pure, Except.pure, bind, Except.bind]

/-- The names of a directory are those a walk of the tree takes. -/
theorem directoryNames_eq_ok {identity : RepositoryFileIdentity}
    {children : List (Bytes × Node)} {names : List Bytes} {before after : Listed}
    (hdirectory : WellFormed (.branch identity children))
    (h : directoryNames bounds children before = .ok (names, after)) :
    names = OrderedTree.sortedNames children ∧
      (children.map Prod.fst).foldlM (countName bounds) before = .ok after := by
  have hall : (children.map Prod.fst).filter (fun name => isDotName name = false) =
      children.map Prod.fst := by
    rw [List.filter_eq_self]
    intro name hname
    exact decide_eq_true (hdirectory.named [] identity children rfl name hname)
  simp only [directoryNames, bind_eq_ok, pure, Except.pure, Except.ok.injEq, Prod.mk.injEq,
    hall] at h
  obtain ⟨listed, hlisted, rfl, rfl⟩ := h
  exact ⟨rfl, hlisted⟩

end Nodes

section Order

theorem pathBefore_append {path : RepositoryRelativePath} {first second : List Bytes}
    (h : first < second) :
    pathBefore (.unix (path.unixComponents ++ first)) (.unix (path.unixComponents ++ second)) := by
  unfold pathBefore
  rw [decide_eq_true_eq]
  show path.unixComponents ++ first < path.unixComponents ++ second
  induction path.unixComponents with
  | nil => exact h
  | cons component rest ih =>
    rw [List.cons_append, List.cons_append, List.cons_lt_cons_iff]
    exact .inr ⟨rfl, ih⟩

end Order

section Search

abbrev RepositoryFile := RepositoryRelativePath × Bytes

/-- The regular file a node is, under a path. -/
def asFile (path : RepositoryRelativePath) : List Bytes × Node → Option RepositoryFile
  | (below, .leaf (.regularFile _ content)) => some (.unix (path.unixComponents ++ below), content)
  | _ => none

/-- The regular files at most so many levels below a directory, in the order of their paths. -/
def filesUnder (levels : ℕ) (directory : Node) (path : RepositoryRelativePath) :
    List RepositoryFile :=
  (directory.under levels).filterMap (asFile path)

/-- What the entry of a name adds to the files. -/
def filesAt (levels : ℕ) (children : List (Bytes × Node)) (path : RepositoryRelativePath)
    (name : Bytes) : List RepositoryFile :=
  match children.lookup name with
  | none => []
  | some child => (asFile path ([name], child)).toList ++
      filesUnder levels child (appendedPath path name)

theorem filesAt_of_child {levels : ℕ} {children : List (Bytes × Node)}
    {path : RepositoryRelativePath} {name : Bytes} {child : Node}
    (h : children.lookup name = some child) : filesAt levels children path name =
      (asFile path ([name], child)).toList ++
        filesUnder levels child (appendedPath path name) := by
  rw [filesAt, h]

theorem asFile_cons (path : RepositoryRelativePath) (name : Bytes) (below : List Bytes)
    (node : Node) :
    asFile path (name :: below, node) = asFile (appendedPath path name) (below, node) := by
  cases node with
  | leaf value => cases value <;> simp [asFile, appendedPath, RepositoryRelativePath.unixComponents]
  | branch identity children => rfl

theorem filesUnder_below (levels : ℕ) (child : Node) (path : RepositoryRelativePath) (name : Bytes) :
    ((child.under levels).map fun (below, node) => (name :: below, node)).filterMap (asFile path) =
      filesUnder levels child (appendedPath path name) := by
  rw [List.filterMap_map, filesUnder]
  apply List.filterMap_congr
  rintro ⟨below, node⟩ _
  exact asFile_cons path name below node

theorem filesUnder_branch (levels : ℕ) (identity : RepositoryFileIdentity)
    (children : List (Bytes × Node)) (path : RepositoryRelativePath) :
    filesUnder (levels + 1) (.branch identity children) path =
      (OrderedTree.sortedNames children).flatMap (filesAt levels children path) := by
  rw [filesUnder, OrderedTree.under, List.filterMap_flatMap]
  apply List.flatMap_congr
  intro name _
  unfold filesAt
  cases children.lookup name with
  | none => rfl
  | some child =>
    have hbelow := filesUnder_below levels child path name
    cases hfile : asFile path ([name], child) with
    | none => simp [hfile, hbelow]
    | some file => simp [hfile, hbelow]

theorem filesUnder_zero (directory : Node) (path : RepositoryRelativePath) :
    filesUnder 0 directory path = [] := rfl

theorem filesUnder_leaf (levels : ℕ) (value : Leaf) (path : RepositoryRelativePath) :
    filesUnder levels (.leaf value) path = [] := by
  cases levels with
  | zero => rfl
  | succ levels => rfl

variable {request : LiteralSearchRequest} {P : LiteralSearcher → List RepositoryFile → Prop}

/-- What a search keeps: with the files it has come by, through every listing, every file and
every node it skips, and without a file once it has stopped. -/
structure SearchKeeps (request : LiteralSearchRequest)
    (P : LiteralSearcher → List RepositoryFile → Prop) : Prop where
  listing : ∀ searcher done children names listed,
    directoryNames request.walk.bounds children searcher.listed = .ok (names, listed) →
    P searcher done →
    P { searcher with
      directoriesScanned := saturatingAdd64 searcher.directoriesScanned 1, listed } done
  file : ∀ searcher next done path identity content, P searcher done → searcher.stopped = false →
    identity.byteLen.toInt = content.length →
    searchFile request (.leaf (.regularFile identity content)) path searcher = .ok next →
    P next (done ++ [(path, content)])
  symlink : ∀ searcher done, P searcher done →
    P { searcher with symlinksSkipped := saturatingAdd64 searcher.symlinksSkipped 1 } done
  other : ∀ searcher done, P searcher done →
    P { searcher with specialNodesSkipped := saturatingAdd64 searcher.specialNodesSkipped 1 } done
  stopped : ∀ searcher done more, searcher.stopped = true → P searcher done →
    P searcher (done ++ more)

theorem forEachSearched_keeps (hkeeps : SearchKeeps request P)
    {visit : Bytes → LiteralSearcher → Except RepositoryToolFailure LiteralSearcher}
    {chunk : Bytes → List RepositoryFile} {names : List Bytes}
    (hvisit : ∀ name searcher next done, visit name searcher = .ok next → P searcher done →
      searcher.stopped = false → P next (done ++ chunk name))
    {searcher next : LiteralSearcher} {done : List RepositoryFile}
    (h : forEachSearched visit names searcher = .ok next) (hsearcher : P searcher done) :
    P next (done ++ names.flatMap chunk) := by
  induction names generalizing searcher done with
  | nil =>
    cases h
    simpa using hsearcher
  | cons name rest ih =>
    rw [forEachSearched] at h
    split at h
    · next hstopped =>
      cases h
      exact hkeeps.stopped _ _ _ hstopped hsearcher
    · next hrunning =>
      rw [bind_eq_ok] at h
      obtain ⟨middle, hmiddle, hrest⟩ := h
      have hnext := ih hrest (hvisit name searcher middle done hmiddle hsearcher
        (by simpa using hrunning))
      simpa [List.append_assoc] using hnext

theorem walk_keeps (hkeeps : SearchKeeps request P) {levels : ℕ} {directory : Node}
    {path : RepositoryRelativePath} {searcher next : LiteralSearcher}
    {done : List RepositoryFile} (hdirectory : WellFormed directory)
    (h : LiteralSearcher.walk request levels directory path searcher = .ok next)
    (hsearcher : P searcher done) : P next (done ++ filesUnder levels directory path) := by
  induction levels generalizing directory path searcher next done with
  | zero =>
    cases h
    simpa [filesUnder_zero] using hsearcher
  | succ levels ih =>
    rw [LiteralSearcher.walk] at h
    split at h
    · next hstopped =>
      cases h
      exact hkeeps.stopped _ _ _ hstopped hsearcher
    · cases directory with
      | leaf value =>
        have hnone := directoryNames_nil request.walk.bounds searcher.listed
        simp only [listing, hnone, bind_eq_ok, Prod.exists, Except.ok.injEq, Prod.mk.injEq] at h
        obtain ⟨_, _, ⟨rfl, rfl⟩, hvisits⟩ := h
        cases hvisits
        rw [filesUnder_leaf, List.append_nil]
        exact hkeeps.listing _ _ [] [] searcher.listed hnone hsearcher
      | branch identity children =>
        simp only [bind_eq_ok, Prod.exists] at h
        obtain ⟨names, listed, hlisted, hvisits⟩ := h
        obtain ⟨hnames, _⟩ := directoryNames_eq_ok hdirectory hlisted
        rw [filesUnder_branch, ← hnames]
        refine forEachSearched_keeps hkeeps ?_ hvisits
          (hkeeps.listing _ _ _ _ _ hlisted hsearcher)
        intro name current after visited hvisit hcurrent hrunning
        simp only [bind_eq_ok, Prod.exists] at hvisit
        obtain ⟨node, childPath, hstat, hvisit⟩ := hvisit
        obtain ⟨hlookup, rfl⟩ := statEntry_eq_ok hstat
        have hchild := lookup_singleton hlookup
        have hnode := hdirectory.of_lookup hlookup
        rw [filesAt_of_child hchild]
        cases node with
        | leaf value =>
          rw [filesUnder_leaf, List.append_nil]
          cases value with
          | regularFile identity content =>
            exact hkeeps.file _ _ _ _ _ _ hcurrent hrunning (hnode.byteLen [] _ _ rfl) hvisit
          | symlink identity =>
            cases hvisit
            simpa [asFile] using hkeeps.symlink _ _ hcurrent
          | other identity =>
            cases hvisit
            simpa [asFile] using hkeeps.other _ _ hcurrent
        | branch identity grandchildren =>
          simp only [asFile, Option.toList_none, List.nil_append]
          simp only [nodeKind] at hvisit
          split at hvisit
          · rw [bind_eq_ok] at hvisit
            obtain ⟨child, hopen, hvisit⟩ := hvisit
            obtain ⟨hopened, _⟩ := openChildDirectory_eq_ok hopen
            rw [hlookup] at hopened
            cases hopened
            exact ih hnode hvisit hcurrent
          · next hlevels =>
            obtain rfl : levels = 0 := by omega
            cases hvisit
            simpa [filesUnder_zero] using hcurrent

end Search

section Tree

abbrev RepositoryNode := RepositoryRelativePath × Node

/-- Everything at most so many levels below a directory, in the order of the paths. -/
def nodesUnder (levels : ℕ) (directory : Node) (path : RepositoryRelativePath) :
    List RepositoryNode :=
  (directory.under levels).map fun (below, node) => (.unix (path.unixComponents ++ below), node)

/-- What the entry of a name adds to the nodes. -/
def nodesAt (levels : ℕ) (children : List (Bytes × Node)) (path : RepositoryRelativePath)
    (name : Bytes) : List RepositoryNode :=
  match children.lookup name with
  | none => []
  | some child => (appendedPath path name, child) ::
      nodesUnder levels child (appendedPath path name)

theorem nodesAt_of_child {levels : ℕ} {children : List (Bytes × Node)}
    {path : RepositoryRelativePath} {name : Bytes} {child : Node}
    (h : children.lookup name = some child) : nodesAt levels children path name =
      (appendedPath path name, child) :: nodesUnder levels child (appendedPath path name) := by
  rw [nodesAt, h]

theorem nodesUnder_branch (levels : ℕ) (identity : RepositoryFileIdentity)
    (children : List (Bytes × Node)) (path : RepositoryRelativePath) :
    nodesUnder (levels + 1) (.branch identity children) path =
      (OrderedTree.sortedNames children).flatMap (nodesAt levels children path) := by
  rw [nodesUnder, OrderedTree.under, List.map_flatMap]
  apply List.flatMap_congr
  intro name _
  unfold nodesAt
  cases children.lookup name with
  | none => rfl
  | some child =>
    simp [nodesUnder, appendedPath, RepositoryRelativePath.unixComponents]

theorem nodesUnder_zero (directory : Node) (path : RepositoryRelativePath) :
    nodesUnder 0 directory path = [] := rfl

theorem nodesUnder_leaf (levels : ℕ) (value : Leaf) (path : RepositoryRelativePath) :
    nodesUnder levels (.leaf value) path = [] := by
  cases levels with
  | zero => rfl
  | succ levels => rfl

theorem nodesUnder_of_not_directory {directory : Node} (h : nodeKind directory ≠ .directory)
    (levels : ℕ) (path : RepositoryRelativePath) : nodesUnder levels directory path = [] := by
  cases directory with
  | branch identity children => exact absurd rfl h
  | leaf value => exact nodesUnder_leaf levels value path

theorem lookup_of_mem_sortedNames {children : List (Bytes × Node)} {name : Bytes}
    (h : name ∈ OrderedTree.sortedNames children) : ∃ child, children.lookup name = some child := by
  obtain ⟨child, hmem⟩ := OrderedTree.mem_sortedNames.mp h
  cases hlookup : children.lookup name with
  | some found => exact ⟨found, rfl⟩
  | none =>
    have hne := List.lookup_eq_none_iff.mp hlookup _ hmem
    simp at hne

variable {request : WalkRequest} {maxEntries : UInt32}
  {P : TreeWalker → List RepositoryNode → Prop}

/-- What a tree walk keeps: with the nodes it has come by, through every listing and every node,
at a node beyond the limit of its entries, and without a node once it is truncated. -/
structure TreeKeeps (request : WalkRequest) (maxEntries : UInt32)
    (P : TreeWalker → List RepositoryNode → Prop) : Prop where
  listing : ∀ walker done children names listed,
    directoryNames request.bounds children walker.listed = .ok (names, listed) →
    P walker done → P { walker with listed } done
  full : ∀ walker done path node, P walker done → walker.truncated = false →
    maxEntries.toNat ≤ walker.entries.length →
    P { walker with truncated := true } (done ++ [(path, node)])
  node : ∀ walker done path node, P walker done → walker.truncated = false →
    walker.entries.length < maxEntries.toNat → WellFormed node →
    P (walker.admitNode node path) (done ++ [(path, node)])
  truncated : ∀ walker done more, walker.truncated = true → P walker done →
    P walker (done ++ more)

theorem forEachName_keeps (hkeeps : TreeKeeps request maxEntries P)
    {visit : Bytes → TreeWalker → Except RepositoryToolFailure TreeWalker}
    {chunk : Bytes → List RepositoryNode} {names : List Bytes}
    (hvisit : ∀ name ∈ names, ∀ walker next done, visit name walker = .ok next →
      P walker done → walker.truncated = false → P next (done ++ chunk name))
    {walker next : TreeWalker} {done : List RepositoryNode}
    (h : forEachName visit names walker = .ok next) (hwalker : P walker done)
    (hrunning : walker.truncated = false) : P next (done ++ names.flatMap chunk) := by
  induction names generalizing walker done with
  | nil =>
    cases h
    simpa using hwalker
  | cons name rest ih =>
    rw [forEachName, bind_eq_ok] at h
    obtain ⟨middle, hmiddle, hrest⟩ := h
    have hafter := hvisit name List.mem_cons_self walker middle done hmiddle hwalker hrunning
    have hlater := fun other (hother : other ∈ rest) =>
      hvisit other (List.mem_cons_of_mem _ hother)
    rw [List.flatMap_cons, ← List.append_assoc]
    split at hrest
    · next htruncated =>
      cases hrest
      exact hkeeps.truncated _ _ _ htruncated hafter
    · next hopen => exact ih hlater hrest hafter (by simpa using hopen)

theorem tree_walk_keeps (hkeeps : TreeKeeps request maxEntries P) {levels : ℕ} {directory : Node}
    {path : RepositoryRelativePath} {walker next : TreeWalker} {done : List RepositoryNode}
    (hdirectory : WellFormed directory)
    (h : TreeWalker.walk request maxEntries levels directory path walker = .ok next)
    (hwalker : P walker done) : P next (done ++ nodesUnder levels directory path) := by
  induction levels generalizing directory path walker next done with
  | zero =>
    cases h
    simpa [nodesUnder_zero] using hwalker
  | succ levels ih =>
    rw [TreeWalker.walk] at h
    split at h
    · next htruncated =>
      cases h
      exact hkeeps.truncated _ _ _ htruncated hwalker
    · next hopen =>
      cases directory with
      | leaf value =>
        have hnone := directoryNames_nil request.bounds walker.listed
        simp only [listing, hnone, bind_eq_ok, Prod.exists, Except.ok.injEq, Prod.mk.injEq] at h
        obtain ⟨_, _, ⟨rfl, rfl⟩, hvisits⟩ := h
        cases hvisits
        rw [nodesUnder_leaf, List.append_nil]
        exact hkeeps.listing _ _ [] [] walker.listed hnone hwalker
      | branch identity children =>
        simp only [bind_eq_ok, Prod.exists] at h
        obtain ⟨names, listed, hlisted, hvisits⟩ := h
        obtain ⟨hnames, _⟩ := directoryNames_eq_ok hdirectory hlisted
        rw [nodesUnder_branch, ← hnames]
        refine forEachName_keeps hkeeps ?_ hvisits
          (hkeeps.listing _ _ _ _ _ hlisted hwalker) (by simpa using hopen)
        intro name hname current after visited hvisit hcurrent hrunning
        split at hvisit
        · next hfull =>
          cases hvisit
          obtain ⟨child, hchild⟩ := lookup_of_mem_sortedNames (hnames ▸ hname)
          have hstopped := hkeeps.full _ _ (appendedPath path name) child hcurrent hrunning hfull
          rw [nodesAt_of_child hchild, ← List.singleton_append, ← List.append_assoc]
          exact hkeeps.truncated _ _ _ rfl hstopped
        · next hroom =>
          simp only [bind_eq_ok, Prod.exists] at hvisit
          obtain ⟨node, childPath, hstat, hvisit⟩ := hvisit
          obtain ⟨hlookup, rfl⟩ := statEntry_eq_ok hstat
          have hchild := lookup_singleton hlookup
          have hnode := hdirectory.of_lookup hlookup
          have hadmitted := hkeeps.node _ _ (appendedPath path name) node hcurrent hrunning
            (by omega) hnode
          rw [nodesAt_of_child hchild, ← List.singleton_append, ← List.append_assoc]
          split at hvisit
          · next htruncated =>
            cases hvisit
            exact hkeeps.truncated _ _ _ htruncated hadmitted
          · split at hvisit
            · next hdescend =>
              rw [bind_eq_ok] at hvisit
              obtain ⟨child, hopenChild, hvisit⟩ := hvisit
              obtain ⟨hopened, _⟩ := openChildDirectory_eq_ok hopenChild
              rw [hlookup] at hopened
              cases hopened
              exact ih hnode hvisit hadmitted
            · next hdescend =>
              cases hvisit
              have hnone : nodesUnder levels node (appendedPath path name) = [] := by
                by_cases hdirectory : nodeKind node = .directory
                · obtain rfl : levels = 0 := by
                    by_contra hlevels
                    exact hdescend ⟨hdirectory, by omega⟩
                  rfl
                · exact nodesUnder_of_not_directory hdirectory levels _
              rw [hnone, List.append_nil]
              exact hadmitted

end Tree

section Sample

def walkedIdentity (byteLen : Int64) : RepositoryFileIdentity := ⟨0, 1, byteLen, 0, 0, 0, 0⟩

def walkedBounds : RepositoryToolBounds where
  maxCallsPerBroker := 1
  maxRequestBytes := 4096
  maxPathComponents := 4
  maxPathBytes := 64
  maxComponentBytes := 16
  maxReadBytes := 64
  maxTreeDepth := 2
  maxTreeEntries := 4
  maxDirectoryEntriesScanned := 8
  maxDirectoryNameBytesScanned := 64
  maxSearchPatternBytes := 8
  maxSearchDepth := 2
  maxSearchFiles := 4
  maxSearchMatches := 4
  maxSearchBytesPerFile := 64
  maxSearchTotalBytes := 64
  maxArtifactBytes := 4096

def walkedFile : Node := .leaf (.regularFile (walkedIdentity 3) [0x61, 0x61, 0x61])

/-- A directory with one file, whose bytes are `aaa`. -/
def walkedRoot : Node := .branch (walkedIdentity 0) [([0x66], walkedFile)]

theorem walkedRoot_lookup {path : List Bytes} {node : Node}
    (h : walkedRoot.lookup path = some node) :
    path = [] ∧ node = walkedRoot ∨ path = [[0x66]] ∧ node = walkedFile := by
  cases path with
  | nil =>
    cases h
    exact .inl ⟨rfl, rfl⟩
  | cons name rest =>
    by_cases hname : name = [0x66]
    · subst hname
      cases rest with
      | nil =>
        cases h
        exact .inr ⟨rfl, rfl⟩
      | cons next rest => cases h
    · have hnone : [([0x66], walkedFile)].lookup name = none := by
        rw [List.lookup_cons, beq_eq_false_iff_ne.mpr hname]
        rfl
      rw [walkedRoot, OrderedTree.lookup, hnone] at h
      cases h

theorem walkedRoot_wellFormed : WellFormed walkedRoot := by
  refine ⟨?_, ?_, ?_⟩
  · intro path label children h
    rcases walkedRoot_lookup h with ⟨_, heq⟩ | ⟨_, heq⟩
    · cases heq
      exact List.nodup_singleton _
    · cases heq
  · intro path label children h
    rcases walkedRoot_lookup h with ⟨_, heq⟩ | ⟨_, heq⟩
    · cases heq
      decide
    · cases heq
  · intro path label content h
    rcases walkedRoot_lookup h with ⟨_, heq⟩ | ⟨_, heq⟩
    · cases heq
    · cases heq
      decide

end Sample

end BirdCode.Tooling
