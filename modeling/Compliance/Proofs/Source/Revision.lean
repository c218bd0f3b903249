import Mathlib.Data.List.Basic
import Compliance.Proofs.Source.Paths

/-!
# Loading a revised tree

Other bytes in files that are there leave every path leading where it led, and a walk
finds the same names in the same order.  So a loader opens the same files as before and
sees nothing but the other bytes.
-/

namespace Compliance

def revisedBytes (rewrite : Bytes → Bytes) (written : List PathParts) (parts : PathParts)
    (bytes : Bytes) : Bytes :=
  if parts ∈ written then rewrite bytes else bytes

variable {rewrite : Bytes → Bytes} {written : List PathParts}

def Entry.revised (rewrite : Bytes → Bytes) (written : List PathParts) : Entry → Entry
  | directory parts => .directory parts
  | file parts bytes => .file parts (revisedBytes rewrite written parts bytes)
  | nothing fault => .nothing fault

namespace Tree

variable {tree : Tree} {parts : PathParts} {bytes : Bytes}

/-- The tree with the new bytes of the files that were written. -/
def revised (tree : Tree) (rewrite : Bytes → Bytes) (written : List PathParts) : Tree :=
  { tree with
    files := tree.files.map fun entry =>
      (entry.1, revisedBytes rewrite written entry.1 entry.2) }

theorem revised_nil (tree : Tree) (rewrite : Bytes → Bytes) : tree.revised rewrite [] = tree := by
  simp [revised, revisedBytes]

@[simp] theorem isDirectory_revised : (tree.revised rewrite written).isDirectory parts =
    tree.isDirectory parts := by
  simp only [isDirectory, revised, List.any_map, Function.comp_def]

@[simp] theorem file?_revised : (tree.revised rewrite written).file? parts =
    (tree.file? parts).map (revisedBytes rewrite written parts) := by
  simp only [file?, revised]
  induction tree.files with
  | nil => rfl
  | cons entry files ih =>
      obtain ⟨other, bytes⟩ := entry
      simp only [List.map_cons, List.lookup_cons, ih]
      cases same : parts == other with
      | true => simp [eq_of_beq same]
      | false => rfl

@[simp] theorem start_revised (path : String) : (tree.revised rewrite written).start path =
    tree.start path := rfl

theorem resolveFrom_revised (here : PathParts) (names : List String) :
    (tree.revised rewrite written).resolveFrom here names =
      (tree.resolveFrom here names).revised rewrite written := by
  induction names generalizing here with
  | nil => rfl
  | cons part names ih =>
      simp only [resolveFrom, isDirectory_revised, file?_revised, ih]
      split
      · rfl
      · split
        · rfl
        · split
          · rfl
          · cases tree.file? (here ++ [part]) with
            | none => rfl
            | some bytes => cases names <;> rfl

theorem resolve_revised (path : String) : (tree.revised rewrite written).resolve path =
    (tree.resolve path).revised rewrite written := by
  rw [resolve, resolve]
  cases pathFault? path with
  | some fault => rfl
  | none => exact resolveFrom_revised ..

theorem writeTarget_revised (path : String) : (tree.revised rewrite written).writeTarget path =
    tree.writeTarget path := by
  simp only [writeTarget, resolveFrom_revised, start_revised, isDirectory_revised]
  cases pathFault? path with
  | some fault => rfl
  | none =>
      cases (((splitPath path).reverse.dropWhile (· = "")).reverse).getLast? with
      | none => rfl
      | some name =>
          cases tree.resolveFrom (tree.start path)
            ((splitPath path).reverse.dropWhile (· = "")).reverse.dropLast <;> rfl

theorem filesBelow_revised (directory : PathParts) :
    (tree.revised rewrite written).filesBelow directory = (tree.filesBelow directory).map
      fun entry => (entry.1, revisedBytes rewrite written (directory ++ entry.1) entry.2) := by
  let later (entry : PathParts × Bytes) : PathParts × Bytes :=
    (entry.1, revisedBytes rewrite written (directory ++ entry.1) entry.2)
  have sorted := @List.map_mergeSort _ _ (fun a b => pathLE a.1 b.1) (fun a b => pathLE a.1 b.1)
    later ((tree.files.filter fun entry => directory.isPrefixOf entry.1 && entry.1 ≠ directory).map
      fun entry => (entry.1.drop directory.length, entry.2)) fun _ _ _ _ => rfl
  rw [filesBelow, filesBelow, sorted]
  congr 1
  rw [revised, List.filter_map, List.map_map, List.map_map]
  refine List.map_congr_left fun entry here => ?_
  have below : directory <+: entry.1 := by
    have := (List.mem_filter.mp here).2
    simp only [Function.comp_apply, Bool.and_eq_true] at this
    exact List.isPrefixOf_iff_prefix.mp this.1
  have whole : directory ++ entry.1.drop directory.length = entry.1 :=
    List.prefix_iff_eq_append.mp below
  simp only [Function.comp_apply, later, whole]

theorem nil_not_mem_filesBelow {directory : PathParts} :
    ([], bytes) ∉ tree.filesBelow directory := by
  intro here
  obtain ⟨entry, inside, same⟩ := List.mem_map.mp (List.mem_mergeSort.mp here)
  obtain ⟨-, test⟩ := List.mem_filter.mp inside
  simp only [Bool.and_eq_true, decide_eq_true_eq] at test
  have above := List.isPrefixOf_iff_prefix.mp test.1
  have empty : entry.1.drop directory.length = [] := congrArg Prod.fst same
  have whole := List.prefix_iff_eq_append.mp above
  rw [empty, List.append_nil] at whole
  exact test.2 whole.symm

/-! ## Writing -/

/-- Every name is written down once, and its parts are names of files and directories. -/
structure Proper (tree : Tree) : Prop where
  distinct : (tree.files.map (·.1)).Nodup
  names : ∀ entry ∈ tree.files, ∀ part ∈ entry.1, IsName part

theorem file?_eq_some_iff (proper : tree.Proper) :
    tree.file? parts = some bytes ↔ (parts, bytes) ∈ tree.files := by
  have distinct := proper.distinct
  rw [file?]
  generalize tree.files = files at distinct
  induction files with
  | nil => simp
  | cons entry files ih =>
      obtain ⟨other, content⟩ := entry
      obtain ⟨fresh, distinct⟩ := List.nodup_cons.mp distinct
      rw [List.lookup_cons]
      by_cases same : parts = other
      · subst same
        have absent : (parts, bytes) ∉ files := fun here =>
          fresh (List.mem_map.mpr ⟨_, here, rfl⟩)
        simp [absent, eq_comm]
      · have differs : (parts == other) = false := beq_eq_false_iff_ne.mpr same
        simp [differs, same, ih distinct]

theorem Proper.write (proper : tree.Proper) (names : ∀ part ∈ parts, IsName part) :
    (tree.write parts bytes).Proper := by
  rw [Tree.write]
  split
  · have keys : (tree.files.map fun entry => if entry.1 = parts then (parts, bytes) else entry).map
        (·.1) = tree.files.map (·.1) := by
      rw [List.map_map]
      refine List.map_congr_left fun entry _ => ?_
      by_cases same : entry.1 = parts
      · simp [same]
      · simp [same]
    refine ⟨keys ▸ proper.distinct, fun entry here => ?_⟩
    obtain ⟨old, listed, rfl⟩ := List.mem_map.mp here
    split
    · exact names
    · exact proper.names old listed
  · next absent =>
      have fresh : parts ∉ tree.files.map (·.1) := by
        intro known
        obtain ⟨entry, listed, rfl⟩ := List.mem_map.mp known
        exact absent (by simp [(file?_eq_some_iff proper).mpr listed])
      refine ⟨?_, fun entry here => ?_⟩
      · rw [List.map_append, List.nodup_append]
        refine ⟨proper.distinct, by simp, ?_⟩
        rintro other listed _ here rfl
        obtain rfl : other = parts := by simpa using here
        exact fresh listed
      · rcases List.mem_append.mp here with listed | new
        · exact proper.names entry listed
        · obtain rfl := List.mem_singleton.mp new
          exact names

theorem isName_of_follow {here : PathParts} {names : List String}
    (proper : ∀ part ∈ here, IsName part)
    (apart : ∀ name ∈ names, '/' ∉ name.toList) : ∀ part ∈ (follow here names).1, IsName part := by
  induction names generalizing here with
  | nil => exact proper
  | cons name names ih =>
      have later : ∀ other ∈ names, '/' ∉ other.toList := fun other inside =>
        apart other (by simp [inside])
      rw [follow]
      split
      · exact ih proper later
      · next moves =>
          split
          · exact ih (fun part inside => proper part (List.dropLast_subset _ inside)) later
          · next down =>
              refine ih (fun part inside => ?_) later
              rcases List.mem_append.mp inside with inside | inside
              · exact proper part inside
              · obtain rfl := List.mem_singleton.mp inside
                have named : part ≠ "" ∧ part ≠ "." := by simpa using moves
                exact ⟨named.1, named.2, down, apart part (by simp)⟩

theorem proper_ofBuffers {workingDirectory : PathParts}
    (names : ∀ part ∈ workingDirectory, IsName part) (buffers : List (String × Bytes)) :
    (ofBuffers workingDirectory buffers).Proper := by
  have start : Proper ⟨[], [], workingDirectory⟩ := ⟨List.nodup_nil, by simp⟩
  rw [ofBuffers]
  generalize (⟨[], [], workingDirectory⟩ : Tree) = tree at start
  induction buffers generalizing tree with
  | nil => exact start
  | cons buffer buffers ih =>
      refine ih _ ?_
      obtain ⟨name, bytes⟩ := buffer
      dsimp only
      split
      · exact ⟨start.distinct, start.names⟩
      · refine Proper.write ⟨start.distinct, start.names⟩ ?_
        exact isName_of_follow names fun part inside => noSlash_of_mem_splitPath inside

theorem write_revised (proper : tree.Proper) (opened : tree.file? parts = some bytes) :
    (tree.revised rewrite written).write parts (rewrite bytes) =
      tree.revised rewrite (parts :: written) := by
  have there : ((tree.revised rewrite written).file? parts).isSome = true := by simp [opened]
  rw [write, if_pos there]
  simp only [revised, List.map_map, mk.injEq, and_true]
  refine List.map_congr_left fun entry here => ?_
  simp only [Function.comp_apply, revisedBytes, List.mem_cons]
  by_cases same : entry.1 = parts
  · have read : tree.file? parts = some entry.2 :=
      (file?_eq_some_iff proper).mpr (same ▸ here)
    obtain rfl := Option.some.inj (opened.symm.trans read)
    simp [same]
  · simp [same]

end Tree

/-! ## Opened files -/

/-- A file that the loader opens: the name it goes by, where it lies and what it holds. -/
structure Opened where
  name : String
  parts : PathParts
  bytes : Bytes

namespace Loader

variable {loader : Loader} {tree : Tree} {path : String}

def opened (loader : Loader) (tree : Tree) (path : String) : List Opened :=
  match tree.resolve path with
  | .file parts bytes => [⟨path, parts, bytes⟩]
  | .nothing _ => []
  | .directory parts =>
      (tree.filesBelow parts).filterMap fun (below, bytes) =>
        let relative := "/".intercalate below
        if loader.accepts relative then some ⟨nameBelow path relative, parts ++ below, bytes⟩
        else none

theorem attempts_eq (loader : Loader) (tree : Tree) (path : String) :
    loader.attempts tree path =
      match tree.resolve path with
      | .nothing fault => [.error (.loadFailure path fault.message)]
      | _ => (loader.opened tree path).map fun file => loadBuffer file.name file.bytes := by
  rw [attempts, opened]
  cases tree.resolve path with
  | file parts bytes => rfl
  | nothing fault => rfl
  | directory parts =>
      simp only [List.map_filterMap]
      congr 1
      funext entry
      split <;> rfl

theorem opened_revised : loader.opened (tree.revised rewrite written) path =
    (loader.opened tree path).map fun file =>
      { file with bytes := revisedBytes rewrite written file.parts file.bytes } := by
  rw [opened, opened, Tree.resolve_revised]
  cases tree.resolve path with
  | file parts bytes => rfl
  | nothing fault => rfl
  | directory parts =>
      simp only [Entry.revised, Tree.filesBelow_revised, List.filterMap_map, List.map_filterMap]
      congr 1
      funext entry
      simp only [Function.comp_apply]
      split <;> rfl

theorem mem_files_of_mem_opened (proper : tree.Proper) {file : Opened}
    (here : file ∈ loader.opened tree path) : (file.parts, file.bytes) ∈ tree.files := by
  rw [opened] at here
  split at here
  · next parts bytes leads =>
      obtain rfl := List.mem_singleton.mp here
      rw [Tree.resolve] at leads
      split at leads
      · cases leads
      · obtain ⟨-, -, -, -, -, -, -, -, -, -, read⟩ := Tree.resolveFrom_eq_file leads
        exact (Tree.file?_eq_some_iff proper).mp read
  · cases here
  · next parts leads =>
      obtain ⟨⟨below, bytes⟩, listed, taken⟩ := List.mem_filterMap.mp here
      dsimp only at taken
      split at taken
      · obtain rfl := Option.some.inj taken
        obtain ⟨entry, inside, same⟩ := List.mem_map.mp (List.mem_mergeSort.mp listed)
        obtain ⟨rfl, rfl⟩ := Prod.mk.inj same
        obtain ⟨source, test⟩ := List.mem_filter.mp inside
        have above : parts <+: entry.1 := by
          simp only [Bool.and_eq_true] at test
          exact List.isPrefixOf_iff_prefix.mp test.1
        rwa [List.prefix_iff_eq_append.mp above]
      · cases taken

theorem start_append (tree : Tree) {path : String} (nonempty : path.isEmpty = false)
    (rest : String) :
    tree.start (path ++ rest) = tree.start path := by
  have same : (path ++ rest).startsWith "/" = path.startsWith "/" := by
    rw [Bool.eq_iff_iff, String.startsWith_string_iff, String.startsWith_string_iff,
      String.toList_append]
    cases chars : path.toList with
    | nil => simp [String.toList_eq_nil_iff.mp chars] at nonempty
    | cons c others => simp [List.cons_prefix_cons]
  rw [Tree.start, Tree.start, same]

theorem splitPath_nameBelow {directory : PathParts}
    (leads : tree.resolve path = .directory directory)
    {below : List String} (nonempty : below ≠ []) (proper : ∀ name ∈ below, IsName name) :
    ∃ first, splitPath (nameBelow path ("/".intercalate below)) = first ++ below ∧
      tree.resolveFrom (tree.start (nameBelow path ("/".intercalate below))) first =
        .directory directory := by
  rw [Tree.resolve] at leads
  split at leads
  · cases leads
  · next noFault =>
      have some : path.isEmpty = false := by
        rw [pathFault?] at noFault
        split at noFault
        · cases noFault
        · split at noFault
          · cases noFault
          · next nonempty => exact Bool.eq_false_iff.mpr nonempty
      rw [nameBelow]
      split
      · next slash =>
          obtain ⟨start, rfl⟩ := exists_of_endsWith_slash slash
          have parts : splitPath (start ++ "/") = splitPath start ++ [""] := by
            have := splitPath_append_slash start ""
            rwa [String.append_empty] at this
          refine ⟨splitPath start,
            by rw [splitPath_append_slash, splitPath_intercalate nonempty proper], ?_⟩
          rw [start_append tree some]
          rw [parts, Tree.resolveFrom_append] at leads
          split at leads
          · next there led =>
              rw [led]
              simpa [Tree.resolveFrom] using leads
          · cases leads
          · cases leads
      · refine ⟨splitPath path,
          by rw [splitPath_append_slash, splitPath_intercalate nonempty proper], ?_⟩
        rw [String.append_assoc, start_append tree some]
        exact leads

theorem parts_of_writeTarget (proper : tree.Proper) {file : Opened}
    (here : file ∈ loader.opened tree path) {parts : PathParts}
    (target : tree.writeTarget file.name = .ok parts) : parts = file.parts := by
  have source := mem_files_of_mem_opened proper here
  rw [opened] at here
  split at here
  · next there bytes leads =>
      obtain rfl := List.mem_singleton.mp here
      rw [Tree.resolve] at leads
      split at leads
      · cases leads
      · obtain ⟨first, name, directory, split, named, -, -, led, same, -, -⟩ :=
          Tree.resolveFrom_eq_file leads
        exact (Tree.eq_of_writeTarget split named led target).trans same.symm
  · cases here
  · next directory leads =>
      obtain ⟨⟨below, bytes⟩, listed, taken⟩ := List.mem_filterMap.mp here
      dsimp only at taken
      split at taken
      · obtain rfl := Option.some.inj taken
        have names : ∀ name ∈ below, IsName name := fun name inside =>
          proper.names _ source name (by simp [inside])
        have nonempty : below ≠ [] := by
          rintro rfl
          exact Tree.nil_not_mem_filesBelow listed
        obtain ⟨first, split, led⟩ := splitPath_nameBelow leads nonempty names
        obtain ⟨init, last, rfl⟩ := (List.eq_nil_or_concat' below).resolve_left nonempty
        have above : tree.resolveFrom directory init = .directory (directory ++ init) :=
          Tree.resolveFrom_above source (fun name inside => names name (by simp [inside]))
            (by simp [← List.append_assoc]) (by simp)
        have whole := Tree.resolveFrom_append tree
          (tree.start (nameBelow path ("/".intercalate (init ++ [last])))) first init
        rw [led] at whole
        rw [← List.append_assoc] at split
        have := Tree.eq_of_writeTarget split (names last (by simp)).nonempty
            (whole.trans above) target
        simpa using this
      · cases taken

/-- A loader reads a revised tree as it read the tree, up to what became of each file. -/
theorem loadPaths_revised {change : SourceFile → SourceFile} {paths : List String}
    (reads : ∀ path ∈ paths, ∀ file ∈ loader.opened tree path,
      loadBuffer file.name (revisedBytes rewrite written file.parts file.bytes) =
        (loadBuffer file.name file.bytes).map change) :
    loader.loadPaths (tree.revised rewrite written) paths =
      ⟨(loader.loadPaths tree paths).files.map change,
        (loader.loadPaths tree paths).diagnostics⟩ := by
  have each : ∀ path ∈ paths, loader.attempts (tree.revised rewrite written) path =
      (loader.attempts tree path).map (·.map change) := by
    intro path here
    rw [attempts_eq, attempts_eq, opened_revised, Tree.resolve_revised]
    cases tree.resolve path with
    | nothing fault => rfl
    | file parts bytes =>
        simp only [Entry.revised, List.map_map]
        exact List.map_congr_left (reads path here)
    | directory parts =>
        simp only [Entry.revised, List.map_map]
        exact List.map_congr_left (reads path here)
  rw [loadPaths, loadPaths, List.flatMap_congr each, ← List.map_flatMap]
  generalize paths.flatMap (loader.attempts tree) = attempts
  simp only [LoadedSources.ofAttempts, List.filterMap_map, List.map_filterMap]
  congr 2 <;>
  · funext attempt
    cases attempt <;> rfl

end Loader

end Compliance
