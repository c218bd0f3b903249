import Compliance.Proofs.Text.Pieces
import Compliance.Source.Loader

/-!
# Paths of loaded files

A path is walked part by part, and a walk that is cut in two goes on from where the
first half led.  The name under which the loader opens a file leads a writer back to
that file.
-/

namespace Compliance

theorem splitPath_append_slash (path rest : String) :
    splitPath (path ++ "/" ++ rest) = splitPath path ++ splitPath rest := by
  have chars : (path ++ "/" ++ rest).toList = path.toList ++ '/' :: rest.toList := by simp
  simp only [splitPath, chars, Text.parts_eq_splitOn, List.splitOn_append_cons_self,
    List.map_append]

theorem exists_of_endsWith_slash {path : String} (slash : path.endsWith "/" = true) :
    ∃ start, path = start ++ "/" := by
  rw [← String.endsWith_toSlice, String.Slice.endsWith_string_iff] at slash
  obtain ⟨start, same⟩ := slash
  exact ⟨String.ofList start, String.toList_inj.mp (by simpa using same.symm)⟩

theorem noSlash_of_mem_splitPath {path part : String} (here : part ∈ splitPath path) :
    '/' ∉ part.toList := by
  obtain ⟨chars, inside, rfl⟩ := List.mem_map.mp here
  simpa using Text.not_mem_of_mem_parts inside

structure IsName (part : String) : Prop where
  nonempty : part ≠ ""
  notHere : part ≠ "."
  notParent : part ≠ ".."
  noSlash : '/' ∉ part.toList

theorem splitPath_intercalate {names : List String} (nonempty : names ≠ [])
    (proper : ∀ name ∈ names, IsName name) : splitPath ("/".intercalate names) = names := by
  have apart : ∀ part ∈ names.map String.toList, '/' ∉ part := by
    intro part here
    obtain ⟨name, listed, rfl⟩ := List.mem_map.mp here
    exact (proper name listed).noSlash
  have chars : ("/".intercalate names).toList = ['/'].intercalate (names.map String.toList) := by
    rw [String.toList_intercalate]
    rfl
  rw [splitPath, Text.parts_eq_splitOn, chars, List.splitOn_intercalate '/' apart (by simpa)]
  simp

namespace Tree

variable {tree : Tree} {here there parts below : PathParts} {bytes : Bytes} {path : String}

theorem resolveFrom_append (tree : Tree) (here : PathParts) (first second : List String) :
    tree.resolveFrom here (first ++ second) =
      match tree.resolveFrom here first with
      | .directory there => tree.resolveFrom there second
      | .file there bytes => if second = [] then .file there bytes else .nothing .notDirectory
      | .nothing fault => .nothing fault := by
  induction first generalizing here with
  | nil => simp [resolveFrom]
  | cons part first ih =>
      simp only [List.cons_append, resolveFrom, ih]
      split
      · rfl
      · split
        · rfl
        · split
          · rfl
          · cases tree.file? (here ++ [part]) with
            | none => rfl
            | some bytes => cases first <;> cases second <;> simp

theorem resolveFrom_eq_file {names : List String}
    (leads : tree.resolveFrom here names = .file parts bytes) :
    ∃ first name there, names = first ++ [name] ∧ name ≠ "" ∧ name ≠ "." ∧ name ≠ ".." ∧
      tree.resolveFrom here first = .directory there ∧ parts = there ++ [name] ∧
      tree.isDirectory parts = false ∧ tree.file? parts = some bytes := by
  induction names generalizing here with
  | nil => cases leads
  | cons part names ih =>
      rw [resolveFrom] at leads
      split at leads
      · next stays =>
          obtain ⟨first, name, there, rfl, rest⟩ := ih leads
          refine ⟨part :: first, name, there, rfl, ?_⟩
          rwa [resolveFrom, if_pos stays]
      · next moves =>
          split at leads
          · next up =>
              obtain ⟨first, name, there, rfl, rest⟩ := ih leads
              refine ⟨part :: first, name, there, rfl, ?_⟩
              rwa [resolveFrom, if_neg moves, if_pos up]
          · next down =>
              dsimp only at leads
              split at leads
              · next inside =>
                  obtain ⟨first, name, there, rfl, rest⟩ := ih leads
                  refine ⟨part :: first, name, there, rfl, ?_⟩
                  rwa [resolveFrom, if_neg moves, if_neg down, if_pos inside]
              · next outside =>
                  split at leads
                  · next found opened =>
                      split at leads
                      · next last =>
                          obtain ⟨rfl, rfl⟩ := Entry.file.inj leads
                          obtain rfl : names = [] := by simpa using last
                          have named : part ≠ "" ∧ part ≠ "." := by simpa using moves
                          exact ⟨[], part, here, rfl, named.1, named.2, down, rfl, rfl,
                            by simpa using outside, opened⟩
                      · cases leads
                  · cases leads

theorem isDirectory_of_mem {entry : PathParts × Bytes} (listed : entry ∈ tree.files)
    (above : here <+: entry.1) (apart : here ≠ entry.1) : tree.isDirectory here = true := by
  have found : (tree.files.any fun entry => here.isPrefixOf entry.1 && entry.1 ≠ here) = true :=
    List.any_eq_true.mpr ⟨entry, listed, by simp [above, apart.symm]⟩
  rw [isDirectory, found]
  simp

theorem resolveFrom_above {entry : PathParts × Bytes} (listed : entry ∈ tree.files)
    {names : List String} (proper : ∀ name ∈ names, IsName name) (above : here ++ names <+: entry.1)
    (apart : here ++ names ≠ entry.1) :
      tree.resolveFrom here names = .directory (here ++ names) := by
  induction names generalizing here with
  | nil => simp [resolveFrom]
  | cons name names ih =>
      have named := proper name (by simp)
      have joined : here ++ name :: names = here ++ [name] ++ names := by simp
      rw [joined] at above apart ⊢
      have nearer : here ++ [name] <+: entry.1 := (List.prefix_append ..).trans above
      have differs : here ++ [name] ≠ entry.1 := by
        intro same
        rw [← same] at above apart
        exact apart (above.eq_of_length_le (by simp))
      have inside := isDirectory_of_mem listed nearer differs
      rw [resolveFrom, if_neg (by simp [named.nonempty, named.notHere]), if_neg named.notParent,
        if_pos inside]
      exact ih (fun other there => proper other (by simp [there])) above apart

theorem pathFault?_of_writeTarget (target : tree.writeTarget path = .ok parts) :
    pathFault? path = none := by
  rw [writeTarget] at target
  cases fault : pathFault? path with
  | none => rfl
  | some fault => rw [fault] at target; cases target

theorem eq_of_writeTarget {first : List String} {name : String}
    (split : splitPath path = first ++ [name]) (nonempty : name ≠ "")
    (leads : tree.resolveFrom (tree.start path) first = .directory there)
    (target : tree.writeTarget path = .ok parts) : parts = there ++ [name] := by
  have noFault := pathFault?_of_writeTarget target
  have kept : ((splitPath path).reverse.dropWhile (· = "")).reverse = first ++ [name] := by
    simp [split, nonempty]
  rw [writeTarget, noFault] at target
  simp only [kept, List.getLast?_append, List.getLast?_singleton, Option.some_or,
    List.dropLast_concat, leads] at target
  change (if _ then _ else if _ then _ else _) = _ at target
  split at target
  · cases target
  · split at target
    · cases target
    · exact (Except.ok.inj target).symm

end Tree

end Compliance
