/- module: Boo/Settings/Includes
   digest: Every file that the configuration reaches through includes is expanded once. -/

import Boo.Settings.Parsing
import Boo.Lib.DepthFirst

set_option autoImplicit false
set_option relaxedAutoImplicit false

namespace Boo.Settings.Includes

open Boo.Lib.DepthFirst
open Boo.Lib.TextLines
open Boo.Settings.Parsing

/-- `str::lines`: a line ends before a line feed or before a carriage return and a line feed. -/
def strLines : Text → List Text
  | [] => []
  | '\r' :: '\n' :: rest => [] :: strLines rest
  | char :: rest =>
      if char = '\n' then [] :: strLines rest
      else
        match strLines rest with
        | [] => [[char]]
        | line :: others => (char :: line) :: others

/-- The operations on paths and files. -/
structure Files (Path : Type) where
  canonicalize : Path → Option Path
  readToString : Path → Option Text
  parent : Path → Option Path
  currentDir : Path
  named : Text → Path
  isAbsolute : Path → Bool
  join : Path → Path → Path

inductive LoadError
  | io
  | outOfFuel
  deriving DecidableEq

abbrev LoadResult (Path : Type) := Except LoadError (Text × List Path)

/-- A line feed unless the text ends with one. -/
def endLine (expanded : Text) : Text :=
  if expanded.getLast? = some '\n' then expanded else expanded ++ ['\n']

namespace Files

variable {Path : Type} (files : Files Path)

def canonical (path : Path) : Path := (files.canonicalize path).getD path

def baseDir (file : Path) : Path := (files.parent file).getD files.currentDir

/-- The path that an include line of `file` names. -/
def includePath (file : Path) (line : Text) : Option Path :=
  (stripPrefix "include ".toList (trim line)).map fun rest =>
    let candidate := files.named (stripQuotes (trim rest))
    if files.isAbsolute candidate then candidate else files.join (files.baseDir file) candidate

/-- The loop over the lines of `file`. -/
def expandLines (load : Path → List Path → LoadResult Path) (file : Path) (expanded : Text)
    (visited : List Path) : List Text → LoadResult Path
  | [] => .ok (expanded, visited)
  | line :: lines =>
      match files.includePath file line with
      | none => expandLines load file (expanded ++ line ++ ['\n']) visited lines
      | some path =>
          match load path visited with
          | .error error => .error error
          | .ok (included, visited) =>
              expandLines load file (endLine (expanded ++ included)) visited lines

/-- The set of visited files comes back as the list of them, the latest first. -/
def loadWithIncludes [DecidableEq Path] : Nat → Path → List Path → LoadResult Path
  | 0, _, _ => .error .outOfFuel
  | fuel + 1, path, visited =>
      let file := files.canonical path
      if file ∈ visited then .ok ([], visited)
      else
        match files.readToString file with
        | none => .error .io
        | some content =>
            files.expandLines (loadWithIncludes fuel) file [] (file :: visited) (strLines content)

/-! What the files of a configuration are: a graph of include lines, and lines of their own. -/

def fileLines (file : Path) : List Text := ((files.readToString file).map strLines).getD []

def includedBy (file : Path) (lines : List Text) : List Path :=
  lines.filterMap fun line => (files.includePath file line).map files.canonical

/-- The lines that are not empty and include nothing. -/
def ownAmong (file : Path) (lines : List Text) : List Text :=
  lines.filter fun line => line ≠ [] ∧ files.includePath file line = none

def included (file : Path) : List Path := files.includedBy file (files.fileLines file)

def ownLines (file : Path) : List Text := files.ownAmong file (files.fileLines file)

def Reachable (path file : Path) : Prop := Reaches files.included (files.canonical path) file

end Files

def joinLines (lines : List Text) : Text := lines.flatMap (· ++ ['\n'])

def filled (lines : List Text) : List Text := lines.filter (· ≠ [])

section Joining

theorem joinLines_append (lines others : List Text) :
    joinLines (lines ++ others) = joinLines lines ++ joinLines others := by
  simp [joinLines]

theorem joinLines_concat (lines : List Text) (line : Text) :
    joinLines (lines ++ [line]) = joinLines lines ++ line ++ ['\n'] := by
  simp [joinLines]

theorem filled_append (lines others : List Text) :
    filled (lines ++ others) = filled lines ++ filled others := by
  simp [filled]

/-- Ending the line of a text of whole lines adds at most an empty line. -/
theorem endLine_joinLines (lines : List Text) :
    ∃ last, endLine (joinLines lines) = joinLines (lines ++ last) ∧ filled last = [] := by
  rcases List.eq_nil_or_concat lines with rfl | ⟨before, last, rfl⟩
  · exact ⟨[[]], rfl, rfl⟩
  · rw [List.concat_eq_append]
    refine ⟨[], ?_, rfl⟩
    rw [List.append_nil, endLine, if_pos]
    rw [joinLines_concat, List.getLast?_concat]

end Joining

namespace Files

variable {Path : Type} (files : Files Path)

/-- What a load adds: files that were not visited, all of them readable, and their lines. -/
structure Added (visited : List Path) (roots : List Path) (own : List Text) (lines : List Text)
    (added : List Path) : Prop where
  explored : Explored files.included { file | file ∈ visited } roots
    { file | file ∈ added ++ visited }
  fresh : (added ++ visited).Nodup
  readable : ∀ file ∈ added, (files.readToString file).isSome
  lines_perm : (filled lines).Perm (own ++ added.flatMap files.ownLines)
  own_kept : own.Sublist (filled lines)
  added_kept : ∀ file ∈ added, (files.ownLines file).Sublist (filled lines)

/-- The outcomes of visiting `roots`, apart from running out of fuel. -/
inductive Outcome (visited : List Path) (roots : List Path) (own before : List Text) :
    LoadResult Path → Prop
  | loaded (lines : List Text) (added : List Path)
      (holds : files.Added visited roots own lines added) :
      Outcome visited roots own before (.ok (joinLines (before ++ lines), added ++ visited))
  | failed (root missing : Path) (among : root ∈ roots)
      (path : Reaches files.included root missing)
      (unreadable : files.readToString missing = none) :
      Outcome visited roots own before (.error .io)

section Visits

variable {files} {visited roots added : List Path} {own lines : List Text}

theorem included_line {file path : Path} {line : Text}
    (names : files.includePath file line = some path) (lines : List Text) :
    files.includedBy file (line :: lines) = files.canonical path :: files.includedBy file lines := by
  simp [includedBy, names]

theorem own_line {file path : Path} {line : Text}
    (names : files.includePath file line = some path) (lines : List Text) :
    files.ownAmong file (line :: lines) = files.ownAmong file lines := by
  simp [ownAmong, names]

theorem plain_included {file : Path} {line : Text} (plain : files.includePath file line = none)
    (lines : List Text) : files.includedBy file (line :: lines) = files.includedBy file lines := by
  simp [includedBy, plain]

theorem plain_own {file : Path} {line : Text} (plain : files.includePath file line = none)
    (lines : List Text) :
    files.ownAmong file (line :: lines) = filled [line] ++ files.ownAmong file lines := by
  by_cases empty : line = [] <;> simp [ownAmong, filled, plain, empty]

theorem added_nil (fresh : visited.Nodup) : files.Added visited [] [] [] [] where
  explored := explored_nil _
  fresh := fresh
  readable := by simp
  lines_perm := .refl _
  own_kept := .refl _
  added_kept := by simp

theorem Added.line (rest : files.Added visited roots own lines added) (line : Text) :
    files.Added visited roots (filled [line] ++ own) (line :: lines) added := by
  have split : filled (line :: lines) = filled [line] ++ filled lines := filled_append [line] lines
  constructor
  · exact rest.explored
  · exact rest.fresh
  · exact rest.readable
  · rw [split, List.append_assoc]
    exact rest.lines_perm.append_left _
  · rw [split]
    exact rest.own_kept.append_left _
  · intro file member
    rw [split]
    exact (rest.added_kept file member).trans (List.sublist_append_right _ _)

/-- An include line: what the file brings, at most an empty line, what the later lines bring. -/
theorem Added.append {root : Path} {first last later : List Text} {addedLater : List Path}
    (start : files.Added visited [root] [] first added)
    (rest : files.Added (added ++ visited) roots own later addedLater) (blank : filled last = []) :
    files.Added visited (root :: roots) own (first ++ last ++ later) (addedLater ++ added) := by
  have split : filled (first ++ last ++ later) = filled first ++ filled later := by
    rw [filled_append, filled_append, blank, List.append_nil]
  constructor
  · rw [List.append_assoc]
    exact start.explored.append rest.explored
  · rw [List.append_assoc]
    exact rest.fresh
  · intro file member
    rcases List.mem_append.mp member with late | early
    · exact rest.readable file late
    · exact start.readable file early
  · rw [split, List.flatMap_append]
    have both := start.lines_perm.append rest.lines_perm
    rw [List.nil_append] at both
    exact both.trans (List.perm_append_comm.trans (by rw [List.append_assoc]))
  · rw [split]
    exact rest.own_kept.trans (List.sublist_append_right _ _)
  · intro file member
    rw [split]
    rcases List.mem_append.mp member with late | early
    · exact (rest.added_kept file late).trans (List.sublist_append_right _ _)
    · exact (start.added_kept file early).trans (List.sublist_append_left _ _)

/-- A file that was not visited counts as visited while its lines are expanded. -/
theorem Added.file {file : Path} (readable : (files.readToString file).isSome)
    (inside : files.Added (file :: visited) (files.included file) (files.ownLines file) lines
      added) : files.Added visited [file] [] lines (added ++ [file]) := by
  have same : added ++ [file] ++ visited = added ++ file :: visited := by simp
  have marked : { other | other ∈ file :: visited } = insert file { other | other ∈ visited } := by
    ext other
    simp
  constructor
  · rw [same]
    exact explored_node (marked ▸ inside.explored)
  · rw [same]
    exact inside.fresh
  · intro other member
    rcases List.mem_append.mp member with early | late
    · exact inside.readable other early
    · rw [List.mem_singleton.mp late]
      exact readable
  · rw [List.flatMap_append, List.flatMap_singleton, List.nil_append]
    exact inside.lines_perm.trans List.perm_append_comm
  · exact List.nil_sublist _
  · intro other member
    rcases List.mem_append.mp member with early | late
    · exact inside.added_kept other early
    · rw [List.mem_singleton.mp late]
      exact inside.own_kept

end Visits

section Expansion

variable [DecidableEq Path] {files}

/-- Fuel for every readable file that was not visited. -/
def Room (readable : List Path) (fuel : Nat) (visited : List Path) : Prop :=
  (readable.filter (· ∉ visited)).length < fuel

theorem Room.append {readable visited : List Path} {fuel : Nat} (room : Room readable fuel visited)
    (added : List Path) : Room readable fuel (added ++ visited) := by
  refine Nat.lt_of_le_of_lt (List.Sublist.length_le ?_) room
  refine List.monotone_filter_right _ fun file new => ?_
  simp only [decide_eq_true_eq, List.mem_append, not_or] at new ⊢
  exact new.2

theorem Room.visit {readable visited : List Path} {fuel : Nat} {file : Path}
    (room : Room readable (fuel + 1) visited) (among : file ∈ readable) (new : file ∉ visited) :
    Room readable fuel (file :: visited) := by
  have smaller : (readable.filter (· ∉ file :: visited)).length <
      (readable.filter (· ∉ visited)).length := by
    have sub : (readable.filter (· ∉ file :: visited)).Sublist (readable.filter (· ∉ visited)) := by
      refine List.monotone_filter_right _ fun other keeps => ?_
      simp only [decide_eq_true_eq, List.mem_cons, not_or] at keeps ⊢
      exact keeps.2
    refine Nat.lt_of_le_of_ne sub.length_le fun same => ?_
    have held : file ∈ readable.filter (· ∉ visited) := by simp [among, new]
    rw [← sub.eq_of_length same] at held
    simp at held
  exact Nat.lt_of_lt_of_le smaller (Nat.le_of_lt_succ room)

/-- The lines of a file, by induction over them: what loading one path does holds of the loop. -/
theorem expandLines_outcome {readable : List Path} {fuel : Nat} {load : Path → List Path →
    LoadResult Path} (loads : ∀ path visited, visited.Nodup → Room readable fuel visited →
      files.Outcome visited [files.canonical path] [] [] (load path visited)) (file : Path)
    (lines : List Text) (before : List Text) (visited : List Path) (fresh : visited.Nodup)
    (room : Room readable fuel visited) :
    files.Outcome visited (files.includedBy file lines) (files.ownAmong file lines) before
      (files.expandLines load file (joinLines before) visited lines) := by
  induction lines generalizing before visited with
  | nil =>
      have nothing : files.Outcome visited [] [] before
          (.ok (joinLines (before ++ []), [] ++ visited)) := .loaded [] [] (added_nil fresh)
      rwa [List.append_nil, List.nil_append] at nothing
  | cons line lines ih =>
      rw [expandLines]
      cases names : files.includePath file line with
      | none =>
          dsimp only
          rw [← joinLines_concat, plain_included names, plain_own names]
          have rest := ih (before ++ [line]) visited fresh room
          generalize files.expandLines load file (joinLines (before ++ [line])) visited lines =
            result at rest ⊢
          cases rest with
          | loaded later added holds =>
              rw [List.append_assoc, List.singleton_append]
              exact .loaded _ added (holds.line line)
          | failed root missing among path unreadable =>
              exact .failed root missing among path unreadable
      | some path =>
          dsimp only
          rw [included_line names, own_line names]
          have start := loads path visited fresh room
          generalize load path visited = result at start ⊢
          cases start with
          | failed root missing among path unreadable =>
              rw [List.mem_singleton.mp among] at path
              exact .failed _ missing List.mem_cons_self path unreadable
          | loaded first added holds =>
              dsimp only
              rw [List.nil_append, ← joinLines_append]
              obtain ⟨last, ended, blank⟩ := endLine_joinLines (before ++ first)
              rw [ended]
              have later := ih (before ++ first ++ last) (added ++ visited) holds.fresh
                (room.append added)
              generalize files.expandLines load file (joinLines (before ++ first ++ last))
                (added ++ visited) lines = result at later ⊢
              cases later with
              | loaded later addedLater rest =>
                  have whole : files.Outcome _ _ _ before _ :=
                    .loaded _ _ (holds.append rest blank)
                  simpa only [List.append_assoc] using whole
              | failed root missing among path unreadable =>
                  exact .failed root missing (List.mem_cons_of_mem _ among) path unreadable

theorem loadWithIncludes_outcome {readable : List Path}
    (all : ∀ file, (files.readToString file).isSome → file ∈ readable) (fuel : Nat) (path : Path)
    (visited : List Path) (fresh : visited.Nodup) (room : Room readable fuel visited) :
    files.Outcome visited [files.canonical path] [] []
      (files.loadWithIncludes fuel path visited) := by
  induction fuel generalizing path visited with
  | zero => exact absurd room (Nat.not_lt_zero _)
  | succ fuel ih =>
      rw [loadWithIncludes]
      split
      · rename_i seen
        have nothing : files.Added visited [files.canonical path] [] [] [] :=
          { added_nil fresh with explored := explored_seen seen }
        have loaded : files.Outcome visited [files.canonical path] [] []
            (.ok (joinLines ([] ++ []), [] ++ visited)) := .loaded [] [] nothing
        simpa [joinLines] using loaded
      · rename_i new
        cases content : files.readToString (files.canonical path) with
        | none => exact .failed _ _ (List.mem_singleton_self _) .refl content
        | some text =>
            have readable := all (files.canonical path) (by rw [content]; rfl)
            have lines : files.fileLines (files.canonical path) = strLines text := by
              rw [fileLines, content]
              rfl
            have inside := expandLines_outcome ih (files.canonical path) (strLines text) []
              (files.canonical path :: visited) (List.nodup_cons.mpr ⟨new, fresh⟩)
              (room.visit readable new)
            have start : joinLines [] = [] := rfl
            rw [start] at inside
            dsimp only
            generalize files.expandLines (files.loadWithIncludes fuel)
              (files.canonical path) [] (files.canonical path :: visited) (strLines text) =
              result at inside ⊢
            rw [← lines] at inside
            cases inside with
            | loaded lines added holds =>
                have whole : files.Outcome _ _ _ [] _ :=
                  .loaded lines _ (Added.file (by rw [content]; rfl) holds)
                simpa [joinLines] using whole
            | failed root missing among path unreadable =>
                exact .failed _ missing (List.mem_singleton_self _) (.head among path) unreadable

end Expansion

section Loading

variable [DecidableEq Path]

/-- What loading a configuration file comes to, where finitely many files can be read: an error
exactly if some file that it reaches through includes cannot be read; otherwise every file that
it reaches is visited once and the non-empty lines of their own that those files have are the
non-empty lines of the expansion, each file's in their order, whatever the cycles. -/
theorem loadWithIncludes_expands {readable : List Path}
    (all : ∀ file, (files.readToString file).isSome → file ∈ readable) (path : Path) :
    (files.loadWithIncludes (readable.length + 1) path [] = .error .io ∧
      ∃ missing, files.Reachable path missing ∧ files.readToString missing = none) ∨
    ∃ lines visited,
      files.loadWithIncludes (readable.length + 1) path [] = .ok (joinLines lines, visited) ∧
      (∀ file, files.Reachable path file → (files.readToString file).isSome) ∧
      visited.Nodup ∧ (∀ file, file ∈ visited ↔ files.Reachable path file) ∧
      (filled lines).Perm (visited.flatMap files.ownLines) ∧
      ∀ file ∈ visited, (files.ownLines file).Sublist (filled lines) := by
  have room : Room readable (readable.length + 1) [] :=
    Nat.lt_succ_of_le (List.length_filter_le _ _)
  have outcome := loadWithIncludes_outcome all (readable.length + 1) path [] List.nodup_nil room
  generalize files.loadWithIncludes (readable.length + 1) path [] = result at outcome ⊢
  cases outcome with
  | failed root missing among reached unreadable =>
      rw [List.mem_singleton.mp among] at reached
      exact .inl ⟨rfl, missing, reached, unreadable⟩
  | loaded lines added holds =>
      obtain ⟨explored, fresh, readable, perm, _, kept⟩ := holds
      have nothing : { file : Path | file ∈ ([] : List Path) } = ∅ := by simp
      rw [nothing] at explored
      rw [List.append_nil] at explored fresh ⊢
      have reached : ∀ file, file ∈ added ↔ files.Reachable path file := explored.mem_iff
      rw [List.nil_append] at perm ⊢
      exact .inr ⟨lines, added, rfl, fun file path => readable file ((reached file).mpr path),
        fresh, reached, perm, kept⟩

/-- A directory with the file `a`, which includes `b`, which includes `a`. -/
def twoFiles : Files Text where
  canonicalize := some
  readToString path :=
    if path = "a".toList then some "include b\nx = 1\n".toList
    else if path = "b".toList then some "y = 2\ninclude a\n".toList
    else none
  parent _ := none
  currentDir := ".".toList
  named := id
  isAbsolute _ := true
  join _ path := path

theorem loadWithIncludes_expands_twoFiles : ∃ lines visited,
    twoFiles.loadWithIncludes 3 "a".toList [] = .ok (joinLines lines, visited) ∧
      visited.Nodup ∧ (∀ file, file ∈ visited ↔ twoFiles.Reachable "a".toList file) ∧
      (filled lines).Perm (visited.flatMap twoFiles.ownLines) := by
  have all : ∀ file, (twoFiles.readToString file).isSome → file ∈ ["a".toList, "b".toList] := by
    intro file readable
    simp only [twoFiles] at readable
    split at readable
    · rename_i isA
      simp [isA]
    · split at readable
      · rename_i isB
        simp [isB]
      · cases readable
  rcases loadWithIncludes_expands twoFiles all "a".toList with ⟨failed, _⟩ | expands
  · exact absurd failed (by decide)
  · obtain ⟨lines, visited, loaded, _, fresh, reached, perm, _⟩ := expands
    exact ⟨lines, visited, loaded, fresh, reached, perm⟩

end Loading

end Files

end Boo.Settings.Includes
