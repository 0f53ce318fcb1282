import Reflex.Proofs.File.Directory

/-!
# The files of a disk

What a program keeps on a disk are the texts at the places of files.  Replacing a file as a whole
changes two places, and making a directory changes none; from a directory that is not there nothing
is read.

* `Disk.textAt?` is the text at a place, and `Disk.lookup_replaced` and `Disk.directory_replaced_iff`
  say what is at each place after a file was replaced.
* `Disk.SameFiles.makeDirectories` says that making directories changes no file.
* `Disk.Misses` says that a path leads to nothing, and `Disk.readText_of_missing` that no path does
  which goes on from there.
-/

namespace Reflex

open FilePath

namespace Disk

variable {disk disk' : Disk} {dir path name temporary text : String} {place other : Location}

/-! ## Texts -/

/-- The text of the file at a place. -/
def textAt? (disk : Disk) (place : Location) : Option String :=
  match disk.nodes.lookup place with
  | some (.file text) => some text
  | _ => none

lemma textAt?_congr (same : disk'.nodes.lookup place = disk.nodes.lookup place) :
    disk'.textAt? place = disk.textAt? place := by
  rw [textAt?, textAt?, same]

/-- What is at each place after a file was replaced as a whole. -/
lemma lookup_replaced : (disk.replaced place temporary name text).nodes.lookup other =
    if other = place ++ [name] then some (.file text)
    else if other = place ++ [temporary] then none
    else disk.nodes.lookup other := by
  rw [replaced]
  split_ifs with final between
  · rw [final, lookup_put_self]
  · rw [lookup_put_of_ne final, between, lookup_erase_self]
  · rw [lookup_put_of_ne final, lookup_erase_of_ne between, lookup_put_of_ne between]

/-- Where there is no directory in the way, replacing a file neither makes nor takes away one. -/
lemma directory_replaced_iff (free : disk.node? (place ++ [name]) ≠ some .directory)
    (free' : disk.node? (place ++ [temporary]) ≠ some .directory) :
    (disk.replaced place temporary name text).node? other = some .directory ↔
      disk.node? other = some .directory := by
  rw [node?, lookup_replaced]
  split_ifs with above final between
  · rw [node?, if_pos above]
  · subst final
    simp [free]
  · subst between
    simp [free']
  · rw [node?, if_neg above]

lemma Spares.replaced (free : disk.node? (place ++ [name]) ≠ some .directory)
    (free' : disk.node? (place ++ [temporary]) ≠ some .directory) :
    Spares disk (disk.replaced place temporary name text) where
  root := rfl
  directory isDirectory := (directory_replaced_iff free free').2 isDirectory

/-- A file in a directory is read, unless a directory has its name. -/
lemma Opens.readText_eq (opens : disk.Opens dir place) (named : IsName name) (fits : Fits dir name)
    (free : disk.node? (place ++ [name]) ≠ some .directory) :
    disk.readText (join dir name) =
      (disk.textAt? (place ++ [name])).elim (.error .notFound) .ok := by
  have found : disk.node? (place ++ [name]) = disk.nodes.lookup (place ++ [name]) := by
    rw [node?, not_isAtOrAbove named]
    rfl
  rw [found] at free
  rw [readText, at?, opens.locate_join named fits, textAt?]
  simp only [bind, Except.bind, found]
  cases there : disk.nodes.lookup (place ++ [name]) with
  | none => rfl
  | some node =>
    cases node with
    | directory => exact absurd there free
    | file text => rfl

/-! ## Making directories -/

/-- One disk has the same files as another, and the same working directory. -/
structure SameFiles (disk disk' : Disk) : Prop where
  root : disk'.root = disk.root
  texts : ∀ place, disk'.textAt? place = disk.textAt? place

namespace SameFiles

lemma refl (disk : Disk) : SameFiles disk disk :=
  ⟨rfl, fun _ => rfl⟩

lemma trans {disk'' : Disk} (first : SameFiles disk disk') (second : SameFiles disk' disk'') :
    SameFiles disk disk'' :=
  ⟨second.root.trans first.root, fun place => (second.texts place).trans (first.texts place)⟩

/-- A directory is made where nothing was. -/
lemma makeDirectory (makes : disk.makeDirectory path = .ok disk') : SameFiles disk disk' := by
  rw [Disk.makeDirectory, bind_eq_ok_iff] at makes
  obtain ⟨found?, -, makes⟩ := makes
  cases found? with
  | none => cases makes
  | some d =>
    obtain ⟨here, -, makes⟩ := bind_eq_ok_iff.1 makes
    split at makes
    · cases makes
    · rename_i free
      cases makes
      refine ⟨rfl, fun place => ?_⟩
      by_cases same : place = here
      · subst same
        have absent : disk.nodes.lookup place = none := by
          rw [node?] at free
          split_ifs at free with above
          · exact absurd rfl free
          · exact Option.not_isSome_iff_eq_none.1 free
        rw [textAt?, textAt?, lookup_put_self, absent]
      · exact textAt?_congr (lookup_put_of_ne same)

lemma ensureDirectory (path : String) (disk : Disk) :
    SameFiles disk ((ensureDirectory path).run disk).run.2 := by
  have attempted : SameFiles disk ((attempt (·.makeDirectory path)).run disk).run.2 := by
    simp only [attempt, StateT.run, Id.run]
    cases makes : disk.makeDirectory path with
    | error e => exact .refl disk
    | ok made => exact .makeDirectory makes
  rw [Disk.ensureDirectory, StateT.run_bind, Id.run_bind]
  -- What follows the attempt looks at the disk and does not change it.
  split <;> exact attempted

lemma ensureDirectories (paths : List String) (disk : Disk) :
    SameFiles disk ((ensureDirectories paths).run disk).run.2 := by
  induction paths generalizing disk with
  | nil => exact .refl disk
  | cons path others ih =>
    rw [Disk.ensureDirectories, StateT.run_bind, Id.run_bind]
    have first := ensureDirectory path disk
    split
    · rw [StateT.run_bind, Id.run_bind]
      split
      · exact first.trans ((ih _).trans (ensureDirectory path _))
      · exact first.trans (ih _)
    · exact first

/-- Making directories changes no file. -/
lemma makeDirectories (dir : String) (disk : Disk) :
    SameFiles disk ((makeDirectories dir).run disk).run.2 :=
  ensureDirectories _ disk

end SameFiles

/-! ## Directories that are not there -/

/-- Parts lead from a place to where nothing is, so that no part leads on from there. -/
def Misses (disk : Disk) (place : Location) (parts : List String) : Prop :=
  ∀ part, (parts ++ [part]).foldlM disk.step place = .error .notFound

lemma misses_of_absent {parts : List String} (followed : parts.foldlM disk.step place = .ok other)
    (absent : disk.node? other = none) : disk.Misses place parts := by
  intro part
  rw [List.foldlM_append, followed]
  change List.foldlM disk.step other [part] = _
  rw [List.foldlM_cons, step, absent]
  rfl

lemma misses_of_error {parts : List String}
    (lost : parts.foldlM disk.step place = .error .notFound) : disk.Misses place parts := by
  intro part
  rw [List.foldlM_append, lost]
  rfl

/-- The path of a directory that is not there leads to nothing. -/
lemma misses_start (missing : disk.at? dir = .error .notFound)
    (permitted : checkPath dir = .ok ()) : disk.Misses (disk.start dir).1 (disk.start dir).2 := by
  rw [at?, locate, permitted] at missing
  cases followed : (disk.start dir).2.foldlM disk.step (disk.start dir).1 with
  | error e =>
    simp only [bind, Except.bind, followed] at missing
    cases missing
    exact misses_of_error followed
  | ok other =>
    simp only [bind, Except.bind, followed] at missing
    split at missing
    · cases missing
    · exact misses_of_absent followed ‹_›

/-- An empty part at the end makes no difference. -/
lemma Misses.of_append_empty {parts : List String} (misses : disk.Misses place (parts ++ [""])) :
    disk.Misses place parts := by
  cases followed : parts.foldlM disk.step place with
  | error e =>
    have lost := misses ""
    rw [List.append_assoc, List.foldlM_append, followed] at lost
    exact misses_of_error (followed.trans lost)
  | ok other =>
    have lost := misses "."
    rw [List.append_assoc, List.foldlM_append, followed] at lost
    change List.foldlM disk.step other ["", "."] = _ at lost
    refine misses_of_absent followed ?_
    cases found : disk.node? other with
    | none => rfl
    | some node => cases node <;> simp [step, found, bind, Except.bind, pure, Except.pure] at lost

/-- Nothing is read from a directory that is not there. -/
lemma readText_of_missing (missing : disk.at? dir = .error .notFound)
    (permitted : checkPath dir = .ok ()) (outside : disk.IsOutside dir) (named : IsName name)
    (fits : Fits dir name) : disk.readText (join dir name) = .error .notFound := by
  obtain ⟨noNul, there, -⟩ := checkPath_eq_ok_iff.1 permitted
  obtain ⟨place, cs, ds, start, start', ends⟩ := exists_start_join there outside named
  have misses : disk.Misses place ((cs.splitOn '/').map String.ofList) := by
    have whole := misses_start missing permitted
    rw [start] at whole
    rcases ends with rfl | rfl
    · exact whole
    · rw [List.splitOn_append_cons_self] at whole
      exact Misses.of_append_empty (by simpa using whole)
  have located : disk.locate (join dir name) = .error .notFound := by
    rw [locate, checkPath_join noNul named fits.pathBytes, start',
      List.splitOn_append_cons_self, List.splitOn_eq_singleton named.noSlash, List.map_append]
    have reached := misses name
    rwa [← String.ofList_toList (s := name)] at reached
  rw [readText, at?, located]
  rfl

end Disk

end Reflex
