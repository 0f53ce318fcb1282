import Mathlib.Data.String.Basic
import Reflex.File.Disk
import Reflex.File.Replace
import Reflex.Proofs.Result

/-!
# What is read from a disk after it was written

A file that was replaced as a whole holds the text that it was replaced with.  The steps on the way
put files in the places of files or where nothing was, so that every directory stays one, and a path
goes on leading where it led.

* `Disk.Spares` says that every directory of a disk is a directory of another.
* `Disk.readText_rename` says what is read at the path that a file was given.
* `Attempt.Does` says what a computation over files comes to on a disk, and
  `readText_of_replaceFile` what is read where a file was replaced.
-/

namespace Reflex

namespace Disk

variable {disk disk' : Disk} {place place' : Location} {node : DiskNode}
  {path source target part text : String} {parts : List String} {d : Destination}

/-! ## What is at a place -/

lemma lookup_filter_of_ne (other : place' ≠ place) (nodes : List (Location × DiskNode)) :
    (nodes.filter (·.1 ≠ place)).lookup place' = nodes.lookup place' := by
  induction nodes with
  | nil => rfl
  | cons entry nodes ih =>
    obtain ⟨own, node⟩ := entry
    by_cases taken : own = place
    · rw [List.filter_cons_of_neg (by simpa using taken), ih, List.lookup_cons,
        beq_false_of_ne (taken ▸ other)]
    · rw [List.filter_cons_of_pos (by simpa using taken), List.lookup_cons, List.lookup_cons, ih]

lemma lookup_put_self : (disk.put place node).nodes.lookup place = some node :=
  List.lookup_cons_self

lemma lookup_put_of_ne (other : place' ≠ place) :
    (disk.put place node).nodes.lookup place' = disk.nodes.lookup place' := by
  rw [put, List.lookup_cons, beq_false_of_ne other, lookup_filter_of_ne other]

lemma lookup_erase_self : (disk.erase place).nodes.lookup place = none := by
  refine List.lookup_eq_none_iff.2 fun entry mem => ?_
  have other : entry.1 ≠ place := by simpa using (List.mem_filter.1 mem).2
  simpa using Ne.symm other

lemma lookup_erase_of_ne (other : place' ≠ place) :
    (disk.erase place).nodes.lookup place' = disk.nodes.lookup place' :=
  lookup_filter_of_ne other disk.nodes

lemma node?_put_self (proper : isAtOrAbove place = false) :
    (disk.put place node).node? place = some node := by
  rw [node?, proper, lookup_put_self]
  rfl

lemma node?_put_of_ne (other : place' ≠ place) :
    (disk.put place node).node? place' = disk.node? place' := by
  rw [node?, node?, lookup_put_of_ne other]

lemma node?_erase_of_ne (other : place' ≠ place) :
    (disk.erase place).node? place' = disk.node? place' := by
  rw [node?, node?, lookup_erase_of_ne other]

/-- The working directory and those above it are directories. -/
lemma isAtOrAbove_of_notDirectory (notDirectory : disk.node? place ≠ some .directory) :
    isAtOrAbove place = false := by
  by_contra above
  rw [Bool.not_eq_false] at above
  exact notDirectory (if_pos above)

/-- What is taken away leaves no directory behind. -/
lemma notDirectory_erase (notDirectory : disk.node? place' ≠ some .directory) :
    (disk.erase place).node? place' ≠ some .directory := by
  by_cases same : place' = place
  · subst same
    rw [node?, isAtOrAbove_of_notDirectory notDirectory, lookup_erase_self]
    simp
  · rw [node?_erase_of_ne same]
    exact notDirectory

/-! ## Directories that stay -/

/-- Every directory of the first disk is one of the second, and both have the same root. -/
structure Spares (disk disk' : Disk) : Prop where
  root : disk'.root = disk.root
  directory {place : Location} :
    disk.node? place = some .directory → disk'.node? place = some .directory

lemma Spares.trans {disk'' : Disk} (first : Spares disk disk') (second : Spares disk' disk'') :
    Spares disk disk'' where
  root := second.root.trans first.root
  directory isDirectory := second.directory (first.directory isDirectory)

lemma Spares.put (notDirectory : disk.node? place ≠ some .directory) :
    Spares disk (disk.put place node) where
  root := rfl
  directory {place'} isDirectory := by
    have other : place' ≠ place := by
      rintro rfl
      exact notDirectory isDirectory
    rw [node?_put_of_ne other, isDirectory]

lemma Spares.erase (notDirectory : disk.node? place ≠ some .directory) :
    Spares disk (disk.erase place) where
  root := rfl
  directory {place'} isDirectory := by
    have other : place' ≠ place := by
      rintro rfl
      exact notDirectory isDirectory
    rw [node?_erase_of_ne other, isDirectory]

/-- A step leads out of a directory only. -/
lemma directory_of_step (steps : disk.step place part = .ok place') :
    disk.node? place = some .directory := by
  rw [step] at steps
  split at steps
  · cases steps
  · cases steps
  · assumption

lemma step_of_spares (spares : Spares disk disk') (steps : disk.step place part = .ok place') :
    disk'.step place part = .ok place' := by
  have isDirectory := directory_of_step steps
  rw [step, isDirectory] at steps
  rw [step, spares.directory isDirectory]
  exact steps

lemma foldlM_step_of_spares (spares : Spares disk disk')
    (steps : parts.foldlM disk.step place = .ok place') :
    parts.foldlM disk'.step place = .ok place' := by
  induction parts generalizing place with
  | nil => exact steps
  | cons part parts ih =>
    rw [List.foldlM_cons, bind_eq_ok_iff] at steps ⊢
    obtain ⟨between, first, others⟩ := steps
    exact ⟨between, step_of_spares spares first, ih others⟩

/-- The names in a path. -/
def namesIn (disk : Disk) (path : String) : List String :=
  (disk.start path).2.filter (!·.isEmpty)

/-- A path ends in a directory that is there and a name in it. -/
structure EndsIn (disk : Disk) (path : String) (d : Destination) : Prop where
  permitted : checkPath path = .ok ()
  followed : (disk.namesIn path).dropLast.foldlM disk.step (disk.start path).1 = .ok d.directory
  directory : disk.node? d.directory = some .directory
  last : (disk.namesIn path).getLast? = some d.name
  proper : d.name ≠ "." ∧ d.name ≠ ".."
  slash : d.isDirectory = (path.toList.getLast? == some '/')

lemma step_here : disk.step place "." = .ok place' ↔
    place' = place ∧ disk.node? place = some .directory := by
  rw [step]
  cases disk.node? place with
  | none => simp
  | some node =>
    cases node with
    | file text => simp
    | directory => simp [eq_comm]

lemma destination_eq_some_iff : disk.destination path = .ok (some d) ↔ disk.EndsIn path d := by
  constructor
  · intro found
    rw [destination, bind_eq_ok_iff] at found
    obtain ⟨_, permitted, found⟩ := found
    simp only [bind_eq_ok_iff] at found
    obtain ⟨directory, followed, _, here, found⟩ := found
    obtain ⟨rfl, isDirectory⟩ := step_here.1 here
    split at found
    · rename_i name last
      split at found
      · cases found
      · rename_i proper
        cases found
        exact ⟨permitted, followed, isDirectory, last, by simpa using proper, rfl⟩
    · cases found
  · rintro ⟨permitted, followed, isDirectory, last, proper, slash⟩
    rw [destination, bind_eq_ok_iff]
    refine ⟨(), permitted, ?_⟩
    simp only [bind_eq_ok_iff]
    refine ⟨d.directory, followed, d.directory, step_here.2 ⟨rfl, isDirectory⟩, ?_⟩
    rw [namesIn] at last
    rw [last]
    simp only [proper.1, proper.2, ← slash]
    rfl

/-- Where a path leads something to be put, it does so as long as directories stay. -/
lemma EndsIn.of_spares (ends : disk.EndsIn path d) (spares : Spares disk disk') :
    disk'.EndsIn path d := by
  have start : disk'.start path = disk.start path := by
    rw [Disk.start, Disk.start, spares.root]
  have names : disk'.namesIn path = disk.namesIn path := by
    rw [namesIn, namesIn, start]
  constructor
  · exact ends.permitted
  · rw [names, start]
    exact foldlM_step_of_spares spares ends.followed
  · exact spares.directory ends.directory
  · rw [names]
    exact ends.last
  · exact ends.proper
  · exact ends.slash

/-! ## Following a path to its end -/

/-- Empty parts of a path change nothing, as long as the path leads through directories. -/
lemma foldlM_step_of_filter (isDirectory : disk.node? place' = some .directory)
    (followed : (parts.filter (!·.isEmpty)).foldlM disk.step place = .ok place') :
    parts.foldlM disk.step place = .ok place' := by
  induction parts generalizing place with
  | nil => exact followed
  | cons part parts ih =>
    rw [List.foldlM_cons]
    by_cases empty : part.isEmpty
    · rw [List.filter_cons_of_neg (by simp [empty])] at followed
      have here : disk.node? place = some .directory := by
        cases others : parts.filter (!·.isEmpty) with
        | nil =>
          rw [others] at followed
          cases followed
          exact isDirectory
        | cons name names =>
          rw [others, List.foldlM_cons, bind_eq_ok_iff] at followed
          obtain ⟨_, first, -⟩ := followed
          exact directory_of_step first
      have stays : disk.step place part = .ok place := by
        rw [step, here]
        simp [empty]
      exact bind_eq_ok_iff.2 ⟨place, stays, ih followed⟩
    · rw [List.filter_cons_of_pos (by simp [empty]), List.foldlM_cons, bind_eq_ok_iff] at followed
      obtain ⟨between, first, others⟩ := followed
      exact bind_eq_ok_iff.2 ⟨between, first, ih others⟩

lemma step_empty (steps : disk.step place "" = .ok place') : place' = place := by
  rw [step, directory_of_step steps] at steps
  exact (Except.ok.inj steps).symm

lemma foldlM_step_filter (followed : parts.foldlM disk.step place = .ok place') :
    (parts.filter (!·.isEmpty)).foldlM disk.step place = .ok place' := by
  induction parts generalizing place with
  | nil => exact followed
  | cons part parts ih =>
    rw [List.foldlM_cons, bind_eq_ok_iff] at followed
    obtain ⟨between, first, others⟩ := followed
    by_cases empty : part = ""
    · subst empty
      rw [step_empty first] at others
      exact ih others
    · rw [List.filter_cons_of_pos (by simpa using empty), List.foldlM_cons]
      exact bind_eq_ok_iff.2 ⟨between, first, ih others⟩

/-- The last part of a path that does not end in a slash is not empty. -/
lemma getLast?_splitOn_ne_nil {cs : List Char} (nonempty : cs ≠ [])
    (noSlash : cs.getLast? ≠ some '/') : (cs.splitOn '/').getLast? ≠ some [] := by
  induction cs with
  | nil => exact absurd rfl nonempty
  | cons c cs ih =>
    cases cs with
    | nil =>
      have other : c ≠ '/' := by simpa using noSlash
      rw [List.splitOn_eq_singleton (by simpa using Ne.symm other)]
      simp
    | cons c' cs =>
      have last := ih (List.cons_ne_nil c' cs) (by simpa using noSlash)
      obtain ⟨first, others, split⟩ :=
        List.exists_cons_of_ne_nil (List.splitOn_ne_nil '/' (c' :: cs))
      rw [List.splitOn, List.splitOnP_cons_eq_if_modifyHead, ← List.splitOn, split]
      rw [split] at last
      by_cases slash : (c == '/') = true
      · rw [if_pos slash, List.getLast?_cons_cons]
        exact last
      · rw [if_neg slash, List.modifyHead_cons]
        cases others with
        | nil => simp
        | cons second others =>
          rw [List.getLast?_cons_cons] at last ⊢
          exact last

/-- The parts of a path are those that slashes cut a text into, which the path ends in. -/
lemma exists_start (disk : Disk) (path : String) : ∃ cs, cs <:+ path.toList ∧
    (disk.start path).2 = (cs.splitOn '/').map String.ofList := by
  rw [Disk.start]
  split
  · exact ⟨path.toList.drop disk.root.length, List.drop_suffix _ _, rfl⟩
  · exact ⟨path.toList, List.suffix_rfl, rfl⟩

/-- The name that a path ends in is its last part, unless slashes follow it. -/
lemma EndsIn.exists_parts (ends : disk.EndsIn path d) (file : d.isDirectory = false) :
    ∃ init : List String, (disk.start path).2 = init ++ [d.name] ∧
      (disk.namesIn path).dropLast = init.filter (!·.isEmpty) := by
  obtain ⟨cs, suffix, parts⟩ := disk.exists_start path
  have last := ends.last
  rw [namesIn, parts] at last ⊢
  have nonempty : cs ≠ [] := by
    rintro rfl
    cases last
  have noSlash : cs.getLast? ≠ some '/' := by
    intro slash
    have whole : path.toList.getLast? = some '/' := by
      obtain ⟨before, split⟩ := suffix
      rw [← split, List.getLast?_append_of_ne_nil _ nonempty, slash]
    rw [ends.slash, whole] at file
    cases file
  obtain ⟨init, part, split⟩ : ∃ init part, cs.splitOn '/' = init ++ [part] :=
    ⟨_, _, (List.dropLast_append_getLast (List.splitOn_ne_nil '/' cs)).symm⟩
  have proper : part ≠ [] := by
    rintro rfl
    refine getLast?_splitOn_ne_nil nonempty noSlash ?_
    rw [split, List.getLast?_concat]
  have kept : [String.ofList part].filter (!·.isEmpty) = [String.ofList part] :=
    List.filter_eq_self.2 (by simpa using proper)
  rw [split, List.map_append, List.map_cons, List.map_nil, List.filter_append, kept] at last ⊢
  rw [List.getLast?_concat] at last
  rw [← Option.some.inj last]
  exact ⟨init.map String.ofList, rfl, List.dropLast_concat⟩

/-- A path that no slash ends leads to the place of its last name. -/
lemma EndsIn.locate (ends : disk.EndsIn path d) (file : d.isDirectory = false)
    (placed : disk.place d = .ok place) : disk.locate path = .ok place := by
  obtain ⟨init, parts, names⟩ := ends.exists_parts file
  have followed := ends.followed
  rw [names] at followed
  have before := foldlM_step_of_filter ends.directory followed
  rw [Disk.locate, bind_eq_ok_iff]
  refine ⟨(), ends.permitted, ?_⟩
  have whole : (disk.start path).2.foldlM disk.step (disk.start path).1 = .ok place := by
    rw [parts, List.foldlM_append]
    refine bind_eq_ok_iff.2 ⟨d.directory, before, ?_⟩
    rw [List.foldlM_cons]
    exact bind_eq_ok_iff.2 ⟨place, placed, rfl⟩
  exact whole

/-! ## Writing and renaming -/

/-- What is put where a path leads is found there. -/
lemma EndsIn.readText_put (ends : disk.EndsIn path d) (file : d.isDirectory = false)
    (placed : disk.place d = .ok place) (spares : Spares disk disk')
    (notDirectory : disk'.node? place ≠ some .directory) :
    (disk'.put place (.file text)).readText path = .ok text := by
  have spares' : Spares disk (disk'.put place (.file text)) := spares.trans (.put notDirectory)
  have located : (disk'.put place (.file text)).locate path = .ok place :=
    (ends.of_spares spares').locate file (step_of_spares spares' placed)
  have found : (disk'.put place (.file text)).node? place = some (.file text) :=
    node?_put_self (isAtOrAbove_of_notDirectory notDirectory)
  rw [readText, at?, located]
  simp only [bind, Except.bind, found]

/-- A text is written where a path without a slash at its end leads, unless there is a directory. -/
lemma exists_of_writeText (written : disk.writeText path text = .ok disk') :
    ∃ d place, disk.EndsIn path d ∧ d.isDirectory = false ∧ disk.place d = .ok place ∧
      disk.node? place ≠ some .directory ∧ disk' = disk.put place (.file text) := by
  rw [writeText, bind_eq_ok_iff] at written
  obtain ⟨found?, found, written⟩ := written
  cases found? with
  | none => cases written
  | some d =>
    simp only at written
    split at written
    · cases written
    · rename_i file
      rw [bind_eq_ok_iff] at written
      obtain ⟨place, placed, written⟩ := written
      split at written
      · cases written
      · rename_i notDirectory
        cases written
        exact ⟨d, place, destination_eq_some_iff.1 found, by simpa using file, placed,
          notDirectory, rfl⟩

/-- A file is put where another path without a slash at its end leads, unless there is a
directory. -/
lemma exists_of_rename (renamed : disk.rename source target = .ok disk') :
    ∃ s t sourcePlace place text, disk.EndsIn source s ∧ disk.EndsIn target t ∧
      t.isDirectory = false ∧ disk.place s = .ok sourcePlace ∧
      disk.node? sourcePlace = some (.file text) ∧ disk.place t = .ok place ∧
      disk.node? place ≠ some .directory ∧
      disk' = (disk.erase sourcePlace).put place (.file text) := by
  simp only [rename, bind_eq_ok_iff] at renamed
  obtain ⟨s?, foundSource, t?, foundTarget, renamed⟩ := renamed
  cases s? with
  | none => cases renamed
  | some s =>
    cases t? with
    | none => cases renamed
    | some t =>
      simp only [bind_eq_ok_iff] at renamed
      obtain ⟨sourcePlace, sourcePlaced, renamed⟩ := renamed
      split at renamed
      · cases renamed
      · cases renamed
      · rename_i text held
        rw [bind_eq_ok_iff] at renamed
        obtain ⟨place, placed, renamed⟩ := renamed
        split at renamed
        · cases renamed
        · rename_i files
          split at renamed
          · cases renamed
          · rename_i notDirectory
            cases renamed
            exact ⟨s, t, sourcePlace, place, text, destination_eq_some_iff.1 foundSource,
              destination_eq_some_iff.1 foundTarget, by simp_all, sourcePlaced, held, placed,
              notDirectory, rfl⟩

/-- A text that was written at one path, at which there was no directory, is read at the path that
its file was given. -/
theorem readText_rename {disk'' : Disk} (written : disk.writeText source text = .ok disk')
    (renamed : disk'.rename source target = .ok disk'') : disk''.readText target = .ok text := by
  obtain ⟨d, writtenPlace, ends, -, placed, notDirectory, rfl⟩ := exists_of_writeText written
  obtain ⟨s, t, sourcePlace, place, held, endsSource, endsTarget, file, sourcePlaced, found,
    targetPlaced, free, rfl⟩ := exists_of_rename renamed
  have spares : Spares disk (disk.put writtenPlace (.file text)) := .put notDirectory
  -- The source of the renaming is the place of the writing.
  obtain rfl : d = s := by
    have same := (destination_eq_some_iff.2 (ends.of_spares spares)).symm.trans
      (destination_eq_some_iff.2 endsSource)
    exact Option.some.inj (Except.ok.inj same)
  obtain rfl : writtenPlace = sourcePlace :=
    Except.ok.inj ((step_of_spares spares placed).symm.trans sourcePlaced)
  obtain rfl : text = held := by
    rw [node?_put_self (isAtOrAbove_of_notDirectory notDirectory)] at found
    exact (DiskNode.file.inj (Option.some.inj found))
  have erased : Spares (disk.put writtenPlace (.file text))
      ((disk.put writtenPlace (.file text)).erase writtenPlace) := by
    refine .erase ?_
    rw [found]
    simp
  exact endsTarget.readText_put file targetPlaced erased (notDirectory_erase free)

end Disk

/-! ## Computations over files in memory -/

namespace Attempt

variable {α β ε : Type} {disk disk' disk'' : Disk} {x : Attempt (StateM Disk) α}
  {f : α → Attempt (StateM Disk) β} {a : α} {b : β} {context : String}

/-- A computation comes to a result on a disk, and leaves another disk behind. -/
def Does (x : Attempt (StateM Disk) α) (disk : Disk) (a : α) (disk' : Disk) : Prop :=
  (x.run.run disk).run = (.ok a, disk')

/-- A sequence of two steps succeeds when both do. -/
lemma does_bind_iff : (x >>= f).Does disk b disk'' ↔
    ∃ a disk', x.Does disk a disk' ∧ (f a).Does disk' b disk'' := by
  unfold Does
  rw [ExceptT.run_bind, StateT.run_bind, Id.run_bind]
  cases (x.run.run disk).run with
  | mk result disk' => cases result <;> simp

/-- What is given without a step leaves the disk as it is. -/
lemma does_pure_iff {b : α} : (pure a : Attempt (StateM Disk) α).Does disk b disk' ↔
    b = a ∧ disk' = disk := by
  unfold Does
  simp [eq_comm]

lemma does_within_iff : (within context x).Does disk a disk' ↔ x.Does disk a disk' := by
  unfold Does within
  rw [ExceptT.run_mk, StateT.run_bind, Id.run_bind]
  cases (x.run.run disk).run with
  | mk result disk' => cases result <;> simp

lemma does_ofExcept_iff {cause : ε → Cause} {result : Except ε α} :
    (ofExcept cause result : Attempt (StateM Disk) α).Does disk a disk' ↔
      result = .ok a ∧ disk' = disk := by
  unfold Does ofExcept
  cases result with
  | error e => simp
  | ok a' => simp [eq_comm]

lemma does_lift_iff {operation : StateM Disk α} :
    (liftM operation : Attempt (StateM Disk) α).Does disk a disk' ↔
      (operation.run disk).run = (a, disk') := by
  unfold Does
  rw [ExceptT.run_liftM, StateT.run_map, Id.run_map]
  cases (operation.run disk).run with
  | mk result disk' => simp

/-- An operation on files succeeds when it does so by itself. -/
lemma does_file_iff {operation : StateM Disk (Except FileError α)} :
    (file context operation).Does disk a disk' ↔ (operation.run disk).run = (.ok a, disk') := by
  unfold file
  rw [does_bind_iff]
  constructor
  · rintro ⟨result, between, done, taken⟩
    obtain ⟨rfl, rfl⟩ := does_ofExcept_iff.1 (does_within_iff.1 taken)
    exact does_lift_iff.1 done
  · intro done
    exact ⟨.ok a, disk', does_lift_iff.2 done, does_within_iff.2 (does_ofExcept_iff.2 ⟨rfl, rfl⟩)⟩

end Attempt

lemma Disk.attempt_eq_ok_iff {operation : Disk → Except FileError Disk} {disk disk' : Disk} :
    ((attempt operation).run disk).run = (.ok (), disk') ↔ operation disk = .ok disk' := by
  unfold attempt
  simp only [StateT.run]
  cases operation disk <;> simp [Id.run]

/-- **What a file was replaced with is read from it.** -/
theorem readText_of_replaceFile {disk disk' : Disk} {what dir path extension text : String}
    (replaced : (replaceFile what dir path extension text : Attempt (StateM Disk) Unit).Does disk ()
      disk') : disk'.readText path = .ok text := by
  unfold replaceFile at replaced
  simp only [Attempt.does_bind_iff, Attempt.does_file_iff] at replaced
  obtain ⟨⟨⟩, made, -, ⟨⟩, temporary, written, renamed⟩ := replaced
  exact Disk.readText_rename (Disk.attempt_eq_ok_iff.1 written) (Disk.attempt_eq_ok_iff.1 renamed)

end Reflex
