import Reflex.Proofs.File.Texts
import Reflex.State.Storage

/-!
# Stored texts

A storage keeps a text for each key, in a file that is named after the key.  No name is that of two
files, be they the files of keys or the temporary ones, so that reads and writes in any order are
those of a map of texts.

* `Storage.Request` is a read or a write, and `Storage.after` the disk that requests leave behind.
* `Storage.Ready` says that the directory is there, or can be made and then is empty, and
  `Storage.Accepts` that the files of a key can be put into it.
* `Storage.kept` is what a request does to a disk with the directory; `Storage.Ready.step` says so
  of one request, and `Storage.Ready.after` of all of them.
* `Storage.files_are_a_map` is the result.
-/

namespace Reflex

open FilePath

/-- What fails before the first step is done fails. -/
lemma Attempt.run_bind_of_error {α β : Type} {x : Attempt (StateM Disk) α}
    {f : α → Attempt (StateM Disk) β} {disk disk' : Disk} {e : Failure}
    (failed : (x.run.run disk).run = (.error e, disk')) :
    ((x >>= f).run.run disk).run = (.error e, disk') := by
  rw [ExceptT.run_bind, StateT.run_bind, Id.run_bind, failed]
  rfl

namespace Storage

/-! ## Requests -/

/-- A read or a write under a key. -/
inductive Request where
  | read (key : String)
  | write (key text : String)

namespace Request

/-- The key that a request is made under. -/
def key : Request → String
  | read key => key
  | write key _ => key

/-- The text that a request writes under a key, if it does. -/
def textFor? (key : String) : Request → Option String
  | read _ => none
  | write key' text => if key' = key then some text else none

end Request

variable {storage : Storage} {disk made : Disk} {place : Location} {key key' text : String}

/-! ## Files of keys -/

/-- The files of a key can be put into the directory of a storage: no character and no length of
their names keeps them from it, and there is no directory of these names. -/
structure Accepts (storage : Storage) (disk : Disk) (place : Location) (key : String) : Prop where
  noNul : '\x00' ∉ key.toList
  fits : Disk.Fits storage.dir (temporaryName key)
  free : disk.node? (place ++ [fileName key]) ≠ some .directory
  free' : disk.node? (place ++ [temporaryName key]) ≠ some .directory

lemma isKey_iff : isKey key ↔
    key ≠ "" ∧ ('/' ∉ key.toList ∧ '\\' ∉ key.toList) ∧ key ≠ "." ∧ key ≠ ".." := by
  simp only [isKey, isPathSeparator, Bool.not_eq_true', Bool.or_eq_false_iff, List.any_eq_false,
    Bool.or_eq_true, beq_iff_eq, not_or, decide_eq_false_iff_not]
  constructor
  · rintro ⟨⟨⟨nonempty, separators⟩, dot⟩, dots⟩
    refine ⟨by simpa using nonempty, ⟨fun mem => (separators _ mem).1 rfl,
      fun mem => (separators _ mem).2 rfl⟩, dot, dots⟩
  · rintro ⟨nonempty, ⟨slash, backslash⟩, dot, dots⟩
    refine ⟨⟨⟨by simpa using nonempty, fun c mem => ⟨?_, ?_⟩⟩, dot⟩, dots⟩
    · rintro rfl
      exact slash mem
    · rintro rfl
      exact backslash mem

lemma Accepts.isStem (accepts : storage.Accepts disk place key) (accepted : isKey key) :
    IsStem key := by
  obtain ⟨nonempty, ⟨noSlash, -⟩, noDot, -⟩ := isKey_iff.1 accepted
  exact ⟨nonempty, noDot, noSlash, accepts.noNul⟩

/-! ## What requests do -/

/-- What a request asks for: a read gives a text if there is one, and a write gives none. -/
def perform (storage : Storage) : Request → Attempt (StateM Disk) (Option String)
  | .read key => storage.read key
  | .write key text => do
    storage.write key text
    return none

/-- What a request gives on a disk, and the disk that it leaves behind. -/
def run (storage : Storage) (request : Request) (disk : Disk) :
    Except Failure (Option String) × Disk :=
  ((storage.perform request).run.run disk).run

/-- The disk that requests leave behind, whatever becomes of them. -/
def after (storage : Storage) (requests : List Request) (disk : Disk) : Disk :=
  requests.foldl (fun disk request => (storage.run request disk).2) disk

/-- The text that was last written under a key. -/
def lastWritten (requests : List Request) (key : String) : Option String :=
  (requests.filterMap (Request.textFor? key)).getLast?

lemma run_path : ((storage.path key : Attempt (StateM Disk) String).run.run disk).run =
    (if isKey key then .ok (join storage.dir (fileName key))
      else .error (.ofCause (.storageKey key)), disk) := by
  rw [path]
  split <;> rfl

lemma does_path (accepted : isKey key) : (storage.path key : Attempt (StateM Disk) String).Does disk
    (join storage.dir (fileName key)) disk := by
  rw [Attempt.Does, run_path, if_pos accepted]

/-- A request under another text than a key fails and changes nothing. -/
lemma run_of_refused {request : Request} (refused : isKey request.key = false) :
    storage.run request disk = (.error (.ofCause (.storageKey request.key)), disk) := by
  have path : ((storage.path request.key : Attempt (StateM Disk) String).run.run disk).run =
      (.error (.ofCause (.storageKey request.key)), disk) := by
    rw [run_path, refused]
    rfl
  cases request with
  | read key => exact Attempt.run_bind_of_error path
  | write key text => exact Attempt.run_bind_of_error (Attempt.run_bind_of_error path)

/-- What a request makes of a disk that has the directory of the storage. -/
def kept (place : Location) (disk : Disk) : Request → Disk
  | .read _ => disk
  | .write key text =>
    if isKey key then disk.replaced place (temporaryName key) (fileName key) text else disk

/-- The directory of a storage is there, or it is not and can be made, and is empty then.  In `opens`
there is also that it is not given by the absolute path of the parent of the working directory, as
`Disk.IsOutside` has it. -/
structure Ready (storage : Storage) (disk made : Disk) (place : Location) : Prop where
  makes : ((Disk.makeDirectories storage.dir).run disk).run = (.ok (), made)
  opens : made.Opens storage.dir place
  fresh : made = disk ∨ disk.at? storage.dir = .error .notFound ∧
    ∀ name, made.nodes.lookup (place ++ [name]) = none

lemma Ready.of_opens (opens : disk.Opens storage.dir place) : storage.Ready disk disk place :=
  ⟨opens.run_makeDirectories, opens, .inl rfl⟩

namespace Ready

variable {request : Request} {requests : List Request}

/-- Making the directory changes no file. -/
lemma sameFiles (ready : storage.Ready disk made place) : disk.SameFiles made := by
  have same := Disk.SameFiles.makeDirectories storage.dir disk
  rwa [ready.makes] at same

/-- A directory that is not there has another path than the empty one, which always leads into the
working directory. -/
lemma made_eq_or (ready : storage.Ready disk made place) : made = disk ∨
    Disk.checkPath storage.dir = .ok () ∧ disk.at? storage.dir = .error .notFound ∧
      ∀ name, made.nodes.lookup (place ++ [name]) = none := by
  rcases ready.opens.located with ⟨none, -⟩ | located
  · have makes := ready.makes
    rw [none] at makes
    exact .inl (Prod.mk.inj makes).2.symm
  · exact ready.fresh.imp_right fun fresh => ⟨Disk.permitted_of_locate located, fresh⟩

/-- A read gives the text of a file, if it is there. -/
lemma run_read (ready : storage.Ready disk made place) (accepts : storage.Accepts made place key)
    (accepted : isKey key) :
    storage.run (.read key) disk = (.ok (made.textAt? (place ++ [fileName key])), disk) := by
  have named := (accepts.isStem accepted).isName_fileName
  have fits := accepts.fits.fileName (accepts.isStem accepted)
  have reads : disk.readText (join storage.dir (fileName key)) =
      (made.textAt? (place ++ [fileName key])).elim (.error .notFound) .ok := by
    rcases ready.made_eq_or with rfl | ⟨permitted, missing, empty⟩
    · exact ready.opens.readText_eq named fits accepts.free
    · have outside : disk.IsOutside storage.dir := by
        intro name noSlash
        rw [← ready.sameFiles.root]
        exact ready.opens.outside name noSlash
      rw [Disk.textAt?, empty]
      exact Disk.readText_of_missing missing permitted outside named fits
  change (storage.read key : Attempt (StateM Disk) _).Does disk _ disk
  rw [read, Attempt.does_bind_iff]
  refine ⟨_, disk, does_path accepted, ?_⟩
  rw [Attempt.does_bind_iff]
  refine ⟨disk.readText (join storage.dir (fileName key)), disk, Attempt.does_lift_iff.2 rfl, ?_⟩
  rw [reads]
  cases made.textAt? (place ++ [fileName key]) <;> exact Attempt.does_pure_iff.2 ⟨rfl, rfl⟩

/-- A write replaces the file of its key. -/
lemma run_write (ready : storage.Ready disk made place) (accepts : storage.Accepts made place key)
    (accepted : isKey key) : storage.run (.write key text) disk =
      (.ok none, made.replaced place (temporaryName key) (fileName key) text) := by
  have stem := accepts.isStem accepted
  let replaced : Disk := made.replaced place (temporaryName key) (fileName key) text
  have replaces : (replaceFile "state" storage.dir (join storage.dir (fileName key)) "json" text :
      Attempt (StateM Disk) Unit).Does disk () replaced :=
    (ready.opens.does_replaceFile_iff ready.makes stem.isName_fileName stem.isName_temporaryName
      accepts.free accepts.free' stem.temporaryPath_path).2
      ⟨⟨accepts.fits, accepts.fits.fileName stem⟩, rfl⟩
  have writes : (storage.write key text : Attempt (StateM Disk) Unit).Does disk () replaced := by
    rw [write, Attempt.does_bind_iff]
    exact ⟨_, disk, does_path accepted, replaces⟩
  change (storage.perform (.write key text)).Does disk none replaced
  rw [perform, Attempt.does_bind_iff]
  exact ⟨(), _, writes, Attempt.does_pure_iff.2 ⟨rfl, rfl⟩⟩

/-- A request is answered on a disk that is ready as on one with the directory, and leaves one
behind. -/
lemma step (ready : storage.Ready disk made place)
    (accepts : isKey request.key → storage.Accepts made place request.key) :
    storage.Ready (storage.run request disk).2 (kept place made request) place := by
  cases request with
  | read key =>
    by_cases accepted : isKey key
    · have accepts : storage.Accepts made place key := accepts accepted
      rw [ready.run_read accepts accepted]
      exact ready
    · rw [run_of_refused (Bool.not_eq_true _ ▸ accepted)]
      exact ready
  | write key text =>
    rw [kept]
    split
    · rename_i accepted
      have accepts : storage.Accepts made place key := accepts accepted
      rw [ready.run_write accepts accepted]
      exact .of_opens (ready.opens.of_spares (.replaced accepts.free accepts.free'))
    · rename_i accepted
      rw [run_of_refused (Bool.not_eq_true _ ▸ accepted)]
      exact ready

end Ready

/-- Requests leave the directories as they are. -/
lemma directory_kept_iff {request : Request} {other : Location}
    (accepts : isKey request.key → storage.Accepts made place request.key) :
    (kept place made request).node? other = some .directory ↔
      made.node? other = some .directory := by
  cases request with
  | read key => rfl
  | write key text =>
    rw [kept]
    split
    · rename_i accepted
      have accepts := accepts accepted
      exact Disk.directory_replaced_iff accepts.free accepts.free'
    · rfl

/-- What can be put into a directory can be put there after requests. -/
lemma Accepts.kept {request : Request} (accepts : storage.Accepts made place key)
    (others : isKey request.key → storage.Accepts made place request.key) :
    storage.Accepts (kept place made request) place key where
  noNul := accepts.noNul
  fits := accepts.fits
  free := (directory_kept_iff others).not.2 accepts.free
  free' := (directory_kept_iff others).not.2 accepts.free'

section Runs

variable {requests : List Request}

/-- Requests are answered one after the other as on a disk with the directory. -/
lemma Ready.after (ready : storage.Ready disk made place)
    (accepts : ∀ request ∈ requests, isKey request.key →
      storage.Accepts made place request.key) :
    storage.Ready (storage.after requests disk) (requests.foldl (kept place) made) place := by
  induction requests generalizing disk made with
  | nil => exact ready
  | cons request requests ih =>
    obtain ⟨first, others⟩ := List.forall_mem_cons.1 accepts
    exact ih (ready.step first) fun r mem accepted => (others r mem accepted).kept first

lemma Accepts.foldl_kept (accepts : storage.Accepts made place key)
    (others : ∀ request ∈ requests, isKey request.key →
      storage.Accepts made place request.key) :
    storage.Accepts (requests.foldl (Storage.kept place) made) place key := by
  induction requests generalizing made with
  | nil => exact accepts
  | cons request requests ih =>
    obtain ⟨first, others⟩ := List.forall_mem_cons.1 others
    exact ih (accepts.kept first) fun r mem accepted => (others r mem accepted).kept first

lemma lastWritten_concat {request : Request} : lastWritten (requests ++ [request]) key =
    (request.textFor? key).or (lastWritten requests key) := by
  rw [lastWritten, List.filterMap_append, List.filterMap_cons, List.filterMap_nil]
  cases request.textFor? key with
  | none => rw [List.append_nil, Option.none_or, lastWritten]
  | some text => rw [List.getLast?_concat, Option.some_or]

/-- A request writes the file of its own key only. -/
lemma textAt?_kept {request : Request} (accepted : isKey key) :
    (kept place made request).textAt? (place ++ [fileName key]) =
      (request.textFor? key).or (made.textAt? (place ++ [fileName key])) := by
  cases request with
  | read key' => rfl
  | write key' text =>
    rw [kept, Request.textFor?]
    by_cases same : key' = key
    · subst same
      rw [if_pos accepted, if_pos rfl, Disk.textAt?, Disk.lookup_replaced, if_pos rfl]
      rfl
    · have final : place ++ [fileName key] ≠ place ++ [fileName key'] := by
        simpa using fun same' => same (fileName_injective same').symm
      have between : place ++ [fileName key] ≠ place ++ [temporaryName key'] := by
        simpa using fileName_ne_temporaryName
      rw [if_neg same, Option.none_or]
      split
      · exact Disk.textAt?_congr (by rw [Disk.lookup_replaced, if_neg final, if_neg between])
      · rfl

/-- The file of a key holds what was last written under it, or what it held before. -/
lemma textAt?_foldl_kept (accepted : isKey key) :
    (requests.foldl (kept place) made).textAt? (place ++ [fileName key]) =
      (lastWritten requests key).or (made.textAt? (place ++ [fileName key])) := by
  induction requests using List.reverseRecOn with
  | nil => rfl
  | append_singleton requests request ih =>
    rw [List.foldl_concat, textAt?_kept accepted, ih, lastWritten_concat, Option.or_assoc]

/-- A write leaves no temporary file of its key behind, and no request brings one back. -/
lemma textAt?_kept_temporary {request : Request} (accepted : isKey key)
    (gone : made.textAt? (place ++ [temporaryName key]) = none ∨
      ∃ text, request = .write key text) :
    (kept place made request).textAt? (place ++ [temporaryName key]) = none := by
  cases request with
  | read key' => exact gone.resolve_right nofun
  | write key' text' =>
    rw [kept]
    split
    · rw [Disk.textAt?, Disk.lookup_replaced,
        if_neg (by simpa using fileName_ne_temporaryName.symm)]
      split_ifs with same
      · rfl
      · refine gone.resolve_right ?_
        rintro ⟨_, ⟨⟩⟩
        exact same rfl
    · rename_i refused
      refine gone.resolve_right ?_
      rintro ⟨_, ⟨⟩⟩
      exact refused accepted

lemma textAt?_foldl_kept_temporary (accepted : isKey key)
    (written : .write key text ∈ requests) :
    (requests.foldl (kept place) made).textAt? (place ++ [temporaryName key]) = none := by
  induction requests using List.reverseRecOn with
  | nil => cases written
  | append_singleton requests request ih =>
    rw [List.foldl_concat]
    rcases List.mem_append.1 written with earlier | last
    · exact textAt?_kept_temporary accepted (.inl (ih earlier))
    · exact textAt?_kept_temporary accepted (.inr ⟨text, (List.mem_singleton.1 last).symm⟩)

/-- Requests stay in the directory. -/
lemma textAt?_foldl_kept_outside {other : Location} (outside : ∀ name, other ≠ place ++ [name]) :
    (requests.foldl (kept place) made).textAt? other = made.textAt? other := by
  induction requests using List.reverseRecOn with
  | nil => rfl
  | append_singleton requests request ih =>
    rw [List.foldl_concat, ← ih]
    cases request with
    | read key => rfl
    | write key text =>
      rw [kept]
      split
      · exact Disk.textAt?_congr
          (by rw [Disk.lookup_replaced, if_neg (outside _), if_neg (outside _)])
      · rfl

/-- After requests a read gives what was last written, or what was there in the beginning. -/
lemma Ready.run_read_after (ready : storage.Ready disk made place)
    (accepts : ∀ request ∈ requests, isKey request.key →
      storage.Accepts made place request.key) (accepted : isKey key)
    (takes : storage.Accepts made place key) :
    storage.run (.read key) (storage.after requests disk) =
      (.ok ((lastWritten requests key).or (disk.textAt? (place ++ [fileName key]))),
        storage.after requests disk) := by
  rw [(ready.after accepts).run_read (takes.foldl_kept accepts) accepted,
    textAt?_foldl_kept accepted, ready.sameFiles.texts]

/-- A request under a key succeeds. -/
lemma Ready.exists_run {request : Request} (ready : storage.Ready disk made place)
    (accepts : storage.Accepts made place request.key) (accepted : isKey request.key) :
    ∃ given, (storage.run request disk).1 = .ok given := by
  cases request with
  | read key => exact ⟨_, congrArg Prod.fst (ready.run_read accepts accepted)⟩
  | write key text => exact ⟨_, congrArg Prod.fst (ready.run_write accepts accepted)⟩

/-- A request fails when there is no path for its key, and then it changes nothing. -/
lemma Ready.run_eq_error_iff {request : Request} {e : Failure}
    (ready : storage.Ready disk made place)
    (accepts : isKey request.key → storage.Accepts made place request.key) :
    (storage.run request disk).1 = .error e ↔
      ((storage.path request.key : Attempt (StateM Disk) String).run.run disk).run.1 =
        .error e := by
  rw [run_path]
  by_cases accepted : isKey request.key
  · obtain ⟨given, succeeds⟩ := ready.exists_run (accepts accepted) accepted
    rw [succeeds, if_pos accepted]
    simp
  · rw [run_of_refused (Bool.not_eq_true _ ▸ accepted), if_neg accepted]
    simp only [Except.error.injEq]

/-- **Files are a map of texts.**  The directory of a storage is there, or it can be made and is
empty then, and requests are made one after the other, under whatever keys; where a key is accepted,
its files can be put into the directory.

A further request fails exactly when there is no path for its key, with the same failure, and then
it changes nothing.  A read gives the text that was last written under its key, or else the text of
the file of the key that was there in the beginning, or none, and changes nothing.  A write
succeeds, and under all other keys the same is read after it as before.  No temporary file is left
of any write, and no file outside of the directory is another one than in the beginning. -/
theorem files_are_a_map (ready : storage.Ready disk made place)
    (accepts : ∀ request ∈ requests, isKey request.key →
      storage.Accepts made place request.key) :
    let now := storage.after requests disk
    (∀ request : Request, (isKey request.key → storage.Accepts made place request.key) →
      (∀ e, (storage.run request now).1 = .error e ↔
        ((storage.path request.key : Attempt (StateM Disk) String).run.run now).run.1 = .error e) ∧
      ∀ e, (storage.run request now).1 = .error e → (storage.run request now).2 = now) ∧
    (∀ key, isKey key → storage.Accepts made place key →
      storage.run (.read key) now =
        (.ok ((lastWritten requests key).or (disk.textAt? (place ++ [fileName key]))), now)) ∧
    (∀ key text, isKey key → storage.Accepts made place key →
      (storage.run (.write key text) now).1 = .ok none ∧
      ∀ key', key' ≠ key → isKey key' → storage.Accepts made place key' →
        (storage.run (.read key') (storage.run (.write key text) now).2).1 =
          (storage.run (.read key') now).1) ∧
    (∀ key text, .write key text ∈ requests → isKey key →
      now.textAt? (place ++ [temporaryName key]) = none) ∧
    ∀ other, (∀ name, other ≠ place ++ [name]) → now.textAt? other = disk.textAt? other := by
  intro now
  have readyNow : storage.Ready now (requests.foldl (kept place) made) place := ready.after accepts
  refine ⟨fun request takes => ?_, fun key accepted takes => ?_, fun key text accepted takes => ?_,
    fun key text written accepted => ?_, fun other outside => ?_⟩
  · have takesNow (accepted : isKey request.key) := (takes accepted).foldl_kept accepts
    refine ⟨fun e => readyNow.run_eq_error_iff takesNow, fun e failed => ?_⟩
    by_cases accepted : isKey request.key
    · obtain ⟨given, succeeds⟩ := readyNow.exists_run (takesNow accepted) accepted
      cases succeeds.symm.trans failed
    · rw [run_of_refused (Bool.not_eq_true _ ▸ accepted)]
  · exact ready.run_read_after accepts accepted takes
  · have succeeds : storage.run (.write key text) now = _ :=
      readyNow.run_write (takes.foldl_kept accepts) accepted
    refine ⟨congrArg Prod.fst succeeds, fun key' other accepted' takes' => ?_⟩
    have acceptsMore : ∀ request ∈ requests ++ [.write key text], isKey request.key →
        storage.Accepts made place request.key :=
      List.forall_mem_append.2 ⟨accepts, List.forall_mem_singleton.2 fun _ => takes⟩
    have later : (storage.run (.write key text) now).2 =
        storage.after (requests ++ [.write key text]) disk := by
      rw [after, List.foldl_concat]
      rfl
    rw [later, ready.run_read_after acceptsMore accepted' takes',
      ready.run_read_after accepts accepted' takes', lastWritten_concat, Request.textFor?,
      if_neg (Ne.symm other), Option.none_or]
  · rw [← readyNow.sameFiles.texts]
    exact textAt?_foldl_kept_temporary accepted written
  · rw [← readyNow.sameFiles.texts, textAt?_foldl_kept_outside outside, ready.sameFiles.texts]

end Runs

/-- A storage in the directory `state`. -/
def stateStorage : Storage :=
  ⟨"state"⟩

/-- A disk with a file and without the directory `state`. -/
def notesDisk : Disk :=
  ⟨"/h", [(["notes.json"], .file "n")]⟩

/-- Writes under a key, under what is no key, and under the name of the temporary file of the
key. -/
def writes : List Request :=
  [.read "k", .write "k" "1", .write "../notes" "2", .write "k.json.tmp" "3", .write "k" "4"]

/-- What is read after `writes`. -/
theorem files_are_a_map_writes :
    stateStorage.Ready notesDisk (notesDisk.put ["state"] .directory) ["state"] ∧
    stateStorage.run (.read "k") (stateStorage.after writes notesDisk) =
      (.ok (some "4"), stateStorage.after writes notesDisk) ∧
    stateStorage.run (.read "notes") (stateStorage.after writes notesDisk) =
      (.ok none, stateStorage.after writes notesDisk) ∧
    (stateStorage.after writes notesDisk).textAt? ["state", "k.json.tmp"] = none ∧
    (stateStorage.after writes notesDisk).textAt? ["notes.json"] = some "n" := by
  have ready : stateStorage.Ready notesDisk (notesDisk.put ["state"] .directory) ["state"] := by
    refine ⟨rfl, ⟨.inr rfl, by decide, fun name noSlash same => ?_⟩,
      .inr ⟨rfl, fun name => ?_⟩⟩
    · have first := congrArg (·.toList.head?) same
      have leads : lead "state" = "state/".toList := by decide
      rw [stateStorage, toList_join noSlash, leads] at first
      cases first
    · simp [notesDisk, Disk.put, List.lookup_cons]
  have accepts (key : String) (noNul : '\x00' ∉ key.toList)
      (fits : Disk.Fits "state" (temporaryName key)) :
      stateStorage.Accepts (notesDisk.put ["state"] .directory) ["state"] key := by
    refine ⟨noNul, fits, ?_, ?_⟩ <;>
      simp [notesDisk, Disk.put, Disk.node?, Disk.isAtOrAbove, List.lookup_cons]
  have k := accepts "k" (by decide) ⟨by decide, by decide⟩
  have acceptsAll : ∀ request ∈ writes, isKey request.key →
      stateStorage.Accepts (notesDisk.put ["state"] .directory) ["state"] request.key := by
    simp only [writes, List.forall_mem_cons]
    exact ⟨fun _ => k, fun _ => k, fun isKey => absurd isKey (by decide),
      fun _ => accepts "k.json.tmp" (by decide) ⟨by decide, by decide⟩, fun _ => k,
      fun _ isMember => absurd isMember List.not_mem_nil⟩
  obtain ⟨-, reads, -, temporary, outside⟩ := files_are_a_map ready acceptsAll
  have written : lastWritten writes "k" = some "4" := by decide
  have nothing : lastWritten writes "notes" = none := by decide
  have absent : notesDisk.textAt? ["state", "notes.json"] = none := by decide
  refine ⟨ready, ?_, ?_, temporary "k" "4" (by simp [writes]) (by decide),
    (outside ["notes.json"] (by simp)).trans (by decide)⟩
  · rw [reads "k" (by decide) k, written, Option.some_or]
  · rw [reads "notes" (by decide) (accepts "notes" (by decide) ⟨by decide, by decide⟩), nothing]
    rw [Option.none_or]
    exact congrArg (fun text? => (Except.ok text?, stateStorage.after writes notesDisk)) absent

end Storage

end Reflex
