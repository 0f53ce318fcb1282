import Reflex.Proofs.File.Disk
import Reflex.Proofs.File.Path
import Reflex.Proofs.Ordered

/-!
# A directory as a map of texts

As long as a directory holds files only, the operations on the paths of names in it are those on a
map of texts by their names.  Paths are too long or they are not; apart from this nothing fails.

* `Disk.exists_start_join` follows the path of a name in a directory.
* `Disk.Opens` says that a path leads into a directory, with one lemma for each operation on a name
  that no directory has; `Disk.Opens.does_replaceFile_iff` says what replacing a file as a whole
  comes to.
* `Disk.Holds` says that a directory holds the texts of a map and nothing else.
* `Disk.IsEmptyDirectory.exists_holds` is where to begin.
-/

namespace Reflex

open FilePath

namespace Disk

variable {disk disk' : Disk} {dir name path text : String} {place : Location} {below : List Char}

/-! ## Paths into a directory -/

/-- What follows the path of the working directory in the path of something in it. -/
def IsBelow (below : List Char) : Prop :=
  ∀ c ∈ below.head?, c = '/'

lemma IsBelow.slash (inside : IsBelow below) (more : List Char) :
    IsBelow (below ++ '/' :: more) := by
  cases below with
  | nil =>
    rintro _ ⟨⟩
    rfl
  | cons c below => exact inside

lemma IsBelow.of_append {more : List Char} (inside : IsBelow (below ++ more)) : IsBelow below := by
  cases below with
  | nil => nofun
  | cons c below => exact inside

lemma start_of_inside (split : path.toList = disk.root.toList ++ below) (inside : IsBelow below) :
    disk.start path = ([], (below.splitOn '/').map String.ofList) := by
  have behind : path.toList.drop disk.root.length = below := by
    rw [split, ← String.length_toList, List.drop_left]
  have starts : (disk.root.toList.isPrefixOf path.toList &&
      (below.isEmpty || below.head? == some '/')) = true := by
    rw [split, Bool.and_eq_true, List.isPrefixOf_iff_prefix]
    refine ⟨List.prefix_append _ _, ?_⟩
    cases below with
    | nil => rfl
    | cons c below => simpa using inside c rfl
  rw [start]
  dsimp only
  rw [behind, if_pos starts]

lemma start_of_outside
    (outside : ∀ below, path.toList = disk.root.toList ++ below → ¬ IsBelow below) :
    disk.start path = (if isAbsolute path then ["/"] else [],
      (path.toList.splitOn '/').map String.ofList) := by
  have starts : ¬ (disk.root.toList.isPrefixOf path.toList &&
      ((path.toList.drop disk.root.length).isEmpty ||
        (path.toList.drop disk.root.length).head? == some '/')) = true := by
    rw [Bool.and_eq_true, List.isPrefixOf_iff_prefix]
    rintro ⟨⟨below, split⟩, inside⟩
    rw [← split, ← String.length_toList, List.drop_left] at inside
    refine outside below split.symm ?_
    rintro c first
    rw [Option.mem_def.1 first] at inside
    cases below with
    | nil => cases first
    | cons c' below => simpa using inside
  rw [start]
  dsimp only
  rw [if_neg starts]

/-- The working directory is not something in a directory.  On a disk with the working directory `/h`
the path `/h` leads to where relative paths begin, but the name `h` in `/` would be the place beside
it: there the disk has two names for one place.  So a directory that is given by the absolute path
of the parent of the working directory is shut out. -/
def IsOutside (disk : Disk) (dir : String) : Prop :=
  ∀ name : String, '/' ∉ name.toList → join dir name ≠ disk.root

/-- What leads into the directory is never just the path of the working directory. -/
lemma IsOutside.exists_below (outside : disk.IsOutside dir) {front more : List Char}
    (leads : lead dir = front ++ ['/']) (split : lead dir = disk.root.toList ++ more) :
    ∃ below, more = below ++ ['/'] ∧ front = disk.root.toList ++ below := by
  have apart : disk.root.toList ≠ lead dir := by
    intro same
    refine outside "" (by simp) (String.toList_inj.1 ?_)
    rw [toList_join (by simp), same]
    simp
  rcases List.eq_nil_or_concat' more with rfl | ⟨below, c, rfl⟩
  · exact absurd (by rw [split, List.append_nil]) apart
  · have same : front ++ ['/'] = (disk.root.toList ++ below) ++ [c] := by
      rw [← leads, split, List.append_assoc]
    obtain ⟨front_eq, last⟩ := List.append_inj' same rfl
    rw [List.singleton_inj.1 last]
    exact ⟨below, rfl, front_eq⟩

/-- The path of a name leads below the working directory only if that of the directory does. -/
lemma IsOutside.exists_of_join (outside : disk.IsOutside dir) (there : dir ≠ "")
    (noSlash : '/' ∉ name.toList) (whole : (join dir name).toList = disk.root.toList ++ below)
    (within : IsBelow below) : ∃ below, dir.toList = disk.root.toList ++ below ∧ IsBelow below := by
  obtain ⟨front, leads, ends⟩ := exists_lead there
  have apart : disk.root.toList ≠ lead dir ++ name.toList := by
    rw [← toList_join noSlash]
    exact fun same => outside name noSlash (String.toList_inj.1 same.symm)
  rw [toList_join noSlash] at whole
  rcases List.append_eq_append_iff.1 whole with ⟨more, root, split⟩ | ⟨more, split, rfl⟩
  · -- The path of the working directory would go on into the name, or be the whole path.
    have bare : below = [] := by
      cases below with
      | nil => rfl
      | cons c below =>
        have slash : c = '/' := within c rfl
        exact absurd (by rw [split, slash]; simp) noSlash
    rw [bare, List.append_nil] at split
    exact absurd (by rw [root, split]) apart
  · obtain ⟨below, rfl, front_eq⟩ := outside.exists_below leads split
    rcases ends with bare | slash
    · exact ⟨below, by rw [bare, front_eq], within.of_append.of_append⟩
    · exact ⟨below ++ ['/'], by rw [slash, ← leads, split], within.of_append⟩

/-- The path of a name in a directory starts where that of the directory does, and its last part is
the name. -/
lemma exists_start_join (there : dir ≠ "") (outside : disk.IsOutside dir)
    (named : IsName name) : ∃ (place : Location) (cs ds : List Char),
      disk.start dir = (place, (ds.splitOn '/').map String.ofList) ∧
      disk.start (join dir name) =
        (place, ((cs ++ '/' :: name.toList).splitOn '/').map String.ofList) ∧
      (ds = cs ∨ ds = cs ++ ['/']) := by
  obtain ⟨front, leads, ends⟩ := exists_lead there
  have joined : (join dir name).toList = lead dir ++ name.toList := toList_join named.noSlash
  by_cases inside : ∃ below, dir.toList = disk.root.toList ++ below ∧ IsBelow below
  · obtain ⟨below, split, inside⟩ := inside
    rcases ends with bare | slash
    · refine ⟨[], below, below, start_of_inside split inside,
        start_of_inside ?_ (inside.slash name.toList), .inl rfl⟩
      rw [joined, leads, ← bare, split]
      simp
    · obtain ⟨below, rfl, front_eq⟩ :=
        outside.exists_below leads (by rw [leads, ← slash, split])
      refine ⟨[], below, below ++ ['/'], start_of_inside split inside,
        start_of_inside ?_ (inside.of_append.slash name.toList), .inr rfl⟩
      rw [joined, leads, front_eq]
      simp
  · have joinedOutside : ∀ below, (join dir name).toList = disk.root.toList ++ below →
        ¬ IsBelow below := fun below whole within =>
      inside (outside.exists_of_join there named.noSlash whole within)
    refine ⟨if isAbsolute dir then ["/"] else [], front, dir.toList, ?_, ?_, ends⟩
    · exact start_of_outside fun below split within => inside ⟨below, split, within⟩
    · rw [start_of_outside joinedOutside, isAbsolute_join there named.noSlash, joined, leads]
      simp

/-- The last name in the path of a name in a directory is that name, and those before it are the
names in the path of the directory. -/
lemma namesIn_join (there : dir ≠ "") (outside : disk.IsOutside dir)
    (named : IsName name) : (disk.start (join dir name)).1 = (disk.start dir).1 ∧
      disk.namesIn (join dir name) = disk.namesIn dir ++ [name] := by
  obtain ⟨place, cs, ds, start, start', ends⟩ := exists_start_join there outside named
  have nonempty : name.isEmpty = false := by simpa using named.nonempty
  have last : ((cs ++ '/' :: name.toList).splitOn '/').map String.ofList =
      (cs.splitOn '/').map String.ofList ++ [name] := by
    rw [List.splitOn_append_cons_self, List.splitOn_eq_singleton named.noSlash]
    simp
  have before : ((ds.splitOn '/').map String.ofList).filter (!·.isEmpty) =
      ((cs.splitOn '/').map String.ofList).filter (!·.isEmpty) := by
    rcases ends with rfl | rfl
    · rfl
    · rw [List.splitOn_append_cons_self]
      simp
  rw [namesIn, namesIn, start, start']
  refine ⟨rfl, ?_⟩
  dsimp only
  rw [last, before]
  simp [nonempty]

/-! ## What a directory holds -/

/-- Neither a name nor its path in a directory is too long. -/
structure Fits (dir name : String) : Prop where
  nameBytes : name.utf8ByteSize ≤ maxNameBytes
  pathBytes : (join dir name).utf8ByteSize ≤ maxPathBytes

/-- A name that is not too long has no beginning that is. -/
lemma Fits.of_append {suffix : String} (noSlash : '/' ∉ (name ++ suffix).toList)
    (fits : Fits dir (name ++ suffix)) : Fits dir name := by
  have noSlash' : '/' ∉ name.toList := fun mem =>
    noSlash (by rw [String.toList_append]; exact List.mem_append_left _ mem)
  have longer : join dir (name ++ suffix) = join dir name ++ suffix := by
    apply String.toList_inj.1
    rw [String.toList_append, toList_join noSlash, toList_join noSlash',
      String.toList_append, List.append_assoc]
  obtain ⟨nameBytes, pathBytes⟩ := fits
  rw [String.utf8ByteSize_append] at nameBytes
  rw [longer, String.utf8ByteSize_append] at pathBytes
  exact ⟨Nat.le_of_add_right_le nameBytes, Nat.le_of_add_right_le pathBytes⟩

/-- What a temporary file is called is longer than what its file is. -/
lemma Fits.fileName (stem : IsStem text) (fits : Fits dir (temporaryName text)) :
    Fits dir (fileName text) :=
  .of_append stem.isName_temporaryName.noSlash fits

/-- A path leads into a directory that is there; the empty path leads into the working directory. -/
structure Opens (disk : Disk) (dir : String) (place : Location) : Prop where
  located : (dir = "" ∧ place = []) ∨ disk.locate dir = .ok place
  directory : disk.node? place = some .directory
  outside : disk.IsOutside dir

/-- A directory holds files with the given texts, and nothing else. -/
structure Holds (disk : Disk) (dir : String) (place : Location) (texts : String → Option String) :
    Prop where
  located : disk.locate dir = .ok place
  directory : disk.node? place = some .directory
  outside : disk.IsOutside dir
  held : ∀ name, disk.nodes.lookup (place ++ [name]) = (texts name).map .file

variable {texts texts' : String → Option String} {d : Destination}

lemma checkPath_eq_ok_iff : checkPath path = .ok () ↔
    '\x00' ∉ path.toList ∧ path ≠ "" ∧ path.utf8ByteSize ≤ maxPathBytes := by
  rw [checkPath]
  split_ifs with nul empty long
  · simp_all
  · simp_all
  · simp [long]
  · simp_all

lemma checkPath_join (noNul : '\x00' ∉ dir.toList) (named : IsName name)
    (short : (join dir name).utf8ByteSize ≤ maxPathBytes) : checkPath (join dir name) = .ok () := by
  have joined : (join dir name).toList = lead dir ++ name.toList := toList_join named.noSlash
  refine checkPath_eq_ok_iff.2 ⟨fun nul => ?_, fun empty => ?_, short⟩
  · rw [joined, List.mem_append] at nul
    rcases nul with inLead | inName
    · rcases mem_lead inLead with inDir | slash
      · exact noNul inDir
      · exact absurd slash (by decide)
    · exact named.noNul inName
  · rw [empty] at joined
    exact named.nonempty (by simpa using (List.append_eq_nil_iff.1 joined.symm).2)

lemma permitted_of_locate (located : disk.locate dir = .ok place) : checkPath dir = .ok () := by
  obtain ⟨⟨⟩, permitted, -⟩ := bind_eq_ok_iff.1 located
  exact permitted

lemma there_of_locate (located : disk.locate dir = .ok place) : dir ≠ "" :=
  (checkPath_eq_ok_iff.1 (permitted_of_locate located)).2.1

/-- The names in the path of a directory lead to it. -/
lemma followed_of_locate (located : disk.locate dir = .ok place) :
    (disk.namesIn dir).foldlM disk.step (disk.start dir).1 = .ok place := by
  obtain ⟨⟨⟩, -, steps⟩ := bind_eq_ok_iff.1 located
  exact foldlM_step_filter steps

/-- A place in a directory lies below the working directory, or beside what leads to it. -/
lemma not_isAtOrAbove (named : IsName name) : isAtOrAbove (place ++ [name]) = false := by
  have slash : name ≠ "/" := by
    rintro rfl
    exact absurd named.noSlash (by decide)
  rw [isAtOrAbove, Bool.or_eq_false_iff, beq_eq_false_iff_ne, List.all_append]
  refine ⟨fun root => slash ?_, by simp [named.proper.2]⟩
  cases place with
  | nil => exact List.singleton_inj.1 root
  | cons first place => simp at root

lemma place_eq_ok_iff (isDirectory : disk.node? place = some .directory) (named : IsName name)
    {place' : Location} : disk.place ⟨place, name, false⟩ = .ok place' ↔
      name.utf8ByteSize ≤ maxNameBytes ∧ place' = place ++ [name] := by
  have kept : ¬ (name.isEmpty || decide (name = ".")) = true := by
    simp [named.nonempty, named.proper.1]
  rw [Disk.place, step, isDirectory]
  dsimp only
  rw [if_neg kept, if_neg named.proper.2]
  split_ifs with long
  · simp [Nat.not_le.2 long]
  · simp [Nat.not_lt.1 long, eq_comm]

/-- The names that are listed are those under which something is in the directory. -/
lemma exists_listDirectory (found : disk.at? dir = .ok (place, .directory)) :
    ∃ names, disk.listDirectory dir = .ok names ∧ names.Pairwise (· < ·) ∧
      ∀ name, name ∈ names ↔ (disk.nodes.lookup (place ++ [name])).isSome := by
  refine ⟨_, by rw [listDirectory, found]; rfl, NameSet.sorted_ofList _, fun name => ?_⟩
  rw [NameSet.mem_ofList, List.lookup_isSome_iff, List.mem_filterMap]
  refine exists_congr fun entry => and_congr_right fun _ => ?_
  obtain ⟨other, node⟩ := entry
  rcases List.eq_nil_or_concat' other with rfl | ⟨above, last, rfl⟩
  · simp
  · by_cases here : above = place
    · simpa [here] using eq_comm
    · simp [here, Ne.symm here]

lemma at?_eq (located : disk.locate dir = .ok place)
    (isDirectory : disk.node? place = some .directory) :
    disk.at? dir = .ok (place, .directory) := by
  rw [at?, located]
  simp only [bind, Except.bind, isDirectory]

/-- A directory that is there is not made again. -/
lemma makeDirectory_eq (located : disk.locate dir = .ok place)
    (there : disk.node? place = some .directory) :
    disk.makeDirectory dir = .error .exists := by
  have followed := followed_of_locate located
  -- The directory lies in one that is there, unless no name leads to it.
  obtain ⟨above, before, isDirectory, last⟩ : ∃ above,
      (disk.namesIn dir).dropLast.foldlM disk.step (disk.start dir).1 = .ok above ∧
      disk.node? above = some .directory ∧
      ∀ name ∈ (disk.namesIn dir).getLast?, disk.step above name = .ok place := by
    rcases List.eq_nil_or_concat' (disk.namesIn dir) with none | ⟨names, name, split⟩
    · rw [none] at followed ⊢
      cases followed
      exact ⟨_, rfl, there, nofun⟩
    · rw [split, List.foldlM_append, bind_eq_ok_iff] at followed
      obtain ⟨above, before, steps⟩ := followed
      rw [List.foldlM_cons, bind_eq_ok_iff] at steps
      obtain ⟨_, steps, ⟨⟩⟩ := steps
      rw [split, List.dropLast_concat, List.getLast?_concat]
      refine ⟨above, before, directory_of_step steps, ?_⟩
      rintro _ ⟨⟩
      exact steps
  have here : disk.step above "." = .ok above := step_here.2 ⟨rfl, isDirectory⟩
  rw [namesIn] at before last
  rw [makeDirectory, destination, permitted_of_locate located]
  simp only [bind, Except.bind, before, here]
  cases final : ((disk.start dir).2.filter (!·.isEmpty)).getLast? with
  | none => rfl
  | some name =>
    have placed := last name final
    by_cases proper : name = "." ∨ name = ".."
    · simp [proper, pure, Except.pure]
    · simp [proper, pure, Except.pure, Disk.place, placed, there]

namespace Opens

lemma noNul (opens : disk.Opens dir place) : '\x00' ∉ dir.toList := by
  rcases opens.located with ⟨rfl, -⟩ | located
  · simp
  · exact (checkPath_eq_ok_iff.1 (permitted_of_locate located)).1

/-- The names before the last one in the path of a name lead to the directory. -/
lemma exists_namesIn_join (opens : disk.Opens dir place) (named : IsName name) :
    ∃ names, disk.namesIn (join dir name) = names ++ [name] ∧
      names.foldlM disk.step (disk.start (join dir name)).1 = .ok place := by
  rcases opens.located with ⟨rfl, rfl⟩ | located
  · have bare : (join "" name).toList = name.toList := toList_join named.noSlash
    have relative : isAbsolute (join "" name) = false := by
      rw [isAbsolute, bare, beq_eq_false_iff_ne]
      exact fun slash => named.noSlash (List.mem_of_head? slash)
    have start : disk.start (join "" name) = ([], [name]) := by
      rw [start_of_outside, relative, bare, List.splitOn_eq_singleton named.noSlash]
      · simp
      · intro below split inside
        cases below with
        | nil =>
          exact opens.outside name named.noSlash (String.toList_inj.1 (by simpa using split))
        | cons c below =>
          have slash : c = '/' := inside c rfl
          exact named.noSlash (by rw [← bare, split, slash]; simp)
    refine ⟨[], ?_, ?_⟩
    · rw [namesIn, start]
      simp [named.nonempty]
    · rw [start]
      rfl
  · obtain ⟨start, names⟩ := namesIn_join (there_of_locate located) opens.outside named
    exact ⟨_, names, by rw [start]; exact followed_of_locate located⟩

/-- Where the path of a name leads something to be put. -/
lemma endsIn_iff (opens : disk.Opens dir place) (named : IsName name) :
    disk.EndsIn (join dir name) d ↔
      (join dir name).utf8ByteSize ≤ maxPathBytes ∧ d = ⟨place, name, false⟩ := by
  obtain ⟨before, names, leads⟩ := opens.exists_namesIn_join named
  have joined : (join dir name).toList = lead dir ++ name.toList := toList_join named.noSlash
  have noSlash : ((join dir name).toList.getLast? == some '/') = false := by
    have nonempty : name.toList ≠ [] := by simpa using named.nonempty
    rw [joined, List.getLast?_append_of_ne_nil _ nonempty, beq_eq_false_iff_ne]
    exact fun slash => named.noSlash (List.mem_of_getLast? slash)
  constructor
  · intro ends
    obtain ⟨-, -, short⟩ := checkPath_eq_ok_iff.1 ends.permitted
    have followed := ends.followed
    have last := ends.last
    rw [names, List.dropLast_concat, leads] at followed
    rw [names, List.getLast?_concat] at last
    obtain ⟨directory, name', isDirectory⟩ := d
    have slash := ends.slash
    rw [noSlash] at slash
    cases followed
    cases last
    cases slash
    exact ⟨short, rfl⟩
  · rintro ⟨short, rfl⟩
    constructor
    · exact checkPath_join opens.noNul named short
    · rw [names, List.dropLast_concat]
      exact leads
    · exact opens.directory
    · rw [names, List.getLast?_concat]
    · exact named.proper
    · exact noSlash.symm

/-- A name that is not too long can be put in the directory. -/
lemma destination_eq (opens : disk.Opens dir place) (named : IsName name)
    (fits : Fits dir name) : disk.destination (join dir name) = .ok (some ⟨place, name, false⟩) :=
  destination_eq_some_iff.2 ((opens.endsIn_iff named).2 ⟨fits.pathBytes, rfl⟩)

lemma place_eq (opens : disk.Opens dir place) (named : IsName name)
    (fits : Fits dir name) : disk.place ⟨place, name, false⟩ = .ok (place ++ [name]) :=
  (place_eq_ok_iff opens.directory named).2 ⟨fits.nameBytes, rfl⟩

/-- A path goes on leading into its directory as long as directories stay. -/
lemma of_spares (opens : disk.Opens dir place) (spares : Spares disk disk') :
    disk'.Opens dir place where
  located := opens.located.imp_right fun located => by
    obtain ⟨⟨⟩, permitted, steps⟩ := bind_eq_ok_iff.1 located
    have start : disk'.start dir = disk.start dir := by
      rw [Disk.start, Disk.start, spares.root]
    refine bind_eq_ok_iff.2 ⟨(), permitted, ?_⟩
    rw [start]
    exact foldlM_step_of_spares spares steps
  directory := spares.directory opens.directory
  outside name noSlash := by
    rw [spares.root]
    exact opens.outside name noSlash

/-- A file is written in a directory unless its path is too long. -/
lemma writeText_eq_ok_iff (opens : disk.Opens dir place) (named : IsName name)
    (free : disk.node? (place ++ [name]) ≠ some .directory) :
    disk.writeText (join dir name) text = .ok disk' ↔
      Fits dir name ∧ disk' = disk.put (place ++ [name]) (.file text) := by
  constructor
  · intro written
    obtain ⟨d, written, ends, -, placed, -, rfl⟩ := exists_of_writeText written
    obtain ⟨short, rfl⟩ := (opens.endsIn_iff named).1 ends
    obtain ⟨short', rfl⟩ := (place_eq_ok_iff opens.directory named).1 placed
    exact ⟨⟨short', short⟩, rfl⟩
  · rintro ⟨fits, rfl⟩
    rw [writeText, bind_eq_ok_iff]
    refine ⟨_, opens.destination_eq named fits, ?_⟩
    dsimp only
    rw [if_neg Bool.false_ne_true, bind_eq_ok_iff]
    exact ⟨_, opens.place_eq named fits, if_neg free⟩

/-- A file that is there is given another name in its directory, unless a path is too long. -/
lemma rename_eq_ok_iff {other : String} (opens : disk.Opens dir place) (named : IsName name)
    (named' : IsName other) (there : disk.node? (place ++ [name]) = some (.file text))
    (free : disk.node? (place ++ [other]) ≠ some .directory) :
    disk.rename (join dir name) (join dir other) = .ok disk' ↔
      (Fits dir name ∧ Fits dir other) ∧
        disk' = (disk.erase (place ++ [name])).put (place ++ [other]) (.file text) := by
  constructor
  · intro renamed
    obtain ⟨s, t, sourcePlace, targetPlace, text', source, target, -, placed, there', placed', -,
      rfl⟩ := exists_of_rename renamed
    obtain ⟨short, rfl⟩ := (opens.endsIn_iff named).1 source
    obtain ⟨short', rfl⟩ := (opens.endsIn_iff named').1 target
    obtain ⟨bytes, rfl⟩ := (place_eq_ok_iff opens.directory named).1 placed
    obtain ⟨bytes', rfl⟩ := (place_eq_ok_iff opens.directory named').1 placed'
    rw [there] at there'
    cases there'
    exact ⟨⟨⟨bytes, short⟩, ⟨bytes', short'⟩⟩, rfl⟩
  · rintro ⟨⟨fits, fits'⟩, rfl⟩
    rw [rename, opens.destination_eq named fits, opens.destination_eq named' fits']
    simp only [bind, Except.bind, opens.place_eq named fits, opens.place_eq named' fits', there,
      Bool.or_self, Bool.false_eq_true, if_false, if_neg free]
    rfl

/-- The path of a name leads to its place, unless it is too long. -/
lemma locate_join (opens : disk.Opens dir place) (named : IsName name) (fits : Fits dir name) :
    disk.locate (join dir name) = .ok (place ++ [name]) := by
  have ends := (opens.endsIn_iff named).2 ⟨fits.pathBytes, rfl⟩
  exact ends.locate rfl (opens.place_eq named fits)

lemma run_makeDirectories (opens : disk.Opens dir place) :
    ((makeDirectories dir).run disk).run = (.ok (), disk) := by
  rcases opens.located with ⟨rfl, -⟩ | located
  · rfl
  have isDirectory : disk.isDirectory dir = true := by
    rw [Disk.isDirectory, Disk.at?_eq located opens.directory]
    rfl
  have ensured : ((ensureDirectory dir).run disk).run = (.ok (), disk) := by
    have attempted : ((attempt (·.makeDirectory dir)).run disk).run = (.error .exists, disk) := by
      simp only [attempt, StateT.run, Id.run, Disk.makeDirectory_eq located opens.directory]
    rw [ensureDirectory, StateT.run_bind, Id.run_bind, attempted]
    simp [isDirectory]
  have first : ancestors dir = [] ∨ ∃ others, ancestors dir = dir :: others := by
    rw [ancestors]
    cases dir.length with
    | zero => exact .inl rfl
    | succ n =>
      rw [ancestorsUpTo]
      cases parent? dir with
      | none => exact .inl rfl
      | some parent => exact .inr ⟨_, rfl⟩
  rw [makeDirectories]
  rcases first with none | ⟨others, first⟩
  · rw [none]
    rfl
  · rw [first, ensureDirectories, StateT.run_bind, Id.run_bind, ensured]
    rfl

end Opens

/-- The disk after a file in a directory was replaced as a whole. -/
def replaced (disk : Disk) (place : Location) (temporary name text : String) : Disk :=
  ((disk.put (place ++ [temporary]) (.file text)).erase (place ++ [temporary])).put
    (place ++ [name]) (.file text)

/-- **A file in a directory is replaced** unless a path is too long.  The directory may have to be
made. -/
theorem Opens.does_replaceFile_iff {made : Disk} {temporary what extension : String}
    (makes : ((makeDirectories dir).run disk).run = (.ok (), made))
    (opens : made.Opens dir place) (named : IsName name) (named' : IsName temporary)
    (free : made.node? (place ++ [name]) ≠ some .directory)
    (free' : made.node? (place ++ [temporary]) ≠ some .directory)
    (beside : temporaryPath (join dir name) extension = join dir temporary) :
    (replaceFile what dir (join dir name) extension text : Attempt (StateM Disk) Unit).Does disk ()
      disk' ↔ (Fits dir temporary ∧ Fits dir name) ∧
        disk' = made.replaced place temporary name text := by
  have makes' : ((MonadFiles.makeDirectories dir : StateM Disk (Except FileError Unit)).run
      disk).run = (.ok (), made) := makes
  have written : (made.put (place ++ [temporary]) (.file text)).Opens dir place :=
    opens.of_spares (.put free')
  have there : (made.put (place ++ [temporary]) (.file text)).node? (place ++ [temporary]) =
      some (.file text) := node?_put_self (not_isAtOrAbove named')
  have stillFree : (made.put (place ++ [temporary]) (.file text)).node? (place ++ [name]) ≠
      some .directory := by
    by_cases same : name = temporary
    · rw [same, there]
      simp
    · rwa [node?_put_of_ne (by simpa using same)]
  have renames (disk'' : Disk) : (made.put (place ++ [temporary]) (.file text)).rename
      (join dir temporary) (join dir name) = .ok disk'' ↔ _ :=
    written.rename_eq_ok_iff named' named there stillFree
  unfold replaceFile
  simp only [Attempt.does_bind_iff, Attempt.does_file_iff, beside, makes']
  constructor
  · rintro ⟨⟨⟩, _, ⟨⟩, ⟨⟩, between, writes, renamed⟩
    obtain ⟨-, rfl⟩ := (opens.writeText_eq_ok_iff named' free').1 (attempt_eq_ok_iff.1 writes)
    exact (renames disk').1 (attempt_eq_ok_iff.1 renamed)
  · intro replaced
    have writes : made.writeText (join dir temporary) text = .ok _ :=
      (opens.writeText_eq_ok_iff named' free').2 ⟨replaced.1.1, rfl⟩
    exact ⟨(), made, rfl, (), _, attempt_eq_ok_iff.2 writes,
      attempt_eq_ok_iff.2 ((renames disk').2 replaced)⟩

namespace Holds

lemma opens (holds : disk.Holds dir place texts) : disk.Opens dir place :=
  ⟨.inr holds.located, holds.directory, holds.outside⟩

lemma there (holds : disk.Holds dir place texts) : dir ≠ "" :=
  there_of_locate holds.located

/-- What is at the place of a name in a directory. -/
lemma node?_eq (holds : disk.Holds dir place texts) (named : IsName name) :
    disk.node? (place ++ [name]) = (texts name).map .file := by
  rw [node?, not_isAtOrAbove named, ← holds.held name]
  rfl

lemma notDirectory (holds : disk.Holds dir place texts) (named : IsName name) :
    disk.node? (place ++ [name]) ≠ some .directory := by
  rw [holds.node?_eq named]
  cases texts name <;> simp

/-- What changes in a directory is told by its files, as long as directories stay. -/
lemma of_spares (holds : disk.Holds dir place texts) (spares : Spares disk disk')
    (held : ∀ name, disk'.nodes.lookup (place ++ [name]) = (texts' name).map .file) :
    disk'.Holds dir place texts' :=
  have opens := holds.opens.of_spares spares
  ⟨opens.located.resolve_left fun none => holds.there none.1, opens.directory, opens.outside, held⟩

/-- A file is put into a directory. -/
lemma put (holds : disk.Holds dir place texts) (named : IsName name) :
    (disk.put (place ++ [name]) (.file text)).Holds dir place
      (Function.update texts name (some text)) := by
  refine holds.of_spares (.put (holds.notDirectory named)) fun other => ?_
  by_cases same : other = name
  · rw [same, lookup_put_self, Function.update_self]
    rfl
  · rw [lookup_put_of_ne (by simpa using same), holds.held, Function.update_of_ne same]

/-- A file is taken out of a directory. -/
lemma erase (holds : disk.Holds dir place texts) (named : IsName name) :
    (disk.erase (place ++ [name])).Holds dir place (Function.update texts name none) := by
  refine holds.of_spares (.erase (holds.notDirectory named)) fun other => ?_
  by_cases same : other = name
  · rw [same, lookup_erase_self, Function.update_self]
    rfl
  · rw [lookup_erase_of_ne (by simpa using same), holds.held, Function.update_of_ne same]

/-- The text of a file in a directory is read, unless its path is too long. -/
lemma readText_eq (holds : disk.Holds dir place texts) (named : IsName name) (fits : Fits dir name)
    (held : texts name = some text) : disk.readText (join dir name) = .ok text := by
  rw [readText, at?, holds.opens.locate_join named fits]
  simp only [bind, Except.bind, holds.node?_eq named, held, Option.map_some]

lemma at?_eq (holds : disk.Holds dir place texts) : disk.at? dir = .ok (place, .directory) :=
  Disk.at?_eq holds.located holds.directory

/-- A directory lists the names of its files. -/
lemma exists_names (holds : disk.Holds dir place texts) :
    ∃ names, disk.listDirectory dir = .ok names ∧ names.Pairwise (· < ·) ∧
      ∀ name, name ∈ names ↔ (texts name).isSome := by
  obtain ⟨names, listed, sorted, mem_iff⟩ := exists_listDirectory holds.at?_eq
  refine ⟨names, listed, sorted, fun name => ?_⟩
  rw [mem_iff, holds.held, Option.isSome_map]

variable {temporary what extension : String}

/-- What replaces a file takes its place, and the temporary file is gone. -/
lemma replaced (holds : disk.Holds dir place texts) (named : IsName name)
    (named' : IsName temporary) : (disk.replaced place temporary name text).Holds dir place
      (Function.update (Function.update texts temporary none) name (some text)) := by
  have written : (disk.put (place ++ [temporary]) (.file text)).Holds dir place _ :=
    holds.put named'
  have changed : (disk.replaced place temporary name text).Holds dir place _ :=
    (written.erase named').put named
  rwa [Function.update_idem] at changed

/-- A file in a directory of files is replaced unless a path is too long. -/
lemma does_replaceFile_iff (holds : disk.Holds dir place texts) (named : IsName name)
    (named' : IsName temporary)
    (beside : temporaryPath (join dir name) extension = join dir temporary) :
    (replaceFile what dir (join dir name) extension text : Attempt (StateM Disk) Unit).Does disk ()
      disk' ↔ (Fits dir temporary ∧ Fits dir name) ∧
        disk' = disk.replaced place temporary name text :=
  holds.opens.does_replaceFile_iff holds.opens.run_makeDirectories named named'
    (holds.notDirectory named) (holds.notDirectory named') beside

end Holds

/-- A directory that is there and in which there is nothing, the working directory included. -/
structure IsEmptyDirectory (disk : Disk) (dir : String) : Prop where
  listed : disk.listDirectory dir = .ok []
  outside : disk.IsOutside dir

/-- An empty directory holds no texts. -/
lemma IsEmptyDirectory.exists_holds (empty : disk.IsEmptyDirectory dir) :
    ∃ place, disk.Holds dir place fun _ => none := by
  obtain ⟨⟨place, node⟩, found, listed⟩ := bind_eq_ok_iff.1 empty.listed
  cases node with
  | file text => cases listed
  | directory =>
    obtain ⟨names, listed, -, mem_iff⟩ := exists_listDirectory found
    obtain rfl : [] = names := Except.ok.inj (empty.listed.symm.trans listed)
    obtain ⟨place', located, there⟩ := bind_eq_ok_iff.1 found
    split at there
    · rename_i isDirectory
      cases there
      refine ⟨place, located, isDirectory, empty.outside, fun name => ?_⟩
      have absent := (mem_iff name).not.1 List.not_mem_nil
      rwa [Option.not_isSome_iff_eq_none] at absent
    · cases there

end Disk

end Reflex
