import Mathlib.Data.Char
import Reflex.File.Replace

/-!
# Names in a directory

The path of a name in a directory is what leads into the directory, and the name.  So the name can
be taken off the path again, and its extension be exchanged.

* `FilePath.IsName` says what a file in a directory may be called.
* `FilePath.lead` is what stands before a name in a path, and `FilePath.toList_join` the whole path.
* `FilePath.extension?_join` and `temporaryPath_join` are about the extensions of names.
* `FilePath.fileName` and `FilePath.temporaryName` are the names of the two files that are written
  to keep something under a text, and `FilePath.IsStem` says which texts these can be.
-/

namespace Reflex

namespace FilePath

/-- What a file in a directory may be called. -/
structure IsName (name : String) : Prop where
  nonempty : name ≠ ""
  noSlash : '/' ∉ name.toList
  proper : name ≠ "." ∧ name ≠ ".."
  noNul : '\x00' ∉ name.toList

/-- What stands before a name in a path that leads into a directory.  The empty path leads into the
working directory. -/
def lead (dir : String) : List Char :=
  if dir = "" ∨ dir.toList.getLast? = some '/' then dir.toList else dir.toList ++ ['/']

variable {dir name : String} {cs stem extension rest : List Char} {c : Char}

lemma exists_lead (there : dir ≠ "") :
    ∃ front, lead dir = front ++ ['/'] ∧ (dir.toList = front ∨ dir.toList = front ++ ['/']) := by
  rw [lead]
  split
  · rename_i slash
    obtain ⟨front, split⟩ := List.getLast?_eq_some_iff.1 (slash.resolve_left there)
    exact ⟨front, split, .inr split⟩
  · exact ⟨dir.toList, rfl, .inl rfl⟩

lemma mem_lead (mem : c ∈ lead dir) : c ∈ dir.toList ∨ c = '/' := by
  rw [lead] at mem
  split at mem
  · exact .inl mem
  · simpa using mem

/-- The path of a name in a directory. -/
lemma toList_join (noSlash : '/' ∉ name.toList) :
    (join dir name).toList = lead dir ++ name.toList := by
  have relative : isAbsolute name = false := by
    rw [isAbsolute, beq_eq_false_iff_ne]
    exact fun slash => noSlash (List.mem_of_head? slash)
  rw [join, relative, lead]
  by_cases there : dir = ""
  · simp [there]
  · by_cases slash : dir.toList.getLast? = some '/'
    · simp [slash, there]
    · simp [slash, there]

lemma isAbsolute_join (there : dir ≠ "") (noSlash : '/' ∉ name.toList) :
    isAbsolute (join dir name) = isAbsolute dir := by
  obtain ⟨front, leads, ends⟩ := exists_lead there
  have nonempty : dir.toList ≠ [] := by simpa using there
  obtain ⟨c, cs, split⟩ := List.exists_cons_of_ne_nil nonempty
  obtain ⟨more, first⟩ : ∃ more, (join dir name).toList = c :: more := by
    rw [toList_join noSlash, leads]
    rcases ends with bare | slash
    · exact ⟨_, by rw [← bare, split]; rfl⟩
    · exact ⟨_, by rw [← slash, split]; rfl⟩
  rw [isAbsolute, isAbsolute, first, split]
  rfl

/-- Nothing is trimmed off a path that ends in a name. -/
lemma trimReversed_reverse (named : IsName name) :
    trimReversed (name.toList.reverse ++ rest) = name.toList.reverse ++ rest := by
  have noSlash : ∀ c ∈ name.toList.reverse, c ≠ '/' := by
    rintro _ mem rfl
    exact named.noSlash (List.mem_reverse.1 mem)
  have more : name.toList.reverse ≠ ['.'] := by
    intro dot
    refine named.proper.1 (String.toList_inj.1 ?_)
    rw [← List.reverse_reverse name.toList, dot]
    rfl
  have nonempty : name.toList.reverse ≠ [] := by simpa using named.nonempty
  obtain ⟨c, cs, split⟩ := List.exists_cons_of_ne_nil nonempty
  rw [split] at noSlash more ⊢
  refine trimReversed.eq_3 _ (fun _ slash => ?_) fun _ dot => ?_
  · exact noSlash c List.mem_cons_self (List.cons.inj slash).1
  · obtain ⟨rfl, slash⟩ := List.cons.inj dot
    cases cs with
    | nil => exact more rfl
    | cons d cs => exact noSlash d (by simp) (List.cons.inj slash).1

/-- The name is the last part of its path. -/
lemma splitLast_join (named : IsName name) :
    splitLast (join dir name) = (lead dir, name.toList) := by
  have noSlash : ∀ c ∈ name.toList.reverse, decide (c ≠ '/') = true := by
    intro c mem
    rw [decide_eq_true_eq]
    rintro rfl
    exact named.noSlash (List.mem_reverse.1 mem)
  -- Going backwards, the name ends at a slash or at the beginning of the path.
  have ends : (lead dir).reverse.dropWhile (· ≠ '/') = (lead dir).reverse ∧
      (lead dir).reverse.takeWhile (· ≠ '/') = [] := by
    by_cases there : dir = ""
    · rw [lead, if_pos (.inl there), there]
      exact ⟨rfl, rfl⟩
    · obtain ⟨front, leads, -⟩ := exists_lead there
      rw [leads, List.reverse_append]
      exact ⟨List.dropWhile_cons_of_neg (by decide), List.takeWhile_cons_of_neg (by decide)⟩
  rw [splitLast, toList_join named.noSlash, List.reverse_append, trimReversed_reverse named,
    List.dropWhile_append_of_pos noSlash, List.takeWhile_append_of_pos noSlash, ends.1, ends.2]
  simp

lemma fileName?_join (named : IsName name) :
    fileName? (join dir name) = some name := by
  have dot : name.toList ≠ ['.'] := fun dot => named.proper.1 (String.toList_inj.1 dot)
  have dots : name.toList ≠ ['.', '.'] := fun dots => named.proper.2 (String.toList_inj.1 dots)
  rw [fileName?, splitLast_join named]
  simp [dot, dots, named.nonempty]

/-- A name is split at its last dot, unless it begins with that. -/
lemma splitName_dot (nonempty : stem ≠ []) (last : '.' ∉ extension) :
    splitName (stem ++ '.' :: extension) = (stem, some extension) := by
  have noDot : ∀ c ∈ extension.reverse, decide (c ≠ '.') = true := by
    intro c mem
    rw [decide_eq_true_eq]
    rintro rfl
    exact last (List.mem_reverse.1 mem)
  have behind : ((stem ++ '.' :: extension).reverse.takeWhile (· ≠ '.')).reverse = extension := by
    rw [List.reverse_append, List.reverse_cons, List.append_assoc,
      List.takeWhile_append_of_pos noDot, List.singleton_append,
      List.takeWhile_cons_of_neg (by decide), List.append_nil, List.reverse_reverse]
  have before : (stem ++ '.' :: extension).take
      ((stem ++ '.' :: extension).length - extension.length - 1) = stem := by
    have length : (stem ++ '.' :: extension).length - extension.length - 1 = stem.length := by
      simp only [List.length_append, List.length_cons]
      omega
    rw [length, List.take_left]
  rw [splitName]
  simp only [behind, before]
  simp [nonempty]

lemma extension?_join (named : IsName name)
    (split : name.toList = stem ++ '.' :: extension) (nonempty : stem ≠ [])
    (last : '.' ∉ extension) : extension? (join dir name) = some (String.ofList extension) := by
  simp [extension?, fileName?_join named, split, splitName_dot nonempty last]

/-- The extension of a name in a directory is exchanged. -/
lemma withExtension_join {other : String} (named : IsName name)
    (split : name.toList = stem ++ '.' :: extension) (nonempty : stem ≠ [])
    (last : '.' ∉ extension) (noDot : stem ≠ ['.']) (noSlash : '/' ∉ other.toList) :
    withExtension (join dir name) other = join dir (String.ofList stem ++ "." ++ other) := by
  have inStem : '/' ∉ stem := fun mem => named.noSlash (by rw [split]; simp [mem])
  simp only [withExtension, fileName?_join named, splitLast_join named, split,
    splitName_dot nonempty last, noDot, decide_false, Bool.false_and, Bool.false_eq_true, if_false]
  apply String.toList_inj.1
  rw [toList_join (by simp [inStem, noSlash])]
  simp

end FilePath

open FilePath

/-- The temporary file of a file with an extension has a further extension. -/
lemma temporaryPath_join {dir name extension : String} {stem : List Char}
    (named : IsName name) (split : name.toList = stem ++ '.' :: extension.toList)
    (nonempty : stem ≠ []) (last : '.' ∉ extension.toList) (noDot : stem ≠ ['.']) :
    temporaryPath (join dir name) extension = join dir (name ++ ".tmp") := by
  have noSlash : '/' ∉ (extension ++ ".tmp").toList := by
    rw [String.toList_append, List.mem_append, not_or]
    refine ⟨fun mem => named.noSlash ?_, by decide⟩
    rw [split]
    exact List.mem_append_right _ (List.mem_cons_of_mem _ mem)
  rw [temporaryPath, withExtension_join named split nonempty last noDot noSlash]
  congr 1
  apply String.toList_inj.1
  simp [split]

/-! ## Files that are kept under a text -/

namespace FilePath

variable {dir text text' suffix : String}

/-- The name of the file of JSON that is kept under a text. -/
def fileName (text : String) : String :=
  text ++ ".json"

/-- The name of the file that is written before it takes the place of that one. -/
def temporaryName (text : String) : String :=
  fileName text ++ ".tmp"

/-- Whether files can be kept under a text. -/
structure IsStem (text : String) : Prop where
  nonempty : text ≠ ""
  noDot : text ≠ "."
  noSlash : '/' ∉ text.toList
  noNul : '\x00' ∉ text.toList

lemma toList_fileName : (fileName text).toList = text.toList ++ '.' :: "json".toList :=
  String.toList_append

lemma fileName_injective : Function.Injective fileName :=
  fun _ _ same => (String.append_left_inj ".json").1 same

/-- No file is called like a temporary one, whatever the two are kept under. -/
lemma fileName_ne_temporaryName : fileName text ≠ temporaryName text' := by
  intro same
  have last := congrArg (·.toList.getLast?) same
  simp [fileName, temporaryName] at last

namespace IsStem

variable (stem : IsStem text)

include stem

/-- What is behind makes a name of it, unless that is too short. -/
lemma isName_append (plain : '/' ∉ suffix.toList ∧ '\x00' ∉ suffix.toList)
    (long : 2 < suffix.length) : IsName (text ++ suffix) := by
  have length : 2 < (text ++ suffix).length := by
    rw [String.length_append]
    omega
  constructor
  · intro empty
    simp [empty] at length
  · rw [String.toList_append, List.mem_append, not_or]
    exact ⟨stem.noSlash, plain.1⟩
  · constructor <;> intro short <;> rw [short] at length <;> exact absurd length (by decide)
  · rw [String.toList_append, List.mem_append, not_or]
    exact ⟨stem.noNul, plain.2⟩

lemma isName_fileName : IsName (fileName text) :=
  stem.isName_append (by decide) (by decide)

lemma isName_temporaryName : IsName (temporaryName text) := by
  rw [temporaryName, fileName, String.append_assoc]
  exact stem.isName_append (by decide) (by decide)

lemma extension?_path : extension? (join dir (fileName text)) = some "json" :=
  extension?_join stem.isName_fileName toList_fileName (by simpa using stem.nonempty) (by decide)

lemma temporaryPath_path :
    temporaryPath (join dir (fileName text)) "json" = join dir (temporaryName text) :=
  temporaryPath_join stem.isName_fileName toList_fileName (by simpa using stem.nonempty)
    (by decide) fun dot => stem.noDot (String.toList_inj.1 dot)

end IsStem

end FilePath

end Reflex
