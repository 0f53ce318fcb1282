import Reflex.Proofs.File.Directory
import Reflex.Proofs.Scenario.Results

/-!
# Results in a directory

Each result is stored in a file that is named after its scenario, so that a directory into which
results are written one after the other keeps the latest of each scenario, and these are loaded.

* `CaseResult.stored` is what storing a result does to the texts in a directory, and
  `CaseResult.does_saves_iff` what writing results does to a disk.
* `CaseResult.IsLatest` says which results stay, and `CaseResult.held_iff` that their texts do.
* `CaseResult.saved_results_are_loaded` is the result about directories.
-/

namespace Reflex

open FilePath

/-- Files can be kept under an identifier that was checked. -/
lemma Case.isStem_of_checkId {id : String} (checked : Case.checkId id = .ok ()) : IsStem id := by
  rw [checkId] at checked
  split_ifs at checked with blank fine
  have absent {c : Char} (refused : isIdChar c = false) : c ∉ id.toList := by
    intro mem
    rw [List.all_eq_true.1 fine c mem] at refused
    cases refused
  refine ⟨?_, ?_, absent (by decide), absent (by decide)⟩
  · rintro rfl
    exact blank rfl
  · rintro rfl
    exact absent (c := '.') (by decide) (by decide)

namespace CaseResult

variable {dir id text : String} {r s : CaseResult} {results rs : List CaseResult}

/-! ## Writing results -/

section Writing

variable {disk disk' : Disk} {place : Location} {texts : String → Option String}
  {written : String} {paths : List String}

/-- What storing a result does to the texts in a directory. -/
def stored (texts : String → Option String) (r : CaseResult) : String → Option String :=
  Function.update (Function.update texts (temporaryName r.id) none) (fileName r.id) (some r.text)

/-- The disk after a result was written into the directory at a place. -/
def saved (place : Location) (disk : Disk) (r : CaseResult) : Disk :=
  disk.replaced place (temporaryName r.id) (fileName r.id) r.text

lemma holds_saved (holds : disk.Holds dir place texts) (checked : Case.checkId r.id = .ok ()) :
    (saved place disk r).Holds dir place (stored texts r) :=
  holds.replaced (Case.isStem_of_checkId checked).isName_fileName
    (Case.isStem_of_checkId checked).isName_temporaryName

/-- A result is written unless a path is too long. -/
lemma does_save_iff (holds : disk.Holds dir place texts) (checked : Case.checkId r.id = .ok ()) :
    (save dir r : Attempt (StateM Disk) String).Does disk written disk' ↔
      Disk.Fits dir (temporaryName r.id) ∧ written = path dir r.id ∧
        disk' = saved place disk r := by
  have stem := Case.isStem_of_checkId checked
  have replaces (disk' : Disk) : (replaceFile "result" dir (path dir r.id) "json" r.text :
      Attempt (StateM Disk) Unit).Does disk () disk' ↔ _ :=
    holds.does_replaceFile_iff stem.isName_fileName stem.isName_temporaryName
      stem.temporaryPath_path
  rw [save, Attempt.does_bind_iff]
  simp only [Attempt.does_pure_iff]
  constructor
  · rintro ⟨⟨⟩, between, replaced, rfl, rfl⟩
    obtain ⟨⟨fits, -⟩, rfl⟩ := (replaces disk').1 replaced
    exact ⟨fits, rfl, rfl⟩
  · rintro ⟨fits, rfl, rfl⟩
    exact ⟨(), _, (replaces _).2 ⟨⟨fits, fits.fileName stem⟩, rfl⟩, rfl, rfl⟩

/-- The texts after results were stored one after the other. -/
lemma holds_foldl_saved (holds : disk.Holds dir place texts)
    (checked : ∀ r ∈ results, Case.checkId r.id = .ok ()) :
    (results.foldl (saved place) disk).Holds dir place (results.foldl stored texts) := by
  induction results generalizing disk texts with
  | nil => exact holds
  | cons r results ih =>
    obtain ⟨first, others⟩ := List.forall_mem_cons.1 checked
    exact ih (holds_saved holds first) others

/-- Results are written one after the other unless a path is too long. -/
theorem does_saves_iff (holds : disk.Holds dir place texts)
    (checked : ∀ r ∈ results, Case.checkId r.id = .ok ()) :
    (results.mapM (save dir) : Attempt (StateM Disk) (List String)).Does disk paths disk' ↔
      (∀ r ∈ results, Disk.Fits dir (temporaryName r.id)) ∧
        paths = results.map (fun r => path dir r.id) ∧
        disk' = results.foldl (saved place) disk := by
  induction results generalizing disk texts paths with
  | nil =>
    rw [List.mapM_nil, Attempt.does_pure_iff]
    simp
  | cons r results ih =>
    obtain ⟨first, others⟩ := List.forall_mem_cons.1 checked
    rw [List.mapM_cons, List.forall_mem_cons]
    simp only [Attempt.does_bind_iff, Attempt.does_pure_iff, does_save_iff holds first]
    constructor
    · rintro ⟨_, _, ⟨fits, rfl, rfl⟩, _, _, saves, rfl, rfl⟩
      obtain ⟨fit, rfl, rfl⟩ := (ih (holds_saved holds first) others).1 saves
      exact ⟨⟨fits, fit⟩, rfl, rfl⟩
    · rintro ⟨⟨fits, fit⟩, rfl, rfl⟩
      exact ⟨_, _, ⟨fits, rfl, rfl⟩, _, _,
        (ih (holds_saved holds first) others).2 ⟨fit, rfl, rfl⟩, rfl, rfl⟩

end Writing

/-! ## The latest results -/

/-- A result is the last one of its scenario. -/
def IsLatest (results : List CaseResult) (r : CaseResult) : Prop :=
  ∃ before after, results = before ++ r :: after ∧ ∀ s ∈ after, s.id ≠ r.id

lemma IsLatest.mem (latest : IsLatest results r) : r ∈ results := by
  obtain ⟨before, after, rfl, -⟩ := latest
  simp

lemma not_isLatest_nil : ¬ IsLatest [] r :=
  fun latest => List.not_mem_nil latest.mem

lemma isLatest_concat_iff :
    IsLatest (results ++ [s]) r ↔ r = s ∨ IsLatest results r ∧ s.id ≠ r.id := by
  constructor
  · rintro ⟨before, after, split, none⟩
    rcases List.eq_nil_or_concat' after with rfl | ⟨after, last, rfl⟩
    · exact .inl (List.singleton_inj.1 (List.append_inj' split rfl).2).symm
    · rw [← List.cons_append, ← List.append_assoc] at split
      obtain ⟨rfl, same⟩ := List.append_inj' split rfl
      obtain rfl := List.singleton_inj.1 same
      obtain ⟨others, other⟩ := List.forall_mem_append.1 none
      exact .inr ⟨⟨before, after, rfl, others⟩, other s List.mem_cons_self⟩
  · rintro (rfl | ⟨⟨before, after, rfl, none⟩, other⟩)
    · exact ⟨results, [], rfl, List.forall_mem_nil _⟩
    · refine ⟨before, after ++ [s], by simp, List.forall_mem_append.2 ⟨none, ?_⟩⟩
      simpa using other

/-- There is one latest result of each scenario. -/
lemma IsLatest.eq (latest : IsLatest results r) (latest' : IsLatest results s)
    (same : r.id = s.id) : r = s := by
  induction results using List.reverseRecOn with
  | nil => exact absurd latest not_isLatest_nil
  | append_singleton results t ih =>
    rcases isLatest_concat_iff.1 latest with rfl | ⟨latest, other⟩ <;>
      rcases isLatest_concat_iff.1 latest' with rfl | ⟨latest', other'⟩
    · rfl
    · exact absurd same other'
    · exact absurd same.symm other
    · exact ih latest latest'

/-- The scenarios of the latest results are those of all. -/
lemma exists_isLatest_iff : (∃ r, IsLatest results r ∧ r.id = id) ↔ ∃ r ∈ results, r.id = id := by
  refine ⟨fun ⟨r, latest, same⟩ => ⟨r, latest.mem, same⟩, ?_⟩
  induction results using List.reverseRecOn with
  | nil => simp
  | append_singleton results s ih =>
    rintro ⟨r, mem, same⟩
    by_cases last : s.id = id
    · exact ⟨s, isLatest_concat_iff.2 (.inl rfl), last⟩
    · have before : r ∈ results := by
        rcases List.mem_append.1 mem with before | last'
        · exact before
        · exact absurd (List.mem_singleton.1 last' ▸ same) last
      obtain ⟨t, latest, same⟩ := ih ⟨r, before, same⟩
      exact ⟨t, isLatest_concat_iff.2 (.inr ⟨latest, fun id => last (id.trans same)⟩), same⟩

/-- A directory into which results were stored keeps the texts of the latest ones. -/
theorem held_iff {name : String} : results.foldl stored (fun _ => none) name = some text ↔
    ∃ r, IsLatest results r ∧ name = fileName r.id ∧ text = r.text := by
  induction results using List.reverseRecOn with
  | nil => simp [not_isLatest_nil]
  | append_singleton results s ih =>
    simp only [isLatest_concat_iff]
    rw [List.foldl_concat, stored]
    by_cases own : name = fileName s.id
    · subst own
      rw [Function.update_self]
      constructor
      · rintro ⟨⟩
        exact ⟨s, .inl rfl, rfl, rfl⟩
      · rintro ⟨r, rfl | ⟨-, other⟩, same, rfl⟩
        · rfl
        · exact absurd (fileName_injective same) other
    · rw [Function.update_of_ne own]
      by_cases temporary : name = temporaryName s.id
      · subst temporary
        rw [Function.update_self]
        refine ⟨nofun, ?_⟩
        rintro ⟨r, -, same, -⟩
        exact absurd same.symm fileName_ne_temporaryName
      · rw [Function.update_of_ne temporary, ih]
        refine exists_congr fun r => ⟨fun ⟨latest, same, held⟩ => ?_, ?_⟩
        · exact ⟨.inr ⟨latest, fun id => own (by rw [same, id])⟩, same, held⟩
        · rintro ⟨rfl | ⟨latest, -⟩, same, held⟩
          · exact absurd same own
          · exact ⟨latest, same, held⟩

/-! ## Loading results -/

section Loading

variable {disk : Disk} {place : Location}

/-- A result whose text is read from its file is loaded. -/
lemma run_attemptLoad (legible : r.IsLegible) (read : disk.readText (path dir r.id) = .ok r.text) :
    ((attemptLoad (path dir r.id) : StateM Disk _).run disk).run =
      ((path dir r.id, .ok r), disk) := by
  have loads : (load (path dir r.id) : Attempt (StateM Disk) CaseResult).Does disk r disk := by
    rw [load, Attempt.does_bind_iff]
    refine ⟨r.text, disk, Attempt.does_file_iff.2 ?_, ?_⟩
    · exact congrArg (·, disk) read
    · rw [parse_text legible]
      rfl
  unfold Attempt.Does at loads
  rw [attemptLoad, StateT.run_bind, Id.run_bind, loads]
  rfl

lemma run_attemptLoads
    (each : ∀ r ∈ rs, r.IsLegible ∧ disk.readText (path dir r.id) = .ok r.text) :
    (((rs.map fun r => path dir r.id).mapM attemptLoad : StateM Disk _).run disk).run =
      (rs.map fun r => (path dir r.id, .ok r), disk) := by
  induction rs with
  | nil => rfl
  | cons r rs ih =>
    obtain ⟨⟨legible, read⟩, others⟩ := List.forall_mem_cons.1 each
    rw [List.map_cons, List.mapM_cons, StateT.run_bind, Id.run_bind, run_attemptLoad legible read,
      StateT.run_bind, Id.run_bind, ih others]
    rfl

/-- The files of a directory are those of the latest results that were stored in it. -/
lemma exists_latest (holds : disk.Holds dir place (results.foldl stored fun _ => none)) :
    ∃ rs : List CaseResult, disk.listDirectory dir = .ok (rs.map fun r => fileName r.id) ∧
      (rs.map (·.id)).Nodup ∧ ∀ r, r ∈ rs ↔ IsLatest results r := by
  obtain ⟨names, listed, sorted, mem_iff⟩ := holds.exists_names
  have named : ∀ name ∈ names, ∃ r, IsLatest results r ∧ name = fileName r.id := by
    intro name mem
    obtain ⟨text, held⟩ := Option.isSome_iff_exists.1 ((mem_iff name).1 mem)
    obtain ⟨r, latest, same, -⟩ := held_iff.1 held
    exact ⟨r, latest, same⟩
  obtain ⟨rs, rfl, latest⟩ : ∃ rs : List CaseResult, names = rs.map (fun r => fileName r.id) ∧
      ∀ r ∈ rs, IsLatest results r := by
    clear listed sorted mem_iff
    induction names with
    | nil => exact ⟨[], rfl, List.forall_mem_nil _⟩
    | cons name names ih =>
      obtain ⟨⟨r, first, rfl⟩, others⟩ := List.forall_mem_cons.1 named
      obtain ⟨rs, rfl, latest⟩ := ih others
      exact ⟨r :: rs, rfl, List.forall_mem_cons.2 ⟨first, latest⟩⟩
  refine ⟨rs, listed, ?_, fun r => ⟨latest r, fun isLatest => ?_⟩⟩
  · have distinct : (rs.map fun r => fileName r.id).Nodup := sorted.imp ne_of_lt
    rw [← Function.comp_def fileName, ← List.map_map] at distinct
    exact distinct.of_map
  · have there : fileName r.id ∈ rs.map fun r => fileName r.id :=
      (mem_iff _).2 (Option.isSome_iff_exists.2 ⟨r.text, held_iff.2 ⟨r, isLatest, rfl, rfl⟩⟩)
    obtain ⟨s, mem, same⟩ := List.mem_map.1 there
    rwa [← (latest s mem).eq isLatest (fileName_injective same)]

/-- Results of different scenarios are put in the strict order of their scenarios. -/
lemma sorted_mergeSort (distinct : (rs.map (·.id)).Nodup) :
    ((rs.mergeSort fun a b => a.id ≤ b.id).map (·.id)).Pairwise (· < ·) := by
  have perm := List.mergeSort_perm rs fun a b => a.id ≤ b.id
  have distinct' : ((rs.mergeSort fun a b => a.id ≤ b.id).map (·.id)).Nodup :=
    (perm.map (·.id)).nodup_iff.2 distinct
  have ordered : (rs.mergeSort fun a b => a.id ≤ b.id).Pairwise
      fun a b => decide (a.id ≤ b.id) = true :=
    List.pairwise_mergeSort (fun a b c => by simpa using le_trans)
      (fun a b => by simpa using le_total a.id b.id) rs
  rw [List.pairwise_map]
  exact ordered.imp₂ (fun a b below other => lt_of_le_of_ne (of_decide_eq_true below) other)
    (List.pairwise_map.1 distinct')

/-- The latest results that were stored in a directory are loaded from it. -/
theorem exists_loadAll (holds : disk.Holds dir place (results.foldl stored fun _ => none))
    (checked : ∀ r ∈ results, Case.checkId r.id = .ok ())
    (fit : ∀ r ∈ results, Disk.Fits dir (temporaryName r.id))
    (legible : ∀ r ∈ results, r.IsLegible) :
    ∃ loaded, (loadAll dir : Attempt (StateM Disk) _).Does disk (loaded, []) disk ∧
      (loaded.map (·.id)).Pairwise (· < ·) ∧ ∀ r, r ∈ loaded ↔ IsLatest results r := by
  obtain ⟨rs, listed, distinct, mem_iff⟩ := exists_latest holds
  have there : disk.pathExists dir = true := by
    rw [Disk.pathExists, holds.at?_eq]
    rfl
  have json : ((rs.map fun r => fileName r.id).map (join dir)).filter
      (extension? · == some "json") = rs.map fun r => path dir r.id := by
    rw [List.map_map]
    refine List.filter_eq_self.2 fun p mem => ?_
    obtain ⟨r, isLatest, rfl⟩ := List.mem_map.1 mem
    rw [beq_iff_eq]
    exact (Case.isStem_of_checkId (checked r ((mem_iff r).1 isLatest).mem)).extension?_path
  have each : ∀ r ∈ rs, r.IsLegible ∧ disk.readText (path dir r.id) = .ok r.text := by
    intro r mem
    have isLatest := (mem_iff r).1 mem
    have stem := Case.isStem_of_checkId (checked r isLatest.mem)
    refine ⟨legible r isLatest.mem, holds.readText_eq stem.isName_fileName ?_ ?_⟩
    · exact (fit r isLatest.mem).fileName stem
    · exact held_iff.2 ⟨r, isLatest, rfl, rfl⟩
  refine ⟨rs.mergeSort fun a b => a.id ≤ b.id, ?_, ?_, fun r => ?_⟩
  · rw [loadAll, Attempt.does_bind_iff]
    refine ⟨true, disk, Attempt.does_lift_iff.2 (congrArg (·, disk) there), ?_⟩
    rw [if_pos rfl, Attempt.does_bind_iff]
    refine ⟨_, disk, Attempt.does_file_iff.2 (congrArg (·, disk) listed), ?_⟩
    dsimp only
    rw [json, Attempt.does_bind_iff]
    refine ⟨_, disk, Attempt.does_lift_iff.2 (run_attemptLoads each), ?_⟩
    rw [Attempt.does_pure_iff]
    simp [List.filterMap_map, Except.toOption]
  · exact sorted_mergeSort distinct
  · rw [List.mem_mergeSort, mem_iff]

end Loading

/-- **Stored results come back whole.** Results of scenarios with proper identifiers, of which
nothing is lost in their texts, are written one after the other into an empty directory unless a
path is too long.  The directory is loaded without a warning: it gives one result of each scenario,
in the order of the scenarios, and each is the last one that was written. -/
theorem saved_results_are_loaded {disk : Disk} (empty : disk.IsEmptyDirectory dir)
    (checked : ∀ r ∈ results, Case.checkId r.id = .ok ())
    (legible : ∀ r ∈ results, r.IsLegible) :
    ((∀ r ∈ results, Disk.Fits dir (temporaryName r.id)) →
      ∃ disk', (results.mapM (save dir) : Attempt (StateM Disk) (List String)).Does disk
        (results.map fun r => path dir r.id) disk') ∧
    ∀ paths disk', (results.mapM (save dir) : Attempt (StateM Disk) (List String)).Does disk paths
      disk' → ∃ loaded, (loadAll dir : Attempt (StateM Disk) _).Does disk' (loaded, []) disk' ∧
        (loaded.map (·.id)).Pairwise (· < ·) ∧
        (∀ id, id ∈ loaded.map (·.id) ↔ id ∈ results.map (·.id)) ∧
        ∀ r ∈ loaded, IsLatest results r := by
  obtain ⟨place, holds⟩ := empty.exists_holds
  refine ⟨fun fit => ⟨_, (does_saves_iff holds checked).2 ⟨fit, rfl, rfl⟩⟩, ?_⟩
  intro paths disk' saves
  obtain ⟨fit, -, rfl⟩ := (does_saves_iff holds checked).1 saves
  obtain ⟨loaded, loads, sorted, mem_iff⟩ :=
    exists_loadAll (holds_foldl_saved holds checked) checked fit legible
  refine ⟨loaded, loads, sorted, fun id => ?_, fun r => (mem_iff r).1⟩
  simp only [List.mem_map, mem_iff]
  exact exists_isLatest_iff

/-- One half. -/
def half : Binary64 :=
  ⟨false, Nat.pow 2 1073, by decide +kernel⟩

/-- A scenario that failed and one that could not be run, and the first again, which succeeded. -/
def rerunResults : List CaseResult :=
  [⟨"tea-1", .fail, none, some ⟨[
      .stateEquals "pots" (.array [.number (.float half), .object [("lid", .bool true)]]) .null
        false,
      .firedRules 0 [1, 0] none false, .dispatchFails 1 "cold" (some "no \"water\"") false]⟩⟩,
    ⟨"kettle", .error, some "read rules\n", none⟩,
    ⟨"tea-1", .success, none, some ⟨[
      .firedRules 0 [1, 0] (some [1, 0]) true, .cycleOrder 1 ["pots"] (some ["pots"]) true,
      .noChanges 2 none true]⟩⟩]

/-- Only the later of two results of a scenario is loaded. -/
theorem saved_rerunResults_are_loaded :
    ∃ disk', (rerunResults.mapM (save "r") : Attempt (StateM Disk) (List String)).Does
      ⟨"/h", [(["r"], .directory)]⟩ ["r/tea-1.json", "r/kettle.json", "r/tea-1.json"] disk' ∧
      ∃ loaded, (loadAll "r" : Attempt (StateM Disk) _).Does disk' (loaded, []) disk' ∧
        (loaded.map (·.id)).Pairwise (· < ·) ∧
        (∀ id, id ∈ loaded.map (·.id) ↔ id ∈ rerunResults.map (·.id)) ∧
        ∀ r ∈ loaded, IsLatest rerunResults r := by
  have empty : Disk.IsEmptyDirectory ⟨"/h", [(["r"], .directory)]⟩ "r" := by
    refine ⟨rfl, fun name noSlash same => ?_⟩
    have first := congrArg (·.toList.head?) same
    have leads : lead "r" = ['r', '/'] := by decide
    rw [toList_join noSlash, leads] at first
    cases first
  have number : (Number.float half).IsLegible := by decide +kernel
  have count {n : Nat} (small : n < 3) : (Number.ofNat n).IsLegible := by
    have isWord : IsWord n := by
      rw [IsWord]
      omega
    rw [Number.ofNat, dif_pos isWord]
    trivial
  have plain : ∀ r ∈ rerunResults, r.toValue.Legible ∧ r.toValue.WellFormed := by
    simp [rerunResults, toValue, Judgment.toValue, Verdict.toValue, Value.ofNat, Value.ofNats,
      Value.ofStrings, Value.ofOption, Value.Legible, Value.LegibleItems, Fields.LegibleValues,
      Value.WellFormed, Value.WellFormedItems, Fields.WellFormedValues, number, count]
  have counts : ∀ r ∈ rerunResults, ∀ v ∈ Summary.verdicts r, ∀ n ∈ v.counts, n < 2 ^ 64 := by
    decide
  have nesting : ∀ r ∈ rerunResults, r.toValue.nesting ≤ Json.maxDepth := by decide
  have fit : ∀ r ∈ rerunResults, Disk.Fits "r" (temporaryName r.id) := by
    simp only [rerunResults, List.forall_mem_cons]
    exact ⟨⟨by decide, by decide⟩, ⟨by decide, by decide⟩, ⟨by decide, by decide⟩,
      List.forall_mem_nil _⟩
  obtain ⟨writes, loads⟩ :=
    saved_results_are_loaded empty (by decide : ∀ r ∈ rerunResults, _) fun r mem =>
      ⟨counts r mem, (plain r mem).1, (plain r mem).2, nesting r mem⟩
  obtain ⟨disk', saved⟩ := writes fit
  exact ⟨disk', saved, loads _ _ saved⟩

end CaseResult

end Reflex
