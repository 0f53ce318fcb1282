import Mathlib.Data.Bool.Basic
import Mathlib.Data.List.DropRight
import Reflex.Expr.Library

/-!
# Typing and deleting words

A text that is typed word by word is edited at its end, like a stack: a word that is added takes the
place of one that is only half typed, and deleting a word takes the last one away.  A text splits
into a part that is settled, since it is empty or ends in white space, the word at its end, and the
white space behind that.

* `Text.words` are the words of a text, and `Text.LongestSettled` says which part of it is settled.
* `Builtin.exists_split` splits a text as the functions see it.
* `Builtin.words_are_a_stack` is the result.
-/

namespace Reflex

namespace Text

variable {cs front back blanks word : List Char}

/-- The words of a text: the longest runs of characters that are not white space. -/
def words (cs : List Char) : List (List Char) :=
  (cs.splitOnP isBlank).filter (!·.isEmpty)

/-- Nothing but white space. -/
def Blank (cs : List Char) : Prop :=
  ∀ c ∈ cs, isBlank c = true

/-- No white space. -/
def Solid (cs : List Char) : Prop :=
  ∀ c ∈ cs, isBlank c = false

/-- The text is empty or ends in white space. -/
def Settled (cs : List Char) : Prop :=
  ∀ c ∈ cs.getLast?, isBlank c = true

/-- The longest front of a text that is settled. -/
structure LongestSettled (front cs : List Char) : Prop where
  isPrefix : front <+: cs
  settled : Settled front
  longest {other : List Char} : other <+: cs → Settled other → other <+: front

lemma settled_concat {c : Char} : Settled (front ++ [c]) ↔ isBlank c = true := by
  simp [Settled]

/-! ## Words -/

@[simp] lemma words_nil : words [] = [] := by
  simp [words]

lemma words_of_solid (solid : Solid word) (nonempty : word ≠ []) : words word = [word] := by
  rw [words, List.splitOnP_eq_singleton solid]
  simp [nonempty]

/-- White space separates words. -/
lemma words_append_cons {c : Char} (blank : isBlank c = true) :
    words (front ++ c :: back) = words front ++ words back := by
  rw [words, List.splitOnP_append_cons _ _ blank, List.filter_append]
  rfl

lemma words_of_blank (blank : Blank blanks) : words blanks = [] := by
  induction blanks with
  | nil => exact words_nil
  | cons c blanks ih =>
    obtain ⟨first, others⟩ := List.forall_mem_cons.1 blank
    rw [← List.nil_append (c :: blanks), words_append_cons first, ih others, words_nil,
      List.append_nil]

lemma words_append_of_blank (blank : Blank blanks) : words (front ++ blanks) = words front := by
  cases blanks with
  | nil => rw [List.append_nil]
  | cons c blanks =>
    obtain ⟨first, others⟩ := List.forall_mem_cons.1 blank
    rw [words_append_cons first, words_of_blank others, List.append_nil]

lemma words_append (settled : Settled front) :
    words (front ++ back) = words front ++ words back := by
  cases front using List.reverseRecOn with
  | nil => rw [words_nil, List.nil_append, List.nil_append]
  | append_singleton front c =>
    have blank := settled_concat.1 settled
    rw [List.append_assoc, List.singleton_append, words_append_cons blank, words_append_cons blank,
      words_nil, List.append_nil]

/-- The word at the end of a text is its last one. -/
lemma words_append_word (settled : Settled front) (solid : Solid word) (nonempty : word ≠ []) :
    words (front ++ word) = words front ++ [word] := by
  rw [words_append settled, words_of_solid solid nonempty]

/-! ## Cutting off the end -/

variable {p : Char → Bool}

lemma exists_dropEndWhile_append (p : Char → Bool) (cs : List Char) :
    ∃ tail, cs = dropEndWhile p cs ++ tail ∧ ∀ c ∈ tail, p c = true :=
  ⟨cs.rtakeWhile p, List.rdropWhile_append_rtakeWhile.symm, fun _ => List.mem_rtakeWhile_imp⟩

lemma not_of_mem_getLast?_dropEndWhile {c : Char} (last : c ∈ (dropEndWhile p cs).getLast?) :
    p c = false := by
  obtain ⟨nonempty, rfl⟩ := List.mem_getLast?_eq_getLast last
  exact Bool.eq_false_of_not_eq_true (List.rdropWhile_last_not p cs nonempty)

lemma dropEndWhile_append_of_forall {tail : List Char} (all : ∀ c ∈ tail, p c = true)
    (cs : List Char) : dropEndWhile p (cs ++ tail) = dropEndWhile p cs := by
  rw [dropEndWhile, dropEndWhile, List.reverse_append,
    List.dropWhile_append_of_pos fun c mem => all c (List.mem_reverse.1 mem)]

lemma dropEndWhile_eq_self (last : ∀ c ∈ cs.getLast?, p c = false) : dropEndWhile p cs = cs := by
  refine (List.rdropWhile_eq_self_iff (p := p) (l := cs)).2 fun nonempty => ?_
  simp [last _ (List.getLast?_eq_some_getLast nonempty)]

end Text

namespace Builtin

open Text

variable {cs front word blanks : List Char}

lemma exists_dropWord_append (cs : List Char) :
    ∃ word, cs = dropWord cs ++ word ∧ Solid word := by
  obtain ⟨word, split, solid⟩ := exists_dropEndWhile_append (!isBlank ·) cs
  exact ⟨word, split, fun c mem => by simpa using solid c mem⟩

lemma settled_dropWord (cs : List Char) : Settled (dropWord cs) := fun c last => by
  simpa using not_of_mem_getLast?_dropEndWhile last

lemma dropWord_of_settled (settled : Settled cs) : dropWord cs = cs :=
  dropEndWhile_eq_self fun c last => by simpa using settled c last

lemma dropWord_append_of_solid (solid : Solid word) (cs : List Char) :
    dropWord (cs ++ word) = dropWord cs :=
  dropEndWhile_append_of_forall (fun c mem => by simpa using solid c mem) cs

/-- What is left without the word at the end is the longest settled front. -/
lemma longestSettled_dropWord (cs : List Char) : LongestSettled (dropWord cs) cs := by
  obtain ⟨word, split, solid⟩ := exists_dropWord_append cs
  refine ⟨⟨word, split.symm⟩, settled_dropWord cs, fun {other} isPrefix settled => ?_⟩
  rcases List.prefix_or_prefix_of_prefix isPrefix ⟨word, split.symm⟩ with shorter | ⟨more, rfl⟩
  · exact shorter
  · obtain ⟨rest, whole⟩ := isPrefix
    have inWord : more ++ rest = word := by
      rw [List.append_assoc] at whole
      exact List.append_cancel_left (whole.trans split)
    cases more using List.reverseRecOn with
    | nil => simp
    | append_singleton more c =>
      -- The front would end in a character of the word.
      rw [← List.append_assoc, settled_concat] at settled
      have notBlank := solid c (by simp [← inWord])
      exact absurd settled (by simp [notBlank])

/-- A text as the functions see it: a settled part, the word at the end, and the white space behind
it.  There is no word only where there is nothing before the white space. -/
lemma exists_split (cs : List Char) : ∃ word blanks,
    cs = dropWord (trimEnd cs) ++ word ++ blanks ∧ Solid word ∧ Blank blanks ∧
      (word = [] → dropWord (trimEnd cs) = []) := by
  obtain ⟨blanks, trimmed, blank⟩ := exists_dropEndWhile_append isBlank cs
  obtain ⟨word, split, solid⟩ := exists_dropWord_append (trimEnd cs)
  refine ⟨word, blanks, ?_, solid, blank, ?_⟩
  · rw [← split]
    exact trimmed
  · rintro rfl
    rw [List.append_nil] at split
    have settled := settled_dropWord (trimEnd cs)
    cases ends : dropWord (trimEnd cs) using List.reverseRecOn with
    | nil => rfl
    | append_singleton front c =>
      rw [ends, settled_concat] at settled
      have last : c ∈ (trimEnd cs).getLast? := by
        rw [split, ends, List.getLast?_concat, Option.mem_def]
      exact absurd settled (by simp [not_of_mem_getLast?_dropEndWhile last])

/-- A text loses its last word. -/
lemma words_deleted (cs : List Char) : words (dropWord (trimEnd cs)) = (words cs).dropLast := by
  obtain ⟨word, blanks, split, solid, blank, noWord⟩ := exists_split cs
  have settled := settled_dropWord (trimEnd cs)
  conv_rhs => rw [split, words_append_of_blank blank]
  by_cases nonempty : word = []
  · rw [noWord nonempty, nonempty, List.append_nil, words_nil, List.dropLast_nil]
  · rw [words_append_word settled solid nonempty, List.dropLast_concat]

/-- Unless nothing is there to delete the text becomes shorter. -/
lemma length_deleted_lt (nonempty : cs ≠ []) :
    (dropWord (trimEnd cs)).length < cs.length := by
  obtain ⟨word, blanks, split, -, -, noWord⟩ := exists_split cs
  have lengths := congrArg List.length split
  rw [List.length_append, List.length_append] at lengths
  by_cases none : word = []
  · rw [noWord none, List.length_nil]
    exact List.length_pos_iff.2 nonempty
  · have some := List.length_pos_iff.2 none
    omega

lemma deleted_prefix (cs : List Char) : dropWord (trimEnd cs) <+: cs := by
  obtain ⟨word, blanks, split, -⟩ := exists_split cs
  exact ⟨word ++ blanks, by rw [← List.append_assoc, ← split]⟩

/-- A word that is only half typed makes way. -/
lemma words_kept_of_not_settled (unsettled : ¬Settled cs) :
    words (dropWord cs) = (words cs).dropLast := by
  obtain ⟨word, split, solid⟩ := exists_dropWord_append cs
  have nonempty : word ≠ [] := by
    rintro rfl
    rw [List.append_nil] at split
    exact unsettled (split ▸ settled_dropWord cs)
  conv_rhs => rw [split, words_append_word (settled_dropWord cs) solid nonempty,
    List.dropLast_concat]

/-- A word is added behind what is settled, with a space after it. -/
lemma words_added (cs word : List Char) :
    words (dropWord cs ++ word ++ [' ']) = words (dropWord cs) ++ words word := by
  have space : Blank [' '] := by simp [Blank, isBlank]
  rw [words_append_of_blank space, words_append (settled_dropWord cs)]

/-- A word that was added is taken away with the space after it. -/
lemma deleted_added (cs : List Char) (solid : Solid word) (nonempty : word ≠ []) :
    dropWord (trimEnd (dropWord cs ++ word ++ [' '])) = dropWord cs := by
  have trimmed : trimEnd (dropWord cs ++ word ++ [' ']) = dropWord cs ++ word := by
    rw [trimEnd, dropEndWhile_append_of_forall (by simp [isBlank])]
    refine dropEndWhile_eq_self fun c last => ?_
    rw [List.getLast?_append_of_ne_nil _ nonempty] at last
    exact solid c (List.mem_of_mem_getLast? last)
  rw [trimmed, dropWord_append_of_solid solid, dropWord_of_settled (settled_dropWord cs)]

/-- **Words and letters are edited like a stack.**  Deleting a word takes the last word away, and
leaves a front of the text that is shorter unless there was nothing; adding a word puts it behind
the others, in place of one that is only half typed; deleting the word that was added leads back to
the longest settled front; and deleting the letter that was added leads back to the text. -/
theorem words_are_a_stack (t w : String) :
    (∃ kept : String, result .deleteWord [.string t] = .ok (.string kept) ∧
      words kept.toList = (words t.toList).dropLast ∧ kept.toList <+: t.toList ∧
      (t ≠ "" → kept.length < t.length)) ∧
    (∃ typed : String, result .addWord [.string t, .string w] = .ok (.string typed) ∧
      (Settled t.toList → words typed.toList = words t.toList ++ words w.toList) ∧
      (¬Settled t.toList → words typed.toList = (words t.toList).dropLast ++ words w.toList)) ∧
    (w ≠ "" → Solid w.toList → ∃ typed kept : String,
      result .addWord [.string t, .string w] = .ok (.string typed) ∧
      result .deleteWord [.string typed] = .ok (.string kept) ∧
      LongestSettled kept.toList t.toList ∧ (Settled t.toList → kept = t)) ∧
    (∀ c : Char, ∃ longer : String,
      result .addLetter [.string t, .string (String.singleton c)] = .ok (.string longer) ∧
      result .deleteLetter [.string longer] = .ok (.string t)) := by
  have added : (String.ofList (dropWord t.toList) ++ w ++ " ").toList =
      dropWord t.toList ++ w.toList ++ [' '] := by simp
  refine ⟨⟨_, rfl, ?_⟩, ⟨_, rfl, ?_⟩, fun nonempty solid => ⟨_, _, rfl, rfl, ?_⟩, fun c =>
    ⟨_, rfl, ?_⟩⟩
  · simp only [Value.display, String.toList_ofList, String.length_ofList]
    refine ⟨words_deleted t.toList, deleted_prefix t.toList, fun nonempty => ?_⟩
    rw [← String.length_toList]
    exact length_deleted_lt (by simpa using nonempty)
  · simp only [Value.display, added, words_added]
    refine ⟨fun settled => ?_, fun unsettled => ?_⟩
    · rw [dropWord_of_settled settled]
    · rw [words_kept_of_not_settled unsettled]
  · simp only [Value.display, added, String.toList_ofList]
    rw [deleted_added t.toList solid (by simpa using nonempty)]
    refine ⟨longestSettled_dropWord t.toList, fun settled => ?_⟩
    rw [dropWord_of_settled settled, String.ofList_toList]
  · simp only [result, Value.display, String.toList_append, String.toList_singleton,
      List.dropLast_concat, String.ofList_toList]

/-- A half typed word is replaced, and what was typed in its place is deleted again. -/
theorem words_are_a_stack_drink :
    "drink" ≠ "" ∧ Solid "drink".toList ∧ ∃ typed kept : String,
      result .addWord [.string "I want dri", .string "drink"] = .ok (.string typed) ∧
      result .deleteWord [.string typed] = .ok (.string kept) ∧
      LongestSettled kept.toList "I want dri".toList := by
  have nonempty : "drink" ≠ "" := by decide
  have solid : Solid "drink".toList := by simp [Solid, isBlank]
  obtain ⟨-, -, undone, -⟩ := words_are_a_stack "I want dri" "drink"
  obtain ⟨typed, kept, adds, deletes, longest, -⟩ := undone nonempty solid
  exact ⟨nonempty, solid, typed, kept, adds, deletes, longest⟩

end Builtin

end Reflex
