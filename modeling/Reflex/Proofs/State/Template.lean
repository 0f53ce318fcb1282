import Mathlib.Order.WellFounded
import Reflex.Proofs.Expr.Spans
import Reflex.State.Store

/-!
# What the placeholders of a template give way to

A template says by itself which texts in it are placeholders: the first `$name` and the first
`${name}`, wherever they stand.  Each is to give way to the text of the value that it names, and all
else is to stay.  A store replaces the first of them and then looks for the other in the text that
has the value in it already, so that a value may bring a placeholder of its own, or make one with
the characters around it.  Where the first `${name}` that is found then has no character in common
with the value, the store fills in the template as it should.

* `Split.IsFirst` says which placeholder of a form is the first in a text, and
  `Form.find?_eq_some_iff` that it is the one which the store finds.
* `Template.Filled` relates a template to the text that it stands for.
* `Template.fill_of_filled` says when a template is filled in like that, and `Clear.of_plain`
  that values without a dollar sign seldom get in the way.
* `Store.interpolate_inserts_verbatim` is the result, and `Store.inserted_placeholder_is_replaced`
  a value that is not kept as it is.
-/

namespace Reflex

namespace Template

/-! ## Placeholders -/

deriving instance DecidableEq for Split

/-- The two ways to write a placeholder. -/
inductive Form where
  | bare
  | braced
deriving DecidableEq

namespace Form

/-- The other way. -/
def other : Form → Form
  | .bare => .braced
  | .braced => .bare

/-- The placeholder of a name. -/
def write : Form → List Char → List Char
  | .bare, name => '$' :: name
  | .braced, name => '$' :: '\x7b' :: (name ++ ['\x7d'])

/-- The placeholder at the head of a text that follows a dollar sign, and what comes after it. -/
def head? : Form → List Char → Option (List Char × List Char)
  | .bare => bareHead?
  | .braced => bracedHead?

/-- The text split around its first placeholder. -/
def find? : Form → List Char → Option Split
  | .bare => bare?
  | .braced => braced?

lemma find?_nil (form : Form) : form.find? [] = none := by
  cases form <;> rfl

lemma find?_cons (form : Form) (c : Char) (cs : List Char) : form.find? (c :: cs) =
    match if c == '$' then form.head? cs else none with
    | some (name, rest) => some ⟨[], name, rest⟩
    | none => (form.find? cs).map fun split => { split with before := c :: split.before } := by
  cases form <;> rfl

end Form

namespace Split

/-- Whether a text is split around a placeholder.  One without braces takes all the characters of
names that follow. -/
structure Stands (form : Form) (text : List Char) (s : Split) : Prop where
  whole : s.before ++ (form.write s.name ++ s.after) = text
  nonempty : s.name ≠ []
  named : ∀ c ∈ s.name, isNameChar c
  ends : form = .bare → ∀ c ∈ s.after.head?, isNameChar c = false

/-- Whether a text is split around its first placeholder. -/
structure IsFirst (form : Form) (text : List Char) (s : Split) : Prop where
  stands : s.Stands form text
  least : ∀ s' : Split, s'.Stands form text → s.before.length ≤ s'.before.length

variable {form : Form} {text before name after cs : List Char} {c d : Char} {s : Split}

lemma not_stands_nil : ¬ s.Stands form [] := by
  intro h
  have written := List.append_eq_nil_iff.1 (List.append_eq_nil_iff.1 h.whole).2
  cases form <;> cases written.1

/-- A placeholder is at the head of a text or behind the first character. -/
lemma stands_cons_iff : (⟨d :: before, name, after⟩ : Split).Stands form (c :: cs) ↔
    d = c ∧ (⟨before, name, after⟩ : Split).Stands form cs := by
  constructor
  · rintro ⟨whole, nonempty, named, ends⟩
    obtain ⟨same, more⟩ := List.cons.inj whole
    exact ⟨same, more, nonempty, named, ends⟩
  · rintro ⟨rfl, whole, nonempty, named, ends⟩
    exact ⟨congrArg (d :: ·) whole, nonempty, named, ends⟩

/-- A text with a placeholder has a first one. -/
lemma Stands.exists_isFirst (h : s.Stands form text) :
    ∃ first : Split, first.IsFirst form text := by
  obtain ⟨first, stands, least⟩ := (measure fun s : Split => s.before.length).wf.has_min
    {s | s.Stands form text} ⟨s, h⟩
  exact ⟨first, stands, fun s' h' => Nat.le_of_not_lt (least s' h')⟩

end Split

/-! ## The placeholder that is found -/

section Search

variable {form : Form} {text name rest cs : List Char} {c : Char} {s : Split}

/-- No bracket or sign is a character of names. -/
lemma isNameChar_of_mem_signs : ∀ c ∈ ['$', '\x7b', '\x7d'], isNameChar c = false := by
  simp [isNameChar, Text.isName]

lemma bareHead?_eq_some_iff : bareHead? cs = some (name, rest) ↔
    (⟨[], name, rest⟩ : Split).Stands .bare ('$' :: cs) := by
  constructor
  · intro found
    simp only [bareHead?] at found
    split at found
    · cases found
    · rename_i nonempty
      obtain ⟨rfl, rfl⟩ := Prod.mk.inj (Option.some.inj found)
      refine ⟨?_, by simpa using nonempty, fun c mem => List.mem_takeWhile_imp mem,
        fun _ => stop_of_dropWhile isNameChar cs⟩
      exact congrArg ('$' :: ·) List.takeWhile_append_dropWhile
  · rintro ⟨whole, nonempty, named, ends⟩
    have split : name ++ rest = cs := (List.cons.inj whole).2
    obtain ⟨taken, left⟩ := takeWhile_run named (ends rfl)
    rw [bareHead?, ← split, taken, left, if_neg (by simpa using nonempty)]

lemma bracedHead?_eq_some_iff : bracedHead? cs = some (name, rest) ↔
    (⟨[], name, rest⟩ : Split).Stands .braced ('$' :: cs) := by
  constructor
  · intro found
    unfold bracedHead? at found
    dsimp only at found
    split at found
    · rename_i cs
      split at found
      · rename_i after closed
        split at found
        · cases found
        · rename_i nonempty
          obtain ⟨rfl, rfl⟩ := Prod.mk.inj (Option.some.inj found)
          refine ⟨?_, by simpa using nonempty, fun c mem => List.mem_takeWhile_imp mem, nofun⟩
          have split : cs.takeWhile isNameChar ++ '\x7d' :: after = cs := by
            rw [← closed, List.takeWhile_append_dropWhile]
          simpa [Form.write] using split
      · cases found
    · cases found
  · rintro ⟨whole, nonempty, named, -⟩
    have split : cs = '\x7b' :: (name ++ '\x7d' :: rest) := by
      simpa [Form.write] using whole.symm
    have stop : ∀ c ∈ ('\x7d' :: rest).head?, isNameChar c = false := by
      simpa using isNameChar_of_mem_signs '\x7d'
    obtain ⟨taken, left⟩ := takeWhile_run named stop
    rw [split, bracedHead?]
    simp only [taken, left]
    rw [if_neg (by simpa using nonempty)]

namespace Form

lemma head?_eq_some_iff : form.head? cs = some (name, rest) ↔
    (⟨[], name, rest⟩ : Split).Stands form ('$' :: cs) := by
  cases form with
  | bare => exact bareHead?_eq_some_iff
  | braced => exact bracedHead?_eq_some_iff

/-- A text that a placeholder is at the head of begins with a dollar sign. -/
lemma exists_of_stands_head {after : List Char}
    (h : (⟨[], name, after⟩ : Split).Stands form (c :: cs)) : c = '$' := by
  have whole := h.whole
  cases form <;> exact (List.cons.inj whole).1.symm

/-- The placeholder that is found is the first one. -/
theorem find?_eq_some_iff : form.find? text = some s ↔ s.IsFirst form text := by
  induction text generalizing s with
  | nil =>
    rw [find?_nil]
    exact ⟨nofun, fun h => absurd h.stands Split.not_stands_nil⟩
  | cons c cs ih =>
    rw [find?_cons]
    cases here : if c == '$' then form.head? cs else none with
    | some found =>
      obtain ⟨name, rest⟩ := found
      have head : (⟨[], name, rest⟩ : Split).Stands form (c :: cs) := by
        split at here
        · rename_i dollar
          obtain rfl := beq_iff_eq.1 dollar
          exact head?_eq_some_iff.1 here
        · cases here
      constructor
      · rintro ⟨⟩
        exact ⟨head, fun s' _ => Nat.zero_le _⟩
      · rintro ⟨stands, least⟩
        obtain ⟨before, name', after⟩ := s
        obtain rfl : before = [] := List.eq_nil_of_length_eq_zero (Nat.le_zero.1 (least _ head))
        obtain rfl := exists_of_stands_head head
        rw [if_pos (beq_self_eq_true '$')] at here
        obtain ⟨rfl, rfl⟩ := Prod.mk.inj (Option.some.inj
          (here.symm.trans (head?_eq_some_iff.2 stands)))
        rfl
    | none =>
      have elsewhere : ∀ name after, ¬ (⟨[], name, after⟩ : Split).Stands form (c :: cs) := by
        intro name after head
        obtain rfl := exists_of_stands_head head
        rw [if_pos (beq_self_eq_true '$'), head?_eq_some_iff.2 head] at here
        cases here
      -- Both ways, the placeholder is one of the text without its first character.
      simp only [Option.map_eq_some_iff, ih]
      constructor
      · rintro ⟨⟨before, name, after⟩, ⟨stands, least⟩, rfl⟩
        refine ⟨Split.stands_cons_iff.2 ⟨rfl, stands⟩, ?_⟩
        rintro ⟨before', name', after'⟩ stands'
        cases before' with
        | nil => exact absurd stands' (elsewhere name' after')
        | cons d before' =>
          exact Nat.succ_le_succ (least _ (Split.stands_cons_iff.1 stands').2)
      · rintro ⟨stands, least⟩
        obtain ⟨before, name, after⟩ := s
        cases before with
        | nil => exact absurd stands (elsewhere name after)
        | cons d before =>
          obtain ⟨rfl, within⟩ := Split.stands_cons_iff.1 stands
          refine ⟨_, ⟨within, fun s' stands' => ?_⟩, rfl⟩
          exact Nat.le_of_succ_le_succ (least _ (Split.stands_cons_iff.2 ⟨rfl, stands'⟩))

lemma find?_eq_none_iff : form.find? text = none ↔ ∀ s : Split, ¬ s.Stands form text := by
  constructor
  · intro none s stands
    obtain ⟨first, isFirst⟩ := stands.exists_isFirst
    rw [find?_eq_some_iff.2 isFirst] at none
    cases none
  · intro none
    cases found : form.find? text with
    | none => rfl
    | some s => exact absurd (find?_eq_some_iff.1 found).stands (none s)

end Form

end Search

/-! ## What a template stands for -/

/-- The text that the placeholder of a name gives way to. -/
def shown (value : String → Value) (name : List Char) : List Char :=
  (value (String.ofList ('$' :: name))).display.toList

/-- What a template stands for: the first placeholder of each form gives way to the text of the
value that it names, and all else stays.  Either form may come before the other. -/
inductive Filled (value : String → Value) (text : List Char) : List Char → Prop
  | plain (none : ∀ form, ∀ s : Split, ¬ s.Stands form text) : Filled value text text
  | single {form : Form} {s : Split} (first : s.IsFirst form text)
      (alone : ∀ s' : Split, ¬ s'.Stands form.other text) :
      Filled value text (s.before ++ shown value s.name ++ s.after)
  | double {form : Form} {before leading between trailing after : List Char}
      (first : (⟨before, leading, between ++ (form.other.write trailing ++ after)⟩ :
        Split).IsFirst form text)
      (second : (⟨before ++ (form.write leading ++ between), trailing, after⟩ :
        Split).IsFirst form.other text) :
      Filled value text
        (before ++ shown value leading ++ between ++ shown value trailing ++ after)

/-- Whether the first placeholder with braces, in a text that has a value in it, has no character in
common with the value and does not stand around it. -/
def Clear (before value after : List Char) : Prop :=
  ∀ s : Split, s.IsFirst .braced (before ++ (value ++ after)) →
    s.before.length + (Form.braced.write s.name).length ≤ before.length ∨
      before.length + value.length ≤ s.before.length

/-- Whether the value that is put into a template first is clear of the next placeholder. -/
def KeepsClear (value : String → Value) (text : List Char) : Prop :=
  ∀ s : Split, s.IsFirst .bare text → Clear s.before (shown value s.name) s.after

section Places

variable {form : Form} {text before value value' after : List Char} {s s' : Split}

lemma exists_write_eq_cons (form : Form) {name : List Char} (named : ∀ c ∈ name, isNameChar c) :
    ∃ cs, form.write name = '$' :: cs ∧ '$' ∉ cs := by
  have free : '$' ∉ name := fun mem => by
    simpa [isNameChar_of_mem_signs] using named '$' mem
  cases form with
  | bare => exact ⟨_, rfl, free⟩
  | braced => exact ⟨_, rfl, by simpa using free⟩

/-- Of two placeholders one ends before the other begins. -/
lemma Split.Stands.exists_between {form' : Form} (h : s.Stands form text)
    (h' : s'.Stands form' text) (lt : s.before.length < s'.before.length) :
    ∃ between, s'.before = s.before ++ (form.write s.name ++ between) ∧
      s.after = between ++ (form'.write s'.name ++ s'.after) := by
  obtain ⟨cs, written, free⟩ := exists_write_eq_cons form h.named
  obtain ⟨cs', written', -⟩ := exists_write_eq_cons form' h'.named
  have same := h.whole.trans h'.whole.symm
  rcases List.append_eq_append_iff.1 same with ⟨d, further, rest⟩ | ⟨d, further, -⟩
  · rcases List.append_eq_append_iff.1 rest with ⟨between, behind, after⟩ | ⟨e, within, after⟩
    · exact ⟨between, by rw [further, behind], after⟩
    · cases e with
      | nil =>
        rw [List.append_nil] at within
        exact ⟨[], by rw [further, within, List.append_nil], after.symm⟩
      | cons b e =>
        -- The second one would begin inside of the first, and with a dollar sign.
        exfalso
        rw [further, List.length_append] at lt
        obtain ⟨a, d, rfl⟩ := List.exists_cons_of_length_pos (l := d) (by omega)
        rw [written, List.cons_append] at within
        rw [written', List.cons_append] at after
        obtain rfl := (List.cons.inj after).1
        exact free ((List.cons.inj within).2 ▸ by simp)
  · rw [further, List.length_append] at lt
    omega

/-- The two forms do not stand at one place. -/
lemma Split.Stands.length_ne (h : s.Stands form text) (h' : s'.Stands form.other text) :
    s.before.length ≠ s'.before.length := by
  intro same
  obtain ⟨-, rest⟩ := List.append_inj (h.whole.trans h'.whole.symm) same
  -- One of the two names would begin with a brace.
  have unbraced : ∀ {bare braced : Split}, bare.Stands .bare text →
      Form.bare.write bare.name ++ bare.after ≠ Form.braced.write braced.name ++ braced.after := by
    intro bare braced h same
    obtain ⟨c, cs, named⟩ := List.exists_cons_of_ne_nil h.nonempty
    have brace : c = '\x7b' := by
      rw [named] at same
      exact (List.cons.inj (List.cons.inj same).2).1
    have isChar := h.named c (named ▸ List.mem_cons_self)
    rw [brace, isNameChar_of_mem_signs _ (by simp)] at isChar
    cases isChar
  cases form with
  | bare => exact unbraced h rest
  | braced => exact unbraced h' rest.symm

lemma Split.IsFirst.exists_filled (value : String → Value) (first : s.IsFirst form text)
    (second : s'.IsFirst form.other text) (lt : s.before.length < s'.before.length) :
    ∃ result, Filled value text result := by
  obtain ⟨between, front, rest⟩ := first.stands.exists_between second.stands lt
  obtain ⟨before, leading, after⟩ := s
  obtain ⟨before', trailing, after'⟩ := s'
  dsimp only at front rest
  subst front rest
  exact ⟨_, .double first second⟩

/-- Every template stands for a text. -/
lemma exists_filled (value : String → Value) (text : List Char) :
    ∃ result, Filled value text result := by
  by_cases none : ∀ form, ∀ s : Split, ¬ s.Stands form text
  · exact ⟨_, .plain none⟩
  simp only [not_forall, not_not] at none
  obtain ⟨form, _, stands⟩ := none
  obtain ⟨s, first⟩ := stands.exists_isFirst
  by_cases alone : ∀ s' : Split, ¬ s'.Stands form.other text
  · exact ⟨_, .single first alone⟩
  simp only [not_forall, not_not] at alone
  obtain ⟨_, stands'⟩ := alone
  obtain ⟨s', first'⟩ := stands'.exists_isFirst
  rcases Nat.lt_or_gt_of_ne (first.stands.length_ne first'.stands) with lt | gt
  · exact first.exists_filled value first' lt
  · cases form <;> exact first'.exists_filled value first gt

/-! ## How a template is filled in -/

/-- What is left in a text of a placeholder that is clear of a part of it, when the part gives way
to another. -/
lemma Split.Stands.exists_exchanged (h : s.Stands .braced (before ++ (value ++ after)))
    (clear : s.before.length + (Form.braced.write s.name).length ≤ before.length ∨
      before.length + value.length ≤ s.before.length) (value' : List Char) :
    ∃ s' : Split, s'.Stands .braced (before ++ (value' ++ after)) ∧
      (s'.before.length = s.before.length ∧ s.before.length < before.length ∨
        before.length + value.length ≤ s.before.length ∧
          s'.before.length + value.length = s.before.length + value'.length) := by
  obtain ⟨whole, nonempty, named, -⟩ := h
  rcases clear with le | le
  · have part : s.before ++ Form.braced.write s.name <+: before ++ (value ++ after) :=
      ⟨s.after, by rw [List.append_assoc, whole]⟩
    have front : s.before ++ Form.braced.write s.name <+: before := by
      refine List.prefix_of_prefix_length_le part (List.prefix_append before _) ?_
      rwa [List.length_append]
    obtain ⟨rest, rfl⟩ := front
    refine ⟨⟨s.before, s.name, rest ++ (value' ++ after)⟩, ⟨?_, nonempty, named, nofun⟩,
      .inl ⟨rfl, ?_⟩⟩
    · simp only [List.append_assoc]
    · simp only [List.length_append, Form.write, List.length_cons]
      omega
  · have part : before ++ value <+: before ++ (value ++ after) :=
      ⟨after, by rw [List.append_assoc]⟩
    have front : before ++ value <+: s.before := by
      refine List.prefix_of_prefix_length_le part ⟨_, whole⟩ ?_
      rwa [List.length_append]
    obtain ⟨rest, split⟩ := front
    rw [← split, List.append_assoc, List.append_assoc, List.append_cancel_left_eq,
      List.append_cancel_left_eq] at whole
    refine ⟨⟨before ++ (value' ++ rest), s.name, s.after⟩, ⟨?_, nonempty, named, nofun⟩,
      .inr ⟨le, ?_⟩⟩
    · rw [← whole]
      simp only [List.append_assoc]
    · rw [← split]
      simp only [List.length_append]
      omega

end Places

section Filling

variable {value : String → Value} {form : Form} {s : Split}
  {text before leading between trailing after : List Char}

lemma replace_of_isFirst (h : s.IsFirst form text) : replace value text (form.find? text) =
    s.before ++ shown value s.name ++ s.after := by
  rw [Form.find?_eq_some_iff.2 h]
  rfl

lemma replace_of_none (none : ∀ s : Split, ¬ s.Stands form text) :
    replace value text (form.find? text) = text := by
  rw [Form.find?_eq_none_iff.2 none]
  rfl

/-- Where nothing is found with braces, nothing is found when the value is there. -/
lemma Clear.not_stands {shown : List Char} (clear : Clear before shown after)
    (none : ∀ s : Split, ¬ s.Stands .braced (before ++ (leading ++ after))) (s : Split) :
    ¬ s.Stands .braced (before ++ (shown ++ after)) := by
  intro stands
  obtain ⟨first, isFirst⟩ := stands.exists_isFirst
  obtain ⟨s', stands', -⟩ := isFirst.stands.exists_exchanged (clear first isFirst) leading
  exact none s' stands'

/-- The placeholder with braces that comes next is still the first one when the value is there. -/
lemma Clear.isFirst_behind {shown : List Char}
    (clear : Clear before shown (between ++ (Form.braced.write trailing ++ after)))
    (first : (⟨before ++ (leading ++ between), trailing, after⟩ : Split).IsFirst .braced text)
    (whole : before ++ (leading ++ (between ++ (Form.braced.write trailing ++ after))) = text) :
    (⟨before ++ (shown ++ between), trailing, after⟩ : Split).IsFirst .braced
      (before ++ (shown ++ (between ++ (Form.braced.write trailing ++ after)))) := by
  have stands : (⟨before ++ (shown ++ between), trailing, after⟩ : Split).Stands .braced
      (before ++ (shown ++ (between ++ (Form.braced.write trailing ++ after)))) := by
    refine ⟨?_, first.stands.nonempty, first.stands.named, nofun⟩
    simp only [List.append_assoc]
  refine ⟨stands, fun s' stands' => ?_⟩
  obtain ⟨least, isLeast⟩ := stands.exists_isFirst
  obtain ⟨old, stands_old, place⟩ :=
    isLeast.stands.exists_exchanged (clear least isLeast) leading
  have later := first.least old (whole ▸ stands_old)
  have before_all := isLeast.least s' stands'
  simp only [List.length_append] at later ⊢
  omega

/-- The placeholder with braces that came before is still the first one when the value is there. -/
lemma Clear.isFirst_before {shown : List Char}
    (clear : Clear (before ++ (Form.braced.write leading ++ between)) shown after)
    (first : (⟨before, leading, between ++ (trailing ++ after)⟩ : Split).IsFirst .braced text) :
    (⟨before, leading, between ++ (shown ++ after)⟩ : Split).IsFirst .braced
      ((before ++ (Form.braced.write leading ++ between)) ++ (shown ++ after)) := by
  have stands : (⟨before, leading, between ++ (shown ++ after)⟩ : Split).Stands .braced
      ((before ++ (Form.braced.write leading ++ between)) ++ (shown ++ after)) := by
    refine ⟨?_, first.stands.nonempty, first.stands.named, nofun⟩
    simp only [List.append_assoc]
  refine ⟨stands, fun s' stands' => ?_⟩
  obtain ⟨least, isLeast⟩ := stands.exists_isFirst
  have whole :
      (before ++ (Form.braced.write leading ++ between)) ++ (trailing ++ after) = text := by
    rw [← first.stands.whole]
    simp only [List.append_assoc]
  have before_all := isLeast.least s' stands'
  have clear_least := clear least isLeast
  obtain ⟨old, stands_old, place⟩ := isLeast.stands.exists_exchanged clear_least trailing
  have later := first.least old (whole ▸ stands_old)
  simp only [List.length_append] at later clear_least place ⊢
  omega

/-- A template is filled in with what it stands for if the first value is clear of the second
placeholder. -/
theorem fill_of_filled {template : String} {result : List Char}
    (clear : KeepsClear value template.toList) (filled : Filled value template.toList result) :
    fill value template = String.ofList result := by
  have twice : fill value template = String.ofList (replace value
      (replace value template.toList (Form.bare.find? template.toList))
      (Form.braced.find? (replace value template.toList (Form.bare.find? template.toList)))) := rfl
  rw [twice]
  congr 1
  cases filled with
  | plain none => rw [replace_of_none (none .bare), replace_of_none (none .braced)]
  | @single form s first alone =>
    cases form with
    | bare =>
      have unbraced : ∀ s' : Split,
          ¬ s'.Stands .braced (s.before ++ (Form.bare.write s.name ++ s.after)) := by
        rw [first.stands.whole]
        exact alone
      rw [replace_of_isFirst first, List.append_assoc]
      exact replace_of_none ((clear s first).not_stands unbraced)
    | braced =>
      have bareless : ∀ s : Split, ¬ s.Stands .bare template.toList := alone
      rw [replace_of_none bareless, replace_of_isFirst first]
  | @double form before leading between trailing after first second =>
    cases form with
    | bare =>
      have next := (clear _ first).isFirst_behind second first.stands.whole
      rw [replace_of_isFirst first, List.append_assoc]
      refine (replace_of_isFirst next).trans ?_
      simp only [List.append_assoc]
    | braced =>
      have bare : (⟨before ++ (Form.braced.write leading ++ between), trailing, after⟩ :
        Split).IsFirst .bare template.toList := second
      have next := (clear _ bare).isFirst_before first
      rw [replace_of_isFirst bare, List.append_assoc]
      refine (replace_of_isFirst next).trans ?_
      simp only [List.append_assoc]

/-- Whether a text ends in the beginning of a placeholder with braces. -/
def IsOpen (text : List Char) : Prop :=
  ['$'] <:+ text ∨ ∃ name, (∀ c ∈ name, isNameChar c) ∧ ('$' :: '\x7b' :: name) <:+ text

lemma IsOpen.mem (h : IsOpen text) : '$' ∈ text := by
  rcases h with sign | ⟨name, -, sign⟩
  · exact sign.subset (by simp)
  · exact sign.subset (by simp)

/-- A value without a dollar sign is clear of the next placeholder, unless it stands behind the
beginning of one. -/
lemma Clear.of_plain {shown : List Char} (plain : '$' ∉ shown) (closed : ¬ IsOpen before) :
    Clear before shown after := by
  intro s first
  obtain ⟨whole, -, named, -⟩ := first.stands
  by_contra meets
  simp only [not_or, Nat.not_le] at meets
  obtain ⟨late, early⟩ := meets
  rcases Nat.lt_or_ge s.before.length before.length with lt | ge
  · -- The placeholder begins in front of the value, and goes on behind it.
    obtain ⟨d, rfl⟩ : s.before <+: before :=
      List.prefix_of_prefix_length_le ⟨_, whole⟩ (List.prefix_append before _) (Nat.le_of_lt lt)
    rw [List.append_assoc, List.append_cancel_left_eq] at whole
    rw [List.length_append] at lt late
    obtain ⟨e, within⟩ : d <+: Form.braced.write s.name :=
      List.prefix_of_prefix_length_le ⟨_, whole.symm⟩ (List.prefix_append _ s.after) (by omega)
    obtain ⟨a, d, rfl⟩ := List.exists_cons_of_length_pos (l := d) (by omega)
    obtain ⟨rfl, behind⟩ := List.cons.inj within
    cases d with
    | nil => exact closed (.inl (List.suffix_append s.before _))
    | cons a d =>
      obtain ⟨rfl, inside⟩ := List.cons.inj behind
      have shorter : d.length ≤ s.name.length := by
        simp only [Form.write, List.length_cons, List.length_append, List.length_nil] at late
        omega
      have part : d <+: s.name :=
        List.prefix_of_prefix_length_le ⟨e, inside⟩ (List.prefix_append _ _) shorter
      exact closed (.inr ⟨d, fun c mem => named c (part.subset mem), List.suffix_append s.before _⟩)
  · -- The placeholder begins in the value, and with a dollar sign.
    obtain ⟨d, split⟩ : before <+: s.before :=
      List.prefix_of_prefix_length_le (List.prefix_append before (shown ++ after)) ⟨_, whole⟩ ge
    rw [← split, List.append_assoc, List.append_cancel_left_eq] at whole
    rw [← split, List.length_append] at early
    have part : d ++ ['$'] <+: shown ++ after := by
      refine ⟨'\x7b' :: (s.name ++ ['\x7d']) ++ s.after, ?_⟩
      rw [← whole]
      simp [Form.write]
    have sign : d ++ ['$'] <+: shown := by
      refine List.prefix_of_prefix_length_le part (List.prefix_append shown after) ?_
      rw [List.length_append, List.length_singleton]
      omega
    exact plain (sign.subset (by simp))

end Filling

end Template

namespace Store

/-- **Templates are filled in with the values as they are.**  The text that a store makes of a
template is the one that the template stands for, in which its first placeholder of either form has
given way to the text of the value that it names and nothing else is changed, provided that no
placeholder is made up by the value that is put in first. -/
theorem interpolate_inserts_verbatim (store : Store) (template : String)
    (clear : Template.KeepsClear store.get template.toList) (result : List Char) :
    Template.Filled store.get template.toList result ↔
      store.interpolate template = String.ofList result := by
  constructor
  · exact Template.fill_of_filled clear
  · intro same
    obtain ⟨result', filled⟩ := Template.exists_filled store.get template.toList
    have same' : store.interpolate template = String.ofList result' :=
      Template.fill_of_filled clear filled
    rwa [String.ofList_injective (same.symm.trans same')]

/-- A template with both forms, in which the values are plain. -/
theorem interpolate_greeting :
    let document : Fields := [("$name", .string "Ada"), ("$n", .bool true)]
    let store : Store := ⟨document, [], [], 0, 64, "4.state", .holding none⟩
    let template := "hi $name: $\x7bn\x7d of $n"
    Template.KeepsClear store.get template.toList ∧
      Template.Filled store.get template.toList "hi Ada: true of $n".toList := by
  intro document store template
  have clear : Template.KeepsClear store.get template.toList := by
    intro s isFirst
    have found : Template.Form.bare.find? template.toList =
      some ⟨['h', 'i', ' '], ['n', 'a', 'm', 'e'], ": $\x7bn\x7d of $n".toList⟩ := by
      decide +kernel
    obtain rfl := Option.some.inj (found.symm.trans (Template.Form.find?_eq_some_iff.2 isFirst))
    have text : Template.shown store.get ['n', 'a', 'm', 'e'] = ['A', 'd', 'a'] := by decide
    exact .of_plain (text ▸ by decide) fun isOpen => by simpa using isOpen.mem
  refine ⟨clear, (interpolate_inserts_verbatim store template clear _).2 ?_⟩
  decide +kernel

/-- A value that is a placeholder by itself is not kept as it is. -/
theorem inserted_placeholder_is_replaced : ¬ ∀ (store : Store) (template : String)
    (result : List Char), Template.Filled store.get template.toList result ↔
      store.interpolate template = String.ofList result := by
  intro verbatim
  let store : Store := ⟨[("$a", .string "$\x7bb\x7d"), ("$b", .string "c")], [], [], 0, 64,
    "4.state", .holding none⟩
  have found : Template.Form.bare.find? "$a".toList = some ⟨[], ['a'], []⟩ := rfl
  have none : Template.Form.braced.find? "$a".toList = none := rfl
  have text : [] ++ Template.shown store.get ['a'] ++ [] = "$\x7bb\x7d".toList := by decide
  have filled : Template.Filled store.get "$a".toList "$\x7bb\x7d".toList :=
    text ▸ .single (Template.Form.find?_eq_some_iff.1 found)
      (Template.Form.find?_eq_none_iff.1 none)
  have kept := (verbatim store "$a" _).1 filled
  have lost : store.interpolate "$a" = "c" := by decide
  rw [lost, String.ofList_toList] at kept
  exact absurd kept (by decide)

end Store

end Reflex
