import Reflex.Proofs.Expr.Names
import Reflex.Proofs.Expr.Spans
import Reflex.Proofs.Ordered
import Reflex.Session.Run

/-!
# What an assignment text means

An assignment text lists assignments, with any white space around the equals signs and with commas
between them.  The scan that looks for assignments in a text finds these and no others, in order, so
that the patch of the text has for each state variable the operation of its last assignment.

* `Assignment.Written` relates an assignment to the texts that it may be written as.
* `Assignment.scan_textOf` says that the scan finds what is written.
* `Store.patchOf_means_assignments` is the result.
-/

namespace Reflex

namespace Assignment

/-! ## Texts of assignments -/

/-- Whether a text is a word of ASCII letters, digits and underscores. -/
structure IsName (cs : List Char) : Prop where
  nonempty : cs ≠ []
  named : ∀ c ∈ cs, Text.isName c

/-- The texts of a source: a word, with a dollar sign before it or not. -/
inductive SourceText : AssignmentSource → List Char → Prop
  | state {name : List Char} (isName : IsName name) :
      SourceText (.state (String.ofList ('$' :: name))) ('$' :: name)
  | field {name : List Char} (isName : IsName name) :
      SourceText (.field (String.ofList name)) name

/-- The texts of an assignment, with any white space around the equals sign. -/
inductive Written : Assignment → List Char → Prop
  | intro {name before after text : List Char} {source : AssignmentSource}
      (target : IsName name) (blank : ∀ c ∈ before, Text.isBlank c)
      (blank' : ∀ c ∈ after, Text.isBlank c) (written : SourceText source text) :
      Written ⟨String.ofList ('$' :: name), source⟩
        ('$' :: (name ++ (before ++ '=' :: (after ++ text))))

/-- The text of assignments that are written one after the other, with commas between them. -/
def textOf (written : List (Assignment × List Char)) : String :=
  String.ofList ([',', ' '].intercalate (written.map Prod.snd))

/-- Whether a value is read off the front of a text, with a rest left. -/
def Gives {α : Type} {input : List Char} (result : Option (Reading α input)) (value : α)
    (rest : List Char) : Prop :=
  ∃ r, result = some r ∧ r.value = value ∧ r.rest = rest

/-! ## Reading an assignment -/

variable {name cs ds rest text : List Char} {source : AssignmentSource} {a : Assignment}

lemma IsName.exists_cons (h : IsName name) :
    ∃ c cs, name = c :: cs ∧ Text.isName c ∧ ∀ d ∈ cs, Text.isName d := by
  obtain ⟨c, cs, rfl⟩ := List.exists_cons_of_ne_nil h.nonempty
  exact ⟨c, cs, rfl, List.forall_mem_cons.1 h.named⟩

lemma gives_word (isName : IsName name) (stop : ∀ c ∈ rest.head?, Text.isWord c = false) :
    Gives (word? (name ++ rest)) name rest := by
  obtain ⟨c, cs, rfl, first, more⟩ := isName.exists_cons
  obtain ⟨taken, left⟩ := takeWhile_run (fun d mem => isWord_of_isName (more d mem)) stop
  rw [List.cons_append, word?, if_pos (isWord_of_isName first)]
  exact ⟨_, rfl, congrArg (c :: ·) taken, left⟩

lemma gives_source (written : SourceText source text)
    (stop : ∀ c ∈ rest.head?, Text.isWord c = false) :
    Gives (source? (text ++ rest)) source rest := by
  cases written with
  | state isName =>
    obtain ⟨r, read, value, left⟩ := gives_word isName stop
    rw [List.cons_append, source?, if_pos (beq_self_eq_true '$'), read]
    exact ⟨_, rfl,
      congrArg (fun name => AssignmentSource.state (String.ofList ('$' :: name))) value, left⟩
  | field isName =>
    obtain ⟨r, read, value, left⟩ := gives_word isName stop
    obtain ⟨c, cs, rfl, first, -⟩ := isName.exists_cons
    have unmarked : ¬ (c == '$') := fun same => by
      rw [beq_iff_eq.1 same] at first
      cases first
    have read' : word? (c :: (cs ++ rest)) = some r := read
    rw [List.cons_append, source?, if_neg unmarked, read']
    exact ⟨_, rfl, congrArg (fun name => AssignmentSource.field (String.ofList name)) value, left⟩

lemma gives_equals (sign : cs.dropWhile Text.isBlank = '=' :: ds)
    (read : Gives (source? (ds.dropWhile Text.isBlank)) source rest) :
    Gives (equals? cs) source rest := by
  obtain ⟨r, read, value, left⟩ := read
  unfold equals?
  split
  · rename_i nothing
    rw [nothing] at sign
    cases sign
  · rename_i c ds' split
    obtain ⟨rfl, rfl⟩ := List.cons.inj (split.symm.trans sign)
    rw [if_pos (beq_self_eq_true '='), read]
    exact ⟨_, rfl, value, left⟩

/-- A source does not begin with white space. -/
lemma SourceText.stop (written : SourceText source text) (rest : List Char) :
    ∀ c ∈ (text ++ rest).head?, Text.isBlank c = false := by
  cases written with
  | state => simp [Text.isBlank]
  | field isName =>
    obtain ⟨c, cs, rfl, first, -⟩ := isName.exists_cons
    intro d head
    obtain rfl : c = d := Option.some.inj head
    rw [← Bool.not_eq_true]
    intro blank
    rw [isName_of_isBlank blank] at first
    cases first

lemma gives_head (written : Written a ('$' :: text))
    (stop : ∀ c ∈ rest.head?, Text.isWord c = false) : Gives (head? (text ++ rest)) a rest := by
  cases written with
  | @intro name before after text source target blank blank' written =>
    have ends : ∀ c ∈ (before ++ ('=' :: (after ++ (text ++ rest)))).head?,
        Text.isWord c = false := by
      cases before with
      | nil =>
        rintro c ⟨⟩
        decide
      | cons b before =>
        rintro c ⟨⟩
        exact not_isWord_of_isBlank (blank _ List.mem_cons_self)
    have sign : (before ++ ('=' :: (after ++ (text ++ rest)))).dropWhile Text.isBlank =
        '=' :: (after ++ (text ++ rest)) :=
      (takeWhile_run blank (by rintro c ⟨⟩; decide)).2
    have behind : (after ++ (text ++ rest)).dropWhile Text.isBlank = text ++ rest :=
      (takeWhile_run blank' (written.stop rest)).2
    obtain ⟨r, read, value, left⟩ := gives_word target ends
    obtain ⟨r', read', value', left'⟩ : Gives (equals? r.rest) source rest :=
      left.symm ▸ gives_equals sign (behind.symm ▸ gives_source written stop)
    have whole : name ++ (before ++ '=' :: (after ++ text)) ++ rest =
        name ++ (before ++ ('=' :: (after ++ (text ++ rest)))) := by
      simp only [List.append_assoc, List.cons_append]
    rw [whole, head?, read, Option.bind_some, read']
    exact ⟨_, rfl, congrArg₂ (fun name => Assignment.mk (String.ofList ('$' :: name))) value value',
      left'⟩

/-! ## Scanning a list of assignments -/

lemma scan_nil : scan [] = [] := by
  rw [scan]

lemma scan_of_ne {c : Char} (other : c ≠ '$') (cs : List Char) : scan (c :: cs) = scan cs := by
  rw [scan, if_neg (by simpa using other)]

/-- The scan finds a written assignment and goes on behind it. -/
lemma scan_append (written : Written a text) (stop : ∀ c ∈ rest.head?, Text.isWord c = false) :
    scan (text ++ rest) = a :: scan rest := by
  obtain ⟨cs, rfl⟩ : ∃ cs, text = '$' :: cs := by
    cases written
    exact ⟨_, rfl⟩
  obtain ⟨r, read, value, left⟩ := gives_head written stop
  rw [List.cons_append, scan, if_pos (beq_self_eq_true '$'), read]
  simp only [value, left]

/-- The scan finds the assignments that are written, in order and no others. -/
theorem scan_textOf {written : List (Assignment × List Char)}
    (each : ∀ w ∈ written, Written w.1 w.2) :
    scan (textOf written).toList = written.map Prod.fst := by
  rw [textOf, String.toList_ofList]
  induction written with
  | nil => exact scan_nil
  | cons w more ih =>
    obtain ⟨here, others⟩ := List.forall_mem_cons.1 each
    cases more with
    | nil =>
      have alone : scan (w.2 ++ []) = w.1 :: scan [] := scan_append here (by simp)
      rw [List.append_nil, scan_nil] at alone
      simpa using alone
    | cons w' more =>
      have comma : ∀ c ∈ ([',', ' '] ++ [',', ' '].intercalate ((w' :: more).map Prod.snd)).head?,
          Text.isWord c = false := by
        rintro c ⟨⟩
        decide
      rw [List.map_cons, List.intercalate_cons_of_ne_nil (by simp), List.append_assoc,
        scan_append here comma, List.cons_append, scan_of_ne (by decide), List.cons_append,
        scan_of_ne (by decide), List.nil_append, ih others]
      rfl

end Assignment

namespace Store

variable {store : Store} {data : Fields} {key : String}
  {written : List (Assignment × List Char)}

lemma patchOf_written (each : ∀ w ∈ written, w.1.Written w.2) :
    store.patchOf (Assignment.textOf written) data = written.foldl
      (fun patch w => Ordered.put w.1.target (store.opOf data w.1.source) patch) [] := by
  rw [patchOf, Assignment.scan_textOf each, List.foldl_map]
  rfl

/-- The operation on a key is that of the last of the assignments to it. -/
lemma lookup_patchOf (each : ∀ w ∈ written, w.1.Written w.2)
    {front back : List (Assignment × List Char)} {target : String} {source : AssignmentSource}
    {text : List Char} (split : written = front ++ (⟨target, source⟩, text) :: back)
    (last : ∀ w ∈ back, w.1.target ≠ target) :
    (store.patchOf (Assignment.textOf written) data).lookup target =
      some (store.opOf data source) := by
  have others : back.filter (·.1.target == target) = [] :=
    List.filter_eq_nil_iff.2 fun w mem => by simpa using last w mem
  have found := Ordered.lookup_foldl_put (fun w : Assignment × List Char => w.1.target)
    (fun w => store.opOf data w.1.source) written target
  rw [patchOf_written each, found, split, List.filter_append, List.filter_cons_of_pos (by simp),
    others]
  simp

/-- **An assignment text means its assignments.**  The patch of a text that lists assignments has
for each state variable the operation of the last assignment to it, and for no other.  A source with
a dollar sign assigns what the store makes of the name as a template; a source without one assigns
the field of the event data, or takes the state variable away where there is no such field.  A
session that is asked for the patch or for what it would make of the document stays as it is. -/
theorem patchOf_means_assignments (store : Store) (data : Fields)
    {written : List (Assignment × List Char)} (each : ∀ w ∈ written, w.1.Written w.2) :
    let text := Assignment.textOf written
    let patch := store.patchOf text data
    (∀ front target source words back,
      written = front ++ (⟨target, source⟩, words) :: back →
      (∀ w ∈ back, w.1.target ≠ target) →
      (∀ name, source = .state name →
        patch.lookup target = some (.assign (.string (store.interpolate name)))) ∧
      (∀ name v, source = .field name → data.get? name = some v →
        patch.lookup target = some (.assign v)) ∧
      (∀ name, source = .field name → data.get? name = none →
        patch.lookup target = some .remove)) ∧
    (∀ key, key ∈ patch.keys ↔ ∃ w ∈ written, w.1.target = key) ∧
    patch.keys.Pairwise (· < ·) ∧
    ∀ (react : Reaction) (s : Session), s.store = store →
      s.perform react (.assign text data false) =
        (.assigned patch.keys (Patch.apply store.document patch) none, s) ∧
      s.perform react (.preview patch) = (.document (Patch.apply store.document patch), s) := by
  intro text patch
  have folded : patch = written.foldl
      (fun patch w => Ordered.put w.1.target (store.opOf data w.1.source) patch) [] :=
    patchOf_written each
  refine ⟨fun front target source words back split last => ?_, fun key => ?_, ?_, ?_⟩
  · have found : patch.lookup target = some (store.opOf data source) :=
      lookup_patchOf each split last
    refine ⟨?_, ?_, ?_⟩
    · rintro name rfl
      exact found
    · rintro name v rfl field
      rw [found, opOf, field]
    · rintro name rfl nothing
      rw [found, opOf, nothing]
  · rw [folded]
    exact Ordered.mem_keys_foldl_put (·.1.target) _ written
  · rw [folded]
    exact Ordered.sorted_foldl_put (·.1.target) _ written
  · rintro react s rfl
    exact ⟨rfl, rfl⟩

/-- Four assignments, of which the last one is to the state variable of the first. -/
def spoken : List (Assignment × List Char) :=
  [(⟨"$mode", .state "$next"⟩, "$mode = $next".toList),
    (⟨"$said", .state "$next"⟩, "$said=$next".toList),
    (⟨"$gone", .field "none"⟩, "$gone\t= none".toList),
    (⟨"$mode", .field "label"⟩, "$mode = label".toList)]

lemma written_spoken : ∀ w ∈ spoken, w.1.Written w.2 := by
  have mode : Assignment.IsName ['m', 'o', 'd', 'e'] := ⟨by decide, List.all_eq_true.1 rfl⟩
  have next : Assignment.IsName ['n', 'e', 'x', 't'] := ⟨by decide, List.all_eq_true.1 rfl⟩
  have said : Assignment.IsName ['s', 'a', 'i', 'd'] := ⟨by decide, List.all_eq_true.1 rfl⟩
  have gone : Assignment.IsName ['g', 'o', 'n', 'e'] := ⟨by decide, List.all_eq_true.1 rfl⟩
  have none : Assignment.IsName ['n', 'o', 'n', 'e'] := ⟨by decide, List.all_eq_true.1 rfl⟩
  have label : Assignment.IsName ['l', 'a', 'b', 'e', 'l'] := ⟨by decide, List.all_eq_true.1 rfl⟩
  have space : ∀ c ∈ [' '], Text.isBlank c := List.all_eq_true.1 rfl
  have tab : ∀ c ∈ ['\t'], Text.isBlank c := List.all_eq_true.1 rfl
  have nothing : ∀ c ∈ ([] : List Char), Text.isBlank c := List.forall_mem_nil _
  simp only [spoken, List.forall_mem_cons]
  exact ⟨.intro mode space space (.state next), .intro said nothing nothing (.state next),
    .intro gone tab space (.field none), .intro mode space space (.field label),
    List.forall_mem_nil _⟩

/-- The object that is assigned last takes the place of the text that was assigned first. -/
theorem patchOf_spoken :
    let store : Store := ⟨[("$next", .string "go")], [], [], 0, 64, "4.state", .holding none⟩
    let data : Fields := [("label", .object [("a", .bool true)])]
    let patch := store.patchOf "$mode = $next, $said=$next, $gone\t= none, $mode = label" data
    (∀ w ∈ spoken, w.1.Written w.2) ∧
      patch.lookup "$mode" = some (.assign (.object [("a", .bool true)])) ∧
      patch.lookup "$said" = some (.assign (.string "go")) ∧
      patch.lookup "$gone" = some .remove ∧
      "$next" ∉ patch.keys := by
  intro store data patch
  have text : "$mode = $next, $said=$next, $gone\t= none, $mode = label" =
      Assignment.textOf spoken := by
    rfl
  obtain ⟨ops, keys, -, -⟩ := text ▸ patchOf_means_assignments store data written_spoken
  have value : store.interpolate "$next" = "go" := by decide
  refine ⟨written_spoken, ?_, value ▸ ?_, ?_, fun mem => ?_⟩
  · exact (ops (spoken.take 3) "$mode" (.field "label") _ [] rfl (by simp)).2.1 _ _ rfl rfl
  · exact (ops (spoken.take 1) "$said" (.state "$next") _ (spoken.drop 2) rfl
      (by simp [spoken])).1 _ rfl
  · exact (ops (spoken.take 2) "$gone" (.field "none") _ (spoken.drop 3) rfl
      (by simp [spoken])).2.2 _ rfl rfl
  · obtain ⟨w, listed, target⟩ := (keys "$next").1 mem
    simp only [spoken, List.mem_cons, List.not_mem_nil, or_false] at listed
    rcases listed with rfl | rfl | rfl | rfl <;> exact absurd target (by decide)

end Store

end Reflex
