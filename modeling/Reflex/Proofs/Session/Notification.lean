import Reflex.Proofs.Session.Reachable

/-!
# Who is told of an update

An update goes through the registrations that are there when it commits, one after the other, and
the listeners change everything else in the meantime: the document, the registrations, and whether
they are connected.  `Session.update_tells_watchers` says what is told to whom, in which order and
what of it depends on the moment.
-/

namespace Reflex.Session

variable {react : Reaction} {s t : Session} {r : Registration} {es : List Entry}

/-- What a listener brings about when it is told: the run of its reaction, from the moment at which
it is told.  All that begins in it comes to an end before the listener is done, by `Runs.nested`. -/
def Reacts (react : Reaction) (s : Session) (name : String) (told : Entry) (es : List Entry) :
    Prop :=
  Runs false (s.record told) es (react name (s.record told))

/-- What is written when it is the turn of a registered listener.  A callback is given what its
state variables hold at that moment, and a widget is told to render itself if it is connected at
that moment.  What is written until the listener is done is what its own reaction writes. -/
inductive Told (react : Reaction) (s : Session) (r : Registration) : List Entry → Prop
  | callback {l : Listener} {es : List Entry} (found : s.listener? r.listener = some l)
      (kind : l.kind = .callback)
      (during : Reacts react s r.listener (.notified r.listener (r.names.map s.store.get)) es) :
      Told react s r
        (.notified r.listener (r.names.map s.store.get) :: (es ++ [.returned r.listener]))
  | widget {l : Listener} {es : List Entry} (found : s.listener? r.listener = some l)
      (kind : l.kind ≠ .callback) (connected : l.isConnected)
      (during : Reacts react s r.listener (.rendered r.listener) es) :
      Told react s r (.rendered r.listener :: (es ++ [.returned r.listener]))
  | disconnected {l : Listener} (found : s.listener? r.listener = some l)
      (connected : l.isConnected = false) : Told react s r []

/-- Turns of listeners, each of which begins at the moment at which the one before it is over. -/
inductive Round (react : Reaction) : Session → List (Registration × List Entry) → Session → Prop
  | done (s : Session) : Round react s [] s
  | turn {s t : Session} {r : Registration} {es : List Entry}
      {turns : List (Registration × List Entry)} (told : Told react s r es)
      (run : Runs false s es (tell react r s)) (rest : Round react (tell react r s) turns t) :
      Round react s ((r, es) :: turns) t

namespace Round

variable {turns earlier later : List (Registration × List Entry)}

lemma runs (h : Round react s turns t) : Runs false s (turns.flatMap Prod.snd) t := by
  induction h with
  | done s => exact .done false s
  | turn _ run _ ih => exact run.andThen ih

/-- A turn begins with the document that the last update in an earlier turn has made, if there is
one. -/
lemma exists_told (h : Round react s (earlier ++ (r, es) :: later) t) :
    ∃ u, Told react u r es ∧
      u.store.document = Entry.latest s.store.document (earlier.flatMap Prod.snd) := by
  induction earlier generalizing s with
  | nil =>
    cases h with
    | turn told _ _ => exact ⟨s, told, rfl⟩
  | cons first earlier ih =>
    obtain ⟨r', es'⟩ := first
    cases h with
    | turn _ run rest =>
      obtain ⟨u, told, document⟩ := ih rest
      refine ⟨u, told, ?_⟩
      rw [document, run.latest, List.flatMap_cons, Entry.latest_append]

end Round

lemma told_tell (orderly : Orderly react) (known : (s.listener? r.listener).isSome) :
    ∃ es, Told react s r es ∧ Runs false s es (tell react r s) := by
  obtain ⟨l, found⟩ := Option.isSome_iff_exists.1 known
  simp only [tell, found]
  cases kind : l.kind with
  | callback =>
    obtain ⟨es, during⟩ :=
      orderly r.listener (s.record (.notified r.listener (r.names.map s.store.get)))
    exact ⟨_, .callback found kind during, .invocation false (.callback _ _) during⟩
  | widget | plainWidget =>
    by_cases connected : l.isConnected
    · obtain ⟨es, during⟩ := orderly r.listener (s.record (.rendered r.listener))
      rw [if_pos connected]
      exact ⟨_, .widget found (by simp [kind]) connected during,
        .invocation false (.widget _) during⟩
    · rw [if_neg connected]
      exact ⟨[], .disconnected found (Bool.eq_false_iff.2 connected), .done false s⟩

lemma Moves.exists_listener? (moves : Moves s t) {name : String} {l : Listener}
    (found : s.listener? name = some l) :
    ∃ l', t.listener? name = some l' ∧ l'.kind = l.kind := by
  induction moves with
  | refl => exact ⟨l, found, rfl⟩
  | tail _ move ih =>
    obtain ⟨l', found', kind⟩ := ih
    obtain ⟨l'', found'', kind'⟩ := move.exists_listener? found'
    exact ⟨l'', found'', kind'.trans kind⟩

lemma Moves.isSome_listener? (moves : Moves s t) {name : String}
    (known : (s.listener? name).isSome) : (t.listener? name).isSome := by
  obtain ⟨l, found⟩ := Option.isSome_iff_exists.1 known
  obtain ⟨l', found', -⟩ := moves.exists_listener? found
  exact Option.isSome_iff_exists.2 ⟨l', found'⟩

/-- Listeners are told in turn, each once. -/
lemma round_foldl (orderly : Orderly react) (rs : List Registration)
    (known : ∀ r ∈ rs, (s.listener? r.listener).isSome) :
    ∃ turns, turns.map Prod.fst = rs ∧
      Round react s turns (rs.foldl (fun t r => tell react r t) s) := by
  induction rs generalizing s with
  | nil => exact ⟨[], rfl, .done s⟩
  | cons r rs ih =>
    obtain ⟨es, told, run⟩ := told_tell orderly (known r List.mem_cons_self)
    obtain ⟨turns, registrations, rest⟩ := ih fun r' mem =>
      run.moves.isSome_listener? (known r' (List.mem_cons_of_mem r mem))
    exact ⟨(r, es) :: turns, congrArg (r :: ·) registrations, .turn told run rest⟩

/-- The turns after a change are those of the listeners who watch it, each once. -/
lemma round_notify (orderly : Orderly react) (registered : Registered s) (changes : NameSet) :
    ∃ turns, turns.map Prod.fst = s.store.registrations.filter (fun r => changes.meets r.names) ∧
      (turns.map fun turn => turn.1.listener).Nodup ∧
      Round react s turns (s.notify react changes) := by
  have fewer : (s.store.registrations.filter fun r => changes.meets r.names).Sublist
      s.store.registrations := List.filter_sublist
  obtain ⟨turns, watchers, round⟩ := round_foldl orderly
    (s.store.registrations.filter fun r => changes.meets r.names) fun r mem =>
      registered.known _ (List.mem_map.2 ⟨r, fewer.subset mem, rfl⟩)
  refine ⟨turns, watchers, ?_, round⟩
  have nodup := registered.nodup.sublist (fewer.map Registration.listener)
  rw [← watchers, List.map_map] at nodup
  exact nodup

/-- **An update tells those who watch what it changed, once each and in order.**  At a reachable
moment, whatever listeners do, an update that is not refused writes that it commits, then the turns
of listeners, and at last that it is closed.  The turns are those of the registrations present right
after the commit that watch a changed state variable, in the order of the registrations, and no
listener has two of them; where nothing is changed nobody has a turn.  Each turn begins at the
moment at which the one before it is over, and with the document that the latest update has made.
As to the order of registrations, a listener that is registered again keeps its place, and one that
was not registered comes last. -/
theorem update_tells_watchers (orderly : Orderly react) (reachable : Reachable s) {patch : Patch}
    {changes : NameSet} (accepted : s.update react patch = (.ok changes, t)) :
    (∃ turns last,
      Round react (s.commit patch) turns last ∧ t = last.close ∧
      t.journal =
        (.committed s.store.document (s.commit patch).store.document ::
          (turns.flatMap Prod.snd ++ [.closed last.store.text (!last.store.slot.failing)])).reverse ++
        s.journal ∧
      turns.map Prod.fst =
        (s.commit patch).store.registrations.filter (fun r => changes.meets r.names) ∧
      (turns.map fun turn => turn.1.listener).Nodup ∧
      (changes = [] → turns = []) ∧
      ∀ earlier r es later, turns = earlier ++ (r, es) :: later → ∃ u, Told react u r es ∧
        u.store.document =
          Entry.latest (s.commit patch).store.document (earlier.flatMap Prod.snd)) ∧
    ∀ (u : Session) (name : String) (paths : List String) (kind : ListenerKind)
      (script : List Request) (runs : Nat),
      (u.observe name paths kind script runs).store.registrations.map Registration.listener =
        if u.store.isRegistered name then u.store.registrations.map Registration.listener
        else u.store.registrations.map Registration.listener ++ [name] := by
  refine ⟨?_, fun u name paths _ _ _ => u.store.listeners_observe name paths⟩
  rw [update] at accepted
  split at accepted
  · cases accepted
  obtain ⟨rfl, rfl⟩ : s.store.changesOf patch = changes ∧
      ((s.commit patch).notify react (s.store.changesOf patch)).close = t := by
    simpa using accepted
  -- The moment right after the commit is reachable like any other.
  have registered : Registered (s.commit patch) :=
    (reachable.moves (.single (.commit s patch))).registered
  obtain ⟨turns, watchers, nodup, round⟩ :=
    round_notify orderly registered (s.store.changesOf patch)
  refine ⟨turns, _, round, rfl, (Runs.update false patch round.runs).journal, watchers, nodup,
    fun nothing => ?_, fun earlier r es later split => (split ▸ round).exists_told⟩
  have nobody : turns.map Prod.fst = [] := by simp [watchers, nothing, NameSet.meets]
  exact List.map_eq_nil_iff.1 nobody

/-- A session that has just been started, without rules. -/
def freshSession : Session :=
  .ofParts ⟨[], [], [], 0, 64, "4.state", .holding none⟩
    (.ofProgram ⟨[], [], rfl⟩ .standard 1000 32)

/-- Of a view of `a` and a view of `b`, the first is told that `a` has changed. -/
theorem update_tells_view :
    let s := (freshSession.observe "first" ["a.length"] .callback [] 0).observe "second" ["b"]
      .widget [] 0
    let t := (s.update (Session.react 1) [("a", .set (.string "new"))]).2
    s.update (Session.react 1) [("a", .set (.string "new"))] = (.ok ["a"], t) ∧
    ∃ turns last, Round (Session.react 1) (s.commit [("a", .set (.string "new"))]) turns last ∧
      turns.map Prod.fst = [⟨"first", ["a"]⟩] := by
  intro s t
  have started : Session.start .default .standard [] none = .ok freshSession := rfl
  have reachable : Reachable s := ⟨_, _, _, _, freshSession, started,
    .tail (.single (.quiet (.observe _ _ _ _ _ _))) (.quiet (.observe _ _ _ _ _ _))⟩
  have accepted : s.update (Session.react 1) [("a", .set (.string "new"))] = (.ok ["a"], t) :=
    Prod.ext rfl rfl
  obtain ⟨⟨turns, last, round, -, -, registrations, -⟩, -⟩ :=
    update_tells_watchers (orderly_react 1) reachable accepted
  refine ⟨accepted, turns, last, round, registrations.trans ?_⟩
  decide +kernel

end Reflex.Session
