import Clearance.Proofs.Entitlement.Answers
import Clearance.Proofs.View.Play
import Clearance.Proofs.View.Refresh

/-!
# Session, cache and listeners in step

Operations on a view are performed one after the other.  A change that takes place moves all three
at once: the session goes on, the cache is emptied, and the listeners hear how much was dropped and
what is in use from now on.  A refused change moves none of them, and a refresh leaves the session
alone and tells of its banner.  A sign-in takes place even where it fails.

So the listeners hear of every session there is, in order: each epoch they are told is the next
one, and the last is that of the session.

## Main definitions

* `View.Operation`, `View.Performs`: an operation from its beginning to its end
* `View.Sequence`: operations in a row, with the events that each of them published
* `View.InStep`: what an operation does to session, cache and listeners
* `View.announced`: the epochs that were told, oldest first

## Main results

* `View.Performs.inStep`: every operation keeps them in step
* `View.Sequence.announced_eq`: the epochs that were told are those since the beginning
* `View.sequence_in_step`: all of this over every run
-/

namespace Clearance

/-! ## What the listeners hear -/

namespace Event

/-- So many objects were dropped from the cache. -/
def cacheCleared (dropped : Nat) (reason : String) : Event :=
  ⟨"cache.cleared", .object [("dropped", .ofNat dropped), ("reason", .string reason)]⟩

/-- From now on the active set of a session is in use. -/
def entitlementsChanged (session : Session) (reason : String) : Event :=
  ⟨"entitlements.changed",
    .object
      [("active", .ofNat session.active.size), ("epoch", .ofNat session.epoch),
        ("no_access", .bool session.active.noAccess), ("reason", .string reason)]⟩

/-- The number at a key of a document. -/
def numberAt? (key : String) : Json → Option Nat
  | .object members =>
    match Keyed.find? key members with
    | some (.int n) => some n.toNat
    | _ => none
  | _ => none

/-- The epoch that an event tells, if it is about entitlements. -/
def epoch? (e : Event) : Option Nat :=
  if e.kind = "entitlements.changed" then numberAt? "epoch" e.payload else none

@[simp] theorem epoch?_cacheCleared (dropped : Nat) (reason : String) :
    (cacheCleared dropped reason).epoch? = none := rfl

@[simp] theorem epoch?_entitlementsChanged (session : Session) (reason : String) :
    (entitlementsChanged session reason).epoch? = some session.epoch := rfl

@[simp] theorem epoch?_snapshot (x : Snapshot) : x.event.epoch? = none := rfl

end Event

/-- The reason that the listeners are given for a change. -/
def Viewing.Change.reason : Viewing.Change → String
  | .signIn _ => "sign_in"
  | .signOut => "sign_out"
  | .narrow _ | .narrowTo _ => "narrow"
  | .reset => "reset"

/-- An epoch below the last one is one more than the epoch before it. -/
theorem Session.nextEpoch_eq_of_lt {epoch : Nat} (h : nextEpoch epoch < lastEpoch) :
    nextEpoch epoch = epoch + 1 := by
  rw [nextEpoch] at h ⊢
  omega

/-- A step of the records of a refresh, which neither begins one nor ends it. -/
def Viewing.Event.resolves : Viewing.Event → Bool
  | .look _ | .receive _ _ _ => true
  | .change _ | .begin _ | .complete _ => false

namespace View

/-! ## Operations -/

/-- The answer of a view to a change.  Signing out has none. -/
def answer? (v : View) : Viewing.Change → Option Session.Answer
  | .signIn values => some (v.signIn values).1
  | .signOut => none
  | .narrow selection => some (v.narrow selection).1
  | .narrowTo values => some (v.narrowTo values).1
  | .reset => some v.reset.1

/-- A reset or a narrowing fails.  A sign-in is not refused, whatever its answer is. -/
def Refuses (v : View) (c : Viewing.Change) : Prop :=
  c.keepsGrant = true ∧ ∃ fault, v.answer? c = some (.error fault)

/-- What someone asks of a view. -/
inductive Operation where
  | change (c : Viewing.Change)
  | refresh (records : List RawRecord)

/-- An operation from its beginning to its end, with nothing else meanwhile: the events that it
publishes and the view that it leaves.  A refresh begins with all of its records ahead; they ask the
cache and are answered in any order and with any answers, and then it ends. -/
inductive Performs (v : View) : Operation → List Event → View → Prop where
  | change (c : Viewing.Change) : Performs v (.change c) (c.apply v).1 (c.apply v).2
  | refresh {records : List RawRecord} {es : List Viewing.Event} {s : Viewing}
    (resolves : ∀ e ∈ es, e.resolves = true)
    (run : (Viewing.alone v ⟨[]⟩ records).run (es ++ [.complete 0]) = some s) :
    Performs v (.refresh records) s.published s.view

/-- Operations one after the other, each with the events that it published. -/
inductive Sequence : View → List (Operation × List Event) → View → Prop where
  | nil {v : View} : Sequence v [] v
  | cons {v u v' : View} {op : Operation} {events : List Event}
    {log : List (Operation × List Event)} (first : v.Performs op events u)
    (rest : Sequence u log v') : Sequence v ((op, events) :: log) v'

/-- What an operation does to session, cache and listeners. -/
structure InStep (v : View) (op : Operation) (events : List Event) (v' : View) : Prop where
  /-- A change that takes place empties the cache and is told in two events, the second with what is
  in use after it. -/
  taken : ∀ c, op = .change c → ¬ v.Refuses c →
    v'.session = v.session.after c ∧ v'.session.epoch = Session.nextEpoch v.session.epoch ∧
      v'.cache.size = 0 ∧
      events = [.cacheCleared v.cache.size c.reason, .entitlementsChanged v'.session c.reason]
  /-- A refused change does nothing. -/
  refused : ∀ c, op = .change c → v.Refuses c → events = [] ∧ v' = v
  /-- A refresh tells of the banner for what is in use, and leaves that alone. -/
  refreshed : ∀ records, op = .refresh records → v'.session = v.session ∧
    ∃ objects, events = [(Snapshot.ofObjects v.session.epoch v.session.active objects).event] ∧
      ∀ e ∈ events, e.kind = "banner.updated"

/-- The epochs that the listeners were told, oldest first. -/
def announced (log : List (Operation × List Event)) : List Nat :=
  (log.flatMap Prod.snd).filterMap Event.epoch?

@[simp] theorem announced_nil : announced [] = [] := rfl

@[simp] theorem announced_cons (op : Operation) (events : List Event)
    (log : List (Operation × List Event)) :
    announced ((op, events) :: log) = events.filterMap Event.epoch? ++ announced log := by
  rw [announced, List.flatMap_cons, List.filterMap_append]
  rfl

variable {v u v' : View} {c : Viewing.Change} {op : Operation} {events : List Event}
  {log before after : List (Operation × List Event)}

/-! ## Changes -/

theorem fst_change (reason : String) (result : Session.Answer × Session) :
    (v.change reason result).1 = result.1 := by
  obtain ⟨answer, session⟩ := result
  cases answer <;> rfl

/-- A view answers as its session does. -/
theorem answer?_eq (v : View) (c : Viewing.Change) : v.answer? c = v.session.answer? c := by
  cases c with
  | signIn | signOut => rfl
  | narrow | narrowTo | reset => exact congrArg some (fst_change _ _)

/-- What is not refused takes place. -/
theorem accepted_iff_not_refuses : c.accepted v.session = true ↔ ¬ v.Refuses c := by
  rw [← Bool.not_eq_false, Session.accepted_eq_false_iff, Refuses, answer?_eq, ← exists_and_left]
  rfl

/-- **A change that takes place is told in two events.** -/
theorem fst_apply_of_accepted (h : c.accepted v.session = true) :
    (c.apply v).1 =
      [.cacheCleared v.cache.size c.reason,
        .entitlementsChanged (v.session.after c) c.reason] := by
  cases c with
  | signIn values | signOut => rfl
  | narrow selection => exact congrArg Prod.fst (change_of_ok h _)
  | narrowTo values => exact congrArg Prod.fst (change_of_ok h _)
  | reset => exact congrArg Prod.fst (change_of_ok h _)

/-! ## Refreshes -/

/-- The records of a refresh leave session and listeners alone. -/
theorem step_resolves {s s' : Viewing} {e : Viewing.Event} (he : e.resolves = true)
    (h : s.step e = some s') :
    s'.view.session = s.view.session ∧ s'.published = s.published := by
  cases Viewing.Move.of_step h with
  | change | begin | complete => cases he
  | look | receive => exact ⟨rfl, rfl⟩

theorem run_resolves {s s' : Viewing} {es : List Viewing.Event}
    (hes : ∀ e ∈ es, e.resolves = true) (h : s.run es = some s') :
    s'.view.session = s.view.session ∧ s'.published = s.published := by
  induction es generalizing s with
  | nil =>
    obtain rfl := Option.some.inj h
    exact ⟨rfl, rfl⟩
  | cons e es ih =>
    obtain ⟨t, ht, hrest⟩ := Option.bind_eq_some_iff.mp h
    obtain ⟨hsession, hpublished⟩ := step_resolves (hes e List.mem_cons_self) ht
    obtain ⟨hsession', hpublished'⟩ := ih (fun e' he' => hes e' (List.mem_cons_of_mem _ he')) hrest
    exact ⟨hsession'.trans hsession, hpublished'.trans hpublished⟩

/-- **A refresh tells of its banner, and of nothing else.** -/
theorem refresh_tells {records : List RawRecord} {es : List Viewing.Event} {s : Viewing}
    (hes : ∀ e ∈ es, e.resolves = true)
    (h : (Viewing.alone v ⟨[]⟩ records).run (es ++ [.complete 0]) = some s) :
    s.view.session = v.session ∧ ∃ objects,
      s.published = [(Snapshot.ofObjects v.session.epoch v.session.active objects).event] := by
  -- its records are resolved before it ends
  rw [Viewing.run_snoc] at h
  obtain ⟨resolved, hresolved, hlast⟩ := Option.bind_eq_some_iff.mp h
  obtain ⟨hsession, hpublished⟩ := run_resolves hes hresolved
  cases Viewing.Move.of_step hlast with
  | @complete k r objects pass payloads =>
    refine ⟨hsession, objects, ?_⟩
    rw [hpublished, hsession]
    rfl

/-- Records that ask and are answered by a backend are resolved. -/
theorem exists_resolving {backend : List UInt8 → Answer} {s s' : Viewing}
    {ts : List Viewing.Turn} (hts : ∀ t ∈ ts, t = .look 0 ∨ ∃ i, t = .answer 0 i)
    (h : s.play backend ts = some s') :
    ∃ es : List Viewing.Event, (∀ e ∈ es, e.resolves = true) ∧ s.run es = some s' := by
  induction ts generalizing s with
  | nil => exact ⟨[], by simp, h⟩
  | cons t ts ih =>
    obtain ⟨u, hu, hrest⟩ := Option.bind_eq_some_iff.mp h
    obtain ⟨e, he, hstep⟩ := Option.bind_eq_some_iff.mp hu
    obtain ⟨es, hes, hrun⟩ := ih (fun t' ht' => hts t' (List.mem_cons_of_mem _ ht')) hrest
    have hresolves : e.resolves = true := by
      rcases hts t List.mem_cons_self with rfl | ⟨i, rfl⟩
      · obtain rfl := Option.some.inj he
        rfl
      · obtain ⟨f, -, rfl⟩ := Option.map_eq_some_iff.mp he
        rfl
    refine ⟨e :: es, ?_, ?_⟩
    · intro e' he'
      rcases List.mem_cons.mp he' with rfl | he'
      · exact hresolves
      · exact hes e' he'
    · rw [Viewing.run, hstep]
      exact hrun

/-- **A refresh ends, whatever the backend answers.** -/
theorem performs_refresh (v : View) (backend : List UInt8 → Answer) (records : List RawRecord) :
    ∃ x : Snapshot, (v.refresh backend records).1 = some (x, [x.event]) ∧
      v.Performs (.refresh records) [x.event] (v.refresh backend records).2 := by
  obtain ⟨x, answers, s, hplay, hrefresh, -, hpublished⟩ := Viewing.play_refresh backend v records
  -- the run of `play_refresh` without its first turn, with which the refresh begins
  have hrest : (Viewing.alone v ⟨[]⟩ records).play backend
      (List.replicate records.length (.look 0) ++ (answers.map (.answer 0) ++ [.complete 0])) =
        some s := hplay
  rw [← List.append_assoc, Viewing.play_append] at hrest
  obtain ⟨resolved, hresolved, hlast⟩ := Option.bind_eq_some_iff.mp hrest
  obtain ⟨t, hcomplete, hnil⟩ := Option.bind_eq_some_iff.mp hlast
  obtain rfl := Option.some.inj hnil
  have hturns : ∀ t ∈ List.replicate records.length (.look 0) ++ answers.map (.answer 0),
      t = Viewing.Turn.look 0 ∨ ∃ i, t = .answer 0 i := by
    intro t ht
    rcases List.mem_append.mp ht with hlook | hanswer
    · exact .inl (List.eq_of_mem_replicate hlook)
    · obtain ⟨i, -, rfl⟩ := List.mem_map.mp hanswer
      exact .inr ⟨i, rfl⟩
  obtain ⟨es, hes, hrun⟩ := exists_resolving hturns hresolved
  have hwhole : (Viewing.alone v ⟨[]⟩ records).run (es ++ [.complete 0]) = some t := by
    rw [Viewing.run_snoc, hrun]
    exact hcomplete
  refine ⟨x, by rw [hrefresh], ?_⟩
  rw [hrefresh, ← hpublished]
  exact .refresh hes hwhole

/-! ## In step -/

/-- **Every operation keeps session, cache and listeners in step.** -/
theorem Performs.inStep (h : v.Performs op events v') : InStep v op events v' := by
  cases h with
  | change c =>
    constructor
    · rintro c' ⟨⟩ htaken
      have haccepted := accepted_iff_not_refuses.mpr htaken
      have hsession := session_apply v c
      refine ⟨hsession, ?_, ?_, ?_⟩
      · rw [hsession, Session.epoch_after_of_accepted haccepted]
      · rw [apply_of_accepted haccepted]
        rfl
      · rw [hsession, fst_apply_of_accepted haccepted]
    · rintro c' ⟨⟩ hrefused
      have haccepted : c.accepted v.session = false :=
        Bool.eq_false_iff.mpr fun htaken => accepted_iff_not_refuses.mp htaken hrefused
      rw [apply_of_refused haccepted]
      exact ⟨rfl, rfl⟩
    · rintro records ⟨⟩
  | refresh resolves run =>
    constructor
    · rintro c ⟨⟩
    · rintro c ⟨⟩
    · intro records hrecords
      obtain ⟨hsession, objects, hpublished⟩ := refresh_tells resolves run
      refine ⟨hsession, objects, hpublished, ?_⟩
      intro e he
      rw [hpublished, List.mem_singleton] at he
      rw [he]
      rfl

/-- The listeners are told an epoch exactly where there is a new one. -/
theorem Performs.epoch (h : v.Performs op events v') :
    events.filterMap Event.epoch? = [] ∧ v'.session.epoch = v.session.epoch ∨
      events.filterMap Event.epoch? = [v'.session.epoch] ∧
        v'.session.epoch = Session.nextEpoch v.session.epoch := by
  have hinStep := h.inStep
  cases op with
  | change c =>
    by_cases hrefused : v.Refuses c
    · obtain ⟨rfl, rfl⟩ := hinStep.refused c rfl hrefused
      exact .inl ⟨rfl, rfl⟩
    · obtain ⟨-, hepoch, -, rfl⟩ := hinStep.taken c rfl hrefused
      exact .inr ⟨rfl, hepoch⟩
  | refresh records =>
    obtain ⟨hsession, objects, rfl, -⟩ := hinStep.refreshed records rfl
    exact .inl ⟨rfl, by rw [hsession]⟩

/-! ## Runs -/

/-- A run goes on from every moment of it. -/
theorem Sequence.split (h : v.Sequence (before ++ after) v') :
    ∃ u, v.Sequence before u ∧ u.Sequence after v' := by
  induction before generalizing v with
  | nil => exact ⟨v, .nil, h⟩
  | cons entry before ih =>
    cases h with
    | cons first rest =>
      obtain ⟨u, hbefore, hafter⟩ := ih rest
      exact ⟨u, .cons first hbefore, hafter⟩

/-- Below the last epoch the count never falls. -/
theorem Sequence.epoch_le (h : v.Sequence log v') (hlast : v'.session.epoch < Session.lastEpoch) :
    v.session.epoch ≤ v'.session.epoch := by
  induction h with
  | nil => exact Nat.le_refl _
  | cons first rest ih =>
    have hrest := ih hlast
    rcases first.epoch with ⟨-, hepoch⟩ | ⟨-, hepoch⟩
    · omega
    · have hnext := Session.nextEpoch_eq_of_lt (hepoch ▸ Nat.lt_of_le_of_lt hrest hlast)
      omega

/-- **The epochs that were told are those since the beginning**, one after the other. -/
theorem Sequence.announced_eq (h : v.Sequence log v')
    (hlast : v'.session.epoch < Session.lastEpoch) :
    announced log =
      List.range' (v.session.epoch + 1) (v'.session.epoch - v.session.epoch) := by
  induction h with
  | nil => simp
  | @cons v u v' op events log first rest ih =>
    have hle := rest.epoch_le hlast
    rw [announced_cons, ih hlast]
    rcases first.epoch with ⟨htold, hepoch⟩ | ⟨htold, hepoch⟩
    · rw [htold, hepoch, List.nil_append]
    · -- the first of them, and then those of the later operations
      have hnext : u.session.epoch = v.session.epoch + 1 :=
        hepoch.trans (Session.nextEpoch_eq_of_lt (hepoch ▸ Nat.lt_of_le_of_lt hle hlast))
      have hcount : v'.session.epoch - v.session.epoch =
          (v'.session.epoch - u.session.epoch) + 1 := by omega
      rw [htold, hcount, List.range'_succ, hnext]
      rfl

/-- The last epoch that was told is that of the session. -/
theorem Sequence.getLastD_announced (h : v.Sequence log v') :
    (announced log).getLastD v.session.epoch = v'.session.epoch := by
  induction h with
  | nil => rfl
  | cons first rest ih =>
    rw [announced_cons, ← ih]
    rcases first.epoch with ⟨htold, hepoch⟩ | ⟨htold, -⟩
    · rw [htold, hepoch, List.nil_append]
    · rw [htold, List.singleton_append, List.getLastD_cons]

/-- **Session, cache and listeners stay in step.**  Take operations on a view, one after the other,
with any arguments and records, and with any answers in any order.

At every moment of the run the next operation keeps them in step.  A change that takes place leaves
an empty cache, and two events are published for it: how many objects there had been in the cache,
and then the epoch of the new session with what is in use in it.  A sign-in takes place even where
its answer is a fault.  A refused change leaves session and cache as they were, and nothing is
published.  A refresh publishes one event, for its banner, and leaves the session as it was; it ends
whatever the backend answers.

The last epoch that the listeners were told is that of the session.  Below the last epoch of all,
they were told every epoch since the beginning, in ascending order. -/
theorem sequence_in_step (h : v.Sequence log v') :
    (∀ before op events after, log = before ++ (op, events) :: after →
      ∃ u u', v.Sequence before u ∧ u.Performs op events u' ∧ u'.Sequence after v' ∧
        InStep u op events u') ∧
    (∀ backend records, ∃ x : Snapshot,
      (v'.refresh backend records).1 = some (x, [x.event]) ∧
        v'.Performs (.refresh records) [x.event] (v'.refresh backend records).2) ∧
    (announced log).getLastD v.session.epoch = v'.session.epoch ∧
    (v'.session.epoch < Session.lastEpoch →
      announced log =
          List.range' (v.session.epoch + 1) (v'.session.epoch - v.session.epoch) ∧
        (announced log).Pairwise (· < ·)) := by
  refine ⟨?_, fun backend records => v'.performs_refresh backend records, h.getLastD_announced, ?_⟩
  · rintro before op events after rfl
    obtain ⟨u, hbefore, hafter⟩ := h.split
    cases hafter with
    | cons first rest => exact ⟨u, _, hbefore, first, rest, first.inStep⟩
  · intro hlast
    have hannounced := h.announced_eq hlast
    refine ⟨hannounced, ?_⟩
    rw [hannounced]
    exact List.pairwise_lt_range'

/-- A view after a sign-in without entitlements and one with some. -/
def signedInTwice : View := (((initial ["track"]).signIn none).2.2.signIn (some [⟨"secret"⟩])).2.2

/-- A record whose object is kept. -/
def oneTrack : List RawRecord := [⟨"a", "track", [1], none, none, none⟩]

/-- A backend that answers with a payload without fields. -/
def answersEmpty : List UInt8 → Answer := fun _ => .ok { payload := some "\x7b\x7d" }

/-- A view with one object in its cache. -/
def keepsOne : View := (signedInTwice.refresh answersEmpty oneTrack).2

theorem sequence_in_step_of_keepsOne :
    ∃ log v', (initial ["track"]).Sequence log v' ∧ v'.session.epoch < Session.lastEpoch ∧
      announced log = [1, 2, 3] ∧
      (log.map Prod.snd)[3]? = some [] ∧
      (log.map Prod.snd)[4]? =
        some [.cacheCleared 1 "narrow", .entitlementsChanged v'.session "narrow"] := by
  obtain ⟨x, -, hrefresh⟩ := signedInTwice.performs_refresh answersEmpty oneTrack
  have hsession : keepsOne.session = signedInTwice.session :=
    (hrefresh.inStep.refreshed oneTrack rfl).1
  -- what was not granted is refused, and everything stays
  have hrefused : keepsOne.Performs (.change (.narrowTo [⟨"other"⟩])) [] keepsOne := by
    have hnothing : (Viewing.Change.narrowTo [⟨"other"⟩]).apply keepsOne = ([], keepsOne) :=
      apply_of_refused (by rw [hsession]; rfl)
    have hperforms := Performs.change (v := keepsOne) (.narrowTo [⟨"other"⟩])
    rwa [hnothing] at hperforms
  have hsequence : (initial ["track"]).Sequence _ _ :=
    .cons (.change (.signIn none)) <| .cons (.change (.signIn (some [⟨"secret"⟩]))) <|
      .cons hrefresh <| .cons hrefused <| .cons (.change (.narrow {})) .nil
  have hepoch : ((Viewing.Change.narrow {}).apply keepsOne).2.session.epoch = 3 := by
    rw [session_apply, hsession]
    rfl
  have hlast : ((Viewing.Change.narrow {}).apply keepsOne).2.session.epoch < Session.lastEpoch := by
    rw [hepoch]
    decide
  obtain ⟨-, -, -, htold⟩ := sequence_in_step hsequence
  refine ⟨_, _, hsequence, hlast, ?_, rfl, ?_⟩
  · rw [(htold hlast).1, hepoch]
    rfl
  · have hsize : keepsOne.cache.size = 1 := by decide +kernel
    have haccepted : (Viewing.Change.narrow {}).accepted keepsOne.session = true := by
      rw [hsession]
      rfl
    have htwo := fst_apply_of_accepted haccepted
    rw [hsize, ← session_apply] at htwo
    exact congrArg some htwo

end View
end Clearance
