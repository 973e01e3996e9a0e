import Mathlib.Data.Option.Basic
import Clearance.Proofs.Banner.Holdings
import Clearance.Proofs.Command.Reports
import Clearance.Proofs.Resolver.Faults
import Clearance.Proofs.Resolver.Transparency
import Clearance.Proofs.View.Play
import Clearance.Proofs.View.Refresh

/-!
# Offline reports foretell live views

An offline report judges payloads that are at hand; a refresh judges what its records turn out to
hold.  Both go by the active set of a principal after the same sign-in and the same narrowing.  So
for records that hold these payloads, the document that is printed tells in advance what the refresh
will show: the verdict of each record, which of them are visible, and the banner.  The names of the
objects may differ, since a verdict and a banner do not depend on them.

## Main definitions

* `View.prepared`: a view after a sign-in, and a narrowing if one is asked for
* `RawRecord.Holds`: the fields that a record turns out to hold
* `Offline.Report.shown`, `Offline.Report.withheld`: what a report tells of things in its places
* `Offline.Tells`: what a printed document tells of objects, and of the banner
* `Viewing.Uncached`: the invariant of a refresh in a view that keeps nothing

## Main results

* `Viewing.snapshots_of_uncached`: a refresh in a view that keeps nothing, whatever the order
* `Banner.compute_filter_of_unnamed_eq`: the banner of what is shown does not depend on names
* `Offline.report_foretells_refresh`: a report and a refresh agree, place by place
-/

namespace Clearance

/-! ## The same principal -/

/-- A view after a sign-in with some entitlements, and a narrowing if one is asked for. -/
def View.prepared (v : View) (entitlements : List Attribute) (selection : Option Selection) :
    View :=
  let v := (v.signIn (some entitlements)).2.2
  match selection with
  | none => v
  | some selection => (v.narrow selection).2.2

/-- **An offline report goes by the active set of a view that was prepared in the same way**,
whatever happened in the view before. -/
theorem Offline.activeSet_eq (v : View) (entitlements : List Attribute)
    (selection : Option Selection) :
    activeSet entitlements selection =
      .ok (v.prepared entitlements selection).session.active := by
  cases selection <;> rfl

/-- A view that was prepared has an empty cache. -/
theorem View.cache_prepared (v : View) (entitlements : List Attribute)
    (selection : Option Selection) :
    (v.prepared entitlements selection).cache = v.cache.clear := by
  cases selection <;> rfl

/-! ## Records and what they hold -/

/-- The ciphertext of a record is decrypted without an error, to a text that stands for some
fields. -/
def RawRecord.Holds (backend : List UInt8 → Answer) (r : RawRecord) (fields : Fields) : Prop :=
  ∃ text, backend r.ciphertext = .ok ⟨some text, none⟩ ∧
    parseObject text "decryptedPayload" = .ok fields

/-- The object of a record that holds some fields. -/
def ResolvedObject.holding (r : RawRecord) (fields : Fields) : ResolvedObject :=
  .ofRecord r (r.query.payload (some fields))

/-- The object of a record for which the backend was asked. -/
def ResolvedObject.decrypted (backend : List UInt8 → Answer) (r : RawRecord) : ResolvedObject :=
  .ofRecord r (r.query.payload (backend r.ciphertext).fields?)

theorem ResolvedObject.map_decrypted {backend : List UInt8 → Answer} {records : List RawRecord}
    {payloads : List Fields} (h : List.Forall₂ (RawRecord.Holds backend) records payloads) :
    records.map (decrypted backend) = List.zipWith holding records payloads := by
  induction h with
  | nil => rfl
  | cons hold _ ih =>
    rw [List.map_cons, List.zipWith_cons_cons, ih, decrypted,
      Answer.fields?_eq_some_iff.mpr hold, holding]

/-- Records that hold some fields can all be read. -/
theorem ResolvedObject.hasStatic_of_mem_holding {records : List RawRecord}
    {payloads : List Fields} {o : ResolvedObject} (h : o ∈ List.zipWith holding records payloads) :
    o.payload.hasStatic = true := by
  obtain ⟨i, hi, rfl⟩ := List.mem_iff_getElem.mp h
  rw [List.getElem_zipWith]
  rfl

/-! ## A refresh in a view that keeps nothing -/

namespace Viewing

variable {backend : List UInt8 → Answer} {v : View} {records : List RawRecord} {s s' : Viewing}
  {t : Turn} {ts : List Turn}

/-- A refresh under way in a view that keeps nothing: every payload that has come is what the
backend answers to the ciphertext of the record. -/
structure Uncached (backend : List UInt8 → Answer) (v : View) (records : List RawRecord)
    (s : Viewing) : Prop where
  session : s.view.session = v.session
  entries : s.view.cache.entries = []
  cacheable : s.view.cache.cacheable = []
  pass : ∃ p, s.passes = [p] ∧ p.records = records ∧
    ∀ f ∈ p.refresh.fetches, ∀ payload, f.payload = some payload →
      payload = f.record.query.payload (backend f.record.ciphertext).fields?
  snapshots : s.snapshots = []

theorem uncached_alone (hentries : v.cache.entries = []) (hcacheable : v.cache.cacheable = []) :
    Uncached backend v records (alone v ⟨[]⟩ records) where
  session := rfl
  entries := hentries
  cacheable := hcacheable
  pass := ⟨_, rfl, rfl, nofun⟩
  snapshots := rfl

/-- Nothing is kept of an answer where no source type is kept. -/
theorem receive_of_cacheable_eq_nil {c : Cache} (h : c.cacheable = []) (q : Query) (a : Answer) :
    (c.receive q a).2 = c := by
  have hnot : c.isCacheable q.sourceType = false := by simp [Cache.isCacheable, h]
  rw [Cache.receive]
  cases a.fields? with
  | none => rfl
  | some f => simp [Cache.insert, hnot]

/-- A record that asks the cache finds nothing; one that is answered gets what the backend
answers. -/
theorem Uncached.turn (h : Uncached backend v records s) (ht : t = .look 0 ∨ ∃ i, t = .answer 0 i)
    (hturn : s.turn backend t = some s') : Uncached backend v records s' := by
  obtain ⟨p, hpasses, hrecords, hpayloads⟩ := h.pass
  obtain ⟨e, he, hstep⟩ := Option.bind_eq_some_iff.mp hturn
  rcases ht with rfl | ⟨i, rfl⟩
  · obtain rfl := Option.some.inj he
    cases Move.of_step hstep with
    | @look k r record ahead pass =>
      obtain rfl : p = ⟨r, record :: ahead⟩ := by simpa [hpasses] using pass
      refine ⟨h.session, ?_, ?_, ⟨_, by rw [hpasses]; rfl, ?_, ?_⟩, h.snapshots⟩
      · rw [Cache.entries_look, h.entries]
      · rw [Cache.cacheable_look, h.cacheable]
      · rw [← hrecords]
        simp [Pass.records]
      · intro f hf payload hpayload
        rcases List.mem_append.mp hf with hf | hf
        · exact hpayloads f hf payload hpayload
        · -- the record that has just asked waits
          obtain rfl := List.mem_singleton.mp hf
          simp [Cache.find?, h.entries, Keyed.find?] at hpayload
  · obtain ⟨f, hf, rfl⟩ := Option.map_eq_some_iff.mp he
    cases Move.of_step hstep with
    | @receive k i r ahead record a pass waiting =>
      obtain rfl : p = ⟨r, ahead⟩ := by simpa [hpasses] using pass
      obtain rfl : f = ⟨record, none⟩ := by simpa [hpasses, waiting, eq_comm] using hf
      refine ⟨h.session, ?_, ?_, ⟨_, by rw [hpasses]; rfl, ?_, ?_⟩, h.snapshots⟩
      · rw [receive_of_cacheable_eq_nil h.cacheable, h.entries]
      · rw [receive_of_cacheable_eq_nil h.cacheable, h.cacheable]
      · rw [← hrecords]
        exact congrArg (· ++ ahead) (map_set_of_eq waiting rfl)
      · intro g hg payload hpayload
        rcases List.mem_or_eq_of_mem_set hg with hg | rfl
        · exact hpayloads g hg payload hpayload
        · exact (Option.some.inj hpayload).symm

/-- Records may take their turns in any order. -/
theorem Uncached.play (h : Uncached backend v records s)
    (hts : ∀ t ∈ ts, t = .look 0 ∨ ∃ i, t = .answer 0 i) (hplay : s.play backend ts = some s') :
    Uncached backend v records s' := by
  induction ts generalizing s with
  | nil =>
    obtain rfl := Option.some.inj hplay
    exact h
  | cons t ts ih =>
    obtain ⟨u, hu, hrest⟩ := Option.bind_eq_some_iff.mp hplay
    exact ih (h.turn (hts t List.mem_cons_self) hu)
      (fun t' ht' => hts t' (List.mem_cons_of_mem _ ht')) hrest

/-- When such a refresh ends, its objects are what the backend answers, record by record. -/
theorem Uncached.objects_eq (h : Uncached backend v records s) {r : Refresh}
    {objects : List ResolvedObject} (hpass : s.passes[0]? = some ⟨r, []⟩)
    (hobjects : r.objects? = some objects) :
    objects = records.map (ResolvedObject.decrypted backend) := by
  obtain ⟨p, hpasses, hrecords, hpayloads⟩ := h.pass
  obtain rfl : p = ⟨r, []⟩ := by simpa [hpasses] using hpass
  obtain ⟨payloads, hsome, rfl⟩ := Refresh.exists_payloads hobjects
  rw [Pass.records, List.append_nil] at hrecords
  -- payload by payload, each is the one that its record should have
  have heq : payloads = r.fetches.map fun f =>
      f.record.query.payload (backend f.record.ciphertext).fields? := by
    refine List.map_injective_iff.mpr (Option.some_injective _) ?_
    rw [← hsome, List.map_map]
    refine List.map_congr_left fun f hf => ?_
    obtain ⟨payload, -, hpayload⟩ := List.mem_map.mp (hsome ▸ List.mem_map_of_mem hf)
    rw [← hpayload, hpayloads f hf payload hpayload.symm]
    rfl
  rw [heq, ← hrecords, List.map_map, List.zipWith_map, List.zipWith_self]
  rfl

/-- **A refresh in a view that keeps nothing** shows what the backend answers to each record, in
whatever order the records ask and are answered. -/
theorem snapshots_of_uncached (hentries : v.cache.entries = [])
    (hcacheable : v.cache.cacheable = []) (hts : ∀ t ∈ ts, t = .look 0 ∨ ∃ i, t = .answer 0 i)
    (hplay : (alone v ⟨[]⟩ records).play backend (ts ++ [.complete 0]) = some s) :
    s.snapshots = [(0, .ofObjects v.session.epoch v.session.active
      (records.map (ResolvedObject.decrypted backend)))] := by
  rw [play_append] at hplay
  obtain ⟨u, hu, hlast⟩ := Option.bind_eq_some_iff.mp hplay
  have huncached := (uncached_alone hentries hcacheable).play hts hu
  obtain ⟨w, hturn, hnil⟩ := Option.bind_eq_some_iff.mp hlast
  obtain rfl := Option.some.inj hnil
  have hcomplete : u.step (.complete 0) = some w := hturn
  cases Move.of_step hcomplete with
  | @complete k r objects pass payloads =>
    rw [huncached.snapshots, huncached.session, huncached.objects_eq pass payloads]
    rfl

/-- The whole refresh, with the answers coming in order, is one of these. -/
theorem fst_refresh_of_uncached (hentries : v.cache.entries = [])
    (hcacheable : v.cache.cacheable = []) :
    let x := Snapshot.ofObjects v.session.epoch v.session.active
      (records.map (ResolvedObject.decrypted backend))
    (v.refresh backend records).1 = some (x, [x.event]) := by
  obtain ⟨x, answers, s, hplay, hrefresh, hsnapshots, -⟩ := play_refresh backend v records
  have hrest : (alone v ⟨[]⟩ records).play backend
      (List.replicate records.length (.look 0) ++ (answers.map (.answer 0) ++ [.complete 0])) =
        some s := hplay
  rw [← List.append_assoc] at hrest
  have hx := snapshots_of_uncached hentries hcacheable (fun t ht => ?_) hrest
  · rw [hsnapshots] at hx
    obtain rfl : x = _ := by simpa using hx
    rw [hrefresh]
  · rcases List.mem_append.mp ht with ht | ht
    · exact .inl (List.eq_of_mem_replicate ht)
    · obtain ⟨i, -, rfl⟩ := List.mem_map.mp ht
      exact .inr ⟨i, rfl⟩

end Viewing

/-! ## Names do not matter -/

/-- The marking of an object without its name. -/
def Marking.unnamed (m : Marking) : Marking := { m with id := "" }

theorem Banner.compute_map_unnamed (l : List Marking) :
    compute (l.map Marking.unnamed) = compute l := by
  rw [compute, Tally.ofList, List.foldl_map]
  rfl

/-- **The banner of what is shown does not depend on names.** -/
theorem Banner.compute_filter_of_unnamed_eq {l l' : List Marking} (a : ActiveSet)
    (h : l.map Marking.unnamed = l'.map Marking.unnamed) :
    compute (l.filter fun m => explain m a = .allowed) =
      compute (l'.filter fun m => explain m a = .allowed) := by
  have hfilter : ∀ l : List Marking,
      (l.filter fun m => explain m a = .allowed).map Marking.unnamed =
        (l.map Marking.unnamed).filter fun m => explain m a = .allowed := by
    intro l
    rw [List.filter_map]
    rfl
  rw [← compute_map_unnamed, ← compute_map_unnamed (l'.filter _), hfilter, hfilter, h]

/-- The markings of payloads that are at hand, without their names. -/
theorem Offline.map_unnamed_markings (payloads : List Fields) :
    (markings payloads).map Marking.unnamed = payloads.map (Marking.ofPayload "") := by
  have hfst : payloads.zipIdx.map Prod.fst = payloads := List.zipIdx_map_fst _ _
  conv_rhs => rw [← hfst]
  rw [markings, List.map_map, List.map_map]
  rfl

/-- The markings of records that hold the same payloads, without their names. -/
theorem ResolvedObject.map_unnamed_holding {records : List RawRecord} {payloads : List Fields}
    (h : records.length = payloads.length) :
    ((List.zipWith holding records payloads).map (·.marking)).map Marking.unnamed =
      payloads.map (Marking.ofPayload "") := by
  rw [List.map_map, List.map_zipWith]
  refine List.ext_getElem (by simp [h]) fun i _ _ => ?_
  rw [List.getElem_zipWith, List.getElem_map]
  rfl

/-! ## Place by place -/

namespace Offline

namespace Report

variable {α : Type}

/-- Out of things in the same places as its objects, those of which a report tells that they are
visible. -/
def shown (r : Report) (l : List α) : List α :=
  ((l.zip r.objects).filter fun (_, _, verdict) => !verdict.isBlocked).map (·.1)

/-- Out of things in the same places as its objects, those of which a report tells that they are
not, with the verdicts. -/
def withheld (r : Report) (l : List α) : List (α × Verdict) :=
  ((l.zip r.objects).filter fun (_, _, verdict) => verdict.isBlocked).map
    fun (a, _, verdict) => (a, verdict)

/-- The visible objects of a report are those that it shows of its objects. -/
theorem visible_eq_shown (r : Report) : r.visible = r.shown (r.objects.map Prod.fst) := by
  have hzip : (r.objects.map Prod.fst).zip r.objects = r.objects.map fun o => (o.1, o) := by
    rw [List.zip_eq_zipWith, List.zipWith_map_left, List.zipWith_self]
  rw [visible, shown, hzip, List.filter_map, List.map_map]
  rfl

/-- Things that are judged as the objects of a report are parted as the report tells. -/
theorem shown_eq_filter {r : Report} {l : List α} {judge : α → Verdict}
    (h : l.map judge = r.objects.map Prod.snd) :
    r.shown l = l.filter (fun a => !(judge a).isBlocked) ∧
      r.withheld l = (l.filter fun a => (judge a).isBlocked).map fun a => (a, judge a) := by
  obtain ⟨active, objects, notes⟩ := r
  simp only [shown, withheld]
  induction l generalizing objects with
  | nil => exact ⟨rfl, rfl⟩
  | cons a l ih =>
    cases objects with
    | nil => cases h
    | cons o objects =>
      obtain ⟨m, verdict⟩ := o
      obtain ⟨rfl, hrest⟩ := List.cons.inj h
      obtain ⟨hshown, hwithheld⟩ := ih objects hrest
      cases hb : (judge a).isBlocked <;> simp [hb, hshown, hwithheld]

end Report

/-- What a document tells of objects, by name and verdict in their places, and of the banner, by its
line. -/
structure Tells (document : Json) (results : List (String × Verdict)) (line : String) : Prop where
  objects : document.member? "objects" = some (.array (results.map fun (name, verdict) =>
    .object [("id", .string name), ("result", verdict.toJson)]))
  banner : document.member? "banner" = some (.string line)

/-- The document of a report tells what is in it. -/
theorem Report.tells (r : Report) :
    Tells r.toJson ((r.objects.map fun o => o.1.id).zip (r.objects.map Prod.snd))
      r.banner.display where
  objects := by
    rw [List.zip_map', List.map_map]
    rfl
  banner := rfl

theorem markings_report (active : ActiveSet) (objects : List Marking) (notes : List Note) :
    (report active objects notes).objects.map Prod.fst = objects := by
  rw [report, List.map_map]
  exact List.map_id _

/-- What a report is made of payloads: a verdict for each, in its place. -/
theorem verdicts_report (active : ActiveSet) (payloads : List Fields) (notes : List Note) :
    (report active (markings payloads) notes).objects.map Prod.snd =
      payloads.map fun p => explain (Marking.ofPayload "" p) active := by
  have hnames := congrArg (List.map fun m => explain m active) (map_unnamed_markings payloads)
  rw [List.map_map, List.map_map] at hnames
  rw [report, List.map_map]
  exact hnames

/-- Records that hold the same payloads get the same verdicts, in the same places. -/
theorem verdicts_holding (active : ActiveSet) {records : List RawRecord} {payloads : List Fields}
    (h : records.length = payloads.length) :
    (List.zipWith ResolvedObject.holding records payloads).map (judge active) =
      payloads.map fun p => explain (Marking.ofPayload "" p) active := by
  have hnames := congrArg (List.map fun m => explain m active)
    (ResolvedObject.map_unnamed_holding h)
  rw [List.map_map, List.map_map, List.map_map] at hnames
  refine Eq.trans (List.map_congr_left fun o ho => ?_) hnames
  rw [judge, if_pos (ResolvedObject.hasStatic_of_mem_holding ho)]
  rfl

/-- **A report foretells a refresh.**  Take any entitlements, a narrowing or none, any payloads, and
a view that keeps no source types, in which the same principal has signed in and narrowed in the
same way.  Take records with any telemetry, the first of which holds the first payload, and so on.
The sign-in and the narrowing of the report succeed, and its active set is that of the view; a
command that reads these entitlements, payloads and notes from the files of a machine prints the
document of the report, and whoever reads the lines that are printed has that document again.  A
refresh of the records has one and the same snapshot, in whatever order they ask and are answered.
The document tells, in each place, the name of the payload and the verdict on the record, and the
line of the banner of the snapshot.  The verdicts are those of the report; the visible objects are
those in the places where the report has one that is visible, in order, and the blocked ones are the
others, with its verdicts; and the banner is the same. -/
theorem report_foretells_refresh (entitlements : List String) (selection : Option Selection)
    {payloads : List Fields} (notes : List Note) {v : View} {records : List RawRecord}
    {backend : List UInt8 → Answer} (hkeeps : v.cache.cacheable = [])
    (hholds : List.Forall₂ (RawRecord.Holds backend) records payloads) :
    let live := v.prepared (entitlements.map .mk) selection
    let foretold := report live.session.active (markings payloads) notes
    let objects := List.zipWith ResolvedObject.holding records payloads
    (activeSet (entitlements.map .mk) selection = .ok live.session.active ∧
      ∀ (machine : Machine) (e : Command.Evaluation),
        machine.document? (.list .text) e.entitlements = some entitlements →
        e.selection = .ok selection →
        machine.document? (.list .fields) e.objects = some payloads →
        machine.notes? e.notes = some notes →
        (Command.run Machine.host (.evaluate e)).run machine =
          ({ text := Command.documentLines e.indented foretold.toJson }, machine)) ∧
    (∀ indented, Json.parse (Command.documentLines indented foretold.toJson).toList =
      .ok foretold.toJson) ∧
    ∃ x : Snapshot, (live.refresh backend records).1 = some (x, [x.event]) ∧
      (∀ ts s, (∀ t ∈ ts, t = .look 0 ∨ ∃ i, t = .answer 0 i) →
        (Viewing.alone live ⟨[]⟩ records).play backend (ts ++ [.complete 0]) = some s →
        s.snapshots = [(0, x)]) ∧
      Tells foretold.toJson
        (((markings payloads).map (·.id)).zip (objects.map (judge live.session.active)))
        x.banner.display ∧
      objects.map (judge live.session.active) = foretold.objects.map Prod.snd ∧
      (x.visible = foretold.shown objects ∧ foretold.visible = foretold.shown (markings payloads)) ∧
      x.blocked = (foretold.withheld objects).map (fun (o, verdict) => ⟨o.id, verdict, none⟩) ∧
      x.banner.display = foretold.banner.display := by
  intro live foretold objects
  have hlength : records.length = payloads.length := hholds.length_eq
  have hentries : live.cache.entries = [] := by rw [View.cache_prepared]; rfl
  have hcacheable : live.cache.cacheable = [] := by rw [View.cache_prepared]; exact hkeeps
  have hobjects : records.map (ResolvedObject.decrypted backend) = objects :=
    ResolvedObject.map_decrypted hholds
  -- both judge the same fields by the same set, and names have no part in that
  have hverdicts : objects.map (judge live.session.active) = foretold.objects.map Prod.snd :=
    (verdicts_holding _ hlength).trans (verdicts_report _ _ notes).symm
  obtain ⟨hshown, hwithheld⟩ := Report.shown_eq_filter hverdicts
  have hmarkings : foretold.objects.map Prod.fst = markings payloads := markings_report _ _ _
  have hbanner : (Snapshot.ofObjects live.session.epoch live.session.active objects).banner =
      foretold.banner := by
    have hreadable : objects.filter (·.payload.hasStatic) = objects :=
      List.filter_eq_self.mpr fun o ho => ResolvedObject.hasStatic_of_mem_holding ho
    have hunnamed : (objects.map (·.marking)).map Marking.unnamed =
        (markings payloads).map Marking.unnamed :=
      (ResolvedObject.map_unnamed_holding hlength).trans (map_unnamed_markings payloads).symm
    rw [Banner.banner_ofObjects, Banner.banner_report, hreadable,
      Banner.compute_filter_of_unnamed_eq _ hunnamed]
  have hprintable : Json.Printable 5 foretold.toJson := foretold.printable_toJson
  refine ⟨⟨activeSet_eq v _ _, ?_⟩, Command.parse_documentLines hprintable (by decide),
    .ofObjects live.session.epoch live.session.active objects, ?_, ?_, ?_, hverdicts,
    ⟨hshown.symm, ?_⟩, ?_, congrArg Banner.display hbanner⟩
  · intro machine e hentitlements hselection hobjs hnotes
    exact Command.run_evaluate hentitlements hselection (activeSet_eq v _ _) hobjs hnotes
  · rw [Viewing.fst_refresh_of_uncached hentries hcacheable, hobjects]
  · intro ts s hts hplay
    rw [Viewing.snapshots_of_uncached hentries hcacheable hts hplay, hobjects]
  · rw [hverdicts, hbanner, ← hmarkings, List.map_map]
    exact foretold.tells
  · rw [← hmarkings]
    exact foretold.visible_eq_shown
  · -- only what cannot be read would be kept as it is
    rw [hwithheld, List.map_map]
    refine List.map_congr_left fun o ho => ?_
    rw [Snapshot.ofObject_eq_withheld, Snapshot.withheld, Function.comp_apply, judge]
    simp only [ResolvedObject.hasStatic_of_mem_holding (List.mem_of_mem_filter ho), if_true]

/-! ## Two records -/

/-- The text of a secret payload. -/
def secretText : String := "\x7b\"attrClassification\":\"secret\"\x7d"

/-- The text of a top secret payload. -/
def topSecretText : String := "\x7b\"attrClassification\":\"topsecret\"\x7d"

/-- A backend that reads a secret payload out of the byte 1, a top secret one out of the rest. -/
def readsLevels (ciphertext : List UInt8) : Answer :=
  .ok ⟨some (if ciphertext = [1] then secretText else topSecretText), none⟩

/-- Two records with telemetry that would relabel them. -/
def unlike : List RawRecord :=
  [⟨"a", "track", [1], some topSecretText, none, none⟩,
    ⟨"b", "track", [2], some secretText, none, none⟩]

/-- A machine with the entitlements of a principal, and with the two payloads. -/
def desk : Machine where
  files :=
    [(["entitlements"], "[\"secret\"]".toUTF8.toList),
      (["objects"], ("[" ++ secretText ++ "," ++ topSecretText ++ "]").toUTF8.toList)]

/-- The only member of some fields, if it is a text. -/
def textMember? (f : Fields) : Option (String × String) :=
  match f.members with
  | [(key, .string s)] => some (key, s)
  | _ => none

theorem eq_of_textMember? {f g : Fields} {m : String × String} (hf : textMember? f = some m)
    (hg : textMember? g = some m) : f = g := by
  have hmembers {f : Fields} (h : textMember? f = some m) : f.members = [(m.1, .string m.2)] := by
    unfold textMember? at h
    split at h
    · next key s hs =>
      obtain rfl := Option.some.inj h
      exact hs
    · cases h
  exact Fields.ext_members ((hmembers hf).trans (hmembers hg).symm)

/-- A record holds the fields that its text writes. -/
theorem holds_of_textMember? {r : RawRecord} {f : Fields} {m : String × String}
    (hf : textMember? f = some m)
    (hr : (readsLevels r.ciphertext).fields?.bind textMember? = some m) :
    r.Holds readsLevels f := by
  obtain ⟨g, hg, hm⟩ := Option.bind_eq_some_iff.mp hr
  obtain rfl := eq_of_textMember? hf hm
  exact Answer.fields?_eq_some_iff.mp hg

theorem report_foretells_refresh_of_unlike :
    ∃ payloads x, List.Forall₂ (RawRecord.Holds readsLevels) unlike payloads ∧
      let live := (View.initial []).prepared [⟨"secret"⟩] (some ⟨.secret, [], []⟩)
      let foretold := report live.session.active (markings payloads) []
      (Command.run Machine.host (.evaluate ⟨"entitlements", "objects", none, some "SECRET", [], [],
          false⟩)).run desk =
        ({ text := Command.documentLines false foretold.toJson }, desk) ∧
      Json.parse (Command.documentLines false foretold.toJson).toList = .ok foretold.toJson ∧
      (live.refresh readsLevels unlike).1 = some (x, [x.event]) ∧
      x.visible.map (·.id) = ["a"] ∧ x.blocked.map (·.id) = ["b"] ∧
      x.visible = foretold.shown (List.zipWith ResolvedObject.holding unlike payloads) ∧
      Tells foretold.toJson
        (((markings payloads).map (·.id)).zip
          ((List.zipWith ResolvedObject.holding unlike payloads).map (judge live.session.active)))
        x.banner.display := by
  have hread : (desk.document? (.list .fields) "objects").map (·.map textMember?) =
      some [some ("attrClassification", "secret"), some ("attrClassification", "topsecret")] := by
    decide +kernel
  obtain ⟨payloads, hobjects, hmembers⟩ := Option.map_eq_some_iff.mp hread
  obtain ⟨f, rest, rfl, hf, hrest⟩ := List.map_eq_cons_iff.mp hmembers
  obtain ⟨g, empty, rfl, hg, hnil⟩ := List.map_eq_cons_iff.mp hrest
  obtain rfl := List.map_eq_nil_iff.mp hnil
  have hholds : List.Forall₂ (RawRecord.Holds readsLevels) unlike [f, g] :=
    .cons (holds_of_textMember? hf (by decide +kernel))
      (.cons (holds_of_textMember? hg (by decide +kernel)) .nil)
  obtain ⟨⟨-, hprinted⟩, hparse, x, hrefresh, -, htells, -, ⟨hvisible, -⟩, -⟩ :=
    report_foretells_refresh ["secret"] (some ⟨.secret, [], []⟩) [] (v := .initial []) rfl hholds
  have hseen : ((((View.initial []).prepared [⟨"secret"⟩] (some ⟨.secret, [], []⟩)).refresh
      readsLevels unlike).1.map fun y => (y.1.visible.map (·.id), y.1.blocked.map (·.id))) =
      some (["a"], ["b"]) := by decide +kernel
  obtain ⟨hids, hwithheld⟩ := Prod.mk.inj (Option.some.inj ((congrArg _ hrefresh).symm.trans hseen))
  have hentitlements : desk.document? (.list .text) "entitlements" = some ["secret"] := by
    decide +kernel
  exact ⟨[f, g], x, hholds, hprinted desk _ hentitlements rfl hobjects rfl, hparse false, hrefresh,
    hids, hwithheld, hvisible, htells⟩

end Offline
end Clearance
