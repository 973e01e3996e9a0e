import Clearance.Offline
import Clearance.Proofs.Banner.Gathering
import Clearance.Proofs.Release.NoAccess
import Clearance.Proofs.View.Snapshot

/-!
# Banners and what a viewer holds

The banner of what a viewer sees tells him of nothing that he does not hold, releases apart.  Every
object that he sees has only classifications and needs to know that he holds, and each name on the
banner is that of one of them.  The level is looked up by its name, so that the viewer holds the
very name that is shown: simple names are in normal form.

## Main definitions

* `Banner.releaseCaveat`: the caveat for some releases

## Main results

* `Banner.level_compute_eq_or`: the level of a banner is the lowest, or one of the classifications
* `Banner.exists_caveats`: the caveats of a banner, and which names they are made of
* `Banner.holds_of_shown`: what is required for the objects that are shown is held
* `Banner.banner_report`, `Banner.banner_ofObjects`: the banners of a report and of a snapshot
* `Banner.shows_only_held`: so a banner shows only what is held
-/

namespace Clearance

open Marking (classifications needs releases)

variable {a : ActiveSet} {l : List Marking} {n : String}

namespace Marking

theorem mem_classifications :
    n ∈ classifications l ↔ ∃ m ∈ l, n ∈ Attribute.names m.classification :=
  List.mem_flatMap

theorem mem_needs : n ∈ needs l ↔ ∃ m ∈ l, n ∈ Attribute.names m.needToKnow := List.mem_flatMap

theorem mem_releases : n ∈ releases l ↔ ∃ m ∈ l, n ∈ Attribute.names m.relTo := List.mem_flatMap

/-- A classification names a level exactly when it is the name of the level. -/
theorem ofName?_eq_some_iff_of_mem (hn : n ∈ classifications l) {level : Level} :
    Level.ofName? n = some level ↔ n = level.name := by
  obtain ⟨m, -, hm⟩ := mem_classifications.mp hn
  obtain ⟨-, v, -, rfl⟩ := Attribute.mem_names.mp hm
  exact Attribute.level?_eq_some_iff

end Marking

namespace Banner

/-! ## What is on a banner -/

/-- The level of a banner is the lowest one, or its name is one of the classifications. -/
theorem level_compute_eq_or (l : List Marking) :
    (compute l).level = .unclassified ∨ (compute l).level.name ∈ classifications l := by
  have hlevel : (compute l).level =
      ((classifications l).filterMap Level.ofName?).foldl max .unclassified :=
    congrArg Tally.level (Tally.ofList_eq l)
  rw [hlevel]
  rcases Level.foldl_max_eq_or_mem ((classifications l).filterMap Level.ofName?) .unclassified
    with h | h
  · exact .inl h
  · obtain ⟨n, hn, hl⟩ := List.mem_filterMap.mp h
    rw [Marking.ofName?_eq_some_iff_of_mem hn] at hl
    exact .inr (hl ▸ hn)

/-- The caveat for some releases; none for no releases. -/
def releaseCaveat : List String → List String
  | [] => []
  | names => ["REL TO " ++ Text.joinWith ", " names]

/-- **The caveats of a banner**: names of needs to know and of classifications without a level,
each once, and then one caveat for the releases.  The name of the level is left out of either. -/
theorem exists_caveats (l : List Marking) :
    ∃ names released, (compute l).caveats = names ++ releaseCaveat released ∧
      (names.Nodup ∧ ∀ n, n ∈ names ↔ n ≠ (compute l).level.name ∧
        (n ∈ needs l ∨ n ∈ classifications l ∧ Level.ofName? n = none)) ∧
      (released.Nodup ∧ ∀ n, n ∈ released ↔ n ≠ (compute l).level.name ∧ n ∈ releases l) := by
  refine ⟨_, (Tally.ofList l).beyond (Tally.ofList l).relTo, rfl,
    ⟨Distinct.nodup_ofList _, fun n => ?_⟩, (Tally.ofList l).nodup_relTo.filter _, fun n => ?_⟩
  · rw [Distinct.mem_ofList, Tally.beyond, List.mem_filter, List.mem_append]
    simp only [Tally.ofList_eq, Distinct.mem_ofList, List.mem_filter, decide_eq_true_eq,
      Option.isNone_iff_eq_none, compute, Tally.finish]
    exact and_comm
  · rw [Tally.beyond, List.mem_filter]
    simp only [Tally.ofList_eq, Distinct.mem_ofList, decide_eq_true_eq, compute, Tally.finish]
    exact and_comm

/-- A banner of markings without names. -/
theorem compute_of_nameless (h : ∀ m ∈ l, ∀ v ∈ m.all, v.simpleName = "") :
    compute l = ⟨.unclassified, []⟩ := by
  have hnames : ∀ vs : List Attribute, (∀ v ∈ vs, v.simpleName = "") → Attribute.names vs = [] := by
    intro vs hvs
    refine List.eq_nil_iff_forall_not_mem.mpr fun n hn => ?_
    obtain ⟨hne, v, hv, rfl⟩ := Attribute.mem_names.mp hn
    exact hne (hvs v hv)
  have hall : ∀ m ∈ l, Attribute.names m.classification = [] ∧ Attribute.names m.needToKnow = [] ∧
      Attribute.names m.relTo = [] := by
    intro m hm
    have hm := h m hm
    simp only [Marking.all, List.forall_mem_append] at hm
    exact ⟨hnames _ hm.1.1, hnames _ hm.1.2, hnames _ hm.2⟩
  have hc : classifications l = [] := List.flatMap_eq_nil_iff.mpr fun m hm => (hall m hm).1
  have hneeds : needs l = [] := List.flatMap_eq_nil_iff.mpr fun m hm => (hall m hm).2.1
  have hrel : releases l = [] := List.flatMap_eq_nil_iff.mpr fun m hm => (hall m hm).2.2
  rw [compute, Tally.ofList_eq, hc, hneeds, hrel]
  rfl

/-! ## What is held -/

/-- The objects that are shown to a viewer. -/
theorem mem_shown {m : Marking} :
    m ∈ l.filter (fun m => explain m a = .allowed) ↔ m ∈ l ∧ explain m a = .allowed := by
  simp

/-- **What is required for the objects that are shown is held.** -/
theorem holds_of_shown
    (hn : n ∈ classifications (l.filter fun m => explain m a = .allowed) ∨
      n ∈ needs (l.filter fun m => explain m a = .allowed)) : a.holds n = true := by
  rcases hn with hn | hn
  · obtain ⟨m, hm, hn⟩ := Marking.mem_classifications.mp hn
    exact (explain_eq_allowed_iff.mp (mem_shown.mp hm).2).1 n (List.mem_append_left _ hn)
  · obtain ⟨m, hm, hn⟩ := Marking.mem_needs.mp hn
    exact (explain_eq_allowed_iff.mp (mem_shown.mp hm).2).1 n (List.mem_append_right _ hn)

/-- The level of the banner of what is shown is the lowest one, or is held. -/
theorem level_shown_eq_or (a : ActiveSet) (l : List Marking) :
    let b := compute (l.filter fun m => explain m a = .allowed)
    b.level = .unclassified ∨ a.holds b.level.name = true :=
  (level_compute_eq_or _).imp_right fun h => holds_of_shown (.inl h)

/-- Without access the banner has the lowest level and no caveat. -/
theorem compute_shown_none (l : List Marking) :
    compute (l.filter fun m => explain m .none = .allowed) = ⟨.unclassified, []⟩ := by
  refine compute_of_nameless fun m hm => ?_
  obtain ⟨-, hallowed⟩ := mem_shown.mp hm
  refine isBlocked_none_eq_false_iff.mp ?_
  rw [isBlocked, hallowed]
  rfl

/-! ## The two banners of what is shown -/

/-- The banner of an offline report is that of the objects that are shown. -/
theorem banner_report (a : ActiveSet) (l : List Marking) (notes : List Note) :
    (Offline.report a l notes).banner = compute (l.filter fun m => explain m a = .allowed) := by
  have hvisible : (Offline.report a l notes).visible =
      l.filter fun m => explain m a = .allowed := by
    rw [Offline.Report.visible, Offline.report]
    simp only [List.filter_map, List.map_map]
    refine (List.map_id'' (fun _ => rfl) _).trans (List.filter_congr fun m _ => ?_)
    simp only [Function.comp_apply]
    cases explain m a <;> rfl
  rw [Offline.Report.banner, hvisible]

/-- The banner of a snapshot is that of the objects that are shown among those that could be
read. -/
theorem banner_ofObjects (epoch : Nat) (a : ActiveSet) (objects : List ResolvedObject) :
    (Snapshot.ofObjects epoch a objects).banner =
      compute (((objects.filter (·.payload.hasStatic)).map (·.marking)).filter fun m =>
        explain m a = .allowed) := by
  have hbanner : (Snapshot.ofObjects epoch a objects).banner =
      compute ((Snapshot.ofObjects epoch a objects).visible.map (·.marking)) := rfl
  rw [hbanner, Snapshot.visible_ofObjects, List.filter_map, List.filter_filter]
  congr 2
  refine List.filter_congr fun o _ => ?_
  exact Bool.and_comm _ _

/-- **A banner shows only what is held.**  For every active set and all objects, the banner of the
objects that are shown has the lowest level, or one whose name is held.  Its caveats are names, all
of them held, and one caveat for the releases: the names are those of the needs to know of the
objects that are shown, and of their classifications without a level, other than the name of the
level.  Without access the banner has the lowest level and no caveat.  This is the banner of an
offline report and, over the objects that could be read, that of a snapshot. -/
theorem shows_only_held (a : ActiveSet) (l : List Marking) :
    let shown := l.filter fun m => explain m a = .allowed
    let b := compute shown
    (b.level = .unclassified ∨ a.holds b.level.name = true) ∧
    (∃ names released, b.caveats = names ++ releaseCaveat released ∧
      (∀ n ∈ names, a.holds n = true) ∧
      (∀ n, n ∈ names ↔ n ≠ b.level.name ∧ ∃ m ∈ shown, n ∈ Attribute.names m.needToKnow ∨
        n ∈ Attribute.names m.classification ∧ Level.ofName? n = none) ∧
      ∀ n, n ∈ released ↔ n ≠ b.level.name ∧ ∃ m ∈ shown, n ∈ Attribute.names m.relTo) ∧
    compute (l.filter fun m => explain m .none = .allowed) = ⟨.unclassified, []⟩ ∧
    (∀ notes, (Offline.report a l notes).banner = b) ∧
    ∀ epoch (objects : List ResolvedObject), (Snapshot.ofObjects epoch a objects).banner =
      compute (((objects.filter (·.payload.hasStatic)).map (·.marking)).filter fun m =>
        explain m a = .allowed) := by
  intro shown b
  obtain ⟨names, released, hcaveats, ⟨-, hnames⟩, -, hreleased⟩ := exists_caveats shown
  refine ⟨level_shown_eq_or a l,
    ⟨names, released, hcaveats, fun n hn => ?_, fun n => ?_, fun n => ?_⟩,
    compute_shown_none l, banner_report a l, fun epoch => banner_ofObjects epoch a⟩
  · obtain ⟨-, hn | ⟨hn, -⟩⟩ := (hnames n).mp hn
    · exact holds_of_shown (.inr hn)
    · exact holds_of_shown (.inl hn)
  · rw [hnames, Marking.mem_needs, Marking.mem_classifications]
    refine and_congr_right fun _ => ?_
    -- the two kinds of names, of all objects or object by object
    constructor
    · rintro (⟨m, hm, hn⟩ | ⟨⟨m, hm, hn⟩, hlevel⟩)
      · exact ⟨m, hm, .inl hn⟩
      · exact ⟨m, hm, .inr ⟨hn, hlevel⟩⟩
    · rintro ⟨m, hm, hn | ⟨hn, hlevel⟩⟩
      · exact .inl ⟨m, hm, hn⟩
      · exact .inr ⟨⟨m, hm, hn⟩, hlevel⟩
  · rw [hreleased, Marking.mem_releases]

end Banner
end Clearance
