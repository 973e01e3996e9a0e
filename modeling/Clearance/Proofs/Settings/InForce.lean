import Clearance.Pool.Basic
import Clearance.Proofs.Cache.History
import Clearance.Proofs.Settings.Checked
import Clearance.Proofs.Settings.Layers

/-!
# Settings in force

Whatever the settings file holds and the variables say, the settings in force can be used: there is
at least one worker.  The only way around it is a file, or a table of the pool in it, that starts
with the key of a moment.  Its document is that of the moment, so the schema finds nothing to object
to, and the settings are then taken from what else the table holds.

## Main definitions

* `Machine.PoolUnchecked`: nothing has asked for a worker

## Main results

* `Machine.one_le_capacity`: there is at least one worker
* `Machine.inForce_exact`: what is in force can be used, and each variable has its own
* `Machine.not_forall_one_le_capacity`: settings without a worker
-/

namespace Clearance

open Text

/-! ## Workers -/

section Workers

variable {machine : Machine} {s : Settings}

/-- Nothing has asked for a worker: the schema was not asked about the pool of the file, and the
variable of the pool says no count. -/
def Machine.PoolUnchecked (machine : Machine) : Prop :=
  (∀ n, ¬ machine.SaysCount n) ∧
    ∃ path text tree, machine.settingsPath? = some path ∧ machine.readText path = .ok text ∧
      Toml.parse? text.toList = some tree ∧ Settings.Unchecked tree

theorem Machine.fileSettings_eq_ok_iff :
    machine.fileSettings = .ok s ↔
      (machine.settingsPath? = none ∧ s = {}) ∨
        ∃ path text, machine.settingsPath? = some path ∧ machine.readText path = .ok text ∧
          Settings.ofText path text = .ok s := by
  rw [Machine.fileSettings]
  cases machine.settingsPath? with
  | none => simp [eq_comm]
  | some path =>
    cases hread : machine.readText path with
    | error fault => simp [Except.mapError, hread, bind, Except.bind]
    | ok text => simp [Except.mapError, hread, bind, Except.bind]

/-- **There is at least one worker**, unless nothing has asked for one. -/
theorem Machine.one_le_capacity (h : machine.inForce = .ok s) (hchecked : ¬ machine.PoolUnchecked) :
    1 ≤ s.pool.capacity.toNat := by
  obtain ⟨f, hfile, hlayered⟩ := Machine.exists_layered h
  by_cases hsaid : ∃ n, machine.SaysCount n
  · -- what a variable says is at least one by itself
    obtain ⟨n, hn⟩ := hsaid
    rw [hlayered.capacity_said n hn]
    exact hn.1.1
  · have hsilent := not_exists.mp hsaid
    rw [hlayered.capacity_kept hsilent]
    rcases Machine.fileSettings_eq_ok_iff.mp hfile with ⟨-, rfl⟩ | ⟨path, text, hpath, hread, htext⟩
    · decide
    · rcases Settings.one_le_capacity_or_unchecked htext with hpos | ⟨tree, htree, hunchecked⟩
      · exact hpos
      · exact absurd ⟨hsilent, path, text, tree, hpath, hread, htree, hunchecked⟩ hchecked

end Workers

/-! ## What is in force -/

namespace Machine

/-- **The settings in force can be used, and each variable has its own.**  They come from the file
and the variables as `Settings.Layered` has it, and are refused exactly where the file is; a count
that is blank, negative, zero or too large is not said.  There is at least one worker, so that a
pool can be made, unless the schema was not asked about the pool and no variable says how many.  A
variable that is changed changes no setting but its own.  Names that are joined by commas, with
white space around, are read back, and are what the cache keeps. -/
theorem inForce_exact (machine : Machine) :
    (((Settings.effective Machine.host).run machine).2 = machine ∧
      ∀ fault, machine.inForce = .error fault ↔ machine.fileSettings = .error fault) ∧
    (∀ s, machine.inForce = .ok s →
      ∃ f, machine.fileSettings = .ok f ∧ Settings.Layered machine f s) ∧
    ((∀ raw, machine.environment.lookup "COP_POOL_CAPACITY" = some raw →
      isBlankText raw = true ∨ (trim raw).toList.head? = some '-' ∨
        ∃ m, Overrides.Counts raw m ∧ (m = 0 ∨ UInt64.size ≤ m)) →
      ∀ n, ¬ machine.SaysCount n) ∧
    (∀ s, machine.inForce = .ok s → ¬ machine.PoolUnchecked →
      1 ≤ s.pool.capacity.toNat ∧
        ∀ session, ∃ p, Pool.ofCapacity s.pool.capacity.toNat session = .ok p) ∧
    (∀ (x : Overrides.Target) machine' s, SameBut x.variable machine machine' →
      machine.inForce = .ok s →
        ∃ s', machine'.inForce = .ok s' ∧ Settings.SameBut x s s') ∧
    ∀ s raw names, machine.inForce = .ok s →
      machine.environment.lookup "COP_CACHEABLE_SOURCE_TYPES" = some raw → names ≠ [] →
        (∀ name ∈ names, Overrides.IsName name) → Overrides.Pads raw names →
          s.cache.cacheableTypes = names ∧
            ∀ t, (Cache.ofTypes s.cache.cacheableTypes).isCacheable t = true ↔ t ∈ names := by
  refine ⟨⟨congrArg Prod.snd (Settings.run_effective machine), fun fault => ?_⟩,
    fun s hs => exists_layered hs, fun h n => not_saysCount h, fun s hs hchecked => ?_,
    fun x machine' s h hs => h.inForce hs, fun s raw names hs hraw hne hnames hpads => ?_⟩
  · rw [inForce_eq]
    cases machine.fileSettings <;> simp [Except.map]
  · have hpos := one_le_capacity hs hchecked
    refine ⟨hpos, fun session => ⟨_, if_neg ?_⟩⟩
    exact Nat.ne_of_gt hpos
  · obtain ⟨f, -, hlayered⟩ := exists_layered hs
    have htypes := hlayered.cacheableTypes_eq hraw hne hnames hpads
    refine ⟨htypes, fun t => ?_⟩
    rw [htypes, Cache.isCacheable_ofTypes]
    refine and_iff_left_of_imp fun ht => ?_
    rw [(hnames t ht).trim_eq]
    exact (hnames t ht).ne_empty

/-- A machine with a settings file and variables, one of which says too large a number and one of
which says nothing. -/
def overridden : Machine where
  files :=
    [(["c.toml"], "[pool]\ncapacity = 2\n[client]\nform_submit_nano_tdf = true\n".toUTF8.toList)]
  environment :=
    [("COP_CONFIG", "c.toml"), ("COP_POOL_CAPACITY", "18446744073709551616"),
      ("COP_CACHEABLE_SOURCE_TYPES", " track ,\tfacility"), ("COP_FORM_SUBMIT_NANOTDF", "perhaps")]

theorem eq_ok_of_toOption {ε α : Type} {x : Except ε α} {a : α} (h : x.toOption = some a) :
    x = .ok a := by
  cases x with
  | error e => cases h
  | ok b => exact congrArg Except.ok (Option.some.inj h)

theorem not_poolUnchecked_overridden : ¬ overridden.PoolUnchecked := by
  rintro ⟨-, path, text, tree, hpath, htext, htree, hunchecked⟩
  have hchecked : (do
      let path ← overridden.settingsPath?
      let text ← (overridden.readText path).toOption
      let tree ← Toml.parse? text.toList
      return decide (Settings.Unchecked tree)) = some false := by decide +kernel
  simp [hpath, htext, htree, hunchecked, Except.toOption] at hchecked

/-- The variable of the pool is made to say a number that can be used. -/
theorem inForce_exact_overridden :
    let s : Settings :=
      { pool := ⟨2⟩, cache := ⟨["track", "facility"]⟩, client := { submitNano := true } }
    let changed : Machine :=
      { overridden with
        environment := ("COP_POOL_CAPACITY", " +08 ") :: overridden.environment }
    (overridden.inForce = .ok s ∧ ¬ overridden.PoolUnchecked ∧
      SameBut (Overrides.Target.variable .capacity) overridden changed ∧
      overridden.environment.lookup "COP_CACHEABLE_SOURCE_TYPES" = some " track ,\tfacility" ∧
      (∀ name ∈ ["track", "facility"], Overrides.IsName name) ∧
      Overrides.Pads " track ,\tfacility" ["track", "facility"]) ∧
    (∃ f, overridden.fileSettings = .ok f ∧ Settings.Layered overridden f s) ∧
    (∀ n, ¬ overridden.SaysCount n) ∧
    (∀ session, ∃ p, Pool.ofCapacity 2 session = .ok p) ∧
    (∃ s', changed.inForce = .ok s' ∧ s'.pool.capacity = 8 ∧ Settings.SameBut .capacity s s') ∧
    ∀ t, (Cache.ofTypes ["track", "facility"]).isCacheable t = true ↔ t ∈ ["track", "facility"] := by
  intro s changed
  have hs : overridden.inForce = .ok s := eq_ok_of_toOption (by decide +kernel)
  have hsame : SameBut (Overrides.Target.variable .capacity) overridden changed := by
    refine ⟨rfl, fun k hk => ?_⟩
    have hne : (k == "COP_POOL_CAPACITY") = false := beq_false_of_ne hk
    rw [List.lookup_cons, hne]
  have hnames : ∀ name ∈ ["track", "facility"], Overrides.IsName name := by
    simp only [List.forall_mem_cons, List.not_mem_nil, false_imp_iff, implies_true, and_true]
    exact ⟨⟨trimmed_iff.mpr (by decide), by decide, by decide⟩,
      ⟨trimmed_iff.mpr (by decide), by decide, by decide⟩⟩
  have hpads : Overrides.Pads " track ,\tfacility" ["track", "facility"] :=
    ⟨[" track ", "\tfacility"], by decide,
      .cons ⟨" ", " ", by decide, by decide, by decide⟩
        (.cons ⟨"\t", "", by decide, by decide, by decide⟩ .nil)⟩
  have hcounts : Overrides.Counts "18446744073709551616" UInt64.size :=
    ⟨"", by decide, 0, by decide +kernel⟩
  obtain ⟨-, hlayered, hsilent, husable, hchange, hread⟩ := inForce_exact overridden
  obtain ⟨s', hs', hdiffer⟩ := hchange .capacity changed s hsame hs
  have hcapacity : (changed.inForce.toOption.map fun s => s.pool.capacity) = some 8 := by
    decide +kernel
  rw [hs'] at hcapacity
  exact ⟨⟨hs, not_poolUnchecked_overridden, hsame, rfl, hnames, hpads⟩, hlayered s hs,
    hsilent fun raw hraw => .inr (.inr ⟨_, Option.some.inj hraw ▸ hcounts, .inr (Nat.le_refl _)⟩),
    (husable s hs not_poolUnchecked_overridden).2, ⟨s', hs', Option.some.inj hcapacity, hdiffer⟩,
    (hread s _ _ hs rfl (by decide) hnames hpads).2⟩

/-! ## A file without a worker -/

/-- A machine whose settings file has the key of a moment in its table of the pool. -/
def unasked : Machine where
  files :=
    [(["c.toml"],
      "[pool]\ncapacity = 0\n\"$__toml_private_datetime\" = \"1979-05-27\"\n".toUTF8.toList)]
  environment := [("COP_CONFIG", "c.toml")]

/-- **Settings without a worker**: although the schema lets no count below one pass, it is not
asked about a table that starts with the key of a moment. -/
theorem not_forall_one_le_capacity :
    (∀ document pool capacity : Json, Settings.schema.violations document = [] →
      document.member? "pool" = some pool → pool.member? "capacity" = some capacity →
        Json.isBelow 1 capacity = false) ∧
    ¬ ∀ (machine : Machine) (s : Settings), machine.inForce = .ok s → 1 ≤ s.pool.capacity.toNat := by
  refine ⟨fun _ _ _ => Settings.isBelow_capacity_eq_false, fun h => ?_⟩
  have hs : unasked.inForce = .ok { pool := ⟨0⟩ } := eq_ok_of_toOption (by decide +kernel)
  exact absurd (h unasked _ hs) (by decide)

end Machine
end Clearance
