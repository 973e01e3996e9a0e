import Clearance.Host.Machine
import Clearance.Proofs.Settings.Overrides
import Clearance.Settings.Load

/-!
# Layers of settings

Three layers say what the settings are: the defaults, a file and three variables.  A variable takes
the place of one setting, and only if it says something.

## Main definitions

* `Machine.inForce`, `Machine.fileSettings`: the settings in force, and those of the file
* `Settings.Layered`: how those in force come from those of the file
* `Machine.SameBut`, `Settings.SameBut`: machines that differ in a variable, and settings that
  differ in what it says

## Main results

* `Settings.run_effective`: what is in force, as a whole
* `Machine.exists_layered`: each setting by itself
* `Machine.SameBut.inForce`: a variable changes no other setting than its own
-/

namespace Clearance

open Text

/-! ## What a machine says -/

namespace Machine

/-- The value of a variable, unless it is blank. -/
def given (machine : Machine) (name : String) : Option String :=
  (machine.environment.lookup name).filter fun value => !isBlankText value

/-- The path of a file among the directories that are searched. -/
def locate? (machine : Machine) (path : String) : Option String :=
  if isAbsolute path then if machine.isThere path then some path else none
  else
    (((machine.given "COP_CONFIG_DIR").toList ++ machine.searchRoots).map (joinPath · path)).find?
      machine.isThere

/-- The path of the settings file, if there is one. -/
def settingsPath? (machine : Machine) : Option String :=
  match machine.given "COP_CONFIG" with
  | some path => some path
  | none => machine.locate? Settings.installedPath

/-- The text of a file. -/
def readText (machine : Machine) (path : String) : Except FileFault String :=
  machine.read path >>= Host.decodeText

/-- The settings of the settings file.  Without a file the defaults hold. -/
def fileSettings (machine : Machine) : Except LoadFault Settings :=
  match machine.settingsPath? with
  | some path => (machine.readText path).mapError (.unreadable path) >>= Settings.ofText path
  | none => .ok {}

/-- What the variables say. -/
def overrides (machine : Machine) : Overrides where
  capacity := (machine.given "COP_POOL_CAPACITY").bind Overrides.capacity?
  cacheableTypes := (machine.given "COP_CACHEABLE_SOURCE_TYPES").map Overrides.namesOf
  submitNano := (machine.given "COP_FORM_SUBMIT_NANOTDF").bind Overrides.nano?

/-- The settings in force. -/
def inForce (machine : Machine) : Except LoadFault Settings :=
  ((Settings.effective Machine.host).run machine).1

end Machine

/-! ## The run -/

section Run

variable (machine : Machine)

theorem Machine.run_given (name : String) :
    (Machine.host.given name).run machine = (machine.given name, machine) := rfl

theorem Machine.run_findM? (paths : List String) :
    (paths.findM? Machine.host.isThere).run machine = (paths.find? machine.isThere, machine) := by
  induction paths with
  | nil => rfl
  | cons path paths ih =>
    rw [List.findM?, StateT.run_bind, List.find?_cons]
    have hrun : (Machine.host.isThere path).run machine = (machine.isThere path, machine) := rfl
    rw [hrun]
    cases machine.isThere path
    · exact ih
    · rfl

theorem Settings.run_locate? (path : String) :
    (Settings.locate? Machine.host path).run machine = (machine.locate? path, machine) := by
  rw [Settings.locate?, Machine.locate?]
  split
  · rfl
  · exact Machine.run_findM? machine _

/-- **What is in force** are the settings of the file, with what the variables say in its place, and
the machine is left as it was. -/
theorem Settings.run_effective :
    (Settings.effective Machine.host).run machine =
      (machine.fileSettings.map machine.overrides.onto, machine) := by
  rw [Settings.effective, StateT.run_bind, Machine.run_given, Machine.fileSettings,
    Machine.settingsPath?]
  cases machine.given "COP_CONFIG" with
  | some path => rfl
  | none =>
    -- no path is given, so that the search is the first thing that is done
    change (Settings.locate? Machine.host Settings.installedPath >>= _).run machine = _
    rw [StateT.run_bind, Settings.run_locate?]
    cases machine.locate? Settings.installedPath <;> rfl

theorem Machine.inForce_eq : machine.inForce = machine.fileSettings.map machine.overrides.onto :=
  congrArg Prod.fst (Settings.run_effective machine)

theorem Machine.inForce_eq_ok_iff {s : Settings} :
    machine.inForce = .ok s ↔
      ∃ f, machine.fileSettings = .ok f ∧ machine.overrides.onto f = s := by
  rw [Machine.inForce_eq]
  cases machine.fileSettings <;> simp [Except.map]

end Run

/-! ## What the variables say -/

section Variables

variable {machine : Machine} {name raw : String} {n : Nat} {b : Bool} {w : UInt64} {f s : Settings}

namespace Machine

/-- The variable of the pool says a count of workers. -/
def SaysCount (machine : Machine) (n : Nat) : Prop :=
  (1 ≤ n ∧ n < UInt64.size) ∧
    ∃ raw, machine.environment.lookup "COP_POOL_CAPACITY" = some raw ∧ Overrides.Counts raw n

/-- The variable of the container says a choice. -/
def SaysChoice (machine : Machine) (b : Bool) : Prop :=
  ∃ raw, machine.environment.lookup "COP_FORM_SUBMIT_NANOTDF" = some raw ∧ Overrides.Chooses raw b

theorem given_eq_some_iff :
    machine.given name = some raw ↔
      machine.environment.lookup name = some raw ∧ isBlankText raw = false := by
  rw [given, Option.filter_eq_some_iff, Bool.not_eq_true']

theorem overrides_capacity_eq_some_iff :
    machine.overrides.capacity = some w ↔ machine.SaysCount w.toNat := by
  rw [overrides, Option.bind_eq_some_iff]
  constructor
  · rintro ⟨raw, hraw, hw⟩
    obtain ⟨hcounts, hpos⟩ := Overrides.capacity?_eq_some_iff.mp hw
    exact ⟨⟨hpos, w.toNat_lt⟩, raw, (given_eq_some_iff.mp hraw).1, hcounts⟩
  · rintro ⟨⟨hpos, -⟩, raw, hraw, hcounts⟩
    exact ⟨raw, given_eq_some_iff.mpr ⟨hraw, hcounts.not_blank⟩,
      Overrides.capacity?_eq_some_iff.mpr ⟨hcounts, hpos⟩⟩

/-- A variable says no count if it is blank or has a minus sign in front, or if its number is zero or
does not fit into 64 bits; and it says none if it is not there. -/
theorem not_saysCount
    (h : ∀ raw, machine.environment.lookup "COP_POOL_CAPACITY" = some raw →
      isBlankText raw = true ∨ (trim raw).toList.head? = some '-' ∨
        ∃ m, Overrides.Counts raw m ∧ (m = 0 ∨ UInt64.size ≤ m)) : ¬ machine.SaysCount n := by
  rintro ⟨⟨hpos, hsize⟩, raw, hraw, hcounts⟩
  rcases h raw hraw with hblank | hminus | ⟨m, hm, hm'⟩
  · exact Bool.false_ne_true (hcounts.not_blank.symm.trans hblank)
  · exact hcounts.head?_ne hminus
  · obtain rfl := hcounts.unique hm
    omega

theorem overrides_submitNano_eq_some_iff :
    machine.overrides.submitNano = some b ↔ machine.SaysChoice b := by
  rw [overrides, Option.bind_eq_some_iff]
  constructor
  · rintro ⟨raw, hraw, hb⟩
    exact ⟨raw, (given_eq_some_iff.mp hraw).1, Overrides.nano?_eq_some_iff.mp hb⟩
  · rintro ⟨raw, hraw, hb⟩
    exact ⟨raw, given_eq_some_iff.mpr ⟨hraw, hb.not_blank⟩, Overrides.nano?_eq_some_iff.mpr hb⟩

end Machine

/-- How the settings in force come from those of the file: where a variable says something it has
the word, and all else is as in the file. -/
structure Settings.Layered (machine : Machine) (f s : Settings) : Prop where
  capacity_said : ∀ n, machine.SaysCount n → s.pool.capacity.toNat = n
  capacity_kept : (∀ n, ¬ machine.SaysCount n) → s.pool.capacity = f.pool.capacity
  cacheableTypes_said : ∀ raw,
    machine.environment.lookup "COP_CACHEABLE_SOURCE_TYPES" = some raw →
      isBlankText raw = false → Overrides.Lists raw s.cache.cacheableTypes
  cacheableTypes_kept :
    (∀ raw, machine.environment.lookup "COP_CACHEABLE_SOURCE_TYPES" = some raw →
      isBlankText raw = true) → s.cache.cacheableTypes = f.cache.cacheableTypes
  submitNano_said : ∀ b, machine.SaysChoice b → s.client.submitNano = b
  submitNano_kept : (∀ b, ¬ machine.SaysChoice b) → s.client.submitNano = f.client.submitNano
  client_kept : s.client = { f.client with submitNano := s.client.submitNano }

/-- **Each setting by itself.** -/
theorem Settings.layered_onto (machine : Machine) (f : Settings) :
    Layered machine f (machine.overrides.onto f) where
  capacity_said n hn := by
    have hsaid : machine.overrides.capacity = some (.ofNat n) := by
      rw [Machine.overrides_capacity_eq_some_iff, UInt64.toNat_ofNat_of_lt' hn.1.2]
      exact hn
    rw [Overrides.onto, hsaid, Option.getD_some, UInt64.toNat_ofNat_of_lt' hn.1.2]
  capacity_kept hnone := by
    have hsilent : machine.overrides.capacity = none :=
      Option.eq_none_iff_forall_ne_some.mpr fun w hw =>
        hnone _ (Machine.overrides_capacity_eq_some_iff.mp hw)
    rw [Overrides.onto, hsilent, Option.getD_none]
  cacheableTypes_said raw hraw hblank := by
    have hsaid : machine.overrides.cacheableTypes = some (Overrides.namesOf raw) := by
      rw [Machine.overrides, Machine.given_eq_some_iff.mpr ⟨hraw, hblank⟩, Option.map_some]
    rw [Overrides.onto, hsaid, Option.getD_some]
    exact Overrides.namesOf_eq_iff.mp rfl
  cacheableTypes_kept hblank := by
    have hsilent : machine.overrides.cacheableTypes = none := by
      rw [Machine.overrides, Option.map_eq_none_iff]
      refine Option.eq_none_iff_forall_ne_some.mpr fun raw hraw => ?_
      obtain ⟨hlookup, hnot⟩ := Machine.given_eq_some_iff.mp hraw
      exact Bool.false_ne_true (hnot.symm.trans (hblank raw hlookup))
    rw [Overrides.onto, hsilent, Option.getD_none]
  submitNano_said b hb := by
    rw [Overrides.onto, Machine.overrides_submitNano_eq_some_iff.mpr hb, Option.getD_some]
  submitNano_kept hnone := by
    have hsilent : machine.overrides.submitNano = none :=
      Option.eq_none_iff_forall_ne_some.mpr fun b hb =>
        hnone b (Machine.overrides_submitNano_eq_some_iff.mp hb)
    rw [Overrides.onto, hsilent, Option.getD_none]
  client_kept := rfl

theorem Machine.exists_layered (h : machine.inForce = .ok s) :
    ∃ f, machine.fileSettings = .ok f ∧ Settings.Layered machine f s := by
  obtain ⟨f, hfile, rfl⟩ := (Machine.inForce_eq_ok_iff machine).mp h
  exact ⟨f, hfile, Settings.layered_onto machine f⟩

/-- Names that are written between commas are read back. -/
theorem Settings.Layered.cacheableTypes_eq {names : List String} (h : Layered machine f s)
    (hraw : machine.environment.lookup "COP_CACHEABLE_SOURCE_TYPES" = some raw) (hne : names ≠ [])
    (hnames : ∀ name ∈ names, Overrides.IsName name) (hpads : Overrides.Pads raw names) :
    s.cache.cacheableTypes = names := by
  have hlists := hpads.lists hnames
  have hblank : isBlankText raw = false :=
    Bool.eq_false_iff.mpr fun hblank => hne (hlists.eq_nil_of_blank hblank)
  rw [← Overrides.namesOf_eq_iff.mpr (h.cacheableTypes_said raw hraw hblank),
    Overrides.namesOf_eq_iff.mpr hlists]

end Variables

/-! ## One variable more -/

section Change

variable {machine machine' : Machine} {name : String} {s : Settings}

/-- The machines differ in the value of one variable at most. -/
structure Machine.SameBut (name : String) (machine machine' : Machine) : Prop where
  rest : machine' = { machine with environment := machine'.environment }
  lookup : ∀ k, k ≠ name → machine'.environment.lookup k = machine.environment.lookup k

/-- A setting that a variable may take the place of. -/
inductive Overrides.Target where
  | capacity
  | cacheableTypes
  | submitNano

/-- The variable that may take the place of a setting. -/
def Overrides.Target.variable : Overrides.Target → String
  | .capacity => "COP_POOL_CAPACITY"
  | .cacheableTypes => "COP_CACHEABLE_SOURCE_TYPES"
  | .submitNano => "COP_FORM_SUBMIT_NANOTDF"

/-- The settings differ in one setting at most. -/
def Settings.SameBut : Overrides.Target → Settings → Settings → Prop
  | .capacity, s, s' => s' = { s with pool := { s.pool with capacity := s'.pool.capacity } }
  | .cacheableTypes, s, s' =>
    s' = { s with cache := { s.cache with cacheableTypes := s'.cache.cacheableTypes } }
  | .submitNano, s, s' =>
    s' = { s with client := { s.client with submitNano := s'.client.submitNano } }

namespace Machine

variable (machine) in
/-- Paths do not lead through variables. -/
theorem follow_environment (environment : List (String × String)) (place names : List String) :
    ({ machine with environment } : Machine).follow place names = machine.follow place names := by
  induction names generalizing place with
  | nil => rfl
  | cons name names ih =>
    have hentry : Machine.entry? { machine with environment } place = machine.entry? place := rfl
    rw [follow, follow, hentry, ih, ih, ih]

variable (machine) in
theorem find_environment (environment : List (String × String)) (path : String) :
    ({ machine with environment } : Machine).find path = machine.find path := by
  rw [find, find, follow_environment]
  rfl

theorem SameBut.read (h : SameBut name machine machine') (path : String) :
    machine'.read path = machine.read path := by
  rw [h.rest, Machine.read, find_environment]
  rfl

theorem SameBut.isThere (h : SameBut name machine machine') :
    machine'.isThere = machine.isThere := by
  funext path
  rw [h.rest, Machine.isThere, find_environment]
  rfl

theorem SameBut.given (h : SameBut name machine machine') {k : String} (hk : k ≠ name) :
    machine'.given k = machine.given k := by
  rw [Machine.given, h.lookup k hk, Machine.given]

theorem SameBut.fileSettings (h : SameBut name machine machine') (hfile : name ≠ "COP_CONFIG")
    (hdirectory : name ≠ "COP_CONFIG_DIR") : machine'.fileSettings = machine.fileSettings := by
  have hroots : machine'.searchRoots = machine.searchRoots := by rw [h.rest]
  have hpath : machine'.settingsPath? = machine.settingsPath? := by
    rw [settingsPath?, settingsPath?, locate?, locate?, h.given (Ne.symm hfile),
      h.given (Ne.symm hdirectory), hroots, h.isThere]
  simp only [Machine.fileSettings, hpath, readText, h.read]

/-- **A variable changes no other setting** than its own. -/
theorem SameBut.inForce {x : Overrides.Target} (h : SameBut x.variable machine machine')
    (hs : machine.inForce = .ok s) : ∃ s', machine'.inForce = .ok s' ∧ Settings.SameBut x s s' := by
  have hfile : machine'.fileSettings = machine.fileSettings :=
    h.fileSettings (by cases x <;> decide) (by cases x <;> decide)
  obtain ⟨f, hf, rfl⟩ := (inForce_eq_ok_iff machine).mp hs
  refine ⟨machine'.overrides.onto f,
    (inForce_eq_ok_iff machine').mpr ⟨f, hfile.trans hf, rfl⟩, ?_⟩
  -- the two other variables say the same on both machines
  cases x with
  | capacity =>
    have htypes := h.given (k := "COP_CACHEABLE_SOURCE_TYPES") (by decide)
    have hnano := h.given (k := "COP_FORM_SUBMIT_NANOTDF") (by decide)
    simp [Settings.SameBut, Overrides.onto, overrides, htypes, hnano]
  | cacheableTypes =>
    have hcapacity := h.given (k := "COP_POOL_CAPACITY") (by decide)
    have hnano := h.given (k := "COP_FORM_SUBMIT_NANOTDF") (by decide)
    simp [Settings.SameBut, Overrides.onto, overrides, hcapacity, hnano]
  | submitNano =>
    have hcapacity := h.given (k := "COP_POOL_CAPACITY") (by decide)
    have htypes := h.given (k := "COP_CACHEABLE_SOURCE_TYPES") (by decide)
    simp [Settings.SameBut, Overrides.onto, overrides, hcapacity, htypes]

end Machine

end Change

end Clearance
