import Clearance.Proofs.Json.Schema
import Clearance.Proofs.Toml.Records
import Clearance.Settings.Load

/-!
# Settings that were checked

The schema is asked about the document of a settings file, and the settings are taken from its
tree.  Where the two have the same members, a field of the settings is a default or keeps to the
schema of its field.  So there is at least one worker, unless the file or its table of the pool
starts with the key of a moment, which the schema does not look into.

## Main definitions

* `Settings.Unchecked`: the schema is not asked about the pool

## Main results

* `Toml.Decoder.Field.checked`: where the value of a checked field comes from
* `Settings.one_le_capacity_or_unchecked`: there is at least one worker
-/

namespace Clearance

open Json (Schema)
open Toml (Decoder Node)

variable {tree v : Node} {document d : Json}

namespace Toml.Decoder

variable {α σ : Type} {parts : List (Part σ)} {value : Decoder α} {get : σ → α} {s s' start : σ}
  {key name name' : String} {about about' : Option String} {default : Json} {schema : Schema}
  {schemaParts : List Schema.Part}

/-- **The value of a checked field** is the one before, or it is taken from a member whose document
keeps to the schema of the field. -/
theorem Field.checked (hf : Field parts key value get)
    (hnames : (schemaParts.map Schema.Part.name).Nodup)
    (hpart : .mk key about default schema ∈ schemaParts) (hordered : tree.Ordered)
    (hplain : ¬ tree.StandsForMoment) (hdocument : tree.document? = some document)
    (hvalid : (Schema.record name' about' schemaParts).violations document = [])
    (h : record name parts start tree = .ok s) :
    get s = get start ∨ ∃ v d, tree.member? key = some v ∧ v.document? = some d ∧
      schema.violations d = [] ∧ value v = .ok (get s) := by
  rcases hf.of_record hordered h with hsame | ⟨v, hv, hvalue⟩ | ⟨ofTables, items, rfl⟩
  · exact .inl hsame
  · obtain ⟨d, hd, hmember⟩ := Node.member?_document? hplain hdocument hv
    exact .inr ⟨v, d, hv, hd, Schema.violations_member hnames hvalid hpart hmember, hvalue⟩
  · -- the document of an array is no object
    obtain ⟨members, rfl⟩ := Schema.exists_members_of_violations hvalid
    obtain ⟨documents, -, harray⟩ := Option.map_eq_some_iff.mp hdocument
    cases harray

theorem set_part_eq_ok_iff {put : α → σ → σ} :
    (part key value put).set v s = .ok s' ↔ ∃ a, value v = .ok a ∧ put a s = s' := by
  simp only [part]
  cases value v with
  | error misfit => exact ⟨fun h => (nomatch h), fun ⟨_, h, _⟩ => (nomatch h)⟩
  | ok a =>
    constructor
    · intro h
      exact ⟨a, rfl, Except.ok.inj h⟩
    · rintro ⟨b, hb, rfl⟩
      rw [Except.ok.inj hb]
      rfl

theorem word_eq_ok_iff {w : UInt64} :
    word v = .ok w ↔
      ∃ n : Int, v = .leaf (.whole n) ∧ (0 ≤ n ∧ n < UInt64.size) ∧ UInt64.ofNat n.toNat = w := by
  constructor
  · intro h
    unfold word at h
    split at h
    · next n =>
      split at h
      · next hn => exact ⟨n, rfl, hn, Except.ok.inj h⟩
      · split at h <;> cases h
    · cases v <;> cases h
  · rintro ⟨n, rfl, hn, rfl⟩
    exact if_pos hn

/-- A count that keeps to its schema is not too small. -/
theorem least_le_of_word {least : Nat} {w : UInt64} (hdocument : v.document? = some d)
    (hvalid : (Schema.count least).violations d = []) (h : word v = .ok w) : least ≤ w.toNat := by
  obtain ⟨n, rfl, ⟨hnonneg, hlt⟩, rfl⟩ := word_eq_ok_iff.mp h
  obtain ⟨-, rfl⟩ : Toml.isWord n = true ∧ Json.int n = d := by
    simpa [Node.document?, Scalar.document?] using hdocument
  have hleast : ¬ n < least := by
    intro hbelow
    simp [Schema.violations, Json.isBelow, hbelow] at hvalid
  have hsize : n.toNat < UInt64.size := by omega
  rw [UInt64.toNat_ofNat_of_lt' hsize]
  omega

end Toml.Decoder

/-! ## The pool -/

open Toml.Decoder (Field part word)

/-- The count of workers is a field of the pool's settings. -/
theorem PoolSettings.field_capacity :
    Field [part "capacity" word fun v (p : PoolSettings) => { p with capacity := v }] "capacity" word
      PoolSettings.capacity where
  there := ⟨_, List.mem_cons_self, rfl⟩
  own p hp _ v s s' h := by
    obtain rfl := List.mem_singleton.mp hp
    obtain ⟨a, ha, rfl⟩ := Toml.Decoder.set_part_eq_ok_iff.mp h
    exact ha
  other p hp hne := absurd (List.mem_singleton.mp hp ▸ rfl) hne

/-- The pool's settings are a field of all settings. -/
theorem Settings.field_pool :
    Field [part "pool" PoolSettings.decoder fun v (s : Settings) => { s with pool := v },
        part "cache" CacheSettings.decoder fun v s => { s with cache := v },
        part "client" ClientSettings.decoder fun v s => { s with client := v }]
      "pool" PoolSettings.decoder Settings.pool where
  there := ⟨_, List.mem_cons_self, rfl⟩
  own p hp hkey v s s' h := by
    simp only [List.mem_cons, List.not_mem_nil, or_false] at hp
    rcases hp with rfl | rfl | rfl
    · obtain ⟨a, ha, rfl⟩ := Toml.Decoder.set_part_eq_ok_iff.mp h
      exact ha
    · exact absurd hkey (by decide)
    · exact absurd hkey (by decide)
  other p hp hne v s s' h := by
    simp only [List.mem_cons, List.not_mem_nil, or_false] at hp
    rcases hp with rfl | rfl | rfl
    · exact absurd rfl hne
    · obtain ⟨a, -, rfl⟩ := Toml.Decoder.set_part_eq_ok_iff.mp h
      rfl
    · obtain ⟨a, -, rfl⟩ := Toml.Decoder.set_part_eq_ok_iff.mp h
      rfl

/-- The pool's settings of a checked table have at least one worker. -/
theorem PoolSettings.one_le_capacity {p : PoolSettings} (hordered : tree.Ordered)
    (hplain : ¬ tree.StandsForMoment) (hdocument : tree.document? = some document)
    (hvalid : PoolSettings.schema.violations document = []) (h : PoolSettings.decoder tree = .ok p) :
    1 ≤ p.capacity.toNat := by
  have hfield := PoolSettings.field_capacity.checked (by decide) List.mem_cons_self hordered hplain
    hdocument hvalid h
  rcases hfield with hsame | ⟨v, d, -, hd, hcount, hword⟩
  · -- without the key the default holds
    rw [hsame]
    decide
  · exact Toml.Decoder.least_le_of_word hd hcount hword

namespace Settings

variable {path text : String} {s : Settings}

/-- **The minimum is asked for**: no document that keeps to the schema has a smaller count of workers
in it. -/
theorem isBelow_capacity_eq_false {pool capacity : Json}
    (hvalid : schema.violations document = []) (hpool : document.member? "pool" = some pool)
    (hcapacity : pool.member? "capacity" = some capacity) : Json.isBelow 1 capacity = false := by
  have hpoolValid : PoolSettings.schema.violations pool = [] :=
    Schema.violations_member (by decide) hvalid List.mem_cons_self hpool
  have hcount : (Schema.count 1).violations capacity = [] :=
    Schema.violations_member (by decide) hpoolValid List.mem_cons_self hcapacity
  refine Bool.eq_false_iff.mpr fun hbelow => ?_
  simp [Schema.violations, hbelow] at hcount

/-- The schema is not asked about the pool: the tree, or the table of the pool in it, starts with
the key of a moment. -/
def Unchecked (tree : Node) : Prop :=
  tree.StandsForMoment ∨ ∃ pool, tree.member? "pool" = some pool ∧ pool.StandsForMoment

instance : DecidablePred Unchecked := fun tree =>
  decidable_of_iff
    (tree.StandsForMoment ∨ ∃ pool ∈ tree.member? "pool", pool.StandsForMoment) Iff.rfl

/-- The settings of a text are those of its tree, whose document keeps to the schema. -/
theorem ofText_eq_ok_iff :
    ofText path text = .ok s ↔
      ∃ tree document, Toml.parse? text.toList = some tree ∧ tree.document? = some document ∧
        schema.violations document = [] ∧ decoder tree = .ok s := by
  unfold ofText
  cases htree : Toml.parse? text.toList with
  | none => exact ⟨fun h => (nomatch h), fun ⟨_, _, h, _⟩ => (nomatch h)⟩
  | some tree =>
    cases hdocument : tree.document? with
    | none => simp [hdocument]
    | some document =>
      cases hviolations : schema.violations document with
      | cons violation more => simp [hdocument, hviolations]
      | nil =>
        cases hdecoder : decoder tree <;>
          simp [hdocument, hviolations, hdecoder, Except.mapError]

/-- **There is at least one worker** by the settings of a text, if the schema was asked about the
pool. -/
theorem one_le_capacity_or_unchecked (h : ofText path text = .ok s) :
    1 ≤ s.pool.capacity.toNat ∨
      ∃ tree, Toml.parse? text.toList = some tree ∧ Unchecked tree := by
  obtain ⟨tree, document, htree, hdocument, hvalid, hdecode⟩ := ofText_eq_ok_iff.mp h
  by_cases hunchecked : Unchecked tree
  · exact .inr ⟨tree, htree, hunchecked⟩
  · refine .inl ?_
    obtain ⟨hplain, hpool⟩ := not_or.mp hunchecked
    have hordered := Toml.ordered_of_parse? htree
    have hfield := field_pool.checked (by decide) List.mem_cons_self hordered hplain hdocument hvalid
      hdecode
    rcases hfield with hsame | ⟨pool, d, hmember, hd, hpoolValid, hpoolDecode⟩
    · rw [hsame]
      decide
    · have hpoolPlain : ¬ pool.StandsForMoment := fun hmoment => hpool ⟨pool, hmember, hmoment⟩
      exact PoolSettings.one_le_capacity (hordered.member? hmember) hpoolPlain hd hpoolValid
        hpoolDecode

end Settings
end Clearance
