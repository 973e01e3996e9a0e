import Clearance.Json.Schema
import Clearance.Proofs.Json.Keyed

/-!
# Documents that keep to a schema

A record keeps to its schema only as an object each of whose members keeps to the schema of its
field.

## Main definitions

* `Schema.Part.name`: the name of a field

## Main results

* `Schema.violations_member`: a member of a record that keeps to its schema keeps to its own
-/

namespace Clearance.Json.Schema

/-- The name of a field. -/
def Part.name : Schema.Part → String
  | .mk name _ _ _ => name

variable {name k : String} {about about' : Option String} {parts : List Schema.Part}
  {value : Schema} {default document v : Json} {members : List (String × Json)}

theorem exists_members_of_violations (h : (record name about parts).violations document = []) :
    ∃ members, document = .object members := by
  cases document with
  | object members => exact ⟨members, rfl⟩
  | null | bool | int | real | string | array => cases h

theorem map_fst_partViolations (parts : List Schema.Part) (members : List (String × Json)) :
    (partViolations parts members).map Prod.fst = parts.map Part.name := by
  induction parts with
  | nil => rfl
  | cons part parts ih =>
    obtain ⟨name, about, default, value⟩ := part
    exact congrArg (name :: ·) ih

theorem mem_partViolations (h : .mk k about default value ∈ parts) (members : List (String × Json)) :
    (k, ((Keyed.find? k members).map value.violations).getD []) ∈ partViolations parts members := by
  induction parts with
  | nil => cases h
  | cons part parts ih =>
    obtain ⟨name, about, default, value⟩ := part
    rcases List.mem_cons.mp h with h | h
    · cases h
      exact List.mem_cons_self
    · exact List.mem_cons_of_mem _ (ih h)

/-- **A member of a record** that keeps to its schema keeps to the schema of its field. -/
theorem violations_member (hnames : (parts.map Part.name).Nodup)
    (h : (record name about parts).violations document = [])
    (hpart : .mk k about' default value ∈ parts) (hv : document.member? k = some v) :
    value.violations v = [] := by
  obtain ⟨members, rfl⟩ := exists_members_of_violations h
  have hfind : Keyed.find? k members = some v := hv
  have hmem := mem_partViolations hpart members
  rw [hfind] at hmem
  rw [← map_fst_partViolations parts members] at hnames
  exact List.flatMap_eq_nil_iff.mp h _ (Keyed.mem_sort hnames hmem)

end Clearance.Json.Schema
