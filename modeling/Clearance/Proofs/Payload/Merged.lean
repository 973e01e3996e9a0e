import Clearance.Payload
import Clearance.Proofs.Json.Keyed
import Clearance.Proofs.Text.ByteOrder
import Clearance.Proofs.Text.Trimmed

/-!
# Merged payloads

Merging is the union of two objects in which the second one wins.  An object is what its keys say,
so the laws of the union are those of looking for a value in one place and then in another.  The
dynamic fields of a payload are read from a text: what the text writes wins over the static fields,
and a text that is no object takes nothing from them.

## Main definitions

* `Payload.Fieldless`: the ways in which there is no text of an object

## Main results

* `Fields.ext_get?`: the values of its keys determine an object
* `Fields.get?_merge`: the values of a merged object
* `parseDynamic_of_object`, `parseDynamic_of_fieldless`: what is read of a text
* `Payload.merged_exact`: the laws of merging, and the merged view of a payload
-/

namespace Clearance

open Text

variable {f g : Fields} {k : String} {text : String}

/-! ## Merging -/

namespace Fields

/-- **Two objects are equal** if they have the same values. -/
theorem ext_get? (h : ∀ k, f.get? k = g.get? k) : f = g :=
  ext_members (f.sorted.ext g.sorted h)

theorem members_merge (under top : Fields) :
    (under.merge top).members =
      top.members.foldl (fun acc e => Keyed.insert e.1 e.2 acc) under.members :=
  (List.foldl_hom Fields.members fun _ _ => rfl).symm

/-- **The values of a merged object** are those of the second one, or else those of the first. -/
@[simp] theorem get?_merge (under top : Fields) (k : String) :
    (under.merge top).get? k = (top.get? k).or (under.get? k) := by
  rw [get?, members_merge, Keyed.find?_foldl_insert under.sorted top.sorted]
  rfl

theorem merge_assoc (s d e : Fields) : (s.merge d).merge e = s.merge (d.merge e) := by
  apply ext_get?
  intro k
  simp only [get?_merge, Option.or_assoc]

theorem merge_self (s : Fields) : s.merge s = s := by
  apply ext_get?
  intro k
  rw [get?_merge, Option.or_self]

theorem merge_empty (s : Fields) : s.merge empty = s := by
  apply ext_get?
  intro k
  rw [get?_merge, get?_empty, Option.none_or]

theorem empty_merge (d : Fields) : empty.merge d = d := by
  apply ext_get?
  intro k
  rw [get?_merge, get?_empty, Option.or_none]

/-- The keys of an object ascend by their bytes. -/
theorem pairwise_bytes_keys (f : Fields) :
    (f.members.map Prod.fst).Pairwise fun k k' => bytes k < bytes k' := by
  rw [List.pairwise_map]
  exact f.sorted.imp fun h => bytes_lt_bytes h

theorem fields?_toJson (f : Fields) : f.toJson.fields? = some f := by
  rw [toJson, Json.fields?, ofList]
  exact congrArg some (ext_members f.sorted.sort_eq)

theorem toJson_inj : f.toJson = g.toJson ↔ f = g := by
  refine ⟨fun h => ext_members ?_, congrArg toJson⟩
  exact Json.object.inj h

end Fields

/-! ## Texts of objects -/

theorem Json.parse_nil_ne (v : Json) : parse [] ≠ .ok v := by
  intro h
  have hfault : (parse []).isOk = false := by decide +kernel
  rw [h] at hfault
  cases hfault

/-- A document is read in canonical form, so that its members are in order. -/
theorem Json.eq_toJson_of_parse {cs : List Char} {members : List (String × Json)}
    (h : parse cs = .ok (.object members)) : ∃ f : Fields, Json.object members = f.toJson := by
  unfold parse at h
  cases hread : readText (readValue maxDepth) cs with
  | error fault =>
    rw [hread] at h
    cases h
  | ok v =>
    rw [hread] at h
    have hv : v.canonical = .object members := Except.ok.inj h
    cases v with
    | object written =>
      rw [canonical] at hv
      obtain rfl := Json.object.inj hv
      exact ⟨⟨_, Keyed.sorted_sort _⟩, rfl⟩
    | null | bool | int | real | string => cases hv
    | array items =>
      rw [canonical] at hv
      cases hv

/-- **What is read as an object**: blank text as the empty one, and the text of an object, trimmed,
as that object. -/
theorem parseObject_eq_ok_iff {field : String} :
    parseObject text field = .ok f ↔
      isBlankText text = true ∧ f = .empty ∨
        Json.parse (trimChars text.toList) = .ok f.toJson := by
  have hblank : isBlankText text = true ↔ trimChars text.toList = [] := by
    rw [isBlankText_iff, trim, String.ofList_eq_empty_iff]
  rw [hblank]
  by_cases hnil : trimChars text.toList = []
  · -- no text at all is no document
    have hparse : Json.parse [] ≠ .ok f.toJson := Json.parse_nil_ne _
    simp [parseObject, hnil, hparse, eq_comm]
  · simp only [parseObject, List.isEmpty_iff, hnil, if_false, false_and, false_or]
    cases h : Json.parse (trimChars text.toList) with
    | error fault => simp
    | ok v =>
      cases v with
      | object members =>
        obtain ⟨g, hg⟩ := Json.eq_toJson_of_parse h
        rw [hg]
        simp [Fields.fields?_toJson, Fields.toJson_inj]
      | null | bool | int | real | string | array => simp [Json.fields?, Fields.toJson]

namespace Payload

/-- The ways in which there is no text of an object: there is no text, it is blank, it is no
document once it is trimmed, or it is a document of another kind. -/
inductive Fieldless : Option String → Prop where
  | absent : Fieldless none
  | blank {text : String} (h : isBlankText text = true) : Fieldless (some text)
  | malformed {text : String} {fault : Json.Fault}
    (h : Json.parse (trimChars text.toList) = .error fault) : Fieldless (some text)
  | otherKind {text : String} {v : Json} (h : Json.parse (trimChars text.toList) = .ok v)
    (hv : v.members? = none) : Fieldless (some text)

/-- There is the text of an object, or there is none. -/
theorem fieldless_or_exists_object (dynamic : Option String) :
    Fieldless dynamic ∨ ∃ text f, dynamic = some text ∧
      Json.parse (trimChars text.toList) = .ok (Fields.toJson f) := by
  cases dynamic with
  | none => exact .inl .absent
  | some text =>
    cases h : Json.parse (trimChars text.toList) with
    | error fault => exact .inl (.malformed h)
    | ok v =>
      cases v with
      | object members =>
        obtain ⟨f, hf⟩ := Json.eq_toJson_of_parse h
        exact .inr ⟨text, f, rfl, by rw [h, hf]⟩
      | null | bool | int | real | string | array => exact .inl (.otherKind h rfl)

theorem Fieldless.parse_ne (h : Fieldless (some text)) :
    Json.parse (trimChars text.toList) ≠ .ok f.toJson := by
  intro hf
  cases h with
  | blank h =>
    rw [isBlankText_iff, trim, String.ofList_eq_empty_iff] at h
    rw [h] at hf
    exact Json.parse_nil_ne _ hf
  | malformed h =>
    rw [hf] at h
    cases h
  | otherKind h hv =>
    obtain rfl := Except.ok.inj (hf.symm.trans h)
    cases hv

/-- **The text of an object** is read as that object. -/
theorem parseDynamic_of_object (h : Json.parse (trimChars text.toList) = .ok f.toJson) :
    parseDynamic (some text) = f := by
  rw [parseDynamic, parseObject_eq_ok_iff.mpr (.inr h)]

/-- **Without a text of an object** there are no dynamic fields. -/
theorem parseDynamic_of_fieldless {dynamic : Option String} (h : Fieldless dynamic) :
    parseDynamic dynamic = .empty := by
  cases dynamic with
  | none => rfl
  | some text =>
    rw [parseDynamic]
    cases hread : parseObject text "dynamicPlaintextFields" with
    | error fault => rfl
    | ok f =>
      rcases parseObject_eq_ok_iff.mp hread with ⟨-, hf⟩ | hf
      · exact hf
      · exact absurd hf h.parse_ne

theorem get?_merged (p : Payload) (k : String) :
    p.merged.get? k = (p.dynamicFields.get? k).or (p.staticFields.bind (·.get? k)) := by
  obtain ⟨_ | s, d⟩ := p
  · exact Option.or_none.symm
  · exact Fields.get?_merge s d k

/-- **Merging.**  A merged object has the values of the second object and, for the other keys, those
of the first one; its keys ascend by their bytes and none comes twice.  Merging is associative, an
object merged with itself stays as it is, and so does one that is merged with the empty object on
either side.

Whatever the static fields of a payload are, and if there are none, its merged view has every value
of the object that its dynamic text writes, and the static values for the other keys.  If there is no
text, or one that is blank, no document or no object, the merged view is the static fields, and
empty without them.  There is no third case. -/
theorem merged_exact :
    (∀ s d : Fields,
      (∀ k, (s.merge d).get? k = (d.get? k).or (s.get? k)) ∧
      ((s.merge d).members.map Prod.fst).Nodup ∧
      ((s.merge d).members.map Prod.fst).Pairwise fun k k' => bytes k < bytes k') ∧
    (∀ s d e : Fields, (s.merge d).merge e = s.merge (d.merge e)) ∧
    (∀ s : Fields, s.merge s = s ∧ s.merge .empty = s ∧ Fields.merge .empty s = s) ∧
    ∀ (staticFields : Option Fields) (dynamic : Option String),
      let merged := (⟨staticFields, parseDynamic dynamic⟩ : Payload).merged
      (∀ text f, dynamic = some text → Json.parse (trimChars text.toList) = .ok (Fields.toJson f) →
        ∀ k, merged.get? k = (f.get? k).or (staticFields.bind (·.get? k))) ∧
      (Fieldless dynamic → merged = staticFields.getD .empty) ∧
      (Fieldless dynamic ∨ ∃ text f, dynamic = some text ∧
        Json.parse (trimChars text.toList) = .ok (Fields.toJson f)) := by
  refine ⟨fun s d => ⟨Fields.get?_merge s d, (s.merge d).sorted.nodup_keys,
    (s.merge d).pairwise_bytes_keys⟩, Fields.merge_assoc,
    fun s => ⟨s.merge_self, s.merge_empty, s.empty_merge⟩, fun staticFields dynamic =>
      ⟨?_, ?_, fieldless_or_exists_object dynamic⟩⟩
  · rintro text f rfl hf k
    rw [get?_merged, parseDynamic_of_object hf]
  · intro hnone
    rw [parseDynamic_of_fieldless hnone]
    cases staticFields with
    | none => rfl
    | some s => exact s.merge_empty

theorem exists_parse {α : Type} {cs : List Char} {g : Json → α} {a : α}
    (h : (Json.parse cs).toOption.map g = some a) : ∃ v, Json.parse cs = .ok v ∧ g v = a := by
  cases hparse : Json.parse cs with
  | error fault =>
    rw [hparse] at h
    cases h
  | ok v =>
    rw [hparse] at h
    exact ⟨v, rfl, Option.some.inj h⟩

/-- The name is written twice, and in white space that no document may have around it; the other
text is a list. -/
theorem merged_exact_written_twice :
    let s : Fields := .ofList [("kind", .string "ship"), ("name", .string "A")]
    let text := "\u00a0\x7b\"speed\": 12, \"name\": \"B\", \"name\": \"C\"\x7d "
    let merged := (⟨some s, parseDynamic (some text)⟩ : Payload).merged
    ∃ f : Fields,
      (Json.parse (trimChars text.toList) = .ok f.toJson ∧ Fieldless (some " [1,2]")) ∧
        (merged.get? "name").bind Json.string? = some "C" ∧
        merged.get? "kind" = some (.string "ship") ∧
        (⟨some s, parseDynamic (some " [1,2]")⟩ : Payload).merged = s := by
  intro s text merged
  have hobject : ((Json.parse (trimChars text.toList)).toOption.map fun v =>
      (v.members?.isSome, (v.member? "name").bind Json.string?, (v.member? "kind").isSome)) =
        some (true, some "C", false) := by decide +kernel
  have hlist : ((Json.parse (trimChars " [1,2]".toList)).toOption.map fun v =>
      v.members?.isSome) = some false := by decide +kernel
  obtain ⟨v, hv, hmembers⟩ := exists_parse hobject
  obtain ⟨w, hw, hkind⟩ := exists_parse hlist
  cases v with
  | object members =>
    obtain ⟨f, hf⟩ := Json.eq_toJson_of_parse hv
    rw [hf] at hv hmembers
    -- the members of the document are those of the object
    obtain ⟨-, hrest⟩ := Prod.mk.inj hmembers
    obtain ⟨hname, hkindless⟩ : (f.get? "name").bind Json.string? = some "C" ∧
        (f.get? "kind").isSome = false := Prod.mk.inj hrest
    have hnotObject : Fieldless (some " [1,2]") := .otherKind hw (by simpa using hkind)
    obtain ⟨-, -, -, hpayload⟩ := merged_exact
    have hvalues := (hpayload (some s) (some text)).1 text f rfl hv
    have hkept := (hpayload (some s) (some " [1,2]")).2.1 hnotObject
    obtain ⟨name, hget, -⟩ := Option.bind_eq_some_iff.mp hname
    refine ⟨f, ⟨hv, hnotObject⟩, ?_, ?_, hkept⟩
    · rw [hvalues, hget, Option.some_or, ← hget]
      exact hname
    · rw [hvalues, Option.not_isSome_iff_eq_none.mp (Bool.eq_false_iff.mp hkindless),
        Option.none_or]
      rfl
  | null | bool | int | real | string | array => cases hmembers

end Payload
end Clearance
