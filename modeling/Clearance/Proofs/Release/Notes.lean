import Clearance.Proofs.Banner.Gathering
import Clearance.Proofs.Marking.Extraction
import Clearance.Proofs.Release.Decision
import Clearance.Proofs.Resolver.Faults
import Clearance.Proofs.Resolver.Transparency
import Clearance.View.Snapshot

/-!
# Notes and payloads

The attributes of a note are kept as a text, and those of an object in the text that its ciphertext
stands for.  Three parts of the program read such texts: the verdict on a note, the banner of an
object with its notes, and the resolver of records.  What a text stands for is said here without
any of them, and all three go by it.  So a note is never withheld as unreadable in one place and
counted in another, and a note is judged as an object with the same text.

## Main definitions

* `Fields.WrittenIn`: the fields that a text stands for, if there is a text at all
* `Verdict.isUnreadable`: whether the attributes could not be read
* `RawRecord.HasText`: the text that the ciphertext of a record stands for

## Main results

* `Fields.writtenIn_iff`, `parseObject_eq_error_iff`: what is read of a text, and its faults
* `explainNote_of_writtenIn`, `isUnreadable_explainNote_iff`: the verdict on a note
* `Tally.forall₂_readable`: the notes that a banner counts are those that are not unreadable
* `notes_as_payloads`: notes and payloads are read and judged alike
-/

namespace Clearance

open Text

variable {text reason : String} {search : Option String} {f : Fields} {note : Note}
  {a : ActiveSet}

/-! ## What a text stands for -/

/-- The fields that a text stands for: none if there is no text or a blank one, else those of the
object that the text writes once it is trimmed. -/
inductive Fields.WrittenIn : Option String → Fields → Prop where
  | absent : WrittenIn none .empty
  | blank {text : String} (h : isBlankText text = true) : WrittenIn (some text) .empty
  | object {text : String} {f : Fields} (h : Json.parse (trimChars text.toList) = .ok f.toJson) :
    WrittenIn (some text) f

/-- **What is read of a text** is what it stands for, whatever field it is in. -/
theorem Fields.writtenIn_some_iff (field : String) :
    f.WrittenIn (some text) ↔ parseObject text field = .ok f := by
  rw [parseObject_eq_ok_iff]
  constructor
  · rintro (_ | h | h)
    · exact .inl ⟨h, rfl⟩
    · exact .inr h
  · rintro (⟨h, rfl⟩ | h)
    · exact .blank h
    · exact .object h

/-- A text that is missing is read as the empty one. -/
theorem Fields.writtenIn_iff (field : String) :
    f.WrittenIn search ↔ parseObject (search.getD "") field = .ok f := by
  cases search with
  | some text => exact writtenIn_some_iff field
  | none =>
    have hempty : parseObject "" field = .ok .empty := parseObject_of_isBlankText rfl field
    rw [Option.getD_none, hempty, Except.ok.injEq, eq_comm]
    constructor
    · rintro ⟨⟩
      rfl
    · rintro rfl
      exact .absent

/-- **The faults of a text** that is not blank: it is no document once it is trimmed, or it is a
document of another kind. -/
theorem parseObject_eq_error_iff {field : String} {fault : ObjectFault} :
    parseObject text field = .error fault ↔ isBlankText text = false ∧
      ((∃ cause, Json.parse (trimChars text.toList) = .error cause ∧
          fault = .malformed field cause) ∨
        ∃ v, Json.parse (trimChars text.toList) = .ok v ∧ v.members? = none ∧
          fault = .notAnObject field) := by
  cases hblank : isBlankText text with
  | true => simp [parseObject_of_isBlankText hblank]
  | false =>
    have hne : trimChars text.toList ≠ [] := by
      intro hnil
      rw [(isBlankText_iff text).mpr (by rw [trim, hnil])] at hblank
      cases hblank
    simp only [parseObject, List.isEmpty_iff, hne, if_false, true_and]
    cases Json.parse (trimChars text.toList) with
    | error cause => simp [eq_comm]
    | ok v => cases v <;> simp [Json.fields?, Json.members?, eq_comm]

/-! ## Verdicts on notes -/

/-- The attributes could not be read. -/
def Verdict.isUnreadable : Verdict → Bool
  | .unreadable _ => true
  | .allowed | .missingAllOf _ | .noRelToOverlap _ => false

@[simp] theorem isUnreadable_explain (m : Marking) (a : ActiveSet) :
    (explain m a).isUnreadable = false := by
  cases h : explain m a with
  | unreadable reason => exact absurd h (explain_ne_unreadable m a reason)
  | allowed | missingAllOf | noRelToOverlap => rfl

/-- **A note is judged by the attributes in its fields**, by whatever name they are called. -/
theorem explainNote_of_writtenIn (h : f.WrittenIn note.search) (id : String) (a : ActiveSet) :
    explainNote note a = explain (.ofPayload id f) a := by
  rw [explainNote, Marking.ofNote_eq, (Fields.writtenIn_iff "note.search").mp h]
  exact explain_congr rfl rfl rfl

/-- A note is unreadable for the fault of its text, and for no other reason. -/
theorem explainNote_eq_unreadable_iff_fault :
    explainNote note a = .unreadable reason ↔
      ∃ fault, parseObject (note.search.getD "") "note.search" = .error fault ∧
        reason = fault.message := by
  rw [explainNote, Marking.ofNote_eq]
  cases parseObject (note.search.getD "") "note.search" with
  | ok f => simp [Except.map, explain_ne_unreadable]
  | error fault => simp [Except.map, eq_comm]

/-- **Why a note is unreadable**: it has a text that is not blank and that is no document once it is
trimmed, or a document of another kind. -/
theorem explainNote_eq_unreadable_iff :
    explainNote note a = .unreadable reason ↔
      ∃ text, note.search = some text ∧ isBlankText text = false ∧
        ((∃ cause, Json.parse (trimChars text.toList) = .error cause ∧
            reason = "invalid json in note.search: " ++ cause.message) ∨
          ∃ v, Json.parse (trimChars text.toList) = .ok v ∧ v.members? = none ∧
            reason = "note.search is not a json object") := by
  have hmalformed (cause : Json.Fault) : (ObjectFault.malformed "note.search" cause).message =
      "invalid json in note.search: " ++ cause.message :=
    congrArg (· ++ cause.message)
      (show "invalid json in " ++ "note.search" ++ ": " = "invalid json in note.search: " by decide)
  have hnotAnObject : (ObjectFault.notAnObject "note.search").message =
      "note.search is not a json object" := by decide
  rw [explainNote_eq_unreadable_iff_fault]
  constructor
  · rintro ⟨fault, hfault, rfl⟩
    cases hsearch : note.search with
    | none =>
      -- a text that is missing has no fault
      have hempty : Fields.WrittenIn note.search .empty := hsearch ▸ .absent
      rw [(Fields.writtenIn_iff "note.search").mp hempty] at hfault
      cases hfault
    | some text =>
      rw [hsearch, Option.getD_some, parseObject_eq_error_iff] at hfault
      obtain ⟨hblank, ⟨cause, hcause, rfl⟩ | ⟨v, hv, hkind, rfl⟩⟩ := hfault
      · exact ⟨text, rfl, hblank, .inl ⟨cause, hcause, hmalformed cause⟩⟩
      · exact ⟨text, rfl, hblank, .inr ⟨v, hv, hkind, hnotAnObject⟩⟩
  · rintro ⟨text, hsearch, hblank, hreason⟩
    rw [hsearch, Option.getD_some]
    rcases hreason with ⟨cause, hcause, rfl⟩ | ⟨v, hv, hkind, rfl⟩
    · exact ⟨.malformed "note.search" cause,
        parseObject_eq_error_iff.mpr ⟨hblank, .inl ⟨cause, hcause, rfl⟩⟩, (hmalformed cause).symm⟩
    · exact ⟨.notAnObject "note.search",
        parseObject_eq_error_iff.mpr ⟨hblank, .inr ⟨v, hv, hkind, rfl⟩⟩, hnotAnObject.symm⟩

/-- A note can be read exactly when its text stands for some fields. -/
theorem isUnreadable_explainNote_iff :
    (explainNote note a).isUnreadable = true ↔ ∀ f : Fields, ¬ f.WrittenIn note.search := by
  simp only [Fields.writtenIn_iff "note.search"]
  rw [explainNote, Marking.ofNote_eq]
  cases parseObject (note.search.getD "") "note.search" with
  | ok f => simp [Except.map]
  | error fault => simp [Except.map, Verdict.isUnreadable]

/-! ## Notes on a banner -/

/-- **The notes that a banner counts** are those whose verdict is not that they are unreadable, and
they count with the attributes by which they are judged. -/
theorem Tally.forall₂_readable (a : ActiveSet) (notes : List Note) :
    List.Forall₂ (fun note m => Marking.ofNote note = .ok m ∧ explainNote note a = explain m a)
      (notes.filter fun note => !(explainNote note a).isUnreadable) (readable notes) := by
  induction notes with
  | nil => exact .nil
  | cons note rest ih =>
    rw [List.filter_cons, readable, List.filterMap_cons, explainNote]
    cases hnote : Marking.ofNote note with
    | error fault => exact ih -- skipped, and unreadable
    | ok m =>
      simp only [isUnreadable_explain, Bool.not_false, if_true]
      exact .cons ⟨hnote, by rw [explainNote, hnote]⟩ ih

/-! ## Objects with the text of a note -/

/-- The text that the ciphertext of a record stands for, as a resolver comes by it: the backend
answers with the text, or the cache has the fields that the text stands for. -/
inductive RawRecord.HasText (backend : List UInt8 → Answer) (c : Cache) (r : RawRecord)
    (text : String) : Prop where
  | answered (missing : c.find? r.id = none)
    (answer : backend r.ciphertext = .ok ⟨some text, none⟩) : HasText backend c r text
  | kept {f : Fields} (found : c.find? r.id = some f) (written : f.WrittenIn (some text)) :
    HasText backend c r text

variable {backend : List UInt8 → Answer} {c : Cache} {r : RawRecord}

/-- The static fields of a record are those that its text stands for, if there are any. -/
theorem RawRecord.HasText.staticFields (h : r.HasText backend c text) :
    (c.resolve backend r.query).1.staticFields =
      (parseObject text "decryptedPayload").toOption := by
  rw [Cache.fst_resolve]
  cases h with
  | answered missing answer =>
    have hmissing : c.find? r.query.id = none := missing
    have hanswer : backend r.query.ciphertext = .ok ⟨some text, none⟩ := answer
    rw [hmissing, hanswer, Option.none_or, Query.payload, Answer.fields?]
  | @kept f found written =>
    have hfound : c.find? r.query.id = some f := found
    have hread : parseObject text "decryptedPayload" = .ok f :=
      (Fields.writtenIn_some_iff "decryptedPayload").mp written
    rw [hfound, hread, Option.some_or, Query.payload, Except.toOption]

/-- The verdict on a record with a payload rests on the static fields. -/
theorem judge_ofRecord (a : ActiveSet) (r : RawRecord) (payload : Payload) :
    judge a (.ofRecord r payload) =
      match payload.staticFields with
      | some f => explain (.ofPayload r.id f) a
      | none => .unreadable "static payload unavailable" := by
  obtain ⟨_ | f, dynamicFields⟩ := payload <;> rfl

/-- An object is judged by the fields that its text stands for. -/
theorem RawRecord.HasText.judge_of_writtenIn (h : r.HasText backend c text)
    (hf : f.WrittenIn (some text)) (a : ActiveSet) :
    judge a (.ofRecord r (c.resolve backend r.query).1) = explain (.ofPayload r.id f) a := by
  have hread : parseObject text "decryptedPayload" = .ok f :=
    (Fields.writtenIn_some_iff "decryptedPayload").mp hf
  rw [judge_ofRecord, h.staticFields, hread, Except.toOption]

/-- An object whose text stands for no fields is unreadable. -/
theorem RawRecord.HasText.judge_of_not_writtenIn (h : r.HasText backend c text)
    (hf : ∀ f : Fields, ¬ f.WrittenIn (some text)) (a : ActiveSet) :
    judge a (.ofRecord r (c.resolve backend r.query).1) =
      .unreadable "static payload unavailable" := by
  rw [judge_ofRecord, h.staticFields]
  cases hread : parseObject text "decryptedPayload" with
  | error fault => rfl
  | ok f => exact absurd ((Fields.writtenIn_some_iff "decryptedPayload").mpr hread) (hf f)

/-- **Notes and payloads are read and judged alike.**  The markings of a note are those of the
object that its text writes, taken as a payload, or else the fault that any such text has.

For every active set, the verdict on a note whose text is missing, blank or the text of an object
is the verdict on the attributes in its fields, by whatever name they are called.  All other notes
are unreadable, and only they; the reason tells whether the text is no document or one of another
kind.

The banner of an object with its notes counts the notes that are not unreadable, in order, with the
attributes by which they are judged, and passes over the others.  Which these are does not depend
on the active set.

An object whose ciphertext stands for the text of a note, now or when its fields were put into the
cache, gets the verdict of the note.  If the text is not that of an object, there are no fields to
judge by, and both are unreadable, each for a reason of its own. -/
theorem notes_as_payloads :
    (∀ note, Marking.ofNote note =
      (parseObject (note.search.getD "") "note.search").map (Marking.ofPayload note.id)) ∧
    (∀ note a,
      (∀ (f : Fields) id, f.WrittenIn note.search →
        explainNote note a = explain (.ofPayload id f) a) ∧
      ((explainNote note a).isUnreadable = true ↔ ∀ f : Fields, ¬ f.WrittenIn note.search) ∧
      ∀ reason, explainNote note a = .unreadable reason ↔
        ∃ text, note.search = some text ∧ isBlankText text = false ∧
          ((∃ cause, Json.parse (trimChars text.toList) = .error cause ∧
              reason = "invalid json in note.search: " ++ cause.message) ∨
            ∃ v, Json.parse (trimChars text.toList) = .ok v ∧ v.members? = none ∧
              reason = "note.search is not a json object")) ∧
    (∀ m notes a, ∃ counted,
      List.Forall₂ (fun note n => Marking.ofNote note = .ok n ∧ explainNote note a = explain n a)
        (notes.filter fun note => !(explainNote note a).isUnreadable) counted ∧
      Banner.ofObject m notes = .compute (m :: counted)) ∧
    ∀ backend c r text note a, RawRecord.HasText backend c r text → note.search = some text →
      let verdict := judge a (.ofRecord r (c.resolve backend r.query).1)
      (∀ f : Fields, f.WrittenIn (some text) → explainNote note a = verdict) ∧
      ((∀ f : Fields, ¬ f.WrittenIn (some text)) →
        (explainNote note a).isUnreadable = true ∧
          verdict = .unreadable "static payload unavailable") := by
  refine ⟨Marking.ofNote_eq, fun note a => ⟨?_, isUnreadable_explainNote_iff, ?_⟩,
    fun m notes a => ⟨Tally.readable notes, Tally.forall₂_readable a notes,
      Tally.ofObject_eq m notes⟩, ?_⟩
  · intro f id hf
    exact explainNote_of_writtenIn hf id a
  · intro reason
    exact explainNote_eq_unreadable_iff
  · intro backend c r text note a htext hsearch verdict
    constructor
    · intro f hf
      have hnote : f.WrittenIn note.search := hsearch ▸ hf
      rw [explainNote_of_writtenIn hnote r.id a]
      exact (htext.judge_of_writtenIn hf a).symm
    · intro hnone
      have hnote : ∀ f : Fields, ¬ f.WrittenIn note.search := hsearch ▸ hnone
      exact ⟨isUnreadable_explainNote_iff.mpr hnote, htext.judge_of_not_writtenIn hnone a⟩

/-- A note and a record with the same text, in white space that no document may have around it, and
another note and record with a list. -/
theorem notes_as_payloads_of_secret :
    let secret := "\u00a0\x7b\"attrClassification\": \"secret\"\x7d\u2003"
    let backend : List UInt8 → Answer := fun bytes =>
      .ok ⟨some (if bytes = [1] then secret else "[1]"), none⟩
    let c := Cache.ofTypes ["track"]
    let r : RawRecord := ⟨"r", "track", [1], none, none, none⟩
    let r' : RawRecord := ⟨"q", "track", [2], none, none, none⟩
    let note : Note := ⟨"n", some "r", some secret⟩
    let note' : Note := ⟨"m", some "r", some "[1]"⟩
    (r.HasText backend c secret ∧ ∃ f : Fields, f.WrittenIn (some secret)) ∧
      (r'.HasText backend c "[1]" ∧ ∀ f : Fields, ¬ f.WrittenIn (some "[1]")) ∧
      judge .none (.ofRecord r (c.resolve backend r.query).1) = .missingAllOf ["SECRET"] ∧
      judge .none (.ofRecord r' (c.resolve backend r'.query).1) =
        .unreadable "static payload unavailable" ∧
      explainNote note' .none = .unreadable "note.search is not a json object" ∧
      ∃ n, Marking.ofNote note = .ok n ∧
        Banner.ofObject { id := "r" } [note', note] = .compute [{ id := "r" }, n] := by
  intro secret backend c r r' note note'
  have hverdict : explainNote note .none = .missingAllOf ["SECRET"] := by decide +kernel
  have hverdict' : explainNote note' .none = .unreadable "note.search is not a json object" := by
    decide +kernel
  obtain ⟨-, hnotes, hbanner, hobjects⟩ := notes_as_payloads
  have htext : r.HasText backend c secret := .answered rfl rfl
  have htext' : r'.HasText backend c "[1]" := .answered rfl rfl
  have hfields : ∃ f : Fields, f.WrittenIn (some secret) := by
    by_contra hnone
    have hunreadable := (hnotes note .none).2.1.mpr (not_exists.mp hnone)
    rw [hverdict] at hunreadable
    cases hunreadable
  have hnone : ∀ f : Fields, ¬ f.WrittenIn (some "[1]") :=
    (hnotes note' .none).2.1.mp (by rw [hverdict']; rfl)
  obtain ⟨f, hf⟩ := hfields
  have hjudged := (hobjects backend c r secret note .none htext rfl).1 f hf
  have hjudged' := (hobjects backend c r' "[1]" note' .none htext' rfl).2 hnone
  obtain ⟨counted, hcounted, hshown⟩ := hbanner { id := "r" } [note', note] .none
  refine ⟨⟨htext, f, hf⟩, ⟨htext', hnone⟩, hjudged ▸ hverdict, hjudged'.2, hverdict', ?_⟩
  -- of the two notes, one is counted
  have hfilter : ([note', note].filter fun note => !(explainNote note .none).isUnreadable) =
      [note] := by
    simp [hverdict, hverdict', Verdict.isUnreadable]
  rw [hfilter] at hcounted
  obtain ⟨n, rest, ⟨hn, -⟩, hrest, rfl⟩ := List.forall₂_cons_left_iff.mp hcounted
  obtain rfl := List.forall₂_nil_left_iff.mp hrest
  exact ⟨n, hn, hshown⟩

end Clearance
