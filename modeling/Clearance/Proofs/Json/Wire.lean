import Clearance.Catalog
import Clearance.Proofs.Json.Records
import Clearance.Record.Source
import Clearance.Worker.Message

/-!
# What goes over the wire comes back

Settings, messages to and from workers, records of the object source, policies and catalogs: each is
written as a document and as a text, and the same value is taken back from both.  A request keeps
its kind, since neither kind has the fields that the other one asks for; a reply keeps its kind by
its tag.

## Main results

* `Settings.ofFields` and its like: the records among them have faithful fields
* `Request.faithful`, `Reply.faithful`: requests and replies
* `Json.wire_roundTrips`: every value of every kind comes back
-/

namespace Clearance

open Json
open Format (faithful_text faithful_flag faithful_byte faithful_word)

/-! ## Settings -/

theorem IdentityProvider.ofFields : IdentityProvider.format.OfFields 0 := by
  refine .record _ ⟨?_, ?_, trivial⟩ (by decide) fun _ => rfl
  · exact (faithful_text 0).field nofun _ _
  · exact (faithful_text 0).field nofun _ _

theorem ClientSettings.ofFields : ClientSettings.format.OfFields 1 := by
  refine .record _ ⟨?_, ?_, ?_, ?_, trivial⟩ (by decide) fun _ => rfl
  · exact (faithful_text 1).field nofun _ _
  · exact (faithful_text 1).field nofun _ _
  · exact IdentityProvider.ofFields.faithful.field nofun _ _
  · exact (faithful_flag 1).field nofun _ _

theorem PoolSettings.ofFields : PoolSettings.format.OfFields 0 := by
  refine .record _ ⟨?_, trivial⟩ (by decide) fun _ => rfl
  exact (faithful_word 0).field nofun _ _

theorem CacheSettings.ofFields : CacheSettings.format.OfFields 1 := by
  refine .record _ ⟨?_, trivial⟩ (by decide) fun _ => rfl
  exact (faithful_text 0).list.field nofun _ _

theorem Settings.ofFields : Settings.format.OfFields 2 := by
  refine .record _ ⟨?_, ?_, ?_, trivial⟩ (by decide) fun _ => rfl
  · exact (PoolSettings.ofFields.faithful.mono (by decide)).field nofun _ _
  · exact CacheSettings.ofFields.faithful.field nofun _ _
  · exact ClientSettings.ofFields.faithful.field nofun _ _

/-! ## Messages -/

theorem Credentials.ofFields : Credentials.format.OfFields 0 := by
  refine .record _ ⟨?_, ?_, trivial⟩ (by decide) fun _ => rfl
  · exact (faithful_text 0).field nofun _ _
  · exact (faithful_text 0).field nofun _ _

theorem WorkerSession.ofFields : WorkerSession.format.OfFields 2 := by
  refine .record _ ⟨?_, ?_, trivial⟩ (by decide) fun _ => rfl
  · exact ClientSettings.ofFields.faithful.field nofun _ _
  · exact (Credentials.ofFields.faithful.mono (by decide)).field nofun _ _

theorem ciphertext_ofFields : ciphertextFormat.OfFields 1 := by
  refine .record _ ⟨?_, trivial⟩ (by decide) fun _ => rfl
  exact (faithful_byte 0).list.field nofun _ _

theorem Outcome.ofFields : Outcome.format.OfFields 0 := by
  refine .record _ ⟨?_, ?_, trivial⟩ (by decide) fun _ => rfl
  · exact faithful_optional 0 (.inl rfl) fun _ => rfl
  · exact faithful_optional 0 (.inl rfl) fun _ => rfl

/-! ## Records of the object source -/

theorem RawRecord.ofFields : RawRecord.format.OfFields 1 := by
  refine .record _ ⟨?_, ?_, ?_, ?_, ?_, ?_, trivial⟩ (by decide) fun _ => rfl
  · exact (faithful_text 1).field nofun _ _
  · exact (faithful_text 1).field nofun _ _
  · exact (faithful_byte 0).list.field nofun _ _
  · exact faithful_optional 1 (.inr rfl) fun _ => rfl
  · exact faithful_optional 1 (.inr rfl) fun _ => rfl
  · exact faithful_optional 1 (.inr rfl) fun _ => rfl

theorem Note.ofFields : Note.format.OfFields 0 := by
  refine .record _ ⟨?_, ?_, ?_, trivial⟩ (by decide) fun _ => rfl
  · exact (faithful_text 0).field nofun _ _
  · exact faithful_optional 0 (.inr rfl) fun _ => rfl
  · exact faithful_optional 0 (.inr rfl) fun _ => rfl

/-! ## Policies and catalogs -/

theorem Policy.value_ofFields : Policy.valueFormat.OfFields 0 := by
  refine .record _ ⟨?_, trivial⟩ (by decide) fun _ => rfl
  exact (faithful_text 0).field nofun _ _

theorem Policy.Definition.ofFields : Policy.Definition.format.OfFields 2 := by
  refine .record _ ⟨?_, ?_, trivial⟩ (by decide) fun _ => rfl
  · exact (faithful_text 2).field nofun _ _
  · exact Policy.value_ofFields.faithful.list.field nofun _ _

theorem Policy.ofFields : Policy.format.OfFields 4 := by
  refine .record _ ⟨?_, ?_, trivial⟩ (by decide) fun _ => rfl
  · exact (faithful_text 4).field nofun _ _
  · exact Policy.Definition.ofFields.faithful.list.field nofun _ _

theorem Attribute.faithful (d : Nat) : Attribute.format.Faithful d :=
  (faithful_text d).map fun _ => rfl

theorem Catalog.Entry.ofFields : Catalog.Entry.format.OfFields 0 := by
  refine .record _ ⟨?_, ?_, ?_, trivial⟩ (by decide) fun _ => rfl
  · exact (faithful_text 0).field nofun _ _
  · exact (Attribute.faithful 0).field nofun _ _
  · exact faithful_optional 0 (.inr rfl) fun _ => rfl

theorem Catalog.ofFields : Catalog.format.OfFields 2 := by
  have hentries := Catalog.Entry.ofFields.faithful.list
  refine .record _ ⟨?_, ?_, ?_, ?_, trivial⟩ (by decide) fun _ => rfl
  · exact (faithful_text 2).field nofun _ _
  · exact hentries.field nofun _ _
  · exact hentries.field nofun _ _
  · exact hentries.field nofun _ _

/-! ## Requests -/

/-- What is written for a ciphertext is no session. -/
theorem decode_session_of_ciphertext (carrier : Carrier) (v : Json) :
    WorkerSession.format.decode carrier (.object [("tdfBlobBuffer", v)]) =
      .error (.missingField "config") := rfl

theorem Request.faithful : Request.format.Faithful 3 := by
  have heither := WorkerSession.ofFields.faithful.either
    (ciphertext_ofFields.faithful.mono (by decide : 2 ≤ 3))
    (fun ciphertext => ⟨⟨_, decode_session_of_ciphertext .setAside _⟩,
      ⟨_, decode_session_of_ciphertext .setAside _⟩⟩) "WorkerRequest"
  refine heither.map fun r => ?_
  cases r with
  | start session => rfl
  | decrypt ciphertext => rfl

/-! ## Replies -/

namespace Reply

/-- The members of a result, with its tag before them. -/
def resultMembers (o : Outcome) : List (String × Json) :=
  [("type", .string (Reply.Case.tag .result)),
    ("decryptedPayload", Format.text.option.encode o.payload),
    ("error", Format.text.option.encode o.error)]

theorem encode_result (o : Outcome) : Reply.encode (.result o) = .object (resultMembers o) := rfl

theorem means_case (case_ : Reply.Case) (d : Nat) :
    Means d (.caseName Reply.Case.tags Reply.Case.tag) (.string case_.tag) case_ := by
  refine Means.scalar (plain_string _) ?_ d
  cases case_ <;> rfl

theorem means_ready : Means 1 Reply.format (.object [("type", .string (Reply.Case.tag .ready))])
    .ready := by
  refine Means.tagged (by decide) (by decide) (a := .ready) (fun m hm _ => ?_) (fun m hm => ?_) rfl
    _
  · obtain rfl := List.mem_singleton.mp hm
    exact means_case .ready 0
  · obtain rfl := List.mem_singleton.mp hm
    exact (plain_string _).legible 0

/-- **A result is taken back from its members and its tag**, in any order. -/
theorem means_result {o : Outcome} {form : Json → Json} (hform : form = id ∨ form = canonical)
    {members : List (String × Json)}
    (hp : members.Perm ((resultMembers o).map fun m => (m.1, form m.2))) :
    Means 1 Reply.format (.object members) (.result o) := by
  have hstring : ∀ s, form (.string s) = .string s := by
    obtain rfl | rfl := hform <;> exact fun _ => rfl
  have hoption : ∀ s, Legible 0 (form (Format.text.option.encode s)) := by
    intro s
    obtain ⟨h, h'⟩ := Format.faithful_option_text 0 s
    obtain rfl | rfl := hform
    · exact h.legible
    · exact h'.legible
  have hkeys : (members.map Prod.fst).Perm ["type", "decryptedPayload", "error"] := hp.map Prod.fst
  refine Means.tagged (hkeys.nodup_iff.mpr (by decide)) (hkeys.mem_iff.mpr (by decide))
    (a := .result) (fun m hm htag => ?_) (fun m hm => ?_) ?_ _
  · have hm' := hp.mem_iff.mp hm
    simp only [resultMembers, List.map_cons, List.map_nil, List.mem_cons, List.not_mem_nil,
      or_false] at hm'
    obtain rfl | rfl | rfl := hm'
    · rw [hstring]
      exact means_case .result 0
    · exact absurd htag (by simp)
    · exact absurd htag (by simp)
  · have hm' := hp.mem_iff.mp hm
    simp only [resultMembers, List.map_cons, List.map_nil, List.mem_cons, List.not_mem_nil,
      or_false] at hm'
    obtain rfl | rfl | rfl := hm'
    · rw [hstring]
      exact (plain_string _).legible 0
    · exact hoption o.payload
    · exact hoption o.error
  · -- without the tag it is a result
    have hrest := hp.filter (·.1 ≠ "type")
    have hmeans : Means 1 Outcome.format (.object (members.filter (·.1 ≠ "type"))) o := by
      refine Outcome.ofFields.means_of_perm (a := o) rfl hform (fun _ => true) nofun
        (hrest.trans ?_)
      exact List.Perm.refl _
    rw [Reply.body, hmeans.decodes]
    rfl

theorem faithful : Reply.format.Faithful 1 := by
  intro r
  cases r with
  | ready => exact ⟨means_ready, means_ready⟩
  | result o =>
    have hkeys : (canonicalMembers (resultMembers o)).map Prod.fst =
        ["type", "decryptedPayload", "error"] := rfl
    show Means 1 Reply.format (Reply.encode (.result o)) _ ∧
      Means 1 Reply.format (Reply.encode (.result o)).canonical _
    rw [encode_result, canonical]
    constructor
    · exact means_result (.inl rfl) (by simp)
    · refine means_result (.inr rfl) ((perm_sort ?_).trans ?_)
      · rw [hkeys]
        decide
      · rw [canonicalMembers_eq]

end Reply

/-! ## Everything that goes over the wire -/

/-- **What goes over the wire comes back.**  Every value of the settings and of their parts, of the
messages to and from workers and of their parts, of the records of the object source, of policies
and of catalogs is taken back from its document and from its text, with the members of objects as
they are written or in the order of their names.

* A request keeps its kind: the document of a ciphertext is never taken for a session, nor the
  document of a session for a ciphertext.
* Parts that may be missing come back as missing, also where their members are left out instead of
  being null. -/
theorem Json.wire_roundTrips :
    (IdentityProvider.format.RoundTrips ∧ ClientSettings.format.RoundTrips ∧
      Settings.format.RoundTrips) ∧
    (Credentials.format.RoundTrips ∧ WorkerSession.format.RoundTrips ∧
      ciphertextFormat.RoundTrips ∧ Request.format.RoundTrips ∧ Outcome.format.RoundTrips ∧
      Reply.format.RoundTrips) ∧
    (RawRecord.format.RoundTrips ∧ Note.format.RoundTrips) ∧
    (Policy.format.RoundTrips ∧ Catalog.Entry.format.RoundTrips ∧ Catalog.format.RoundTrips) ∧
    (∀ ciphertext session,
      (∃ fault, WorkerSession.format.ofJson (Request.format.encode (.decrypt ciphertext)) =
        .error fault) ∧
      ∃ fault, ciphertextFormat.ofJson (Request.format.encode (.start session)) = .error fault) ∧
    (∀ o, Outcome.format.ofJson (Outcome.format.encode o).withoutNulls = .ok o ∧
      Outcome.format.ofText (Outcome.format.encode o).withoutNulls.compact = .ok o) ∧
    (∀ r, RawRecord.format.ofJson (RawRecord.format.encode r).withoutNulls = .ok r ∧
      RawRecord.format.ofText (RawRecord.format.encode r).withoutNulls.compact = .ok r) ∧
    (∀ n, Note.format.ofJson (Note.format.encode n).withoutNulls = .ok n ∧
      Note.format.ofText (Note.format.encode n).withoutNulls.compact = .ok n) := by
  refine ⟨⟨?_, ?_, ?_⟩, ⟨?_, ?_, ?_, ?_, ?_, ?_⟩, ⟨?_, ?_⟩, ⟨?_, ?_, ?_⟩,
    fun ciphertext session => ?_, ?_, ?_, ?_⟩
  · exact IdentityProvider.ofFields.faithful.roundTrips (by decide)
  · exact ClientSettings.ofFields.faithful.roundTrips (by decide)
  · exact Settings.ofFields.faithful.roundTrips (by decide)
  · exact Credentials.ofFields.faithful.roundTrips (by decide)
  · exact WorkerSession.ofFields.faithful.roundTrips (by decide)
  · exact ciphertext_ofFields.faithful.roundTrips (by decide)
  · exact Request.faithful.roundTrips (by decide)
  · exact Outcome.ofFields.faithful.roundTrips (by decide)
  · exact Reply.faithful.roundTrips (by decide)
  · exact RawRecord.ofFields.faithful.roundTrips (by decide)
  · exact Note.ofFields.faithful.roundTrips (by decide)
  · exact Policy.ofFields.faithful.roundTrips (by decide)
  · exact Catalog.Entry.ofFields.faithful.roundTrips (by decide)
  · exact Catalog.ofFields.faithful.roundTrips (by decide)
  · exact ⟨⟨_, rfl⟩, ⟨_, rfl⟩⟩
  · exact Outcome.ofFields.roundTrips_withoutNulls (by decide)
  · exact RawRecord.ofFields.roundTrips_withoutNulls (by decide)
  · exact Note.ofFields.roundTrips_withoutNulls (by decide)

end Clearance
