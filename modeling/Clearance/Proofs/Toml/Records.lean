import Clearance.Proofs.Toml.Ordered
import Clearance.Toml.Decoder

/-!
# Records in trees

A record is taken from a tree member by member, and its document is that of the tree, with one
exception: a table that starts with the key of a moment has the document of the moment, while the
record is still taken from what else the table holds.

## Main definitions

* `Node.member?`: the value of a key of a table
* `Node.StandsForMoment`: the table starts with the key of a moment
* `Decoder.Field`: a field of a record

## Main results

* `Node.member?_document?`: the members of the document of a table are the documents of its members
* `Decoder.Field.of_record`: where the value of a field comes from
-/

namespace Clearance.Toml

variable {tree v : Node} {document : Json} {k : String} {members : List (String × Node)}

namespace Node

/-- The value of a key of a table. -/
def member? (k : String) : Node → Option Node
  | .table _ members => Keyed.find? k members
  | _ => none

/-- The table starts with the key of a moment, and has the document of one. -/
def StandsForMoment : Node → Prop
  | .table _ ((k, _) :: _) => k = Moment.key
  | _ => False

instance : DecidablePred StandsForMoment
  | .table _ ((k, _) :: _) => inferInstanceAs (Decidable (k = Moment.key))
  | .table _ [] | .leaf _ | .array _ _ => inferInstanceAs (Decidable False)

theorem Ordered.member? (h : tree.Ordered) (hv : tree.member? k = some v) : v.Ordered := by
  cases h with
  | leaf | array => cases hv
  | table sorted values => exact values _ (Keyed.mem_of_find? hv)

theorem find?_memberDocuments? {documents : List (String × Json)}
    (h : memberDocuments? members = some documents) (hv : Keyed.find? k members = some v) :
    ∃ d, v.document? = some d ∧ Keyed.find? k documents = some d := by
  induction members generalizing documents with
  | nil => cases hv
  | cons e rest ih =>
    obtain ⟨k', v'⟩ := e
    obtain ⟨d, hd, h⟩ := Option.bind_eq_some_iff.mp h
    obtain ⟨ds, hds, h⟩ := Option.bind_eq_some_iff.mp h
    obtain rfl := Option.some.inj h
    rw [Keyed.find?_cons] at hv ⊢
    split at hv
    · next hk =>
      obtain rfl := Option.some.inj hv
      exact ⟨d, hd, if_pos hk⟩
    · next hk =>
      obtain ⟨d', hd', hfind⟩ := ih hds hv
      exact ⟨d', hd', (if_neg hk).trans hfind⟩

/-- **The members of the document of a table** are the documents of its members, unless the table
stands for a moment. -/
theorem member?_document? (hplain : ¬ tree.StandsForMoment)
    (hdocument : tree.document? = some document) (hv : tree.member? k = some v) :
    ∃ d, v.document? = some d ∧ document.member? k = some d := by
  cases tree with
  | leaf | array => cases hv
  | table kind members =>
    cases members with
    | nil => cases hv
    | cons e rest =>
      obtain ⟨k', v'⟩ := e
      have hk : k' ≠ Moment.key := hplain
      rw [document?] at hdocument
      simp only [if_neg hk] at hdocument
      obtain ⟨d, hd, hdocument⟩ := Option.bind_eq_some_iff.mp hdocument
      obtain ⟨ds, hds, hdocument⟩ := Option.bind_eq_some_iff.mp hdocument
      obtain rfl := Option.some.inj hdocument
      have hmembers : memberDocuments? ((k', v') :: rest) = some ((k', d) :: ds) := by
        rw [memberDocuments?, hd, hds]
        rfl
      exact find?_memberDocuments? hmembers hv

end Node

namespace Decoder

variable {α σ : Type} {parts : List (Part σ)} {value : Decoder α} {get : σ → α} {s s' start : σ}
  {name : String}

/-- The field of a key: its part takes the value, and no other part touches it. -/
structure Field (parts : List (Part σ)) (k : String) (value : Decoder α) (get : σ → α) : Prop where
  there : ∃ part ∈ parts, part.key = k
  own : ∀ part ∈ parts, part.key = k → ∀ v s s', part.set v s = .ok s' → value v = .ok (get s')
  other : ∀ part ∈ parts, part.key ≠ k → ∀ v s s', part.set v s = .ok s' → get s' = get s

/-- What one member does to the field. -/
theorem Field.takeMember (hf : Field parts k value get) {e : String × Node}
    (h : takeMember parts s e = .ok s') :
    if e.1 = k then value e.2 = .ok (get s') else get s' = get s := by
  unfold Decoder.takeMember at h
  split at h
  · next part hpart =>
    have hmem : part ∈ parts := List.mem_of_find?_eq_some hpart
    have hkey : part.key = e.1 := by simpa using List.find?_some hpart
    split
    · next hk => exact hf.own part hmem (hkey.trans hk) _ _ _ h
    · next hk => exact hf.other part hmem (fun he => hk (hkey.symm.trans he)) _ _ _ h
  · next hnone =>
    obtain ⟨part, hmem, hkey⟩ := hf.there
    have hk : e.1 ≠ k := by
      rintro rfl
      simpa [hkey] using List.find?_eq_none.mp hnone part hmem
    rw [if_neg hk]
    cases hpass : passOver e.2 with
    | error misfit =>
      rw [hpass] at h
      cases h
    | ok =>
      rw [hpass] at h
      cases h
      rfl

/-- What all members do to the field: only the one with its key matters. -/
theorem Field.foldlM (hf : Field parts k value get) (hsorted : Keyed.Sorted members)
    (h : members.foldlM (Decoder.takeMember parts) s = .ok s') :
    Keyed.find? k members = none ∧ get s' = get s ∨
      ∃ v, Keyed.find? k members = some v ∧ value v = .ok (get s') := by
  induction members generalizing s with
  | nil =>
    cases h
    exact .inl ⟨rfl, rfl⟩
  | cons e rest ih =>
    obtain ⟨hhead, hrest⟩ := List.pairwise_cons.mp hsorted
    rw [List.foldlM_cons] at h
    cases htake : Decoder.takeMember parts s e with
    | error misfit =>
      rw [htake] at h
      cases h
    | ok next =>
      rw [htake] at h
      have hfield := hf.takeMember htake
      rw [Keyed.find?_cons]
      by_cases hk : e.1 = k
      · rw [if_pos hk] at hfield
        rcases ih hrest h with ⟨-, hsame⟩ | ⟨v, hv, -⟩
        · exact .inr ⟨e.2, if_pos hk, hsame ▸ hfield⟩
        · -- the key does not come again
          have hlt := hhead _ (Keyed.mem_of_find? hv)
          exact absurd (hk ▸ hlt) (String.lt_irrefl _)
      · rw [if_neg hk] at hfield ⊢
        rcases ih hrest h with ⟨hnone, hsame⟩ | hfound
        · exact .inl ⟨hnone, hsame.trans hfield⟩
        · exact .inr hfound

/-- **Where the value of a field comes from**: the member of the tree with its key, or else the
record before.  An array has its own way to be a record. -/
theorem Field.of_record (hf : Field parts k value get) (hordered : tree.Ordered)
    (h : record name parts start tree = .ok s) :
    get s = get start ∨ (∃ v, tree.member? k = some v ∧ value v = .ok (get s)) ∨
      ∃ ofTables items, tree = .array ofTables items := by
  cases hordered with
  | @leaf scalar =>
    cases scalar with
    | moment m =>
      cases h
      exact .inl rfl
    | text | flag | whole | real | tooLarge => cases h
  | array => exact .inr (.inr ⟨_, _, rfl⟩)
  | table sorted =>
    rcases hf.foldlM sorted h with ⟨-, hsame⟩ | hfound
    · exact .inl hsame
    · exact .inr (.inl hfound)

end Decoder
end Clearance.Toml
