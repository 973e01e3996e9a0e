import Clearance.Json.Record
import Clearance.Proofs.Json.Formats

/-!
# Records are taken back

Reading a record fills a draft, one field for each member.  What the draft holds depends on which
fields were met and not on the order in which they were, so the same record comes back from its
members in the order of the fields and in that of their names.  Fields that are missing get what
stands for them, which is what they had if they were left out when the record was written.

## Main definitions

* `Json.Absent.Gives`: a missing field is read as a value
* `Json.Layout.draft`: the draft that holds the values of some fields
* `Json.Layout.Holds`: a member means the value of its field
* `Json.Layout.Faithful`, `Json.Format.OfFields`: all fields take back what they write
* `Json.withoutNulls`: a document without members that are null

## Main results

* `Json.Means.record`: a list of members means a record
* `Json.Format.OfFields.means_of_perm`: so does what a record writes, in any order
* `Json.Format.OfFields.faithful`: a record with faithful fields is faithful
* `Json.Format.OfFields.means_withoutNulls`: it needs no members that are null
* `Json.Means.tagged`: a tag and the members of one case mean a value
-/

namespace Clearance.Json

variable {α β : Type} {ts : List Type} {d : Nat} {carrier : Carrier}

/-- A field that is missing in an object is read as a value. -/
def Absent.Gives (absent : Absent α) (x : α) : Prop :=
  absent = .inObject x ∨ absent = .anywhere x

namespace Layout

/-- The names of the fields. -/
def names : {ts : List Type} → Layout ts → List String
  | _, .nil => []
  | _, .cons field rest => field.name :: rest.names

/-- The draft that holds the values of the fields with some names. -/
def draft : {ts : List Type} → Layout ts → Values ts → List String → Draft ts
  | _, .nil, _, _ => ()
  | _, .cons field rest, (x, xs), seen =>
    (if field.name ∈ seen then some x else none, rest.draft xs seen)

/-- The member with a name means the value of the field of that name. -/
def Holds (d : Nat) : {ts : List Type} → Layout ts → Values ts → String → Json → Prop
  | _, .nil, _, _, _ => False
  | _, .cons field rest, (x, xs), name, v =>
    (name = field.name ∧ Means d field.format v x) ∨
      (name ≠ field.name ∧ rest.Holds d xs name v)

/-- Fields whose names are not among some are read as their values where they are missing. -/
def Defaults : {ts : List Type} → Layout ts → Values ts → List String → Prop
  | _, .nil, _, _ => True
  | _, .cons field rest, (x, xs), seen =>
    (field.name ∈ seen ∨ field.absent.Gives x) ∧ rest.Defaults xs seen

variable {layout : Layout ts} {xs : Values ts} {seen seen' : List String} {name : String} {v : Json}
  {members : List (String × Json)}

/-! ## Drafts -/

theorem draft_congr (layout : Layout ts) (xs : Values ts) (h : ∀ name, name ∈ seen ↔ name ∈ seen') :
    layout.draft xs seen = layout.draft xs seen' := by
  induction layout with
  | nil => rfl
  | cons field rest ih =>
    obtain ⟨x, xs⟩ := xs
    simp only [draft, h, ih]
    rfl

/-- A name that no field has makes no difference. -/
theorem draft_cons_of_not_mem (xs : Values ts) (h : name ∉ layout.names) :
    layout.draft xs (name :: seen) = layout.draft xs seen := by
  induction layout with
  | nil => rfl
  | cons field rest ih =>
    obtain ⟨x, xs⟩ := xs
    rw [names, List.mem_cons, not_or] at h
    simp only [draft, List.mem_cons, Ne.symm h.1, false_or, ih xs h.2]
    rfl

theorem draft_nil (layout : Layout ts) (xs : Values ts) :
    layout.draft xs [] = emptyDraft ts := by
  induction layout with
  | nil => rfl
  | cons field rest ih =>
    obtain ⟨x, xs⟩ := xs
    simp only [draft, List.not_mem_nil, if_false, emptyDraft, ih]
    rfl

/-- Drafts that hold all but what has a default are complete. -/
theorem complete_draft (h : layout.Defaults xs seen) :
    layout.complete (layout.draft xs seen) = .ok xs := by
  induction layout with
  | nil => rfl
  | cons field rest ih =>
    obtain ⟨x, xs⟩ := xs
    obtain ⟨hfield, hrest⟩ := h
    rw [complete.eq_def]
    dsimp only [draft]
    rw [ih hrest]
    by_cases hs : field.name ∈ seen
    · rw [if_pos hs]
      rfl
    · rw [if_neg hs]
      obtain hmem | hx | hx := hfield
      · exact absurd hmem hs
      · rw [hx]
        rfl
      · rw [hx]
        rfl

/-! ## Filling a draft -/

/-- What is left of members with different keys once the first of them is met. -/
theorem not_mem_seen_of_cons {k : String} (hfresh : k ∉ members.map Prod.fst)
    (hs : ∀ m ∈ (k, v) :: members, m.1 ∉ seen) : ∀ m ∈ members, m.1 ∉ k :: seen := by
  intro m hm hmem
  rcases List.mem_cons.mp hmem with rfl | hmem
  · exact hfresh (List.mem_map_of_mem hm)
  · exact hs m (List.mem_cons_of_mem _ hm) hmem

/-- The order in which fields are met makes no difference. -/
theorem draft_met_cons (layout : Layout ts) (xs : Values ts) {k : String} :
    layout.draft xs (members.map Prod.fst ++ k :: seen) =
      layout.draft xs (((k, v) :: members).map Prod.fst ++ seen) := by
  refine draft_congr layout xs fun name => ?_
  simp only [List.map_cons, List.mem_append, List.mem_cons]
  tauto

/-- **A member fills in the value of its field.** -/
theorem fill_of_holds (hn : layout.names.Nodup) (h : layout.Holds d xs name v)
    (hs : name ∉ seen) :
    layout.fill carrier name v (layout.draft xs seen) =
      some (.ok (layout.draft xs (name :: seen))) := by
  induction layout with
  | nil => cases h
  | cons field rest ih =>
    obtain ⟨x, xs⟩ := xs
    obtain ⟨hfresh, hn⟩ := List.nodup_cons.mp hn
    obtain ⟨rfl, hmeans⟩ | ⟨hne, hrest⟩ := h
    · simp only [draft, fill, if_true, if_neg hs, Option.isSome_none, Bool.false_eq_true, if_false,
        hmeans.decodes, Except.map, List.mem_cons_self, draft_cons_of_not_mem xs hfresh]
    · simp only [draft, fill, if_neg hne, ih hn hrest, Option.map_some, Except.map, List.mem_cons,
        Ne.symm hne, false_or]

/-- **Members fill in the values of their fields, in any order.** -/
theorem fillAll_of_holds (hn : layout.names.Nodup)
    (h : ∀ m ∈ members, layout.Holds d xs m.1 m.2) (hkeys : (members.map Prod.fst).Nodup)
    (hs : ∀ m ∈ members, m.1 ∉ seen) :
    layout.fillAll carrier members (layout.draft xs seen) =
      .ok (layout.draft xs (members.map Prod.fst ++ seen)) := by
  induction members generalizing seen with
  | nil => rfl
  | cons m members ih =>
    obtain ⟨k, v⟩ := m
    obtain ⟨hfresh, hkeys⟩ := List.nodup_cons.mp hkeys
    have hk := h _ List.mem_cons_self
    have hrest := not_mem_seen_of_cons hfresh hs
    have hfill : layout.fill carrier k v (layout.draft xs seen) =
        some (.ok (layout.draft xs (k :: seen))) :=
      fill_of_holds hn hk (hs _ List.mem_cons_self)
    rw [fillAll]
    simp only [hfill, bind, Except.bind]
    rw [ih (fun m hm => h m (List.mem_cons_of_mem _ hm)) hkeys hrest, draft_met_cons]

/-- The text of a member fills in the value of its field. -/
theorem readInto_of_holds (hn : layout.names.Nodup) (h : layout.Holds d xs name v)
    (hs : name ∉ seen) {depth : Nat} (hd : d ≤ depth) {tail : List Char} (ht : Ends tail)
    (offset : Nat) :
    ∃ offset', layout.readInto depth name ⟨':' :: (v.compactChars ++ tail), offset⟩
        (layout.draft xs seen) =
      some (.ok (.ok (layout.draft xs (name :: seen)), ⟨tail, offset'⟩)) := by
  induction layout with
  | nil => cases h
  | cons field rest ih =>
    obtain ⟨x, xs⟩ := xs
    obtain ⟨hfresh, hn⟩ := List.nodup_cons.mp hn
    obtain ⟨rfl, hmeans⟩ | ⟨hne, hrest⟩ := h
    · obtain ⟨offset', hread⟩ := hmeans.reads depth hd tail (offset + 1) ht
      refine ⟨offset', ?_⟩
      simp only [draft, readInto, if_true, if_neg hs, Option.isSome_none, Bool.false_eq_true,
        if_false, readColon_colon, hread, bind, Except.bind, List.mem_cons_self,
        draft_cons_of_not_mem xs hfresh]
    · obtain ⟨offset', hread⟩ := ih hn hrest
      refine ⟨offset', ?_⟩
      simp only [draft, readInto, if_neg hne, hread, Option.map_some, Except.map, List.mem_cons,
        Ne.symm hne, false_or]

/-- The text of members fills in the values of their fields, in any order. -/
theorem readMembers_of_holds (hn : layout.names.Nodup)
    (h : ∀ m ∈ members, layout.Holds d xs m.1 m.2) (hkeys : (members.map Prod.fst).Nodup)
    (hs : ∀ m ∈ members, m.1 ∉ seen) {depth : Nat} (hd : d ≤ depth) (tail : List Char)
    (fuel : Nat) (hfuel : members.length < fuel) (first : Bool) (offset : Nat) :
    ∃ offset', layout.readMembers depth fuel first (layout.draft xs seen)
        ⟨membersFrom first members ++ tail, offset⟩ =
      .ok (.ok (layout.draft xs (members.map Prod.fst ++ seen)), ⟨'\x7d' :: tail, offset'⟩) := by
  induction members generalizing seen fuel first offset with
  | nil =>
    obtain ⟨fuel, rfl⟩ : ∃ n, fuel = n + 1 := ⟨fuel - 1, by simp at hfuel; omega⟩
    obtain ⟨offset', hend⟩ := nextKey_end first blank_nil tail offset
    rw [List.nil_append] at hend
    refine ⟨offset', ?_⟩
    rw [readMembers, membersFrom, List.singleton_append, hend]
    rfl
  | cons m members ih =>
    obtain ⟨k, v⟩ := m
    obtain ⟨fuel, rfl⟩ : ∃ n, fuel = n + 1 := ⟨fuel - 1, by simp at hfuel; omega⟩
    obtain ⟨hfresh, hkeys⟩ := List.nodup_cons.mp hkeys
    have hrest := not_mem_seen_of_cons hfresh hs
    obtain ⟨c, o₁, hnext, hkey⟩ := nextKey_key first blank_nil k
      (':' :: (v.compactChars ++ (membersFrom false members ++ tail))) offset
    rw [List.nil_append] at hnext
    obtain ⟨o₂, hinto⟩ := readInto_of_holds hn (h _ List.mem_cons_self) (hs _ List.mem_cons_self) hd
      (ends_membersFrom members tail) o₁
    obtain ⟨o₃, hread⟩ := ih (fun m hm => h m (List.mem_cons_of_mem _ hm)) hkeys hrest fuel
      (by simpa using hfuel) false o₂
    refine ⟨o₃, ?_⟩
    have htext : membersFrom first ((k, v) :: members) ++ tail =
        separator first ++ (stringChars k ++
          ':' :: (v.compactChars ++ (membersFrom false members ++ tail))) := by
      simp [membersFrom]
    rw [htext, readMembers, hnext]
    simp only [bind, Except.bind, if_true, hkey, hinto, hread]
    rw [draft_met_cons]

theorem legible_of_holds (h : layout.Holds d xs name v) : Legible d v := by
  induction layout with
  | nil => cases h
  | cons field rest ih =>
    obtain ⟨x, xs⟩ := xs
    obtain ⟨-, hmeans⟩ | ⟨-, hrest⟩ := h
    · exact hmeans.legible
    · exact ih hrest

end Layout

/-- **Members in any order mean a record**, if each means the value of its field, no field is given
twice, and those that are missing are read as their values. -/
theorem Means.record {layout : Layout ts} {xs : Layout.Values ts} {members : List (String × Json)}
    (hn : layout.names.Nodup) (h : ∀ m ∈ members, layout.Holds d xs m.1 m.2)
    (hkeys : (members.map Prod.fst).Nodup) (hdefaults : layout.Defaults xs (members.map Prod.fst))
    (name : String) (make : Layout.Values ts → α) (parts : α → Layout.Values ts) :
    Means (d + 1) (.record name layout make parts) (.object members) (make xs) where
  decodes carrier := by
    have hfill : layout.fillAll carrier members (layout.draft xs []) =
        .ok (layout.draft xs (members.map Prod.fst ++ [])) :=
      Layout.fillAll_of_holds hn h hkeys fun _ _ => List.not_mem_nil
    rw [Layout.draft_nil, List.append_nil] at hfill
    simp only [Format.record, hfill, bind, Except.bind, Layout.complete_draft hdefaults, pure,
      Except.pure]
  reads depth hd tail offset ht := by
    obtain ⟨depth, rfl⟩ : ∃ n, depth = n + 1 := ⟨depth - 1, by omega⟩
    have hd' : d ≤ depth := by omega
    have hlen := length_lt_membersFrom members true
    have hunseen : ∀ m ∈ members, m.1 ∉ ([] : List String) := fun _ _ => List.not_mem_nil
    obtain ⟨o₁, hread⟩ := Layout.readMembers_of_holds hn h hkeys hunseen hd' tail
      ((membersFrom true members ++ tail).length + 1) (by rw [List.length_append]; omega) true
      (offset + 1)
    rw [Layout.draft_nil, List.append_nil] at hread
    refine ⟨o₁ + 1, ?_⟩
    rw [compactChars_object, List.cons_append]
    unfold Format.record
    dsimp only
    rw [skipBlanks_cons rfl]
    simp only [hread, bind, Except.bind, Layout.complete_draft hdefaults, pure, Except.pure, settle,
      closeObject_end, closed]
  legible := Legible.object fun m hm => Layout.legible_of_holds (h m hm)

/-! ## Objects in order -/

theorem canonicalMembers_eq (members : List (String × Json)) :
    canonicalMembers members = members.map fun m => (m.1, m.2.canonical) := by
  induction members with
  | nil => rfl
  | cons m members ih => rw [canonicalMembers, List.map_cons, ih]

theorem perm_insert {k : String} {x : α} {l : List (String × α)} (h : k ∉ l.map Prod.fst) :
    (Keyed.insert k x l).Perm ((k, x) :: l) := by
  induction l with
  | nil => exact List.Perm.refl _
  | cons m l ih =>
    rw [List.map_cons, List.mem_cons, not_or] at h
    rw [Keyed.insert]
    split
    · exact List.Perm.refl _
    · rw [if_neg h.1]
      exact ((ih h.2).cons m).trans (List.Perm.swap _ _ l)

/-- Putting members in order loses none, unless a key is given twice. -/
theorem perm_sort {l : List (String × α)} (h : (l.map Prod.fst).Nodup) :
    (Keyed.sort l).Perm l := by
  suffices ∀ acc : List (String × α), ((acc ++ l).map Prod.fst).Nodup →
      (l.foldl (fun acc m => Keyed.insert m.1 m.2 acc) acc).Perm (acc ++ l) from this [] h
  clear h
  induction l with
  | nil =>
    intro acc _
    rw [List.append_nil]
    exact List.Perm.refl _
  | cons m l ih =>
    intro acc h
    have hmiddle : (acc ++ m :: l).Perm (m :: acc ++ l) := List.perm_middle
    have h' := (hmiddle.map Prod.fst).nodup_iff.mp h
    have hfresh : m.1 ∉ acc.map Prod.fst := by
      intro hm
      refine (List.nodup_cons.mp h').1 (List.mem_map.mpr ?_)
      obtain ⟨m', hm', he⟩ := List.mem_map.mp hm
      exact ⟨m', List.mem_append_left l hm', he⟩
    have hinsert : (Keyed.insert m.1 m.2 acc).Perm (m :: acc) := perm_insert hfresh
    refine (ih _ ?_).trans ((hinsert.append_right l).trans hmiddle.symm)
    exact ((hinsert.append_right l).map Prod.fst).nodup_iff.mpr h'

/-! ## Faithful records -/

/-- A field takes back what it writes, and gets back what was not written or is null. -/
structure RecordField.Faithful (d : Nat) (field : RecordField α) : Prop where
  format : field.format.Faithful d
  absent : ∀ x, field.omitted x = true ∨ field.format.encode x = .null → field.absent.Gives x

/-- A field that is always written, and never as null. -/
theorem Format.Faithful.field {f : Format α} (h : f.Faithful d) (hnull : ∀ x, f.encode x ≠ .null)
    (name : String) (absent : Absent α) :
    RecordField.Faithful d ⟨name, f, absent, fun _ => false⟩ where
  format := h
  absent x hx := by
    rcases hx with hx | hx
    · cases hx
    · exact absurd hx (hnull x)

/-- A text that may be missing. -/
theorem faithful_optional (d : Nat) {name : String} {absent : Absent (Option String)}
    (habsent : absent.Gives none) {omitted : Option String → Bool}
    (homitted : ∀ s, omitted (some s) = false) :
    RecordField.Faithful d ⟨name, Format.text.option, absent, omitted⟩ where
  format := Format.faithful_option_text d
  absent x hx := by
    cases x with
    | none => exact habsent
    | some s =>
      rcases hx with hx | hx
      · dsimp only at hx
        rw [homitted] at hx
        cases hx
      · cases hx

namespace Layout

variable {layout : Layout ts} {xs : Values ts} {seen : List String}

/-- All fields take back what they write. -/
def Faithful (d : Nat) : {ts : List Type} → Layout ts → Prop
  | _, .nil => True
  | _, .cons field rest => field.Faithful d ∧ rest.Faithful d

theorem keys_encode (layout : Layout ts) (xs : Values ts) :
    ((layout.encode xs).map Prod.fst).Sublist layout.names := by
  induction layout with
  | nil => exact List.Sublist.slnil
  | cons field rest ih =>
    obtain ⟨x, xs⟩ := xs
    rw [encode, names]
    split
    · exact (ih xs).cons _
    · exact (ih xs).cons_cons _

/-- What a record writes means its values, also in order. -/
theorem holds_encode (hn : layout.names.Nodup) (h : layout.Faithful d) :
    ∀ m ∈ layout.encode xs, layout.Holds d xs m.1 m.2 ∧ layout.Holds d xs m.1 m.2.canonical := by
  induction layout with
  | nil => nofun
  | cons field rest ih =>
    obtain ⟨x, xs⟩ := xs
    obtain ⟨⟨hfield, -⟩, hrest⟩ := h
    obtain ⟨hfresh, hn⟩ := List.nodup_cons.mp hn
    have hlater : ∀ m ∈ rest.encode xs,
        (Layout.cons field rest).Holds d (x, xs) m.1 m.2 ∧
          (Layout.cons field rest).Holds d (x, xs) m.1 m.2.canonical := by
      intro m hm
      have hne : m.1 ≠ field.name := by
        intro he
        refine hfresh ((keys_encode rest xs).subset ?_)
        rw [← he]
        exact List.mem_map_of_mem hm
      obtain ⟨h₁, h₂⟩ := ih hn hrest m hm
      exact ⟨.inr ⟨hne, h₁⟩, .inr ⟨hne, h₂⟩⟩
    intro m hm
    rw [encode] at hm
    split at hm
    · exact hlater m hm
    · rcases List.mem_cons.mp hm with rfl | hm
      · exact ⟨.inl ⟨rfl, (hfield x).1⟩, .inl ⟨rfl, (hfield x).2⟩⟩
      · exact hlater m hm

/-- What a record does not write, or writes as null, need not be there. -/
theorem defaults_encode (h : layout.Faithful d)
    (hseen : ∀ m ∈ layout.encode xs, m.1 ∈ seen ∨ m.2 = .null) : layout.Defaults xs seen := by
  induction layout with
  | nil => trivial
  | cons field rest ih =>
    obtain ⟨x, xs⟩ := xs
    obtain ⟨⟨-, hgives⟩, hrest⟩ := h
    rw [encode] at hseen
    split at hseen
    · next homitted => exact ⟨.inr (hgives x (.inl homitted)), ih hrest hseen⟩
    · refine ⟨?_, ih hrest fun m hm => hseen m (List.mem_cons_of_mem _ hm)⟩
      exact (hseen _ List.mem_cons_self).imp_right fun hnull => hgives x (.inr hnull)

end Layout

/-- A member that is not null. -/
def isGiven (m : String × Json) : Bool :=
  match m.2 with
  | .null => false
  | _ => true

theorem eq_null_of_not_isGiven {m : String × Json} (h : isGiven m = false) : m.2 = .null := by
  unfold isGiven at h
  split at h
  · next hnull => exact hnull
  · cases h

/-- A document without the members of its outermost object that are null. -/
def withoutNulls : Json → Json
  | .object members => .object (members.filter isGiven)
  | v => v

/-- Records whose fields are faithful. -/
inductive Format.OfFields (d : Nat) : Format α → Prop where
  | record {ts : List Type} (name : String) {layout : Layout ts} {make : Layout.Values ts → α}
      {parts : α → Layout.Values ts} (fields : layout.Faithful d) (distinct : layout.names.Nodup)
      (inverse : ∀ a, make (parts a) = a) : OfFields d (Format.record name layout make parts)

namespace Format.OfFields

variable {f : Format α} {a : α} {written members : List (String × Json)}

/-- A record is written as an object that gives no field twice. -/
theorem exists_written (h : f.OfFields d) (a : α) :
    ∃ written, f.encode a = .object written ∧ (written.map Prod.fst).Nodup := by
  obtain @⟨ts, name, layout, make, parts, -, hn, -⟩ := h
  exact ⟨_, rfl, (Layout.keys_encode layout (parts a)).nodup hn⟩

/-- **A record is taken back from what it writes**, in any order, with the members of all objects
in order or not, and without any members that are null. -/
theorem means_of_perm (h : f.OfFields d) (hw : f.encode a = .object written) {form : Json → Json}
    (hform : form = id ∨ form = canonical) (keep : String × Json → Bool)
    (hkeep : ∀ m, keep m = false → m.2 = .null)
    (hp : members.Perm ((written.filter keep).map fun m => (m.1, form m.2))) :
    Means (d + 1) f (.object members) a := by
  obtain @⟨ts, name, layout, make, parts, hl, hn, hmake⟩ := h
  obtain rfl : layout.encode (parts a) = written := Json.object.inj hw
  have hholds : ∀ m ∈ layout.encode (parts a), layout.Holds d (parts a) m.1 (form m.2) := by
    intro m hm
    obtain rfl | rfl := hform
    · exact (Layout.holds_encode hn hl m hm).1
    · exact (Layout.holds_encode hn hl m hm).2
  have hkeys : (members.map Prod.fst).Perm
      (((layout.encode (parts a)).filter keep).map Prod.fst) := by
    have hp' := hp.map Prod.fst
    rwa [List.map_map] at hp'
  have hmeans : Means (d + 1) (Format.record name layout make parts) (.object members)
      (make (parts a)) := by
    refine Means.record hn (fun m hm => ?_) ?_ (Layout.defaults_encode hl fun m hm => ?_) name make
      parts
    · obtain ⟨m', hm', rfl⟩ := List.mem_map.mp (hp.mem_iff.mp hm)
      exact hholds m' (List.mem_of_mem_filter hm')
    · refine hkeys.nodup_iff.mpr ?_
      exact ((List.filter_sublist.map Prod.fst).trans (Layout.keys_encode layout _)).nodup hn
    · cases hk : keep m with
      | false => exact .inr (hkeep m hk)
      | true =>
        refine .inl (hkeys.mem_iff.mpr (List.mem_map_of_mem ?_))
        exact List.mem_filter.mpr ⟨hm, hk⟩
  rwa [hmake] at hmeans

/-- **A record with faithful fields is faithful**, one level deeper. -/
theorem faithful (h : f.OfFields d) : f.Faithful (d + 1) := by
  intro a
  obtain ⟨written, hw, hkeys⟩ := h.exists_written a
  rw [hw, canonical]
  constructor
  · refine h.means_of_perm hw (.inl rfl) (fun _ => true) nofun ?_
    simp
  · refine h.means_of_perm hw (.inr rfl) (fun _ => true) nofun ?_
    have hkeys' : ((canonicalMembers written).map Prod.fst).Nodup := by
      rw [canonicalMembers_eq, List.map_map]
      exact hkeys
    refine (perm_sort hkeys').trans ?_
    rw [canonicalMembers_eq, List.filter_true]

/-- **Members that are null need not be there.** -/
theorem means_withoutNulls (h : f.OfFields d) (a : α) :
    Means (d + 1) f (f.encode a).withoutNulls a := by
  obtain ⟨written, hw, -⟩ := h.exists_written a
  rw [hw]
  refine h.means_of_perm hw (.inl rfl) isGiven (fun _ => eq_null_of_not_isGiven) ?_
  simp

theorem roundTrips_withoutNulls (h : f.OfFields d) (hd : d + 1 ≤ maxDepth) (a : α) :
    f.ofJson (f.encode a).withoutNulls = .ok a ∧
      f.ofText (f.encode a).withoutNulls.compact = .ok a :=
  ⟨ofJson_of_means (h.means_withoutNulls a), ofText_of_means (h.means_withoutNulls a) hd⟩

end Format.OfFields

/-! ## Tagged records -/

section Tagging

open Format (Tagging decodeTagging readTagging)

variable {tag : String} {case_ : Format α} {a : α} {members : List (String × Json)}
  {found : Tagging α}

/-- What was met of a tagged record after some more members. -/
def met (tag : String) (a : α) (found : Tagging α) (members : List (String × Json)) : Tagging α where
  tag := if tag ∈ members.map Prod.fst then some a else found.tag
  others := found.others ++ members.filter (·.1 ≠ tag)

theorem met_nil (tag : String) (a : α) (found : Tagging α) : met tag a found [] = found := by
  simp [met]

theorem met_cons_tag (v : Json) (h : tag ∉ members.map Prod.fst) :
    met tag a found ((tag, v) :: members) = met tag a { found with tag := some a } members := by
  simp only [met, List.map_cons, List.mem_cons_self, if_true, if_neg h, ne_eq,
    not_true_eq_false, decide_false, Bool.false_eq_true, not_false_eq_true,
    List.filter_cons_of_neg]

theorem met_cons_other {k : String} (v : Json) (hk : k ≠ tag) :
    met tag a found ((k, v) :: members) =
      met tag a { found with others := found.others ++ [(k, v)] } members := by
  have hmem : tag ∈ ((k, v) :: members).map Prod.fst ↔ tag ∈ members.map Prod.fst := by
    rw [List.map_cons, List.mem_cons, or_iff_right (Ne.symm hk)]
  simp only [met, hmem, ne_eq, hk, not_false_eq_true, decide_true, List.filter_cons_of_pos,
    List.append_assoc, List.singleton_append]

/-- The members of a tagged record are told apart, in any order. -/
theorem decodeTagging_eq (hkeys : (members.map Prod.fst).Nodup)
    (htag : ∀ m ∈ members, m.1 = tag → Means d case_ m.2 a)
    (hfound : tag ∈ members.map Prod.fst → found.tag = none) :
    decodeTagging tag case_ carrier members found = .ok (met tag a found members) := by
  induction members generalizing found with
  | nil => rw [decodeTagging, met_nil]
  | cons m members ih =>
    obtain ⟨k, v⟩ := m
    obtain ⟨hfresh, hkeys⟩ := List.nodup_cons.mp hkeys
    have hrest : ∀ m ∈ members, m.1 = tag → Means d case_ m.2 a := fun m hm =>
      htag m (List.mem_cons_of_mem _ hm)
    rw [decodeTagging]
    by_cases hk : k = tag
    · subst hk
      have hnone : found.tag = none := hfound List.mem_cons_self
      simp only [if_true, hnone, Option.isSome_none, Bool.false_eq_true, if_false,
        (htag _ List.mem_cons_self rfl).decodes, bind, Except.bind]
      rw [ih hkeys hrest fun hmem => absurd hmem hfresh, met_cons_tag v hfresh]
    · rw [if_neg hk, met_cons_other v hk]
      exact ih hkeys hrest fun hmem => hfound (List.mem_cons_of_mem _ hmem)

/-- So are the texts of the members. -/
theorem readTagging_eq (hkeys : (members.map Prod.fst).Nodup)
    (htag : ∀ m ∈ members, m.1 = tag → Means d case_ m.2 a)
    (hlegible : ∀ m ∈ members, Legible d m.2)
    (hfound : tag ∈ members.map Prod.fst → found.tag = none) {depth : Nat} (hd : d ≤ depth)
    (tail : List Char) (fuel : Nat) (hfuel : members.length < fuel) (first : Bool) (offset : Nat) :
    ∃ offset', readTagging tag case_ depth fuel first found
        ⟨membersFrom first members ++ tail, offset⟩ =
      .ok (.ok (met tag a found members), ⟨'\x7d' :: tail, offset'⟩) := by
  induction members generalizing found fuel first offset with
  | nil =>
    obtain ⟨fuel, rfl⟩ : ∃ n, fuel = n + 1 := ⟨fuel - 1, by simp at hfuel; omega⟩
    obtain ⟨offset', hend⟩ := nextKey_end first blank_nil tail offset
    rw [List.nil_append] at hend
    refine ⟨offset', ?_⟩
    rw [readTagging, membersFrom, List.singleton_append, hend, met_nil]
    rfl
  | cons m members ih =>
    obtain ⟨k, v⟩ := m
    obtain ⟨fuel, rfl⟩ : ∃ n, fuel = n + 1 := ⟨fuel - 1, by simp at hfuel; omega⟩
    obtain ⟨hfresh, hkeys⟩ := List.nodup_cons.mp hkeys
    have hrest : ∀ m ∈ members, m.1 = tag → Means d case_ m.2 a := fun m hm =>
      htag m (List.mem_cons_of_mem _ hm)
    have hlater : ∀ m ∈ members, Legible d m.2 := fun m hm =>
      hlegible m (List.mem_cons_of_mem _ hm)
    have hfuel' : members.length < fuel := by simpa using hfuel
    obtain ⟨c, o₁, hnext, hkey⟩ := nextKey_key first blank_nil k
      (':' :: (v.compactChars ++ (membersFrom false members ++ tail))) offset
    rw [List.nil_append] at hnext
    have htext : membersFrom first ((k, v) :: members) ++ tail =
        separator first ++ (stringChars k ++
          ':' :: (v.compactChars ++ (membersFrom false members ++ tail))) := by
      simp [membersFrom]
    have hends := ends_membersFrom members tail
    rw [htext, readTagging, hnext]
    simp only [bind, Except.bind, if_true, hkey]
    by_cases hk : k = tag
    · subst hk
      have hnone : found.tag = none := hfound List.mem_cons_self
      obtain ⟨o₂, hread⟩ := (htag _ List.mem_cons_self rfl).reads depth hd _ (o₁ + 1) hends
      -- the tag cannot come a second time
      have honce : k ∈ members.map Prod.fst →
          ({ found with tag := some a } : Tagging α).tag = none :=
        fun hmem => absurd hmem hfresh
      obtain ⟨o₃, hmore⟩ := ih hkeys hrest hlater honce fuel hfuel' false o₂
      refine ⟨o₃, ?_⟩
      simp only [if_true, hnone, Option.isSome_none, Bool.false_eq_true, if_false, readColon_colon,
        hread, hmore, met_cons_tag v hfresh]
    · obtain ⟨o₂, hread⟩ := (hlegible _ List.mem_cons_self).reads depth hd _ (o₁ + 1) hends
      have hfound' : tag ∈ members.map Prod.fst →
          ({ found with others := found.others ++ [(k, v)] } : Tagging α).tag = none :=
        fun hmem => hfound (List.mem_cons_of_mem _ hmem)
      obtain ⟨o₃, hmore⟩ := ih hkeys hrest hlater hfound' fuel hfuel' false o₂
      refine ⟨o₃, ?_⟩
      simp only [if_neg hk, readColon_colon, hread, hmore, met_cons_other v hk]

/-- **A tag and the members of its case mean a value**, in any order. -/
theorem Means.tagged {b : β} {encode : β → Json} {body : α → Json → Except Cause β}
    (hkeys : (members.map Prod.fst).Nodup) (hmem : tag ∈ members.map Prod.fst)
    (htag : ∀ m ∈ members, m.1 = tag → Means d case_ m.2 a)
    (hlegible : ∀ m ∈ members, Legible d m.2)
    (hbody : body a (.object (members.filter (·.1 ≠ tag))) = .ok b) (name : String) :
    Means (d + 1) (.tagged name tag case_ encode body) (.object members) b := by
  have hmet : met tag a {} members =
      { tag := Option.some a, others := members.filter (·.1 ≠ tag) } := by
    rw [met, if_pos hmem]
    rfl
  refine ⟨fun carrier => ?_, fun depth hd tail offset _ => ?_, Legible.object hlegible⟩
  · have hdecode : decodeTagging tag case_ carrier members {} = .ok (met tag a {} members) :=
      decodeTagging_eq hkeys htag fun _ => rfl
    rw [hmet] at hdecode
    simp only [Format.tagged, hdecode, bind, Except.bind, Format.tagged.tagOf, hbody]
  · obtain ⟨depth, rfl⟩ : ∃ n, depth = n + 1 := ⟨depth - 1, by omega⟩
    have hd' : d ≤ depth := by omega
    have hlen := length_lt_membersFrom members true
    have hnone : tag ∈ members.map Prod.fst → ({} : Tagging α).tag = none := fun _ => rfl
    obtain ⟨o₁, hread⟩ := readTagging_eq hkeys htag hlegible hnone hd' tail
      ((membersFrom true members ++ tail).length + 1) (by rw [List.length_append]; omega) true
      (offset + 1)
    rw [hmet] at hread
    refine ⟨o₁ + 1, ?_⟩
    rw [compactChars_object, List.cons_append]
    unfold Format.tagged
    dsimp only
    rw [skipBlanks_cons rfl]
    simp only [hread, bind, Except.bind, Format.tagged.tagOf, pure, Except.pure, settle,
      closeObject_end, closed, Format.tagged.finish, hbody]

end Tagging

end Clearance.Json
