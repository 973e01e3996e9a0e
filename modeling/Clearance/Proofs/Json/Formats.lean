import Clearance.Proofs.Json.Documents

/-!
# Forms that take back what they write

A document means a value in a form when the form takes the value from it in both ways, from the
document and from its text.  A form is faithful when the document that it writes for a value means
that value, and so does that document with its members in order.

The forms of values without parts are faithful, and so are those that are made of faithful ones.

## Main definitions

* `Json.Means`: a document means a value in a form
* `Json.Format.Faithful`: a form takes back what it writes
* `Json.Format.RoundTrips`: a value comes back from its document and from its text

## Main results

* `Json.Format.faithful_text`, `Json.Format.faithful_flag`, `Json.Format.faithful_byte`,
  `Json.Format.faithful_word`: values without parts
* `Json.Format.Faithful.list`, `Json.Format.Faithful.map`: values with parts
* `Json.Format.Faithful.roundTrips`: a faithful form that is not too deep takes its values back
-/

namespace Clearance.Json

variable {α β : Type} {f : Format α} {g : Format β} {v : Json} {a : α} {b : β} {d e : Nat}

/-- A document means a value in a form: the form takes the value from the document and from its
text, where `d` arrays and objects may still be nested. -/
structure Means (d : Nat) (f : Format α) (v : Json) (a : α) : Prop where
  decodes : ∀ carrier, f.decode carrier v = .ok a
  reads : ∀ depth, d ≤ depth → Reads (f.read depth) v.compactChars a
  legible : Legible d v

theorem Means.mono (h : Means d f v a) (hde : d ≤ e) : Means e f v a :=
  ⟨h.decodes, fun depth he => h.reads depth (Nat.le_trans hde he), h.legible.mono hde⟩

theorem Means.opens (h : Means d f v a) : Opens v.compactChars := h.legible.opens

/-! ## Values without parts -/

theorem Means.scalar {wanted : String} {encode : α → Json} {pick : Json → Except Cause α}
    (hv : Plain v) (hpick : pick v = .ok a) (d : Nat) :
    Means d (.scalar wanted encode pick) v a where
  decodes _ := hpick
  reads _ _ tail offset ht := by
    obtain ⟨offset', h⟩ := hv.reads tail offset ht
    refine ⟨offset', ?_⟩
    simp only [Format.scalar, hv.opens.skipBlanks, h, hpick]
  legible := hv.legible d

theorem means_natural {wanted : String} {limit n : Nat} (hn : n ≤ limit) (hl : limit ≤ wordLimit)
    (d : Nat) : Means d (.natural wanted limit) (.int n) n := by
  refine Means.scalar (plain_nat (Nat.le_trans hn hl)) ?_ d
  have hrange : (0 : Int) ≤ n ∧ (n : Int) ≤ limit := by omega
  dsimp only
  rw [if_pos hrange, Int.toNat_natCast]

/-! ## Values with parts -/

/-- The same document means the value that a function makes. -/
theorem Means.map (h : Means d f v a) (make : α → β) (back : β → α) :
    Means d (f.map make back) v (make a) where
  decodes carrier := by
    rw [Format.map]
    dsimp only
    rw [h.decodes]
    rfl
  reads depth hd tail offset ht := by
    obtain ⟨offset', hread⟩ := h.reads depth hd tail offset ht
    refine ⟨offset', ?_⟩
    rw [Format.map]
    dsimp only
    rw [hread]
    rfl
  legible := h.legible

theorem means_none (f : Format α) (d : Nat) : Means d f.option .null none where
  decodes _ := rfl
  reads _ _ _ offset _ := ⟨offset + 4, rfl⟩
  legible := plain_null.legible d

/-- A value that is there, where nothing that is written like null means one. -/
theorem Means.some (h : Means d f v a) (hv : v.compactChars.head? ≠ some 'n') :
    Means d f.option v (some a) where
  decodes carrier := by
    have hd := h.decodes carrier
    unfold Format.option
    dsimp only
    split
    · exact absurd rfl hv
    · rw [hd]
      rfl
  reads depth hd tail offset ht := by
    obtain ⟨offset', hread⟩ := h.reads depth hd tail offset ht
    refine ⟨offset', ?_⟩
    obtain ⟨x, rest, hx, -⟩ := h.opens
    rw [hx] at hv
    unfold Format.option
    dsimp only
    rw [h.opens.skipBlanks, hread]
    dsimp only
    split
    · next heq =>
      rw [hx] at heq
      exact absurd (congrArg Option.some (List.cons.inj heq).1) hv
    · rfl
  legible := h.legible

theorem legible_of_forall₂ {vs : List Json} {as : List α} (h : List.Forall₂ (Means d f) vs as) :
    ∀ v ∈ vs, Legible d v := by
  induction h with
  | nil => nofun
  | cons hva _ ih =>
    intro v hv
    rcases List.mem_cons.mp hv with rfl | hv
    · exact hva.legible
    · exact ih v hv

theorem Means.list {vs : List Json} {as : List α} (h : List.Forall₂ (Means d f) vs as) :
    Means (d + 1) f.list (.array vs) as where
  decodes carrier := by
    unfold Format.list
    dsimp only
    induction h with
    | nil => rfl
    | cons hva _ ih =>
      rw [List.mapM_cons, hva.decodes, ih]
      rfl
  reads depth hd tail offset ht := by
    obtain ⟨depth, rfl⟩ : ∃ n, depth = n + 1 := ⟨depth - 1, by omega⟩
    have hitems := h.imp fun v a hva =>
      (⟨hva.opens, hva.reads depth (by omega)⟩ :
        Opens v.compactChars ∧ Reads (f.read depth) v.compactChars a)
    have hlen := length_lt_itemsFrom (fun v hv => (legible_of_forall₂ h v hv).opens) true
    obtain ⟨o₁, hread⟩ := readItems_itemsFrom hitems tail
      ((itemsFrom true vs ++ tail).length + 1) (by rw [List.length_append]; omega) true (offset + 1)
    refine ⟨o₁ + 1, ?_⟩
    rw [compactChars_array, List.cons_append]
    unfold Format.list
    dsimp only
    rw [skipBlanks_cons rfl]
    simp only [bind, Except.bind, hread, closeArray_end, closed, pure, Except.pure]
  legible := Legible.array (legible_of_forall₂ h)

/-- A document that means a value in the first of two forms. -/
theorem Means.inl (h : Means d f v a) (name : String) (g : Format β) :
    Means d (.either name f g) v (.inl a) := by
  have hchoose : Format.either.choose name f g v = .ok (.inl a) := by
    rw [Format.either.choose, h.decodes]
  refine ⟨fun _ => hchoose, fun depth hd tail offset ht => ?_, h.legible⟩
  obtain ⟨offset', hread⟩ := h.legible.reads depth hd tail offset ht
  refine ⟨offset', ?_⟩
  simp only [Format.either, bind, Except.bind, hread, hchoose]

/-- A document that means a value in the second of two forms, and none in the first. -/
theorem Means.inr (h : Means d g v b) (name : String) {cause : Cause}
    (hf : f.decode .setAside v = .error cause) : Means d (.either name f g) v (.inr b) := by
  have hchoose : Format.either.choose name f g v = .ok (.inr b) := by
    rw [Format.either.choose, hf]
    dsimp only
    rw [h.decodes]
  refine ⟨fun _ => hchoose, fun depth hd tail offset ht => ?_, h.legible⟩
  obtain ⟨offset', hread⟩ := h.legible.reads depth hd tail offset ht
  refine ⟨offset', ?_⟩
  simp only [Format.either, bind, Except.bind, hread, hchoose]

namespace Format

/-! ## Faithful forms -/

/-- A form takes back what it writes, also with its members in order. -/
def Faithful (d : Nat) (f : Format α) : Prop :=
  ∀ a, Means d f (f.encode a) a ∧ Means d f (f.encode a).canonical a

/-- A value comes back from its document and from its text, whether its members stand in the order
of the fields or in that of their names. -/
def RoundTrips (f : Format α) : Prop :=
  ∀ a, f.ofJson (f.encode a) = .ok a ∧ f.ofJson (f.encode a).canonical = .ok a ∧
    f.ofText (f.toText a) = .ok a ∧ f.ofText (f.encode a).canonical.compact = .ok a

theorem Faithful.mono (h : Faithful d f) (hde : d ≤ e) : Faithful e f :=
  fun a => ⟨(h a).1.mono hde, (h a).2.mono hde⟩

theorem faithful_text (d : Nat) : Faithful d text := by
  intro s
  have h : Means d text (.string s) s := by
    refine Means.scalar (plain_string s) ?_ d
    rfl
  exact ⟨h, h⟩

theorem faithful_flag (d : Nat) : Faithful d flag := by
  intro b
  have h : Means d flag (.bool b) b := by
    refine Means.scalar (plain_bool b) ?_ d
    rfl
  exact ⟨h, h⟩

theorem faithful_byte (d : Nat) : Faithful d byte := by
  intro b
  have hb : b.toNat ≤ 255 := Nat.le_of_lt_succ b.toNat_lt
  have h : Means d byte (.int b.toNat) (UInt8.ofNat b.toNat) :=
    (means_natural hb (by decide) d).map UInt8.ofNat UInt8.toNat
  rw [UInt8.ofNat_toNat] at h
  exact ⟨h, h⟩

theorem faithful_word (d : Nat) : Faithful d word := by
  intro n
  have hn : n.toNat ≤ UInt64.size - 1 := Nat.le_of_lt_succ n.toNat_lt
  have h : Means d word (.int n.toNat) (UInt64.ofNat n.toNat) :=
    (means_natural hn (Nat.le_refl _) d).map UInt64.ofNat UInt64.toNat
  rw [UInt64.ofNat_toNat] at h
  exact ⟨h, h⟩

theorem Faithful.map (h : Faithful d f) {make : α → β} {back : β → α}
    (hback : ∀ b, make (back b) = b) : Faithful d (f.map make back) := by
  intro b
  have hb := (h (back b)).1.map make back
  have hb' := (h (back b)).2.map make back
  rw [hback] at hb hb'
  exact ⟨hb, hb'⟩

theorem faithful_option_text (d : Nat) : Faithful d text.option := by
  intro o
  cases o with
  | none => exact ⟨means_none text d, means_none text d⟩
  | some s =>
    obtain ⟨h, h'⟩ := faithful_text d s
    exact ⟨h.some nofun, h'.some nofun⟩

/-- A choice between two forms is faithful if no document of the second means anything in the
first. -/
theorem Faithful.either (hf : Faithful d f) (hg : Faithful d g)
    (hno : ∀ b, (∃ cause, f.decode .setAside (g.encode b) = .error cause) ∧
      ∃ cause, f.decode .setAside (g.encode b).canonical = .error cause) (name : String) :
    Faithful d (.either name f g) := by
  intro c
  cases c with
  | inl a => exact ⟨(hf a).1.inl name g, (hf a).2.inl name g⟩
  | inr b =>
    obtain ⟨⟨_, hplain⟩, ⟨_, hsorted⟩⟩ := hno b
    exact ⟨(hg b).1.inr name hplain, (hg b).2.inr name hsorted⟩

theorem canonicalItems_eq (vs : List Json) : canonicalItems vs = vs.map canonical := by
  induction vs with
  | nil => rfl
  | cons v vs ih => rw [canonicalItems, List.map_cons, ih]

theorem Faithful.list (h : Faithful d f) : Faithful (d + 1) f.list := by
  intro as
  have hplain : List.Forall₂ (Means d f) (as.map f.encode) as := by
    rw [List.forall₂_map_left_iff, List.forall₂_same]
    exact fun a _ => (h a).1
  have hsorted : List.Forall₂ (Means d f) (canonicalItems (as.map f.encode)) as := by
    rw [canonicalItems_eq, List.map_map, List.forall₂_map_left_iff, List.forall₂_same]
    exact fun a _ => (h a).2
  exact ⟨Means.list hplain, Means.list hsorted⟩

/-! ## Whole documents -/

theorem ofJson_of_means (h : Means d f v a) : f.ofJson v = .ok a := by
  rw [ofJson, h.decodes]

theorem ofText_of_means (h : Means d f v a) (hd : d ≤ maxDepth) : f.ofText v.compact = .ok a := by
  obtain ⟨offset', hread⟩ := h.reads maxDepth hd [] 0 ends_nil
  rw [List.append_nil] at hread
  have hend : readEnd ⟨[], offset'⟩ = .ok () := rfl
  simp only [ofText, readText, compact, String.toList_ofList, Cursor.start, hread, bind,
    Except.bind, hend, pure, Except.pure]

/-- **A faithful form takes its values back**, unless it is nested too deep to be read. -/
theorem Faithful.roundTrips (h : Faithful d f) (hd : d ≤ maxDepth) : f.RoundTrips := fun a =>
  ⟨ofJson_of_means (h a).1, ofJson_of_means (h a).2, ofText_of_means (h a).1 hd,
    ofText_of_means (h a).2 hd⟩

end Format
end Clearance.Json
