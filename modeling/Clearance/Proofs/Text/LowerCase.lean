import Mathlib.Data.List.Forall2
import Clearance.Proofs.Text.UpperCase

/-!
# Lower case, and upper case after it

Lower case goes letter by letter, a capital sigma apart, whose form depends on its neighbours up to
the next slash.  It gives white space and slashes only where they were, so that a text keeps its
segments.  Upper case after lower case does not depend on neighbours any more, and gives what upper
case alone gives but for six capitals to which no small letter leads back.

## Main definitions

* `oneWayCapitals`: these six
* `Small`: a character that lower case gives for another one
* `LowerForm`: the forms of a character in a text in lower case
* `Span.comesBack`, `Span.recased`: the checks of a run of the table

## Main results

* `upperChars_lowerOf`: upper case after lower case, for one character
* `lowerChars_append_slash`: the segments of a text in lower case
* `Trimmed.lowerChars`: lower case leaves a trimmed text trimmed
* `upperChars_lowerChars_eq_iff`: when lower case does not matter to upper case
-/

namespace Clearance.Text

variable {c d : Char} {cs form : List Char} {n : Nat} {s : Span} {spans : List Span}

/-- The capitals whose lower-case form has another upper-case form: I with a dot above, the theta
symbol, sharp S, and the signs of ohm, kelvin and angstrom. -/
def oneWayCapitals : List Char := ['\u0130', '\u03F4', '\u1E9E', '\u2126', '\u212A', '\u212B']

namespace Span

/-! ## Runs of capitals and their images -/

/-- The images of a run lie among the letters, and none is a one-way capital. -/
def small (s : Span) : Bool :=
  letterStretches.any (fun (lo, hi) => Nat.ble lo s.target.first && Nat.ble s.target.last hi) &&
    oneWayCapitals.all fun c => (point c.toNat).apart s.target

/-- A table gives for each image of a run the code point whose image it is. -/
def comesBack (s : Span) : List Span → Bool
  | [] => false
  | t :: rest =>
    Nat.ble t.first s.image &&
      ((Nat.blt t.last s.image && s.comesBack rest) ||
        (Nat.ble s.target.last t.last && (s.image - t.first) % t.step == 0 &&
          s.step % t.step == 0 && t.image + (s.image - t.first) == s.first))

/-- The characters of a run with their images. -/
def pairs (s : Span) : List (Char × Char) :=
  (List.range ((s.last - s.first) / s.step + 1)).map fun k =>
    (Char.ofNat (s.first + s.step * k), Char.ofNat (s.image + s.step * k))

/-- Upper case gives the same for the characters of a run and for their images, one-way capitals
apart: as a rule the run comes back, and the few others are compared one by one. -/
def recased (s : Span) : Bool :=
  (s.settled && s.comesBack upperSpans) ||
    s.pairs.all fun (c, d) => upperOf d == upperOf c || oneWayCapitals.contains c

theorem small_lowerSpans : ∀ s ∈ lowerSpans, s.small = true :=
  List.all_eq_true.mp (by decide +kernel)

/-- **Upper case leads back from the images of the table**, one-way capitals apart. -/
theorem recased_lowerSpans : ∀ s ∈ lowerSpans, s.recased = true :=
  List.all_eq_true.mp (by decide +kernel)

/-- No table of capitals gives a one-way capital. -/
theorem apart_upperSpans :
    ∀ s ∈ upperSpans, ∀ c ∈ oneWayCapitals, (point c.toNat).apart s.target = true := by
  have hall : (upperSpans.all fun s =>
      oneWayCapitals.all fun c => (point c.toNat).apart s.target) = true := by decide +kernel
  simpa only [List.all_eq_true] using hall

theorem not_mem_of_mem_upperExpansions :
    ∀ e ∈ upperExpansions, ∀ n ∈ e.2, Char.ofNat n ∉ oneWayCapitals := by
  decide +kernel

theorem imageIn_of_comesBack (h : s.comesBack spans = true) (hn : s.Has n) :
    imageIn spans (s.image + (n - s.first)) = some n := by
  obtain ⟨hfirst, hlast, hstep⟩ := id hn
  induction spans with
  | nil => cases h
  | cons t rest ih =>
    simp only [comesBack, Bool.and_eq_true, Bool.or_eq_true, Nat.ble_eq, Nat.blt_eq,
      beq_iff_eq] at h
    obtain ⟨hbegin, ⟨hpast, hrest⟩ | ⟨⟨⟨hend, hon⟩, hsteps⟩, hback⟩⟩ := h
    · -- the run lies behind this one
      rw [imageIn, if_neg (by omega), if_neg (by omega)]
      exact ih hrest
    · have hle : s.image + (n - s.first) ≤ t.last := by
        have : s.target.last = s.image + (s.last - s.first) := rfl
        omega
      have hon' : (s.image + (n - s.first) - t.first) % t.step = 0 := by
        have hdvd : t.step ∣ n - s.first :=
          Nat.dvd_trans (Nat.dvd_of_mod_eq_zero hsteps) (Nat.dvd_of_mod_eq_zero hstep)
        rw [Nat.sub_add_comm hbegin]
        exact Nat.mod_eq_zero_of_dvd (Nat.dvd_add (Nat.dvd_of_mod_eq_zero hon) hdvd)
      rw [imageIn, if_neg (by omega), if_pos hle, if_pos hon']
      congr 1
      omega

theorem mem_pairs (hn : s.Has n) :
    (Char.ofNat n, Char.ofNat (s.image + (n - s.first))) ∈ s.pairs := by
  obtain ⟨hfirst, hlast, hstep⟩ := hn
  have hk : s.step * ((n - s.first) / s.step) = n - s.first :=
    Nat.mul_div_cancel' (Nat.dvd_of_mod_eq_zero hstep)
  refine List.mem_map.mpr ⟨(n - s.first) / s.step, List.mem_range.mpr ?_, ?_⟩
  · exact Nat.lt_succ_of_le (Nat.div_le_div_right (by omega))
  · rw [hk, Nat.add_sub_cancel' hfirst]

end Span

/-! ## Single characters -/

/-- A character that lower case gives for another one: neither white space nor a slash, and no
one-way capital. -/
structure Small (d : Char) : Prop where
  not_blank : isBlank d = false
  ne_slash : d ≠ '/'
  not_oneWay : d ∉ oneWayCapitals

theorem Span.small_ofNat (h : s.small = true) (hn : s.Has n) :
    (Char.ofNat (s.image + (n - s.first))).toNat = s.image + (n - s.first) ∧
      Small (Char.ofNat (s.image + (n - s.first))) := by
  simp only [small, Bool.and_eq_true, List.any_eq_true, List.all_eq_true, Nat.ble_eq] at h
  obtain ⟨⟨⟨lo, hi⟩, hmem, hlo, hhi⟩, hapart⟩ := h
  obtain ⟨hfirst, hlast, -⟩ := id (has_target hn)
  obtain ⟨hk, hblank, hslash⟩ := ofNat_of_mem_stretch hmem (Nat.le_trans hlo hfirst)
    (Nat.le_trans hlast hhi)
  refine ⟨hk, hblank, hslash, fun hone => ?_⟩
  refine not_has_of_apart (hapart _ hone) (has_point _) ?_
  rw [hk]
  exact has_target hn

/-- **What lower case gives** was left as it is, or is small. -/
theorem lowerOf_cases (h : d ∈ lowerOf c) : lowerOf c = [c] ∧ d = c ∨ Small d := by
  unfold lowerOf at h ⊢
  split at h
  · -- an `i` with a dot above
    simp only [List.mem_cons, List.not_mem_nil, or_false] at h
    rcases h with rfl | rfl <;> exact .inr ⟨by decide, by decide, by decide⟩
  · next hc =>
    rw [if_neg hc]
    cases hk : imageIn lowerSpans c.toNat with
    | none =>
      rw [hk] at h
      exact .inl ⟨rfl, List.mem_singleton.mp h⟩
    | some k =>
      rw [hk] at h
      obtain ⟨s, hs, hn, rfl⟩ := Span.exists_of_imageIn hk
      obtain rfl := List.mem_singleton.mp h
      exact .inr (Span.small_ofNat (Span.small_lowerSpans s hs) hn).2

/-- **Upper case after lower case** is upper case, one-way capitals apart. -/
theorem upperChars_lowerOf (h : c ∉ oneWayCapitals) : upperChars (lowerOf c) = upperOf c := by
  unfold lowerOf
  split
  · next hc => exact absurd (hc ▸ List.mem_cons_self) h
  · cases hk : imageIn lowerSpans c.toNat with
    | none => exact List.flatMap_singleton ..
    | some k =>
      obtain ⟨s, hs, hn, rfl⟩ := Span.exists_of_imageIn hk
      show upperChars [_] = _
      rw [upperChars, List.flatMap_singleton]
      have hrecased := Span.recased_lowerSpans s hs
      simp only [Span.recased, Bool.or_eq_true, Bool.and_eq_true, List.all_eq_true] at hrecased
      -- the run comes back as a whole, or its characters were compared one by one
      rcases hrecased with ⟨hsettled, hback⟩ | hpairs
      · obtain ⟨htoNat, -⟩ := Span.small_ofNat (Span.small_lowerSpans s hs) hn
        have hc := (Span.settled_ofNat hsettled hn).upperOf_eq
        rw [Char.ofNat_toNat] at hc
        rw [hc, upperOf, htoNat, Span.imageIn_of_comesBack hback hn]
        simp
      · have hpair := hpairs _ (Span.mem_pairs hn)
        rw [Char.ofNat_toNat] at hpair
        simpa [h] using hpair

/-- Upper case gives a one-way capital for itself alone. -/
theorem eq_of_mem_upperOf (h : d ∈ upperOf c) (hd : d ∈ oneWayCapitals) : d = c := by
  unfold upperOf at h
  cases hk : imageIn upperSpans c.toNat with
  | some k =>
    rw [hk] at h
    obtain ⟨s, hs, hn, rfl⟩ := Span.exists_of_imageIn hk
    obtain ⟨htoNat, -⟩ := Span.plain_of_settled (Span.settled_upperSpans s hs) (Span.has_target hn)
    refine absurd (Span.has_target hn) (Span.not_has_of_apart (Span.apart_upperSpans s hs d hd) ?_)
    rw [List.mem_singleton.mp h, htoNat]
    exact Span.has_point _
  | none =>
    simp only [hk] at h
    split at h
    · exact List.mem_singleton.mp h
    · split at h
      · next ns hl =>
        obtain ⟨front, back, he, -⟩ := List.lookup_eq_some_iff.mp hl
        obtain ⟨n, hn, hne⟩ := List.mem_map.mp h
        have hmem : (c.toNat, ns) ∈ upperExpansions := he ▸ by simp
        exact absurd (hne ▸ hd) (Span.not_mem_of_mem_upperExpansions _ hmem n hn)
      · exact List.mem_singleton.mp h

/-- Upper case keeps a one-way capital, and lower case does not. -/
theorem fixed_of_oneWay (h : c ∈ oneWayCapitals) : upperOf c = [c] ∧ lowerOf c ≠ [c] := by
  have hall : (oneWayCapitals.all fun c => upperOf c = [c] ∧ lowerOf c ≠ [c]) = true := by
    decide +kernel
  exact of_decide_eq_true (List.all_eq_true.mp hall c h)

/-- Upper case gives one-way capitals exactly where they were. -/
theorem mem_upperChars_iff_of_oneWay (h : c ∈ oneWayCapitals) : c ∈ upperChars cs ↔ c ∈ cs := by
  rw [upperChars, List.mem_flatMap]
  constructor
  · rintro ⟨b, hb, hc⟩
    rwa [eq_of_mem_upperOf hc h]
  · intro hc
    exact ⟨c, hc, by simp [(fixed_of_oneWay h).1]⟩

/-! ## Texts -/

/-- The forms of a character in a text in lower case: its own one, and for a capital sigma the final
one too. -/
def LowerForm (c : Char) (form : List Char) : Prop := form = lowerOf c ∨ c = 'Σ' ∧ form = ['ς']

theorem LowerForm.cases (h : LowerForm c form) (hd : d ∈ form) :
    lowerOf c = [c] ∧ d = c ∨ Small d := by
  rcases h with rfl | ⟨-, rfl⟩
  · exact lowerOf_cases hd
  · obtain rfl := List.mem_singleton.mp hd
    exact .inr ⟨by decide, by decide, by decide⟩

theorem LowerForm.not_blank (h : LowerForm c form) (hc : isBlank c = false) (hd : d ∈ form) :
    isBlank d = false := by
  rcases h.cases hd with ⟨-, rfl⟩ | hsmall
  · exact hc
  · exact hsmall.not_blank

theorem LowerForm.ne_nil (h : LowerForm c form) : form ≠ [] := by
  rcases h with rfl | ⟨-, rfl⟩
  · unfold lowerOf
    split
    · simp
    · split <;> simp
  · simp

theorem LowerForm.upperChars_eq (h : LowerForm c form) :
    upperChars form = upperChars (lowerOf c) := by
  rcases h with rfl | ⟨rfl, rfl⟩
  · rfl
  · decide

/-- **Lower case goes letter by letter**, a form for each. -/
theorem exists_forms (before cs : List Char) :
    ∃ forms, List.Forall₂ LowerForm cs forms ∧ lowerAfter before cs = forms.flatten := by
  induction cs generalizing before with
  | nil => exact ⟨[], .nil, rfl⟩
  | cons c rest ih =>
    obtain ⟨forms, hforms, hrest⟩ := ih (c :: before)
    have hform : LowerForm c (if c = 'Σ' then [sigmaBetween before rest] else lowerOf c) := by
      split
      · next hc =>
        -- a final sigma, or the one that a capital sigma has by itself
        unfold sigmaBetween
        split
        · exact .inr ⟨hc, rfl⟩
        · exact .inl (by rw [hc]; decide)
      · exact .inl rfl
    refine ⟨_ :: forms, .cons hform hforms, ?_⟩
    rw [lowerAfter, hrest, List.flatten_cons]

/-- Upper case after lower case goes letter by letter, whatever stands before. -/
theorem upperChars_lowerAfter (before cs : List Char) :
    upperChars (lowerAfter before cs) = cs.flatMap fun c => upperChars (lowerOf c) := by
  obtain ⟨forms, hforms, heq⟩ := exists_forms before cs
  rw [heq]
  clear heq
  induction hforms with
  | nil => rfl
  | cons hform _ ih =>
    rw [List.flatten_cons, upperChars_append, ih, hform.upperChars_eq, List.flatMap_cons]

/-- What stands in a text in lower case was in the text, or is small. -/
theorem mem_lowerChars (h : d ∈ lowerChars cs) : (d ∈ cs ∧ lowerOf d = [d]) ∨ Small d := by
  obtain ⟨forms, hforms, heq⟩ := exists_forms [] cs
  rw [lowerChars, heq] at h
  clear heq
  induction hforms with
  | nil => cases h
  | cons hform _ ih =>
    rw [List.flatten_cons, List.mem_append] at h
    rcases h with h | h
    · refine (hform.cases h).imp_left ?_
      rintro ⟨hc, rfl⟩
      exact ⟨List.mem_cons_self, hc⟩
    · exact (ih h).imp_left fun ⟨hmem, hd⟩ => ⟨List.mem_cons_of_mem _ hmem, hd⟩

/-- Lower case gives no slash where there was none. -/
theorem slash_not_mem_lowerChars (h : '/' ∉ cs) : '/' ∉ lowerChars cs := by
  intro hmem
  rcases mem_lowerChars hmem with ⟨hcs, -⟩ | hsmall
  · exact h hcs
  · exact hsmall.ne_slash rfl

theorem lowerChars_eq_nil_iff : lowerChars cs = [] ↔ cs = [] := by
  obtain ⟨forms, hforms, heq⟩ := exists_forms [] cs
  rw [lowerChars, heq]
  cases hforms with
  | nil => simp
  | cons hform _ => simp [hform.ne_nil]

/-- **A trimmed text is trimmed in lower case.** -/
theorem Trimmed.lowerChars (h : Trimmed cs) : Trimmed (lowerChars cs) := by
  obtain ⟨forms, hforms, heq⟩ := exists_forms [] cs
  rw [Text.lowerChars, heq]
  constructor
  · intro d hd
    cases hforms with
    | nil => cases hd
    | cons hform _ =>
      rw [List.flatten_cons, List.head?_append_of_ne_nil _ hform.ne_nil] at hd
      exact hform.not_blank (h.head _ rfl) (List.mem_of_mem_head? hd)
  · intro d hd
    -- the same from the other end
    have hreverse := List.forall₂_reverse_iff.mpr hforms
    obtain ⟨back, rfl⟩ : ∃ back, forms = back.reverse := ⟨forms.reverse, by simp⟩
    rw [List.reverse_reverse] at hreverse
    cases hcs : cs.reverse with
    | nil =>
      rw [hcs] at hreverse
      cases hreverse
      cases hd
    | cons c front =>
      rw [hcs] at hreverse
      have hlast : c ∈ cs.getLast? := by
        rw [← List.head?_reverse, hcs]
        rfl
      cases hreverse with
      | cons hform _ =>
        rw [List.reverse_cons, List.flatten_append, List.flatten_singleton,
          List.getLast?_append_of_ne_nil _ hform.ne_nil] at hd
        exact hform.not_blank (h.last _ hlast) (List.mem_of_mem_getLast? hd)

/-! ## Segments -/

theorem meetsCased_cons (c : Char) (cs : List Char) :
    meetsCased (c :: cs) =
      if inRanges caseIgnorableRanges c.toNat then meetsCased cs
      else inRanges casedRanges c.toNat := by
  by_cases hc : inRanges caseIgnorableRanges c.toNat = true
  · simp [meetsCased, hc]
  · simp [meetsCased, hc]

/-- A slash ends the search for a letter with case. -/
theorem meetsCased_append_slash (xs ys : List Char) :
    meetsCased (xs ++ '/' :: ys) = meetsCased xs := by
  induction xs with
  | nil => rfl
  | cons c rest ih =>
    rw [List.cons_append, meetsCased_cons, meetsCased_cons, ih]

/-- What stands before a slash does not matter to what follows it. -/
theorem lowerAfter_append_slash_left (xs before cs : List Char) :
    lowerAfter (xs ++ '/' :: before) cs = lowerAfter xs cs := by
  induction cs generalizing xs with
  | nil => rfl
  | cons c rest ih =>
    rw [lowerAfter, lowerAfter, sigmaBetween, sigmaBetween, meetsCased_append_slash]
    exact congrArg _ (ih (c :: xs))

theorem lowerAfter_append_slash (before xs ys : List Char) :
    lowerAfter before (xs ++ '/' :: ys) = lowerAfter before xs ++ '/' :: lowerChars ys := by
  induction xs generalizing before with
  | nil =>
    have hslash : lowerOf '/' = ['/'] := by decide
    show (if '/' = 'Σ' then _ else lowerOf '/') ++ lowerAfter ('/' :: before) ys = _
    rw [if_neg (by decide), hslash]
    exact congrArg _ (lowerAfter_append_slash_left [] before ys)
  | cons c rest ih =>
    rw [List.cons_append, lowerAfter, ih, lowerAfter, sigmaBetween, sigmaBetween,
      meetsCased_append_slash, List.append_assoc]

/-- **The segments of a text in lower case** are those of the text, each in lower case. -/
theorem lowerChars_append_slash (xs ys : List Char) :
    lowerChars (xs ++ '/' :: ys) = lowerChars xs ++ '/' :: lowerChars ys :=
  lowerAfter_append_slash [] xs ys

/-! ## Upper case after lower case -/

/-- **Lower case does not matter to upper case** exactly where there is no one-way capital. -/
theorem upperChars_lowerChars_eq_iff :
    upperChars (lowerChars cs) = upperChars cs ↔ ∀ c ∈ cs, c ∉ oneWayCapitals := by
  rw [lowerChars, upperChars_lowerAfter]
  constructor
  · intro h c hc hone
    -- upper case keeps the capital, so that it would have to come back from lower case
    have hmem : c ∈ upperChars cs := (mem_upperChars_iff_of_oneWay hone).mpr hc
    rw [← h] at hmem
    obtain ⟨e, -, he⟩ := List.mem_flatMap.mp hmem
    obtain ⟨d, hd, hcd⟩ := List.mem_flatMap.mp he
    obtain rfl := eq_of_mem_upperOf hcd hone
    rcases lowerOf_cases hd with ⟨he, rfl⟩ | hsmall
    · exact (fixed_of_oneWay hone).2 he
    · exact hsmall.not_oneWay hone
  · intro h
    exact List.flatMap_congr fun c hc => upperChars_lowerOf (h c hc)

end Clearance.Text
