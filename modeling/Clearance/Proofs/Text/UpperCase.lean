import Clearance.Proofs.Text.Trimmed

/-!
# Upper case, twice

A character that upper case gives is not changed by upper case again: either it was left as it is,
or it comes out of a table in which it is not looked up itself.  Nor is it white space or a slash,
unless it was left as it is.  That no image of the tables is among the letters of the tables is
computed, run by run, and all else follows for every text.

## Main definitions

* `Span.Has`, `Span.target`: the code points of a run, and those of its images
* `Span.settled`: the check that a run keeps clear of the tables, of white space and of the slash
* `Settled`: a character with these properties

## Main results

* `upperOf_cases`: a character that upper case gives was left as it is, or is settled
* `upperChars_upperChars`: upper case is idempotent
* `slash_mem_upperChars_iff`: it keeps slashes where they are
* `Trimmed.upperChars`: it leaves a trimmed text trimmed
-/

namespace Clearance.Text

variable {c d : Char} {cs : List Char} {n k : Nat} {s r : Span} {spans : List Span}

namespace Span

/-! ## Runs of code points -/

/-- The code point is one of a run. -/
def Has (s : Span) (n : Nat) : Prop := s.first ≤ n ∧ n ≤ s.last ∧ (n - s.first) % s.step = 0

/-- The run of the images of a run. -/
def target (s : Span) : Span := ⟨s.image, s.image + (s.last - s.first), s.step, s.image⟩

/-- The run of one code point. -/
def point (n : Nat) : Span := ⟨n, n, 1, n⟩

theorem has_point (n : Nat) : (point n).Has n := ⟨Nat.le_refl n, Nat.le_refl n, by simp [point]⟩

theorem has_target (h : s.Has n) : s.target.Has (s.image + (n - s.first)) := by
  obtain ⟨hfirst, hlast, hstep⟩ := h
  refine ⟨Nat.le_add_right _ _, ?_, ?_⟩
  · show s.image + (n - s.first) ≤ s.image + (s.last - s.first)
    omega
  · show (s.image + (n - s.first) - s.image) % s.step = 0
    rw [Nat.add_sub_cancel_left]
    exact hstep

/-- What a table gives comes from one of its runs. -/
theorem exists_of_imageIn (h : imageIn spans n = some k) :
    ∃ s ∈ spans, s.Has n ∧ k = s.image + (n - s.first) := by
  induction spans with
  | nil => cases h
  | cons s rest ih =>
    unfold imageIn at h
    split at h
    · cases h
    · next hfirst =>
      split at h
      · next hlast =>
        split at h
        · next hstep =>
          exact ⟨s, List.mem_cons_self, ⟨by omega, hlast, hstep⟩, (Option.some.inj h).symm⟩
        · cases h
      · obtain ⟨t, ht, hn⟩ := ih h
        exact ⟨t, List.mem_cons_of_mem _ ht, hn⟩

/-! ## Runs that keep clear of a table -/

/-- Two runs have no code point in common: they do not overlap, or one has only even code points
and the other only odd ones. -/
def apart (r t : Span) : Bool :=
  Nat.blt r.last t.first || Nat.blt t.last r.first ||
    (t.step == 2 && (r.step == 2 || r.first == r.last) && (r.first + t.first) % 2 == 1)

theorem not_has_of_apart {t : Span} (h : r.apart t = true) (hn : r.Has n) : ¬ t.Has n := by
  rintro ⟨hfirst, hlast, hstep⟩
  obtain ⟨hfirst', hlast', hstep'⟩ := hn
  simp only [apart, Bool.or_eq_true, Bool.and_eq_true, Nat.blt_eq, beq_iff_eq] at h
  rcases h with (h | h) | ⟨⟨ht, hr⟩, hodd⟩
  · omega
  · omega
  · rw [ht] at hstep
    rcases hr with hr | hr
    · rw [hr] at hstep'
      omega
    · omega

/-- A run keeps clear of the ascending runs of a table. -/
def clearOf (r : Span) : List Span → Bool
  | [] => true
  | t :: rest => Nat.blt r.last t.first || (r.apart t && r.clearOf rest)

/-- A code point of a run that keeps clear of a table is not in the table. -/
theorem imageIn_of_clearOf (h : r.clearOf spans = true) (hn : r.Has n) :
    imageIn spans n = none := by
  induction spans with
  | nil => rfl
  | cons t rest ih =>
    simp only [clearOf, Bool.or_eq_true, Bool.and_eq_true, Nat.blt_eq] at h
    unfold imageIn
    split
    · rfl
    · next hfirst =>
      have hlast : n ≤ r.last := hn.2.1
      obtain ⟨hapart, hrest⟩ := h.resolve_left (by omega)
      split
      · next hle =>
        -- within the run of the table, but not on one of its steps
        rw [if_neg fun hstep => not_has_of_apart hapart hn ⟨by omega, hle, hstep⟩]
      · exact ih hrest

/-! ## Settled runs -/

/-- Stretches of code points without white space and without a slash. -/
def plainStretches : List (Nat × Nat) :=
  [(0x41, 0x5A), (0xA1, 0x167F), (0x1681, 0x1FFF), (0x2060, 0x2FFF), (0x3001, 0xD7FF),
    (0xE000, 0x10FFFF)]

/-- The stretches in which letters lie: the small letters of ASCII, and the others. -/
def letterStretches : List (Nat × Nat) := (0x61, 0x7A) :: plainStretches

/-- The code points of these stretches are those of characters without white space and slashes. -/
theorem ofNat_of_mem_stretch {lo hi : Nat} (h : (lo, hi) ∈ letterStretches) (hlo : lo ≤ n)
    (hhi : n ≤ hi) :
    (Char.ofNat n).toNat = n ∧ isBlank (Char.ofNat n) = false ∧ Char.ofNat n ≠ '/' := by
  simp only [letterStretches, plainStretches, List.mem_cons, Prod.mk.injEq, List.not_mem_nil,
    or_false] at h
  have hvalid : n.isValidChar := by
    unfold Nat.isValidChar
    omega
  have hn : (Char.ofNat n).toNat = n := by
    rw [Char.ofNat, dif_pos hvalid]
    rfl
  refine ⟨hn, ?_, fun hslash => ?_⟩
  · simp only [isBlank, hn]
    simp only [Bool.or_eq_false_iff, Bool.and_eq_false_iff, decide_eq_false_iff_not,
      beq_eq_false_iff_ne]
    omega
  · have : n = 0x2F := by
      rw [← hn, hslash]
      rfl
    omega

/-- Upper case leaves the code points of a run as they are, and there is neither white space nor a
slash among them. -/
def settled (r : Span) : Bool :=
  plainStretches.any (fun (lo, hi) => Nat.ble lo r.first && Nat.ble r.last hi) &&
    r.clearOf upperSpans &&
    upperExpansions.all fun e => Nat.blt r.last e.1 || Nat.blt e.1 r.first

/-- **No image is among the letters of the tables**, and none is white space or a slash. -/
theorem settled_upperSpans : ∀ s ∈ upperSpans, s.target.settled = true :=
  List.all_eq_true.mp (by decide +kernel)

theorem settled_upperExpansions : ∀ e ∈ upperExpansions, ∀ n ∈ e.2, (point n).settled = true := by
  have h : (upperExpansions.all fun e => e.2.all fun n => (point n).settled) = true := by
    decide +kernel
  exact fun e he => List.all_eq_true.mp (List.all_eq_true.mp h e he)

end Span

/-! ## Settled characters -/

/-- A character that upper case leaves as it is, and that is neither white space nor a slash. -/
structure Settled (c : Char) : Prop where
  upperOf_eq : upperOf c = [c]
  not_blank : isBlank c = false
  ne_slash : c ≠ '/'

theorem Span.plain_of_settled (h : r.settled = true) (hn : r.Has n) :
    (Char.ofNat n).toNat = n ∧ isBlank (Char.ofNat n) = false ∧ Char.ofNat n ≠ '/' := by
  simp only [settled, Bool.and_eq_true, List.any_eq_true, Nat.ble_eq] at h
  obtain ⟨⟨⟨⟨lo, hi⟩, hmem, hlo, hhi⟩, -⟩, -⟩ := h
  exact ofNat_of_mem_stretch (List.mem_cons_of_mem _ hmem) (Nat.le_trans hlo hn.1)
    (Nat.le_trans hn.2.1 hhi)

theorem Span.settled_ofNat (h : r.settled = true) (hn : r.Has n) : Settled (Char.ofNat n) := by
  obtain ⟨hn', hblank, hslash⟩ := plain_of_settled h hn
  simp only [settled, Bool.and_eq_true, List.all_eq_true, Bool.or_eq_true, Nat.blt_eq] at h
  obtain ⟨⟨-, hclear⟩, hexpand⟩ := h
  have hlookup : upperExpansions.lookup n = none := by
    refine List.lookup_eq_none_iff.mpr fun e he => ?_
    have hne : n ≠ e.1 := by
      have hapart := hexpand e he
      obtain ⟨hfirst, hlast, -⟩ := hn
      omega
    simpa using hne
  refine ⟨?_, hblank, hslash⟩
  rw [upperOf, hn', imageIn_of_clearOf hclear hn, hlookup]
  simp

/-- **What upper case gives** was left as it is, or is settled. -/
theorem upperOf_cases (h : d ∈ upperOf c) : upperOf c = [c] ∧ d = c ∨ Settled d := by
  unfold upperOf at h ⊢
  cases hk : imageIn upperSpans c.toNat with
  | some k =>
    rw [hk] at h
    obtain ⟨s, hs, hn, rfl⟩ := Span.exists_of_imageIn hk
    obtain rfl := List.mem_singleton.mp h
    exact .inr (Span.settled_ofNat (Span.settled_upperSpans s hs) (Span.has_target hn))
  | none =>
    simp only [hk] at h ⊢
    by_cases hascii : c.toNat < 0x80
    · rw [if_pos hascii] at h ⊢
      exact .inl ⟨rfl, List.mem_singleton.mp h⟩
    · rw [if_neg hascii] at h ⊢
      cases hl : upperExpansions.lookup c.toNat with
      | some ns =>
        rw [hl] at h
        obtain ⟨front, back, he, -⟩ := List.lookup_eq_some_iff.mp hl
        obtain ⟨n, hn, rfl⟩ := List.mem_map.mp h
        have hmem : (c.toNat, ns) ∈ upperExpansions := he ▸ by simp
        have hsettled := Span.settled_upperExpansions _ hmem n hn
        exact .inr (Span.settled_ofNat hsettled (Span.has_point n))
      | none =>
        rw [hl] at h
        exact .inl ⟨rfl, List.mem_singleton.mp h⟩

theorem upperOf_of_mem (h : d ∈ upperOf c) : upperOf d = [d] := by
  rcases upperOf_cases h with ⟨hc, rfl⟩ | hd
  · exact hc
  · exact hd.upperOf_eq

/-- A text of characters that upper case leaves as they are. -/
theorem upperChars_eq_self (h : ∀ c ∈ cs, upperOf c = [c]) : upperChars cs = cs := by
  induction cs with
  | nil => rfl
  | cons c rest ih =>
    rw [List.forall_mem_cons] at h
    rw [upperChars, List.flatMap_cons, h.1]
    exact congrArg (c :: ·) (ih h.2)

/-- **Upper case twice is upper case once.** -/
@[simp] theorem upperChars_upperChars (cs : List Char) :
    upperChars (upperChars cs) = upperChars cs := by
  refine upperChars_eq_self fun d hd => ?_
  obtain ⟨c, -, hc⟩ := List.mem_flatMap.mp hd
  exact upperOf_of_mem hc

/-- Upper case gives white space only where it was. -/
theorem isBlank_of_mem_upperOf (h : d ∈ upperOf c) (hc : isBlank c = false) :
    isBlank d = false := by
  rcases upperOf_cases h with ⟨-, rfl⟩ | hd
  · exact hc
  · exact hd.not_blank

/-- Upper case gives a slash exactly where it was. -/
theorem slash_mem_upperChars_iff : '/' ∈ upperChars cs ↔ '/' ∈ cs := by
  rw [upperChars, List.mem_flatMap]
  constructor
  · rintro ⟨c, hc, hslash⟩
    rcases upperOf_cases hslash with ⟨-, rfl⟩ | hsettled
    · exact hc
    · exact absurd rfl hsettled.ne_slash
  · intro h
    exact ⟨'/', h, by decide⟩

/-- A trimmed text is trimmed in upper case. -/
theorem Trimmed.upperChars (h : Trimmed cs) : Trimmed (upperChars cs) where
  head d hd := by
    cases cs with
    | nil => cases hd
    | cons c rest =>
      -- the first character is the first of those given for the first one
      rw [Text.upperChars, List.flatMap_cons,
        List.head?_append_of_ne_nil _ (upperOf_ne_nil c)] at hd
      exact isBlank_of_mem_upperOf (List.mem_of_mem_head? hd) (h.head c rfl)
  last d hd := by
    rcases List.eq_nil_or_concat cs with rfl | ⟨front, c, rfl⟩
    · cases hd
    · rw [List.concat_eq_append, upperChars_append, Text.upperChars, Text.upperChars,
        List.flatMap_singleton, List.getLast?_append_of_ne_nil _ (upperOf_ne_nil c)] at hd
      exact isBlank_of_mem_upperOf (List.mem_of_mem_getLast? hd) (h.last c (by simp))

end Clearance.Text
