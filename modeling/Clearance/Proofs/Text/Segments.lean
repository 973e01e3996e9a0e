import Mathlib.Data.List.Basic
import Clearance.Proofs.Text.Trimmed

/-!
# Segments of a text

A text is cut forwards, at its first `://` and then at every slash, or backwards, at its last
slash.  White space goes only where a text begins or ends, so that trimming a text with a slash in
it leaves everything between its first and its last slash alone.

## Main results

* `splitOn_eq_iff`: the segments of a text are exactly what it is joined of
* `splitScheme_eq_some_iff`: the cut at `://` is the first that is possible
* `trimChars_lastSegment_append`: what both cuts say about the last segment
* `trimChars_lastSegment_trimChars`, `splitScheme_trimStart`, `splitScheme_trimEnd`: the cuts of a
  trimmed text
-/

namespace Clearance.Text

variable {sep : Char} {cs xs ys before after scheme rest segment : List Char}

/-! ## All segments -/

/-- Cutting at a separator is `List.splitOn`. -/
theorem splitOn_eq (sep : Char) (cs : List Char) : splitOn sep cs = cs.splitOn sep := by
  induction cs with
  | nil => rfl
  | cons c rest ih =>
    rw [splitOn, List.splitOn_cons_eq_if_modifyHead, ih]
    by_cases hc : c = sep
    · simp [hc]
    · rw [if_neg hc, if_neg (by simpa using hc)]
      cases hs : rest.splitOn sep with
      | nil => exact absurd hs (List.splitOn_ne_nil sep rest)
      | cons s more => rfl

/-- **No segment contains the separator.** -/
theorem not_mem_of_mem_splitOn (h : segment ∈ splitOn sep cs) : sep ∉ segment := by
  induction cs generalizing segment with
  | nil =>
    rw [List.mem_singleton.mp h]
    exact List.not_mem_nil
  | cons c rest ih =>
    unfold splitOn at h
    split at h
    · obtain rfl | h := List.mem_cons.mp h
      · exact List.not_mem_nil
      · exact ih h
    · next hc =>
      split at h
      · next hs => exact absurd hs (splitOn_ne_nil sep rest)
      · next s more hs =>
        -- only the first segment gets the character, which is not the separator
        obtain rfl | h := List.mem_cons.mp h
        · exact List.not_mem_cons_of_ne_of_not_mem (Ne.symm hc) (ih (hs ▸ List.mem_cons_self))
        · exact ih (hs ▸ List.mem_cons_of_mem _ h)

/-- **The segments of a text** are the texts without the separator that joined by it are the text. -/
theorem splitOn_eq_iff {segments : List (List Char)} (h : segments ≠ []) :
    splitOn sep cs = segments ↔ [sep].intercalate segments = cs ∧ ∀ s ∈ segments, sep ∉ s := by
  constructor
  · rintro rfl
    exact ⟨join_splitOn sep cs, fun s hs => not_mem_of_mem_splitOn hs⟩
  · rintro ⟨rfl, hsep⟩
    rw [splitOn_eq, List.splitOn_intercalate sep hsep h]

theorem splitOn_of_not_mem (h : sep ∉ cs) : splitOn sep cs = [cs] :=
  (splitOn_eq_iff (by simp)).mpr ⟨by simp, by simpa using h⟩

theorem toList_joinWith (sep : String) (l : List String) :
    (joinWith sep l).toList = sep.toList.intercalate (l.map String.toList) := by
  fun_induction joinWith sep l with
  | case1 => rfl
  | case2 s => simp
  | case3 s more hmore ih =>
    cases more with
    | nil => exact absurd rfl hmore
    | cons next more => simp [ih, List.intercalate_cons_cons]

/-! ## The first `://` -/

/-- **A text is cut at its first `://`**: no other one begins further to the left. -/
theorem splitScheme_eq_some_iff :
    splitScheme cs = some (scheme, rest) ↔
      cs = scheme ++ [':', '/', '/'] ++ rest ∧
        ∀ before after, cs = before ++ [':', '/', '/'] ++ after →
          scheme.length ≤ before.length := by
  fun_induction splitScheme cs generalizing scheme with
  | case1 => simp
  | case2 tail =>
    simp only [Option.some.injEq, Prod.mk.injEq]
    constructor
    · rintro ⟨rfl, rfl⟩
      exact ⟨rfl, fun _ _ _ => Nat.zero_le _⟩
    · rintro ⟨hcs, hfirst⟩
      -- nothing begins further to the left than the text itself
      obtain rfl := List.length_eq_zero_iff.mp (Nat.le_zero.mp (hfirst [] tail rfl))
      simpa using hcs
  | case3 c tail hscheme ih =>
    -- a text that begins with `://` is cut there, and this one does not
    have hhead : ∀ before after, c :: tail = before ++ [':', '/', '/'] ++ after →
        ∃ more, before = c :: more ∧ tail = more ++ [':', '/', '/'] ++ after := by
      intro before after h
      cases before with
      | nil =>
        obtain ⟨rfl, rfl⟩ := List.cons.inj h
        exact absurd rfl (hscheme after rfl)
      | cons b more =>
        obtain ⟨rfl, htail⟩ := List.cons.inj h
        exact ⟨more, rfl, htail⟩
    simp only [Option.map_eq_some_iff, Prod.exists, Prod.mk.injEq]
    constructor
    · rintro ⟨s, r, hs, rfl, rfl⟩
      obtain ⟨htail, hfirst⟩ := ih.mp hs
      refine ⟨congrArg (c :: ·) htail, fun before after h => ?_⟩
      obtain ⟨more, rfl, hmore⟩ := hhead before after h
      exact Nat.succ_le_succ (hfirst more after hmore)
    · rintro ⟨hcs, hfirst⟩
      obtain ⟨s, rfl, htail⟩ := hhead scheme rest hcs
      refine ⟨s, rest, ih.mpr ⟨htail, fun before after h => ?_⟩, rfl, rfl⟩
      exact Nat.le_of_succ_le_succ (hfirst (c :: before) after (congrArg (c :: ·) h))

theorem splitScheme_cons {c : Char} (hc : c ≠ ':') (cs : List Char) :
    splitScheme (c :: cs) = (splitScheme cs).map fun (scheme, rest) => (c :: scheme, rest) := by
  rw [splitScheme]
  exact fun _ h => absurd h hc

/-- A text with a `://` in it is cut. -/
theorem splitScheme_ne_none (xs ys : List Char) :
    splitScheme (xs ++ [':', '/', '/'] ++ ys) ≠ none := by
  induction xs with
  | nil => simp [splitScheme]
  | cons c xs ih =>
    intro h
    rw [List.cons_append, List.cons_append] at h
    unfold splitScheme at h
    split at h
    · next heq => cases heq
    · cases h
    · next heq =>
      obtain ⟨-, rfl⟩ := List.cons.inj heq
      exact ih (Option.map_eq_none_iff.mp h)

/-! ## The last slash -/

theorem lastSegment_of_not_mem (h : '/' ∉ cs) : lastSegment cs = cs := by
  rw [lastSegment_eq_rtakeWhile, List.rtakeWhile_eq_self_iff]
  intro c hc
  simpa using ne_of_mem_of_not_mem hc h

theorem lastSegment_append_slash (h : '/' ∉ ys) : lastSegment (xs ++ '/' :: ys) = ys := by
  have htake : ∀ c ∈ ys.reverse, decide (c ≠ '/') = true := by
    intro c hc
    simpa using ne_of_mem_of_not_mem (List.mem_reverse.mp hc) h
  rw [lastSegment, List.reverse_append, List.reverse_cons, List.append_assoc,
    List.takeWhile_append_of_pos htake]
  simp

/-- A text with a slash is a path that ends in its last slash, and the last segment. -/
theorem exists_path_of_slash_mem (h : '/' ∈ cs) : ∃ path, cs = path ++ '/' :: lastSegment cs := by
  -- its last slash is the first one from the other end
  obtain ⟨front, back, hreverse, hfront⟩ := List.eq_append_cons_of_mem (List.mem_reverse.mpr h)
  have hcs : cs = back.reverse ++ '/' :: front.reverse := by
    rw [← cs.reverse_reverse, hreverse]
    simp
  have hlast : '/' ∉ front.reverse := fun hmem => hfront (List.mem_reverse.mp hmem)
  exact ⟨back.reverse, by rw [hcs, lastSegment_append_slash hlast]⟩

/-- The last segment is cut off with the last slash. -/
theorem splitOn_append_slash (path : List Char) (h : '/' ∉ segment) :
    splitOn '/' (path ++ '/' :: segment) = splitOn '/' path ++ [segment] := by
  rw [splitOn_eq, List.splitOn_append_cons_self, ← splitOn_eq, ← splitOn_eq, splitOn_of_not_mem h]

/-! ## White space around segments -/

/-- A text of white space. -/
def Blank (cs : List Char) : Prop := ∀ c ∈ cs, isBlank c = true

theorem isBlankText_ofList_iff : isBlankText (.ofList cs) = true ↔ Blank cs := by
  rw [isBlankText, String.toList_ofList, List.all_eq_true, Blank]

/-- Trimming does not reach beyond a character that is not white space. -/
theorem trimStart_append_of_not_blank {c : Char} (hc : isBlank c = false) (xs ys : List Char) :
    trimStart (xs ++ c :: ys) = trimStart xs ++ c :: ys := by
  rw [trimStart, trimStart, List.dropWhile_append]
  split
  · next h => rw [List.isEmpty_iff.mp h, List.dropWhile_cons_of_neg (by simp [hc]), List.nil_append]
  · rfl

theorem trimEnd_append_of_not_blank {c : Char} (hc : isBlank c = false) (xs ys : List Char) :
    trimEnd (xs ++ c :: ys) = xs ++ c :: trimEnd ys := by
  have hstart := trimStart_append_of_not_blank hc ys.reverse xs.reverse
  rw [trimStart, trimStart] at hstart
  simp only [trimEnd, List.reverse_append, List.reverse_cons, List.append_assoc,
    List.singleton_append, hstart, List.reverse_reverse]

theorem trimEnd_append_of_blank (h : Blank ys) : trimEnd (xs ++ ys) = trimEnd xs := by
  have hys : Blank ys.reverse := fun c hc => h c (List.mem_reverse.mp hc)
  rw [trimEnd, List.reverse_append, List.dropWhile_append_of_pos hys, trimEnd]

/-- White space at the start of a text is lost when it is trimmed. -/
theorem trimChars_blank_append (h : Blank xs) : trimChars (xs ++ ys) = trimChars ys := by
  rw [trimChars, trimStart, List.dropWhile_append_of_pos h, trimChars, trimStart]

/-- White space at the end of a text is lost when it is trimmed. -/
theorem trimChars_append_of_blank (h : Blank ys) : trimChars (xs ++ ys) = trimChars xs := by
  rw [trimChars, trimStart, List.dropWhile_append, trimChars, trimStart]
  split
  · next hxs =>
    -- nothing but white space on either side
    have hys : ys.dropWhile isBlank = [] := List.dropWhile_eq_nil_iff.mpr h
    rw [hys, List.isEmpty_iff.mp hxs]
  · exact trimEnd_append_of_blank h

theorem trimChars_pad (hbefore : Blank before) (hafter : Blank after) (cs : List Char) :
    trimChars (before ++ cs ++ after) = trimChars cs := by
  rw [trimChars_append_of_blank hafter, trimChars_blank_append hbefore]

/-- A text is what is left of it when it is trimmed, with white space around it. -/
theorem exists_pad (cs : List Char) :
    ∃ before after, Blank before ∧ Blank after ∧ cs = before ++ trimChars cs ++ after := by
  refine ⟨cs.takeWhile isBlank, (trimStart cs).rtakeWhile isBlank,
    fun c hc => List.mem_takeWhile_imp hc, fun c hc => List.mem_rtakeWhile_imp hc, ?_⟩
  have hend : trimChars cs ++ (trimStart cs).rtakeWhile isBlank = trimStart cs :=
    List.rdropWhile_append_rtakeWhile
  rw [List.append_assoc, hend, trimStart, List.takeWhile_append_dropWhile]

theorem trimChars_trimEnd (cs : List Char) : trimChars (trimEnd cs) = trimChars cs := by
  have hcs : trimEnd cs ++ cs.rtakeWhile isBlank = cs := List.rdropWhile_append_rtakeWhile
  have hblank : Blank (cs.rtakeWhile isBlank) := fun c hc => List.mem_rtakeWhile_imp hc
  calc trimChars (trimEnd cs)
      = trimChars (trimEnd cs ++ cs.rtakeWhile isBlank) := (trimChars_append_of_blank hblank).symm
    _ = trimChars cs := by rw [hcs]

theorem trimChars_append_slash (xs ys : List Char) :
    trimChars (xs ++ '/' :: ys) = trimStart xs ++ '/' :: trimEnd ys := by
  rw [trimChars, trimStart_append_of_not_blank (by decide), trimEnd_append_of_not_blank (by decide)]

theorem slash_not_mem_trimEnd (h : '/' ∉ ys) : '/' ∉ trimEnd ys :=
  fun hmem => h ((List.rdropWhile_prefix isBlank ys).subset hmem)

/-- **The last segment of a trimmed text** is, white space apart, what follows the last slash. -/
theorem trimChars_lastSegment_append (h : '/' ∉ ys) :
    trimChars (lastSegment (trimChars (xs ++ '/' :: ys))) = trimChars ys := by
  rw [trimChars_append_slash, lastSegment_append_slash (slash_not_mem_trimEnd h), trimChars_trimEnd]

/-- **White space around a text** does not matter to its last segment, white space around that
apart. -/
theorem trimChars_lastSegment_trimChars (cs : List Char) :
    trimChars (lastSegment (trimChars cs)) = trimChars (lastSegment cs) := by
  by_cases hslash : '/' ∈ cs
  · obtain ⟨path, hcs⟩ := exists_path_of_slash_mem hslash
    calc trimChars (lastSegment (trimChars cs))
        = trimChars (lastSegment (trimChars (path ++ '/' :: lastSegment cs))) := by rw [← hcs]
      _ = trimChars (lastSegment cs) :=
        trimChars_lastSegment_append (slash_not_mem_lastSegment cs)
  · have htrimmed : '/' ∉ trimChars cs := fun hmem => hslash (mem_of_mem_trimChars hmem)
    rw [lastSegment_of_not_mem hslash, lastSegment_of_not_mem htrimmed, trimChars_trimChars]

/-- White space before a text belongs to its scheme. -/
theorem splitScheme_trimStart (cs : List Char) :
    splitScheme (trimStart cs) =
      (splitScheme cs).map fun (scheme, rest) => (trimStart scheme, rest) := by
  induction cs with
  | nil => rfl
  | cons c cs ih =>
    by_cases hblank : isBlank c = true
    · have hc : c ≠ ':' := by
        rintro rfl
        revert hblank
        decide
      rw [splitScheme_cons hc, Option.map_map, trimStart, List.dropWhile_cons_of_pos hblank]
      simpa [trimStart, hblank, Function.comp_def] using ih
    · have hstart : trimStart (c :: cs) = c :: cs := List.dropWhile_cons_of_neg hblank
      rw [hstart]
      cases hcs : splitScheme (c :: cs) with
      | none => rfl
      | some found =>
        obtain ⟨scheme, rest⟩ := found
        obtain ⟨htext, -⟩ := splitScheme_eq_some_iff.mp hcs
        -- the scheme begins as the text does, or is empty
        cases scheme with
        | nil => rfl
        | cons d scheme =>
          obtain rfl : c = d := (List.cons.inj htext).1
          simp [trimStart, hblank]

/-- White space after a text belongs to what follows its scheme. -/
theorem splitScheme_trimEnd (cs : List Char) :
    splitScheme (trimEnd cs) =
      (splitScheme cs).map fun (scheme, rest) => (scheme, trimEnd rest) := by
  obtain ⟨tail, htail⟩ : trimEnd cs <+: cs := List.rdropWhile_prefix isBlank cs
  cases hcs : splitScheme cs with
  | none =>
    cases htrim : splitScheme (trimEnd cs) with
    | none => rfl
    | some found =>
      -- what is found in a part is there in the whole
      obtain ⟨htext, -⟩ := splitScheme_eq_some_iff.mp htrim
      rw [← htail, htext, List.append_assoc] at hcs
      exact absurd hcs (splitScheme_ne_none _ _)
  | some found =>
    obtain ⟨scheme, rest⟩ := found
    obtain ⟨htext, hfirst⟩ := splitScheme_eq_some_iff.mp hcs
    refine splitScheme_eq_some_iff.mpr ⟨?_, fun before after h => ?_⟩
    · have hslash := trimEnd_append_of_not_blank (c := '/') (by decide) (scheme ++ [':', '/']) rest
      simpa [htext] using hslash
    · exact hfirst before (after ++ tail) (by rw [← htail, h, List.append_assoc])

end Clearance.Text
