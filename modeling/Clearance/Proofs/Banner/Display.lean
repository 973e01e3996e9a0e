import Clearance.Proofs.Banner.Holdings
import Clearance.Proofs.Text.Segments

/-!
# The line of a banner

The line that shows a banner is its level and its caveats, with double slashes between them.
Whatever the attributes are that it was gathered from, they bring no slash into the line: a name is
a last segment, upper case gives no slash, and the releases are joined by commas.  So the line can
be read back.  Cut at its double slashes it gives the level and the caveats in their order, no other
texts without slashes make up the same line, and two banners with the same line are the same.

## Main definitions

* `Text.cutDouble`, `Banner.parts`: a text cut at its double slashes
* `Banner.Legible`: the line of a banner can be read back

## Main results

* `Text.cutDouble_intercalate`: texts without slashes are found again
* `Banner.legible_of_caveats`: what makes a line legible
* `Banner.display_exact`: the lines of all banners are
-/

namespace Clearance

/-! ## Cutting at double slashes -/

namespace Text

variable {cs xs : List Char} {pieces : List (List Char)}

/-- The pieces of a text between its double slashes.  They are found from left to right, so that the
third of three slashes belongs to the piece behind. -/
def cutDouble : List Char → List (List Char)
  | [] => [[]]
  | '/' :: '/' :: rest => [] :: cutDouble rest
  | c :: rest => (cutDouble rest).modifyHead (c :: ·)

theorem cutDouble_cons {c : Char} (hc : c ≠ '/') (rest : List Char) :
    cutDouble (c :: rest) = (cutDouble rest).modifyHead (c :: ·) := by
  rw [cutDouble]
  exact fun _ h => absurd h hc

theorem cutDouble_of_not_mem (h : '/' ∉ cs) : cutDouble cs = [cs] := by
  induction cs with
  | nil => rfl
  | cons c rest ih =>
    obtain ⟨hc, hrest⟩ := not_or.mp (mt List.mem_cons.mpr h)
    rw [cutDouble_cons (Ne.symm hc), ih hrest]
    rfl

theorem cutDouble_append (h : '/' ∉ xs) (rest : List Char) :
    cutDouble (xs ++ '/' :: '/' :: rest) = xs :: cutDouble rest := by
  induction xs with
  | nil => rfl
  | cons c xs ih =>
    obtain ⟨hc, hxs⟩ := not_or.mp (mt List.mem_cons.mpr h)
    rw [List.cons_append, cutDouble_cons (Ne.symm hc), ih hxs]
    rfl

/-- **Texts without slashes are found again** between the double slashes that join them. -/
theorem cutDouble_intercalate (hne : pieces ≠ []) (h : ∀ piece ∈ pieces, '/' ∉ piece) :
    cutDouble (['/', '/'].intercalate pieces) = pieces := by
  induction pieces with
  | nil => exact absurd rfl hne
  | cons piece rest ih =>
    obtain ⟨hpiece, hrest⟩ := List.forall_mem_cons.mp h
    cases rest with
    | nil =>
      rw [List.intercalate_singleton]
      exact cutDouble_of_not_mem hpiece
    | cons next more =>
      rw [List.intercalate_cons_cons, List.append_assoc]
      exact (cutDouble_append hpiece _).trans
        (congrArg (piece :: ·) (ih (List.cons_ne_nil _ _) hrest))

/-- Joined texts have a slash only where one of them, or what joins them, has one. -/
theorem slash_not_mem_joinWith {sep : String} {l : List String} (hsep : '/' ∉ sep.toList)
    (h : ∀ s ∈ l, '/' ∉ s.toList) : '/' ∉ (joinWith sep l).toList := by
  fun_induction joinWith sep l with
  | case1 => simp
  | case2 s => exact h s (List.mem_singleton_self s)
  | case3 s more hmore ih =>
    obtain ⟨hs, hrest⟩ := List.forall_mem_cons.mp h
    simp [hs, hsep, ih hrest]

end Text

open Text

variable {n : String} {b b' : Banner}

/-- The names of attributes are neither empty nor have they a slash. -/
theorem Attribute.clean_of_mem_names {vs : List Attribute} (h : n ∈ names vs) :
    n ≠ "" ∧ '/' ∉ n.toList := by
  obtain ⟨hne, v, -, rfl⟩ := mem_names.mp h
  exact ⟨hne, v.slash_not_mem_simpleName⟩

theorem Level.name_injective : Function.Injective Level.name := by
  intro a b
  cases a <;> cases b <;> decide

theorem Level.clean_name (level : Level) : level.name ≠ "" ∧ '/' ∉ level.name.toList := by
  cases level <;> decide

namespace Banner

/-! ## Lines -/

/-- A line cut at its double slashes. -/
def parts (line : String) : List String := (cutDouble line.toList).map String.ofList

/-- **The line of a banner** joins its level and its caveats. -/
theorem display_eq_joinWith (b : Banner) :
    b.display = joinWith "//" (b.level.name :: b.caveats) := by
  have hline : ∀ (caveats : List String) (start : String),
      caveats.foldl (fun line c => line ++ "//" ++ c) start = joinWith "//" (start :: caveats) := by
    intro caveats
    induction caveats with
    | nil => exact fun start => rfl
    | cons c rest ih =>
      intro start
      rw [List.foldl_cons, ih]
      cases rest with
      | nil => rfl
      | cons next more => simp [joinWith, String.append_assoc]
  exact hline b.caveats b.level.name

/-- Texts without slashes are the parts of the line that joins them. -/
theorem parts_joinWith {pieces : List String} (hne : pieces ≠ [])
    (h : ∀ c ∈ pieces, '/' ∉ c.toList) : parts (joinWith "//" pieces) = pieces := by
  have hpieces : ∀ piece ∈ pieces.map String.toList, '/' ∉ piece := by
    simpa only [List.forall_mem_map] using h
  have hcut : cutDouble (joinWith "//" pieces).toList = pieces.map String.toList := by
    rw [toList_joinWith]
    exact cutDouble_intercalate (by simpa using hne) hpieces
  rw [parts, hcut, List.map_map]
  simp

/-- **The line of a banner can be read back.**  Its parts are the name of the level and the caveats
in order, none of them empty or with a slash, and no other texts without slashes are joined to the
same line. -/
structure Legible (b : Banner) : Prop where
  parts : parts b.display = b.level.name :: b.caveats
  clean : ∀ c ∈ b.level.name :: b.caveats, c ≠ "" ∧ '/' ∉ c.toList
  only : ∀ pieces : List String, pieces ≠ [] → (∀ c ∈ pieces, '/' ∉ c.toList) →
    joinWith "//" pieces = b.display → pieces = b.level.name :: b.caveats

/-- A line is legible if no caveat is empty or has a slash. -/
theorem legible_of_caveats (h : ∀ c ∈ b.caveats, c ≠ "" ∧ '/' ∉ c.toList) : b.Legible := by
  have hclean : ∀ c ∈ b.level.name :: b.caveats, c ≠ "" ∧ '/' ∉ c.toList :=
    List.forall_mem_cons.mpr ⟨b.level.clean_name, h⟩
  have hparts : Banner.parts b.display = b.level.name :: b.caveats := by
    rw [display_eq_joinWith]
    exact parts_joinWith (List.cons_ne_nil _ _) fun c hc => (hclean c hc).2
  refine ⟨hparts, hclean, fun pieces hne hpieces hline => ?_⟩
  rw [← hparts, ← hline, parts_joinWith hne hpieces]

/-- Legible banners with the same line are the same. -/
theorem Legible.display_inj (h : b.Legible) (h' : b'.Legible) :
    b.display = b'.display ↔ b = b' := by
  refine ⟨fun hline => ?_, fun heq => heq ▸ rfl⟩
  have hparts : b.level.name :: b.caveats = b'.level.name :: b'.caveats := by
    rw [← h.parts, hline, h'.parts]
  obtain ⟨hname, hcaveats⟩ := List.cons.inj hparts
  have hlevel : b.level = b'.level := Level.name_injective hname
  cases b
  cases b'
  congr

/-! ## Banners of objects -/

/-- **The caveats of a banner** are not empty and have no slash. -/
theorem clean_caveats (l : List Marking) : ∀ c ∈ (compute l).caveats, c ≠ "" ∧ '/' ∉ c.toList := by
  obtain ⟨names, released, hcaveats, ⟨-, hnames⟩, -, hreleased⟩ := exists_caveats l
  rw [hcaveats, List.forall_mem_append]
  constructor
  · intro n hn
    obtain ⟨-, hn | ⟨hn, -⟩⟩ := (hnames n).mp hn
    · obtain ⟨m, -, hm⟩ := Marking.mem_needs.mp hn
      exact Attribute.clean_of_mem_names hm
    · obtain ⟨m, -, hm⟩ := Marking.mem_classifications.mp hn
      exact Attribute.clean_of_mem_names hm
  · intro c hc
    have hclean : ∀ n ∈ released, '/' ∉ n.toList := by
      intro n hn
      obtain ⟨m, -, hm⟩ := Marking.mem_releases.mp ((hreleased n).mp hn).2
      exact (Attribute.clean_of_mem_names hm).2
    cases released with
    | nil => cases hc
    | cons first rest =>
      obtain rfl := List.mem_singleton.mp hc
      have hsep : '/' ∉ ", ".toList := by decide
      have hjoined := slash_not_mem_joinWith hsep hclean
      simp [hjoined]

theorem legible_compute (l : List Marking) : (compute l).Legible :=
  legible_of_caveats (clean_caveats l)

/-- **No attribute brings a part into the line of a banner.**  Cut at its double slashes, the line of
the banner of any objects, and of the banner of any object with its notes, is the name of the level
followed by the caveats in order.  None of these is empty or has a slash, and nothing else without
slashes is joined to that line.  So two banners are shown by the same line only if they are the
same. -/
theorem display_exact :
    (∀ l, (compute l).Legible) ∧
    (∀ m notes, (ofObject m notes).Legible) ∧
    ∀ l l', (compute l).display = (compute l').display ↔ compute l = compute l' := by
  refine ⟨legible_compute, fun m notes => ?_,
    fun l l' => (legible_compute l).display_inj (legible_compute l')⟩
  rw [Tally.ofObject_eq]
  exact legible_compute _

/-- A need to know that is written like a line is its last segment. -/
example : (compute [{ id := "o", needToKnow := [⟨"SECRET//HCS//REL TO USA"⟩] }]).display =
    "UNCLASSIFIED//REL TO USA" := by decide +kernel

end Banner
end Clearance
