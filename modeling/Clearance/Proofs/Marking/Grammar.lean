import Clearance.Proofs.Text.Segments
import Clearance.Marking.Attribute

/-!
# The grammar of fully qualified names

A fully qualified name is read by two scanners that know nothing of each other: the parts are found
forwards from the first `://`, the simple name backwards from the last slash of the trimmed text.
Both agree on the value.  The grammar stands here on its own, as texts set one after another with
conditions on each.

## Main definitions

* `Fqn.Spelling`, `Fqn.Spelling.text`: the texts that make up a name, and the whole of them
* `Fqn.Spelling.WellFormed`: the conditions of the grammar
* `Fqn.trimmed?`: the parts of a name without the white space around it

## Main results

* `Attribute.exists_spelling`, `Attribute.fqn?_of_spelling`: the parts that are read are those of a
  well-formed spelling
* `Attribute.simpleName_of_text_eq`: the simple name of a text with a slash
* `Attribute.fqn?_trim`: the parts of a text without the white space around it
* `Attribute.fqn_exact`: which texts are names, with their parts and their simple name
-/

namespace Clearance

open Text

variable {v : Attribute} {f : Fqn}

namespace Fqn

/-- All texts that make up a fully qualified name: its parts, the scheme and the two fixed words as
they are written. -/
structure Spelling extends Fqn where
  scheme : String
  attrWord : String
  valueWord : String

namespace Spelling

/-- The text of a spelling. -/
def text (p : Spelling) : String :=
  p.scheme ++ "://" ++ p.namespaceName ++ "/" ++ p.attrWord ++ "/" ++ p.category ++ "/" ++
    p.valueWord ++ "/" ++ p.value

/-- **The grammar.**  No `://` begins before the one behind the scheme, the parts are not empty and
have no slash, and the fixed words are `attr` and `value` up to the case of `A` to `Z`. -/
structure WellFormed (p : Spelling) : Prop where
  first : ∀ before after, p.text = before ++ "://" ++ after → p.scheme.length ≤ before.length
  namespaceName : p.namespaceName ≠ "" ∧ '/' ∉ p.namespaceName.toList
  attrWord : asciiLower p.attrWord.toList = "attr".toList
  category : p.category ≠ "" ∧ '/' ∉ p.category.toList
  valueWord : asciiLower p.valueWord.toList = "value".toList
  value : p.value ≠ "" ∧ '/' ∉ p.value.toList

/-- The segments of a spelling behind its scheme. -/
def segments (p : Spelling) : List (List Char) :=
  [p.namespaceName.toList, p.attrWord.toList, p.category.toList, p.valueWord.toList, p.value.toList]

theorem toList_text (p : Spelling) :
    p.text.toList = p.scheme.toList ++ [':', '/', '/'] ++ ['/'].intercalate p.segments := by
  simp [text, segments, List.intercalate]

/-- A spelling is cut behind its own scheme exactly when no other `://` begins before. -/
theorem splitScheme_text_iff (p : Spelling) :
    splitScheme p.text.toList = some (p.scheme.toList, ['/'].intercalate p.segments) ↔
      ∀ before after, p.text = before ++ "://" ++ after → p.scheme.length ≤ before.length := by
  rw [splitScheme_eq_some_iff, and_iff_right p.toList_text, String.length_toList]
  constructor
  · intro h before after htext
    rw [← before.length_toList]
    exact h before.toList after.toList (by simp [htext])
  · intro h before after htext
    have hle := h (.ofList before) (.ofList after) (String.toList_inj.mp (by simpa using htext))
    rwa [String.length_ofList] at hle

end Spelling

/-- A text without a slash stays so whatever is done to the case of its letters. -/
theorem not_mem_of_asciiLower {word lower : List Char} (h : asciiLower word = lower)
    (hlower : '/' ∉ lower) : '/' ∉ word := by
  intro hmem
  have : asciiLowerOf '/' ∈ asciiLower word := List.mem_map_of_mem hmem
  rw [h] at this
  exact hlower this

/-- The parts of segments. -/
theorem ofSegments?_eq_some_iff {segs : List (List Char)} :
    ofSegments? segs = some f ↔
      ∃ attr value, segs = [f.namespaceName.toList, attr, f.category.toList, value, f.value.toList] ∧
        f.namespaceName ≠ "" ∧ asciiLower attr = "attr".toList ∧ f.category ≠ "" ∧
          asciiLower value = "value".toList ∧ f.value ≠ "" := by
  constructor
  · intro h
    unfold ofSegments? at h
    split at h
    · next n attr c value x =>
      split at h
      · next hparts =>
        obtain rfl := Option.some.inj h
        refine ⟨attr, value, by simp, ?_⟩
        simpa using hparts
      · cases h
    · cases h
  · rintro ⟨attr, value, rfl, hn, hattr, hc, hvalue, hx⟩
    have hparts : f.namespaceName.toList ≠ [] ∧ asciiLower attr = ['a', 't', 't', 'r'] ∧
        f.category.toList ≠ [] ∧ asciiLower value = ['v', 'a', 'l', 'u', 'e'] ∧
          f.value.toList ≠ [] :=
      ⟨by simpa using hn, hattr, by simpa using hc, hvalue, by simpa using hx⟩
    rw [ofSegments?, if_pos hparts]
    simp

/-! ## White space around a name -/

/-- What is left of a name when the white space around it is left out.  It is that around the
scheme, which is no part of the name, and that after the value.  A value of white space alone is
lost, and the name with it. -/
def trimmed? (f : Fqn) : Option Fqn :=
  if isBlankText f.value then none else some { f with value := .ofList (trimEnd f.value.toList) }

/-- Trimming the last segment trims the value. -/
theorem ofSegments?_concat_trimEnd (segs : List (List Char)) (last : List Char) :
    ofSegments? (segs ++ [trimEnd last]) = (ofSegments? (segs ++ [last])).bind trimmed? := by
  match segs with
  | [n, attr, c, value] =>
    have hblank : isBlankText (.ofList last) = true ↔ trimEnd last = [] :=
      isBlankText_ofList_iff.trans trimEnd_eq_nil_iff.symm
    simp only [List.cons_append, List.nil_append, ofSegments?]
    by_cases hlast : trimEnd last = []
    · -- neither side is a name
      rw [if_neg (by simp [hlast])]
      split
      · rw [Option.bind_some, trimmed?, if_pos (hblank.mpr hlast)]
      · rfl
    · have hne : last ≠ [] := by
        rintro rfl
        exact hlast rfl
      simp only [hlast, hne, ne_eq, not_false_eq_true]
      split
      · rw [Option.bind_some, trimmed?, if_neg (mt hblank.mp hlast), String.toList_ofList]
      · rfl
  | [] | [_] | [_, _] | [_, _, _] => rfl
  | [_, _, _, _, _] => rfl
  | _ :: _ :: _ :: _ :: _ :: _ :: _ => rfl

theorem ofChars?_trimStart (cs : List Char) : ofChars? (trimStart cs) = ofChars? cs := by
  rw [ofChars?, splitScheme_trimStart, ofChars?]
  cases splitScheme cs <;> rfl

theorem ofChars?_trimEnd (cs : List Char) :
    ofChars? (trimEnd cs) = (ofChars? cs).bind trimmed? := by
  rw [ofChars?, splitScheme_trimEnd, ofChars?]
  cases splitScheme cs with
  | none => rfl
  | some found =>
    obtain ⟨scheme, rest⟩ := found
    simp only [Option.map_some]
    by_cases hslash : '/' ∈ rest
    · obtain ⟨path, hrest⟩ := exists_path_of_slash_mem hslash
      have hlast := slash_not_mem_lastSegment rest
      rw [hrest, trimEnd_append_of_not_blank (by decide), splitOn_append_slash _ hlast,
        splitOn_append_slash _ (slash_not_mem_trimEnd hlast)]
      exact ofSegments?_concat_trimEnd _ _
    · -- one segment is no name
      rw [splitOn_of_not_mem hslash, splitOn_of_not_mem (slash_not_mem_trimEnd hslash)]
      rfl

end Fqn

namespace Attribute

/-- The parts that are read have a well-formed spelling. -/
theorem exists_spelling (h : v.fqn? = some f) :
    ∃ p : Fqn.Spelling, p.toFqn = f ∧ p.text = v.text ∧ p.WellFormed := by
  unfold fqn? Fqn.ofChars? at h
  split at h
  · next scheme rest hscheme =>
    obtain ⟨attr, value, hsegments, hn, hattr, hc, hvalue, hx⟩ := Fqn.ofSegments?_eq_some_iff.mp h
    -- the fixed words belong to the spelling as they are written, in any case
    let p : Fqn.Spelling := ⟨f, .ofList scheme, .ofList attr, .ofList value⟩
    have hp : p.segments = splitOn '/' rest := by simp [p, Fqn.Spelling.segments, hsegments]
    obtain ⟨hrest, hslash⟩ := (splitOn_eq_iff (by simp [Fqn.Spelling.segments])).mp hp.symm
    have htext : p.text = v.text := by
      obtain ⟨hcs, -⟩ := splitScheme_eq_some_iff.mp hscheme
      apply String.toList_inj.mp
      rw [p.toList_text, hrest, hcs]
      simp [p]
    have hfirst := p.splitScheme_text_iff.mp (by rw [htext, hscheme, hrest]; simp [p])
    simp only [Fqn.Spelling.segments, List.forall_mem_cons] at hslash
    obtain ⟨hn', -, hc', -, hx', -⟩ := hslash
    exact ⟨p, rfl, htext, hfirst, ⟨hn, hn'⟩, by simpa [p] using hattr, ⟨hc, hc'⟩,
      by simpa [p] using hvalue, ⟨hx, hx'⟩⟩
  · cases h

/-- The parts of a well-formed spelling are read from its text. -/
theorem fqn?_of_spelling {p : Fqn.Spelling} (htext : p.text = v.text) (hp : p.WellFormed) :
    v.fqn? = some p.toFqn := by
  have hslash : ∀ s ∈ p.segments, '/' ∉ s := by
    simp only [Fqn.Spelling.segments, List.forall_mem_cons]
    exact ⟨hp.namespaceName.2, Fqn.not_mem_of_asciiLower hp.attrWord (by decide), hp.category.2,
      Fqn.not_mem_of_asciiLower hp.valueWord (by decide), hp.value.2, by simp⟩
  have hsegments : splitOn '/' (['/'].intercalate p.segments) = p.segments :=
    (splitOn_eq_iff (by simp [Fqn.Spelling.segments])).mpr ⟨rfl, hslash⟩
  rw [fqn?, Fqn.ofChars?, ← htext, p.splitScheme_text_iff.mpr hp.first]
  simp only [hsegments]
  exact Fqn.ofSegments?_eq_some_iff.mpr ⟨_, _, rfl, hp.namespaceName.1, hp.attrWord,
    hp.category.1, hp.valueWord, hp.value.1⟩

/-- **The simple name of a text with a slash** is what follows the last one. -/
theorem simpleName_of_text_eq {front last : String} (htext : v.text = front ++ "/" ++ last)
    (hlast : '/' ∉ last.toList) : v.simpleName = upper (trim last) := by
  have hchars : v.text.toList = front.toList ++ '/' :: last.toList := by simp [htext]
  rw [simpleName, simpleNameChars, hchars, trimChars_lastSegment_append hlast, upper, toList_trim]

/-- **White space around a name**: a text has the same parts when it is trimmed, but for the white
space that ends its value. -/
theorem fqn?_trim (v : Attribute) :
    (⟨trim v.text⟩ : Attribute).fqn? = v.fqn?.bind Fqn.trimmed? := by
  rw [fqn?, toList_trim, trimChars, Fqn.ofChars?_trimEnd, Fqn.ofChars?_trimStart, fqn?]

/-- **Names, exactly.**  A text is a fully qualified name exactly when the grammar has a
well-formed spelling of it.  Its namespace, its category segment and its category are then those of
the spelling, and its simple name is the value of the spelling, trimmed and in upper case.  A text
that is no such name has none of the three. -/
theorem fqn_exact (v : Attribute) :
    (v.isFqn = true ↔ ∃ p : Fqn.Spelling, p.text = v.text ∧ p.WellFormed) ∧
    (∀ p : Fqn.Spelling, p.text = v.text → p.WellFormed →
      v.namespace? = some p.namespaceName ∧ v.categorySegment? = some p.category ∧
        v.category? = Category.ofSlug? p.category ∧ v.simpleName = upper (trim p.value)) ∧
    (v.isFqn = false → v.namespace? = none ∧ v.categorySegment? = none ∧ v.category? = none) := by
  refine ⟨?_, fun p htext hp => ?_, fun h => ?_⟩
  · rw [isFqn, Option.isSome_iff_exists]
    constructor
    · rintro ⟨f, hf⟩
      obtain ⟨p, -, htext, hp⟩ := exists_spelling hf
      exact ⟨p, htext, hp⟩
    · rintro ⟨p, htext, hp⟩
      exact ⟨p.toFqn, fqn?_of_spelling htext hp⟩
  · have hf : v.fqn? = some p.toFqn := fqn?_of_spelling htext hp
    refine ⟨?_, ?_, ?_, simpleName_of_text_eq htext.symm hp.value.2⟩
    · simp [namespace?, hf]
    · simp [categorySegment?, hf]
    · simp [category?, categorySegment?, hf]
  · have hf : v.fqn? = none := Option.isNone_iff_eq_none.mp (Option.isSome_eq_false_iff.mp h)
    simp [namespace?, categorySegment?, category?, hf]

/-- The fixed words may be written in any case, and there may be white space around the value. -/
theorem fqn_exact_mixed_case :
    let p : Fqn.Spelling := ⟨⟨"d.com", "REL-TO", " usa "⟩, "https", "Attr", "VALUE"⟩
    let v : Attribute := ⟨"https://d.com/Attr/REL-TO/VALUE/ usa "⟩
    p.WellFormed ∧ v.isFqn = true ∧ v.namespace? = some "d.com" ∧
      v.categorySegment? = some "REL-TO" ∧ v.category? = some .relTo ∧ v.simpleName = "USA" := by
  intro p v
  have htext : p.text = v.text := by decide
  have hp : p.WellFormed :=
    ⟨p.splitScheme_text_iff.mp (by decide), by decide, by decide, by decide, by decide, by decide⟩
  obtain ⟨hisFqn, hparts, -⟩ := fqn_exact v
  obtain ⟨hnamespace, hsegment, hcategory, hname⟩ := hparts p htext hp
  refine ⟨hp, hisFqn.mpr ⟨p, htext, hp⟩, hnamespace, hsegment, ?_, ?_⟩
  · rw [hcategory]
    decide
  · rw [hname]
    decide +kernel

end Attribute
end Clearance
