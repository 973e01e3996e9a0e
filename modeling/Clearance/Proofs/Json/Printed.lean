import Mathlib.Data.List.TakeWhile
import Clearance.Proofs.Json.Keyed
import Clearance.Proofs.Json.Records

/-!
# Printed documents are read back

A document is printed on one line or indented, and a line break follows it.  Both forms have the
same parts in the same order and differ in the white space between them, which a reader passes over.
So a document whose members are in order is what is read of either form.

## Main definitions

* `Json.Printable`: a document that is read back from both of its forms

## Main results

* `Json.Printable.array`, `Json.Printable.object`: documents with parts
* `Json.Printable.parse_compact`, `Json.Printable.parse_indented`: whole texts
-/

namespace Clearance.Json

variable {d : Nat} {v : Json} {vs : List Json} {members : List (String × Json)}
  {text gap : List Char}

/-- Where `d` arrays and objects may still be nested, a document is read back from its compact form
and from its indented one at any level, and reading does not change the order of its members. -/
structure Printable (d : Nat) (v : Json) : Prop where
  compact : Legible d v
  indented : ∀ level, Writes d (v.indentedChars level) v
  canonical : v.canonical = v

theorem Printable.mono (h : Printable d v) {e : Nat} (hde : d ≤ e) : Printable e v :=
  ⟨h.compact.mono hde, fun level => (h.indented level).mono hde, h.canonical⟩

/-! ## Documents without parts -/

theorem printable_null (d : Nat) : Printable d .null :=
  ⟨plain_null.legible d, fun _ => plain_null.legible d, rfl⟩

theorem printable_string (d : Nat) (s : String) : Printable d (.string s) :=
  ⟨(plain_string s).legible d, fun _ => (plain_string s).legible d, rfl⟩

/-! ## Arrays and objects -/

theorem blank_newline (level : Nat) : Blank (newline level) := by
  intro x hx
  rcases List.mem_cons.mp hx with rfl | hx
  · rfl
  · rw [List.eq_of_mem_replicate hx]
    rfl

theorem indentedItems_eq (level : Nat) (last : List Char) (vs : List Json) :
    indentedItems level vs ++ (last ++ [']']) =
      spacedItems (newline level) last false (vs.map (indentedChars level)) := by
  induction vs with
  | nil => rfl
  | cons v vs ih => simp [indentedItems, spacedItems, separator, ← ih]

theorem indentedChars_array (level : Nat) (v : Json) (vs : List Json) :
    (Json.array (v :: vs)).indentedChars level =
      '[' :: spacedItems (newline (level + 1)) (newline level) true
        ((v :: vs).map (indentedChars (level + 1))) := by
  simp [indentedChars, spacedItems, separator, ← indentedItems_eq]

theorem indentedMembers_eq (level : Nat) (last : List Char) (members : List (String × Json)) :
    indentedMembers level members ++ (last ++ ['\x7d']) =
      spacedMembers (newline level) [' '] last false
        (members.map fun m => (m.1, m.2.indentedChars level)) := by
  induction members with
  | nil => rfl
  | cons m members ih => simp [indentedMembers, spacedMembers, separator, ← ih]

theorem indentedChars_object (level : Nat) (m : String × Json) (members : List (String × Json)) :
    (Json.object (m :: members)).indentedChars level =
      '\x7b' :: spacedMembers (newline (level + 1)) [' '] (newline level) true
        ((m :: members).map fun m => (m.1, m.2.indentedChars (level + 1))) := by
  simp [indentedChars, spacedMembers, separator, ← indentedMembers_eq]

/-- **An array of printable documents is printable**, one level deeper. -/
theorem Printable.array (h : ∀ v ∈ vs, Printable d v) : Printable (d + 1) (.array vs) where
  compact := Legible.array fun v hv => (h v hv).compact
  indented level := by
    cases vs with
    | nil => exact (Legible.array (List.forall_mem_nil _) : Legible (d + 1) (.array []))
    | cons v vs =>
      rw [indentedChars_array]
      refine .array (blank_newline _) (blank_newline _) (List.forall₂_map_left_iff.mpr ?_)
      exact List.forall₂_same.mpr fun w hw => (h w hw).indented (level + 1)
  canonical := by
    have hvs : vs.map Json.canonical = vs := calc
      _ = vs.map id := List.map_congr_left fun v hv => (h v hv).canonical
      _ = vs := List.map_id vs
    rw [Json.canonical, Format.canonicalItems_eq, hvs]

/-- **An object of printable documents is printable**, one level deeper, if its members are in
order. -/
theorem Printable.object (hsorted : Keyed.Sorted members) (h : ∀ m ∈ members, Printable d m.2) :
    Printable (d + 1) (.object members) where
  compact := Legible.object fun m hm => (h m hm).compact
  indented level := by
    cases members with
    | nil => exact (Legible.object (List.forall_mem_nil _) : Legible (d + 1) (.object []))
    | cons m members =>
      rw [indentedChars_object]
      refine .object (blank_newline _) (blank_singleton rfl) (blank_newline _)
        (List.forall₂_map_left_iff.mpr ?_)
      exact List.forall₂_same.mpr fun m hm => ⟨rfl, (h m hm).indented (level + 1)⟩
  canonical := by
    have hmembers : members.map (fun m => (m.1, m.2.canonical)) = members := calc
      members.map (fun m => (m.1, m.2.canonical)) = members.map id :=
        List.map_congr_left fun m hm => congrArg (Prod.mk m.1) (h m hm).canonical
      _ = members := List.map_id members
    rw [Json.canonical, canonicalMembers_eq, hmembers, hsorted.sort_eq]

theorem printable_ofStrings (d : Nat) (l : List String) : Printable (d + 1) (.ofStrings l) := by
  refine .array fun v hv => ?_
  obtain ⟨s, -, rfl⟩ := List.mem_map.mp hv
  exact printable_string d s

/-! ## Whole texts -/

/-- A whole text may end with white space. -/
theorem Writes.readText_append (h : Writes d text v) (hd : d ≤ maxDepth) (hgap : Blank gap) :
    readText (readValue maxDepth) (text ++ gap) = .ok v := by
  have hends : Ends (gap ++ []) := ends_append hgap ends_nil
  obtain ⟨offset', hread⟩ := h.reads maxDepth hd _ 0 hends
  rw [List.append_nil] at hread
  have hend : readEnd ⟨gap, offset'⟩ = .ok () := by
    have hskip : (⟨gap, offset'⟩ : Cursor).skipBlanks.rest = [] :=
      List.dropWhile_eq_nil_iff.mpr hgap
    rw [readEnd]
    simp only [hskip, List.isEmpty_nil, if_true]
  simp only [readText, Cursor.start, hread, bind, Except.bind, hend, pure, Except.pure]

/-- **A printable document is what is read of its compact form**, and white space after it. -/
theorem Printable.parse_compact (h : Printable d v) (hd : d ≤ maxDepth) (hgap : Blank gap) :
    parse (v.compact.toList ++ gap) = .ok v := by
  rw [Json.compact, String.toList_ofList, parse, h.compact.readText_append hd hgap]
  exact congrArg Except.ok h.canonical

/-- **A printable document is what is read of its indented form**, and white space after it. -/
theorem Printable.parse_indented (h : Printable d v) (hd : d ≤ maxDepth) (hgap : Blank gap) :
    parse (v.indented.toList ++ gap) = .ok v := by
  rw [Json.indented, String.toList_ofList, parse, (h.indented 0).readText_append hd hgap]
  exact congrArg Except.ok h.canonical

end Clearance.Json
