import Mathlib.Data.List.Forall2
import Clearance.Json.Format
import Clearance.Proofs.Json.Strings

/-!
# Written documents are read back

The text of a document begins with a character by which a reader tells what it is, and ends where
the document ends.  White space between its parts is passed over.  So a reader of items or members
that takes each one back takes them all back, and the reader of documents takes back every document
of texts, flags and natural numbers, as deep as it may go.

## Main definitions

* `Json.Opens`, `Json.Blank`: how a value begins, and what may stand before it
* `Json.Reads`: a reader takes a text back as a value, whatever follows
* `Json.Writes`: a text is read back as a document
* `Json.Plain`, `Json.Legible`: the compact text of a document is, without parts or with some
* `Json.itemsFrom`, `Json.membersFrom`: the compact text of an array or object from one of its
  values on
* `Json.spacedItems`, `Json.spacedMembers`: the same with white space between the parts

## Main results

* `Json.readItems_spaced`, `Json.readMembers_spaced`: what is read back one by one is read back as
  an array or object
* `Json.Writes.array`, `Json.Writes.object`: texts of arrays and objects are put together of texts
* `Json.Legible.array`, `Json.Legible.object`: arrays and objects of legible documents are legible
-/

namespace Clearance.Json

variable {α : Type} {item value : Cursor → Except Stop (α × Cursor)} {text tail : List Char}
  {vs : List Json} {members : List (String × Json)} {d : Nat} {v : Json}

/-- The first character of a value, which is no white space and does not end anything. -/
def Opens (text : List Char) : Prop :=
  ∃ x rest, text = x :: rest ∧ isSeparator x = false ∧ x ≠ ']' ∧ x ≠ '\x7d'

/-- A reader takes a text back as a value, whatever follows. -/
def Reads (reader : Cursor → Except Stop (α × Cursor)) (text : List Char) (a : α) : Prop :=
  ∀ tail offset, Ends tail → ∃ offset',
    reader ⟨text ++ tail, offset⟩ = .ok (a, ⟨tail, offset'⟩)

/-- A text that is read back as a document, where `d` arrays and objects may still be nested. -/
structure Writes (d : Nat) (text : List Char) (v : Json) : Prop where
  opens : Opens text
  reads : ∀ depth, d ≤ depth → Reads (readValue depth) text v

/-- A document whose compact text is read back. -/
abbrev Legible (d : Nat) (v : Json) : Prop := Writes d v.compactChars v

/-- A document without parts that is read back as it is. -/
structure Plain (v : Json) : Prop where
  opens : Opens v.compactChars
  reads : ∀ tail offset, Ends tail → ∃ offset',
    readPlain ⟨v.compactChars ++ tail, offset⟩ = some (.ok (v, ⟨tail, offset'⟩))

theorem Writes.mono (h : Writes d text v) {e : Nat} (hde : d ≤ e) : Writes e text v :=
  ⟨h.opens, fun depth he => h.reads depth (Nat.le_trans hde he)⟩

/-! ## Beginnings -/

theorem skipBlanks_cons {x : Char} (h : isSeparator x = false) (rest : List Char) (offset : Nat) :
    (⟨x :: rest, offset⟩ : Cursor).skipBlanks = ⟨x :: rest, offset⟩ := by
  simp [Cursor.skipBlanks, h]

theorem Opens.skipBlanks (h : Opens text) (tail : List Char) (offset : Nat) :
    (⟨text ++ tail, offset⟩ : Cursor).skipBlanks = ⟨text ++ tail, offset⟩ := by
  obtain ⟨x, rest, rfl, hx, -⟩ := h
  exact skipBlanks_cons hx _ _

/-- White space, which may stand between the parts of a document. -/
def Blank (gap : List Char) : Prop := ∀ x ∈ gap, isSeparator x = true

theorem blank_nil : Blank [] := nofun

theorem blank_singleton {x : Char} (hx : isSeparator x = true) : Blank [x] := by
  intro y hy
  rw [List.mem_singleton.mp hy]
  exact hx

theorem Blank.skipBlanks {gap : List Char} (h : Blank gap) {x : Char} (hx : isSeparator x = false)
    (rest : List Char) (offset : Nat) :
    ∃ offset', (⟨gap ++ x :: rest, offset⟩ : Cursor).skipBlanks = ⟨x :: rest, offset'⟩ := by
  refine ⟨offset + ((gap ++ x :: rest).takeWhile isSeparator).length, ?_⟩
  rw [Cursor.skipBlanks, List.dropWhile_append_of_pos h,
    List.dropWhile_cons_of_neg (Bool.eq_false_iff.mp hx)]

theorem Opens.length_pos (h : Opens text) : 0 < text.length := by
  obtain ⟨x, rest, rfl, -⟩ := h
  exact Nat.succ_pos _

theorem opens_cons {x : Char} (hx : isSeparator x = false ∧ x ≠ ']' ∧ x ≠ '\x7d')
    (rest : List Char) : Opens (x :: rest) :=
  ⟨x, rest, rfl, hx⟩

theorem opens_stringChars (s : String) : Opens (stringChars s) :=
  opens_cons (by decide) _

/-! ## Values without parts -/

/-- Nothing that begins a number begins anything else. -/
theorem digit_ne {x : Char} (h : isDigit x = true) :
    isSeparator x = false ∧ ∀ y ∈ ['n', 't', 'f', '-', '"', '[', ']', '\x7b', '\x7d'], x ≠ y := by
  have hne : ∀ y, isDigit y = false → x ≠ y := by
    rintro y hy rfl
    rw [h] at hy
    cases hy
  refine ⟨?_, fun y hy => hne y ?_⟩
  · have h1 := hne ' ' rfl
    have h2 := hne '\n' rfl
    have h3 := hne '\t' rfl
    have h4 := hne '\r' rfl
    simp [isSeparator, h1, h2, h3, h4]
  · simp only [List.mem_cons, List.not_mem_nil, or_false] at hy
    obtain rfl | rfl | rfl | rfl | rfl | rfl | rfl | rfl | rfl := hy <;> rfl

theorem readPlain_digit {x : Char} (h : isDigit x = true) (rest : List Char) (offset : Nat) :
    readPlain ⟨x :: rest, offset⟩ = some (readNumber false ⟨x :: rest, offset⟩) := by
  obtain ⟨-, hne⟩ := digit_ne h
  have hn := hne 'n' (by simp)
  have ht := hne 't' (by simp)
  have hf := hne 'f' (by simp)
  have hm := hne '-' (by simp)
  simp only [readPlain, hn, ht, hf, hm, h, if_true, if_false]

/-- A document without parts is legible at any depth. -/
theorem Plain.legible (h : Plain v) (d : Nat) : Legible d v := by
  refine ⟨h.opens, fun depth _ tail offset ht => ?_⟩
  obtain ⟨offset', hr⟩ := h.reads tail offset ht
  refine ⟨offset', ?_⟩
  rw [readValue.eq_def]
  simp only [h.opens.skipBlanks, hr]

theorem plain_null : Plain .null :=
  ⟨opens_cons (by decide) _, fun _ offset _ => ⟨offset + 4, rfl⟩⟩

theorem plain_bool (b : Bool) : Plain (.bool b) := by
  cases b with
  | true => exact ⟨opens_cons (by decide) _, fun _ offset _ => ⟨offset + 4, rfl⟩⟩
  | false => exact ⟨opens_cons (by decide) _, fun _ offset _ => ⟨offset + 5, rfl⟩⟩

theorem plain_string (s : String) : Plain (.string s) := by
  refine ⟨opens_stringChars s, fun tail offset _ => ?_⟩
  obtain ⟨offset', h⟩ := readString_escaped s tail (offset + 1)
  refine ⟨offset', ?_⟩
  have htext : (Json.string s).compactChars ++ tail =
      '"' :: (s.toList.flatMap escaped ++ '"' :: tail) := by
    simp [compactChars, stringChars]
  have hplain : readPlain ⟨'"' :: (s.toList.flatMap escaped ++ '"' :: tail), offset⟩ =
      some ((readString ⟨s.toList.flatMap escaped ++ '"' :: tail, offset + 1⟩).map
        fun r => (.string r.1, r.2)) := rfl
  rw [htext, hplain, h]
  rfl

theorem compactChars_nat (n : Nat) : (Json.int n).compactChars = Nat.toDigits 10 n := by
  have hn : ¬(n : Int) < 0 := by omega
  rw [compactChars, intChars, if_neg hn]
  rfl

theorem toDigits_eq_cons (n : Nat) :
    ∃ x rest, Nat.toDigits 10 n = x :: rest ∧ isDigit x = true := by
  obtain ⟨x, rest, h⟩ := List.exists_cons_of_ne_nil (Nat.toDigits_ne_nil (n := n) (b := 10))
  refine ⟨x, rest, h, ?_⟩
  exact Nat.isDigit_of_mem_toDigits (b := 10) (n := n) (by decide) (by decide) (by simp [h])

theorem opens_nat (n : Nat) : Opens (Json.int n).compactChars := by
  obtain ⟨x, rest, hx, hdigit⟩ := toDigits_eq_cons n
  obtain ⟨hsep, hne⟩ := digit_ne hdigit
  rw [compactChars_nat, hx]
  exact opens_cons ⟨hsep, hne ']' (by simp), hne '\x7d' (by simp)⟩ rest

theorem plain_nat {n : Nat} (hn : n ≤ wordLimit) : Plain (.int n) := by
  refine ⟨opens_nat n, fun tail offset ht => ?_⟩
  obtain ⟨offset', h⟩ := readNumber_toDigits hn ht offset
  obtain ⟨x, rest, hx, hdigit⟩ := toDigits_eq_cons n
  refine ⟨offset', ?_⟩
  rw [hx] at h
  rw [compactChars_nat, hx, List.cons_append, readPlain_digit hdigit, ← List.cons_append, h]

/-! ## Items -/

/-- What stands before a value, unless it is the first. -/
def separator (first : Bool) : List Char := if first then [] else [',']

/-- The text of an array from one of its items on, with its end, and with white space before each
item and before the end. -/
def spacedItems (lead last : List Char) : Bool → List (List Char) → List Char
  | _, [] => last ++ [']']
  | first, text :: texts =>
    separator first ++ (lead ++ (text ++ spacedItems lead last false texts))

/-- The compact text of an array from one of its items on, with its end. -/
def itemsFrom : Bool → List Json → List Char
  | _, [] => [']']
  | first, v :: vs => separator first ++ v.compactChars ++ itemsFrom false vs

theorem itemsFrom_eq_spaced (first : Bool) (vs : List Json) :
    itemsFrom first vs = spacedItems [] [] first (vs.map compactChars) := by
  induction vs generalizing first with
  | nil => rfl
  | cons v vs ih => simp [itemsFrom, spacedItems, ih]

theorem compactItems_eq (vs : List Json) : compactItems vs ++ [']'] = itemsFrom false vs := by
  induction vs with
  | nil => rfl
  | cons v vs ih => simp [compactItems, itemsFrom, separator, ← ih]

theorem compactChars_array (vs : List Json) :
    (Json.array vs).compactChars = '[' :: itemsFrom true vs := by
  cases vs with
  | nil => rfl
  | cons v vs => simp [compactChars, itemsFrom, separator, ← compactItems_eq]

/-- White space and what ends a value end a value. -/
theorem ends_append {gap : List Char} (hgap : Blank gap) (h : Ends tail) : Ends (gap ++ tail) := by
  cases gap with
  | nil => exact h
  | cons x gap => exact ends_cons (.inr (.inr (.inr (hgap x List.mem_cons_self)))) _

theorem ends_spacedItems (lead : List Char) {last : List Char} (hlast : Blank last)
    (texts : List (List Char)) (tail : List Char) :
    Ends (spacedItems lead last false texts ++ tail) := by
  cases texts with
  | nil =>
    rw [spacedItems, List.append_assoc]
    exact ends_append hlast (ends_cons (by simp) _)
  | cons text texts => exact ends_cons (by simp) _

theorem nextItem_end (first : Bool) {gap : List Char} (hgap : Blank gap) (tail : List Char)
    (offset : Nat) :
    ∃ offset', nextItem first ⟨gap ++ ']' :: tail, offset⟩ =
      .ok (false, ⟨']' :: tail, offset'⟩) := by
  obtain ⟨offset', hskip⟩ := hgap.skipBlanks (x := ']') rfl tail offset
  exact ⟨offset', by rw [nextItem, hskip]; rfl⟩

theorem nextItem_value (first : Bool) {gap : List Char} (hgap : Blank gap) (h : Opens text)
    (tail : List Char) (offset : Nat) :
    ∃ offset', nextItem first ⟨separator first ++ (gap ++ (text ++ tail)), offset⟩ =
      .ok (true, ⟨text ++ tail, offset'⟩) := by
  obtain ⟨x, rest, rfl, hx, hbracket, -⟩ := h
  cases first with
  | true =>
    obtain ⟨offset', hskip⟩ := hgap.skipBlanks hx (rest ++ tail) offset
    refine ⟨offset', ?_⟩
    rw [separator, if_pos rfl, List.nil_append, List.cons_append, nextItem, hskip]
    -- an item is no end
    dsimp only
    split
    · next h => cases h
    · next h => exact absurd (List.cons.inj h).1 hbracket
    · rfl
  | false =>
    obtain ⟨offset', hskip⟩ := hgap.skipBlanks hx (rest ++ tail) (offset + 1)
    refine ⟨offset', ?_⟩
    simp only [nextItem, separator, Bool.false_eq_true, ↓reduceIte, ↓Char.isValue,
      List.cons_append, List.nil_append, skipBlanks_cons (x := ',') rfl, Char.reduceEq, imp_self,
      hskip]
    -- the comma is not the last thing in the array
    split
    · next h => cases h
    · next h => exact absurd (List.cons.inj h).1 hbracket
    · rfl

/-- **Items that are read back one by one are read back together.** -/
theorem readItems_spaced {lead last : List Char} (hlead : Blank lead) (hlast : Blank last)
    {texts : List (List Char)} {as : List α}
    (h : List.Forall₂ (fun text a => Opens text ∧ Reads item text a) texts as)
    (tail : List Char) (fuel : Nat) (hfuel : texts.length < fuel) (first : Bool) (offset : Nat) :
    ∃ offset', readItems item fuel first ⟨spacedItems lead last first texts ++ tail, offset⟩ =
      .ok (as, ⟨']' :: tail, offset'⟩) := by
  induction h generalizing fuel first offset with
  | nil =>
    obtain ⟨fuel, rfl⟩ : ∃ n, fuel = n + 1 := ⟨fuel - 1, by simp at hfuel; omega⟩
    obtain ⟨offset', hend⟩ := nextItem_end first hlast tail offset
    refine ⟨offset', ?_⟩
    rw [readItems, spacedItems, List.append_assoc, List.singleton_append, hend]
    rfl
  | @cons text a texts as hta _ ih =>
    obtain ⟨fuel, rfl⟩ : ∃ n, fuel = n + 1 := ⟨fuel - 1, by simp at hfuel; omega⟩
    obtain ⟨hopens, hreads⟩ := hta
    obtain ⟨o₁, hnext⟩ :=
      nextItem_value first hlead hopens (spacedItems lead last false texts ++ tail) offset
    obtain ⟨o₂, hitem⟩ := hreads _ o₁ (ends_spacedItems lead hlast texts tail)
    obtain ⟨o₃, hrest⟩ := ih fuel (by simpa using hfuel) false o₂
    refine ⟨o₃, ?_⟩
    rw [spacedItems, List.append_assoc, List.append_assoc, List.append_assoc, readItems, hnext]
    simp only [bind, Except.bind, if_true, hitem, hrest]

theorem readItems_itemsFrom {as : List α}
    (h : List.Forall₂ (fun v a => Opens v.compactChars ∧ Reads item v.compactChars a) vs as)
    (tail : List Char) (fuel : Nat) (hfuel : vs.length < fuel) (first : Bool) (offset : Nat) :
    ∃ offset', readItems item fuel first ⟨itemsFrom first vs ++ tail, offset⟩ =
      .ok (as, ⟨']' :: tail, offset'⟩) := by
  rw [itemsFrom_eq_spaced]
  exact readItems_spaced blank_nil blank_nil (List.forall₂_map_left_iff.mpr h) tail fuel
    (by simpa using hfuel) first offset

theorem closeArray_end (tail : List Char) (offset : Nat) :
    closeArray ⟨']' :: tail, offset⟩ = .ok ⟨tail, offset + 1⟩ := by
  rw [closeArray, skipBlanks_cons rfl]
  rfl

theorem length_lt_spacedItems (lead last : List Char) {texts : List (List Char)}
    (h : ∀ text ∈ texts, Opens text) (first : Bool) :
    texts.length < (spacedItems lead last first texts).length := by
  induction texts generalizing first with
  | nil => simp [spacedItems]
  | cons text texts ih =>
    have htext := (h text List.mem_cons_self).length_pos
    have htexts := ih (fun t ht => h t (List.mem_cons_of_mem text ht)) false
    simp only [spacedItems, List.length_append, List.length_cons]
    omega

theorem length_lt_itemsFrom (h : ∀ v ∈ vs, Opens v.compactChars) (first : Bool) :
    vs.length < (itemsFrom first vs).length := by
  rw [itemsFrom_eq_spaced, ← List.length_map compactChars]
  exact length_lt_spacedItems [] [] (List.forall_mem_map.mpr h) first

/-! ## Members -/

/-- The text of an object from one of its members on, with its end, and with white space before each
member, before each value and before the end. -/
def spacedMembers (lead between last : List Char) : Bool → List (String × List Char) → List Char
  | _, [] => last ++ ['\x7d']
  | first, (k, text) :: texts =>
    separator first ++ (lead ++ (stringChars k ++
      ':' :: (between ++ (text ++ spacedMembers lead between last false texts))))

/-- The compact text of an object from one of its members on, with its end. -/
def membersFrom : Bool → List (String × Json) → List Char
  | _, [] => ['\x7d']
  | first, (k, v) :: members =>
    separator first ++ (stringChars k ++ ':' :: (v.compactChars ++ membersFrom false members))

theorem membersFrom_eq_spaced (first : Bool) (members : List (String × Json)) :
    membersFrom first members =
      spacedMembers [] [] [] first (members.map fun m => (m.1, m.2.compactChars)) := by
  induction members generalizing first with
  | nil => rfl
  | cons m members ih => simp [membersFrom, spacedMembers, ih]

theorem compactMembers_eq (members : List (String × Json)) :
    compactMembers members ++ ['\x7d'] = membersFrom false members := by
  induction members with
  | nil => rfl
  | cons m members ih => simp [compactMembers, membersFrom, separator, ← ih]

theorem compactChars_object (members : List (String × Json)) :
    (Json.object members).compactChars = '\x7b' :: membersFrom true members := by
  cases members with
  | nil => rfl
  | cons m members => simp [compactChars, membersFrom, separator, ← compactMembers_eq]

theorem ends_spacedMembers (lead between : List Char) {last : List Char} (hlast : Blank last)
    (texts : List (String × List Char)) (tail : List Char) :
    Ends (spacedMembers lead between last false texts ++ tail) := by
  cases texts with
  | nil =>
    rw [spacedMembers, List.append_assoc]
    exact ends_append hlast (ends_cons (by simp) _)
  | cons m texts => exact ends_cons (by simp) _

theorem ends_membersFrom (members : List (String × Json)) (tail : List Char) :
    Ends (membersFrom false members ++ tail) := by
  rw [membersFrom_eq_spaced]
  exact ends_spacedMembers [] [] blank_nil _ tail

theorem nextKey_end (first : Bool) {gap : List Char} (hgap : Blank gap) (tail : List Char)
    (offset : Nat) :
    ∃ offset', nextKey first ⟨gap ++ '\x7d' :: tail, offset⟩ =
      .ok (false, ⟨'\x7d' :: tail, offset'⟩) := by
  obtain ⟨offset', hskip⟩ := hgap.skipBlanks (x := '\x7d') rfl tail offset
  exact ⟨offset', by rw [nextKey, hskip]; rfl⟩

/-- The key of a member, with what stands before it. -/
theorem nextKey_key (first : Bool) {gap : List Char} (hgap : Blank gap) (k : String)
    (tail : List Char) (offset : Nat) :
    ∃ c offset', nextKey first ⟨separator first ++ (gap ++ (stringChars k ++ tail)), offset⟩ =
        .ok (true, c) ∧
      readString c = .ok (k, ⟨tail, offset'⟩) := by
  have htext : stringChars k ++ tail = '"' :: (k.toList.flatMap escaped ++ '"' :: tail) := by
    simp [stringChars]
  rw [htext]
  cases first with
  | true =>
    obtain ⟨o₁, hskip⟩ := hgap.skipBlanks (x := '"') rfl
      (k.toList.flatMap escaped ++ '"' :: tail) offset
    obtain ⟨offset', h⟩ := readString_escaped k tail (o₁ + 1)
    refine ⟨_, offset', ?_, h⟩
    simp [nextKey, nextKey.keyAt, separator, hskip]
  | false =>
    obtain ⟨o₁, hskip⟩ := hgap.skipBlanks (x := '"') rfl
      (k.toList.flatMap escaped ++ '"' :: tail) (offset + 1)
    obtain ⟨offset', h⟩ := readString_escaped k tail (o₁ + 1)
    refine ⟨_, offset', ?_, h⟩
    simp [nextKey, nextKey.keyAt, separator, skipBlanks_cons (x := ',') rfl, hskip]

theorem readColon_colon (tail : List Char) (offset : Nat) :
    readColon ⟨':' :: tail, offset⟩ = .ok ⟨tail, offset + 1⟩ := by
  rw [readColon, skipBlanks_cons rfl]
  rfl

/-- **Members whose values are read back one by one are read back together.** -/
theorem readMembers_spaced {lead between last : List Char} (hlead : Blank lead)
    (hlast : Blank last) {texts : List (String × List Char)} {as : List (String × α)}
    (h : List.Forall₂ (fun m a => m.1 = a.1 ∧ Reads value (between ++ m.2) a.2) texts as)
    (tail : List Char) (fuel : Nat) (hfuel : texts.length < fuel) (first : Bool) (offset : Nat) :
    ∃ offset', readMembers value fuel first
        ⟨spacedMembers lead between last first texts ++ tail, offset⟩ =
      .ok (as, ⟨'\x7d' :: tail, offset'⟩) := by
  induction h generalizing fuel first offset with
  | nil =>
    obtain ⟨fuel, rfl⟩ : ∃ n, fuel = n + 1 := ⟨fuel - 1, by simp at hfuel; omega⟩
    obtain ⟨offset', hend⟩ := nextKey_end first hlast tail offset
    refine ⟨offset', ?_⟩
    rw [readMembers, spacedMembers, List.append_assoc, List.singleton_append, hend]
    rfl
  | @cons m a texts as hma _ ih =>
    obtain ⟨k, text⟩ := m
    obtain ⟨k', a⟩ := a
    obtain ⟨rfl, hreads⟩ : k = k' ∧ Reads value (between ++ text) a := hma
    obtain ⟨fuel, rfl⟩ : ∃ n, fuel = n + 1 := ⟨fuel - 1, by simp at hfuel; omega⟩
    obtain ⟨c, o₁, hnext, hkey⟩ := nextKey_key first hlead k
      (':' :: (between ++ text ++ (spacedMembers lead between last false texts ++ tail))) offset
    obtain ⟨o₂, hvalue⟩ := hreads _ (o₁ + 1) (ends_spacedMembers lead between hlast texts tail)
    obtain ⟨o₃, hrest⟩ := ih fuel (by simpa using hfuel) false o₂
    refine ⟨o₃, ?_⟩
    have htext : spacedMembers lead between last first ((k, text) :: texts) ++ tail =
        separator first ++ (lead ++ (stringChars k ++
          ':' :: (between ++ text ++ (spacedMembers lead between last false texts ++ tail)))) := by
      simp [spacedMembers]
    rw [htext, readMembers, hnext]
    simp only [bind, Except.bind, if_true, hkey, readColon_colon, hvalue, hrest]

theorem closeObject_end (tail : List Char) (offset : Nat) :
    closeObject ⟨'\x7d' :: tail, offset⟩ = .ok ⟨tail, offset + 1⟩ := by
  rw [closeObject, skipBlanks_cons rfl]
  rfl

theorem length_lt_spacedMembers (lead between last : List Char)
    (texts : List (String × List Char)) (first : Bool) :
    texts.length < (spacedMembers lead between last first texts).length := by
  induction texts generalizing first with
  | nil => simp [spacedMembers]
  | cons m texts ih =>
    have hrest := ih false
    simp only [spacedMembers, List.length_append, List.length_cons]
    omega

theorem length_lt_membersFrom (members : List (String × Json)) (first : Bool) :
    members.length < (membersFrom first members).length := by
  rw [membersFrom_eq_spaced, ← List.length_map fun m : String × Json => (m.1, m.2.compactChars)]
  exact length_lt_spacedMembers [] [] [] _ first

/-! ## Arrays and objects -/

/-- A reader of documents passes over white space before them. -/
theorem Writes.reads_append {gap : List Char} (h : Writes d text v) (hgap : Blank gap)
    {depth : Nat} (hd : d ≤ depth) : Reads (readValue depth) (gap ++ text) v := by
  intro tail offset ht
  obtain ⟨x, rest, rfl, hx, -⟩ := h.opens
  obtain ⟨o₁, hskip⟩ := hgap.skipBlanks hx (rest ++ tail) offset
  obtain ⟨offset', hread⟩ := h.reads depth hd tail o₁ ht
  refine ⟨offset', ?_⟩
  rw [readValue.eq_def, List.cons_append, skipBlanks_cons hx] at hread
  rw [readValue.eq_def, List.append_assoc, List.cons_append, hskip]
  exact hread

/-- **The text of an array** of texts that are read back, one level deeper. -/
theorem Writes.array {lead last : List Char} (hlead : Blank lead) (hlast : Blank last)
    {texts : List (List Char)} (h : List.Forall₂ (Writes d) texts vs) :
    Writes (d + 1) ('[' :: spacedItems lead last true texts) (.array vs) := by
  refine ⟨opens_cons (by decide) _, fun depth hd tail offset _ => ?_⟩
  obtain ⟨depth, rfl⟩ : ∃ n, depth = n + 1 := ⟨depth - 1, by omega⟩
  have hitems : List.Forall₂ (fun text v => Opens text ∧ Reads (readValue depth) text v) texts vs :=
    h.imp fun _ _ hw => ⟨hw.opens, hw.reads depth (by omega)⟩
  have hopens : ∀ text ∈ texts, Opens text := fun text ht => by
    obtain ⟨i, hi, rfl⟩ := List.mem_iff_getElem.mp ht
    exact (h.get hi (h.length_eq ▸ hi)).opens
  have hlen := length_lt_spacedItems lead last hopens true
  obtain ⟨o₁, hread⟩ := readItems_spaced hlead hlast hitems tail
    ((spacedItems lead last true texts ++ tail).length + 1)
    (by rw [List.length_append]; omega) true (offset + 1)
  refine ⟨o₁ + 1, ?_⟩
  have hplain :
      readPlain ⟨'[' :: (spacedItems lead last true texts ++ tail), offset⟩ = none := rfl
  rw [List.cons_append, readValue.eq_def]
  simp only [skipBlanks_cons (x := '[') rfl, hplain, List.head?_cons, if_true, List.drop_one,
    List.tail_cons, bind, Except.bind, hread, closeArray_end, closed, pure, Except.pure]

/-- **The text of an object** whose values have texts that are read back, one level deeper. -/
theorem Writes.object {lead between last : List Char} (hlead : Blank lead)
    (hbetween : Blank between) (hlast : Blank last) {texts : List (String × List Char)}
    (h : List.Forall₂ (fun m a => m.1 = a.1 ∧ Writes d m.2 a.2) texts members) :
    Writes (d + 1) ('\x7b' :: spacedMembers lead between last true texts) (.object members) := by
  refine ⟨opens_cons (by decide) _, fun depth hd tail offset _ => ?_⟩
  obtain ⟨depth, rfl⟩ : ∃ n, depth = n + 1 := ⟨depth - 1, by omega⟩
  have hvalues : List.Forall₂
      (fun m a => m.1 = a.1 ∧ Reads (readValue depth) (between ++ m.2) a.2) texts members :=
    h.imp fun _ _ hm => ⟨hm.1, hm.2.reads_append hbetween (by omega)⟩
  have hlen := length_lt_spacedMembers lead between last texts true
  obtain ⟨o₁, hread⟩ := readMembers_spaced hlead hlast hvalues tail
    ((spacedMembers lead between last true texts ++ tail).length + 1)
    (by rw [List.length_append]; omega) true (offset + 1)
  refine ⟨o₁ + 1, ?_⟩
  have hplain :
      readPlain ⟨'\x7b' :: (spacedMembers lead between last true texts ++ tail), offset⟩ = none :=
    rfl
  have hbracket : ¬some '\x7b' = some '[' := by decide
  rw [List.cons_append, readValue.eq_def]
  simp only [skipBlanks_cons (x := '\x7b') rfl, hplain, List.head?_cons, if_neg hbracket,
    List.drop_one, List.tail_cons, bind, Except.bind, hread, closeObject_end, closed, pure,
    Except.pure]

/-- **An array of legible documents is legible**, one level deeper. -/
theorem Legible.array (h : ∀ v ∈ vs, Legible d v) : Legible (d + 1) (.array vs) := by
  have htexts : List.Forall₂ (Writes d) (vs.map compactChars) vs :=
    List.forall₂_map_left_iff.mpr (List.forall₂_same.mpr h)
  rw [Legible, compactChars_array, itemsFrom_eq_spaced]
  exact .array blank_nil blank_nil htexts

/-- **An object of legible documents is legible**, one level deeper. -/
theorem Legible.object (h : ∀ m ∈ members, Legible d m.2) : Legible (d + 1) (.object members) := by
  have htexts : List.Forall₂ (fun m a => m.1 = a.1 ∧ Writes d m.2 a.2)
      (members.map fun m => (m.1, m.2.compactChars)) members :=
    List.forall₂_map_left_iff.mpr (List.forall₂_same.mpr fun m hm => ⟨rfl, h m hm⟩)
  rw [Legible, compactChars_object, membersFrom_eq_spaced]
  exact .object blank_nil blank_nil blank_nil htexts

end Clearance.Json
