import Clearance.Number.Double

/-!
# JSON values

A JSON document as a tree.  The members of an object are a list in the order in which they were
written, and may repeat a key; `canonical` sorts the members of every object by key and keeps the
last of those that share one.  `Fields` is an object in that form, with the order as part of its
type.

Keys are compared by code point, which is also the order of their UTF-8 bytes.

## Main definitions

* `Json`: a document.
* `Keyed`: lists of keyed values, with `Keyed.insert` for lists in order.
* `Fields`: the members of an object, in order of their keys and without repetition.
* `Json.canonical`: a document with all its objects in that form.
-/

namespace Clearance

/-- A JSON document. -/
inductive Json where
  | null
  | bool (b : Bool)
  | int (n : Int)
  | real (x : Double)
  | string (s : String)
  | array (items : List Json)
  | object (members : List (String × Json))
  deriving Inhabited, Repr, BEq

/-! ## Keyed lists -/

namespace Keyed

variable {α : Type}

/-- Ascending keys, none twice. -/
def Sorted (l : List (String × α)) : Prop := l.Pairwise fun a b => a.1 < b.1

/-- Set the value of a key in a list in order. -/
def insert (k : String) (v : α) : List (String × α) → List (String × α)
  | [] => [(k, v)]
  | (k', v') :: rest =>
    if k < k' then (k, v) :: (k', v') :: rest
    else if k = k' then (k, v) :: rest
    else (k', v') :: insert k v rest

/-- The first value of a key. -/
def find? (k : String) (l : List (String × α)) : Option α :=
  (l.find? fun e => e.1 = k).map (·.2)

/-- The members of a list in order of their keys, the last of those that share one. -/
def sort (l : List (String × α)) : List (String × α) :=
  l.foldl (fun acc e => insert e.1 e.2 acc) []

theorem lt_of_not_lt_of_ne {a b : String} (h : ¬ a < b) (hne : a ≠ b) : b < a := by
  rcases String.le_total a b with hab | hba
  · exact absurd (String.le_antisymm hab (String.not_lt.mp h)) hne
  · exact String.not_le.mp fun hab => hne (String.le_antisymm hab hba)

theorem mem_insert_key {k : String} {v : α} {l : List (String × α)} {e : String × α}
    (h : e ∈ insert k v l) : e.1 = k ∨ e ∈ l := by
  induction l with
  | nil => simp [insert] at h; simp [h]
  | cons a rest ih =>
    obtain ⟨k', v'⟩ := a
    unfold insert at h
    split at h
    · rcases List.mem_cons.mp h with h | h
      · exact .inl (by rw [h])
      · exact .inr h
    · split at h
      · rcases List.mem_cons.mp h with h | h
        · exact .inl (by rw [h])
        · exact .inr (List.mem_cons_of_mem _ h)
      · rcases List.mem_cons.mp h with h | h
        · exact .inr (by simp [h])
        · rcases ih h with h | h
          · exact .inl h
          · exact .inr (List.mem_cons_of_mem _ h)

/-- Setting a key keeps the order. -/
theorem sorted_insert (k : String) (v : α) {l : List (String × α)} (h : Sorted l) :
    Sorted (insert k v l) := by
  induction l with
  | nil => simp [insert, Sorted]
  | cons a rest ih =>
    obtain ⟨k', v'⟩ := a
    obtain ⟨hhead, htail⟩ := List.pairwise_cons.mp h
    unfold insert
    split
    · next hlt =>
      refine List.pairwise_cons.mpr ⟨fun e he => ?_, h⟩
      rcases List.mem_cons.mp he with rfl | he
      · exact hlt
      · exact String.lt_trans hlt (hhead e he)
    · next hlt =>
      split
      · next heq => subst heq; exact List.pairwise_cons.mpr ⟨hhead, htail⟩
      · next hne =>
        refine List.pairwise_cons.mpr ⟨fun e he => ?_, ih htail⟩
        rcases mem_insert_key he with hk | he
        · rw [hk]; exact lt_of_not_lt_of_ne hlt hne
        · exact hhead e he

theorem sorted_sort (l : List (String × α)) : Sorted (sort l) := by
  suffices ∀ acc : List (String × α), Sorted acc →
      Sorted (l.foldl (fun acc e => insert e.1 e.2 acc) acc) from this [] List.Pairwise.nil
  induction l with
  | nil => exact fun _ h => h
  | cons e rest ih => exact fun acc h => ih _ (sorted_insert _ _ h)

/-- Looking up a key after it was set. -/
theorem find?_insert (k j : String) (v : α) {l : List (String × α)} (h : Sorted l) :
    find? j (insert k v l) = if j = k then some v else find? j l := by
  induction l with
  | nil => by_cases hj : j = k <;> simp [insert, find?, hj, eq_comm]
  | cons a rest ih =>
    obtain ⟨k', v'⟩ := a
    obtain ⟨hhead, htail⟩ := List.pairwise_cons.mp h
    have ih := ih htail
    unfold insert
    split
    · by_cases hj : j = k
      · simp [find?, hj]
      · have : ¬ k = j := fun h => hj h.symm
        simp [find?, hj, this]
    · split
      · next heq =>
        subst heq
        by_cases hj : j = k
        · simp [find?, hj]
        · have : ¬ k = j := fun h => hj h.symm
          simp [find?, hj, this]
      · next hne =>
        by_cases hj : j = k
        · subst hj
          have hk' : ¬ k' = j := fun h => hne h.symm
          simp only [find?, List.find?_cons, hk', decide_false, if_true] at ih ⊢
          exact ih
        · by_cases hk' : k' = j
          · simp [find?, hk', hj]
          · simp only [find?, List.find?_cons, hk', decide_false, hj, if_false] at ih ⊢
            exact ih

end Keyed

/-! ## Objects in order -/

/-- The members of an object, in order of their keys and without repetition. -/
structure Fields where
  members : List (String × Json)
  sorted : Keyed.Sorted members

namespace Fields

instance : Inhabited Fields := ⟨⟨[], List.Pairwise.nil⟩⟩

instance : BEq Fields := ⟨fun a b => a.members == b.members⟩

/-- The object without members. -/
def empty : Fields := ⟨[], List.Pairwise.nil⟩

/-- Set the value of a key. -/
def insert (f : Fields) (k : String) (v : Json) : Fields :=
  ⟨Keyed.insert k v f.members, Keyed.sorted_insert k v f.sorted⟩

/-- The value of a key. -/
def get? (f : Fields) (k : String) : Option Json := Keyed.find? k f.members

/-- The number of members. -/
def size (f : Fields) : Nat := f.members.length

/-- The members of a list, the last of those that share a key. -/
def ofList (l : List (String × Json)) : Fields := ⟨Keyed.sort l, Keyed.sorted_sort l⟩

/-- The document whose members these are. -/
def toJson (f : Fields) : Json := .object f.members

/-- The members of both, those of `top` where both have a key. -/
def merge (under top : Fields) : Fields :=
  top.members.foldl (fun acc e => acc.insert e.1 e.2) under

theorem ext_members {f g : Fields} (h : f.members = g.members) : f = g := by
  cases f; cases g; cases h; rfl

@[simp] theorem get?_empty (k : String) : empty.get? k = none := rfl

@[simp] theorem get?_insert (f : Fields) (k j : String) (v : Json) :
    (f.insert k v).get? j = if j = k then some v else f.get? j :=
  Keyed.find?_insert k j v f.sorted

end Fields

/-! ## Canonical form -/

namespace Json

mutual
/-- The document with the members of all its objects in order, the last of those that share a
key. -/
def canonical : Json → Json
  | .array items => .array (canonicalItems items)
  | .object members => .object (Keyed.sort (canonicalMembers members))
  | v => v

/-- The items of an array in canonical form. -/
def canonicalItems : List Json → List Json
  | [] => []
  | v :: rest => v.canonical :: canonicalItems rest

/-- The members of an object with their values in canonical form. -/
def canonicalMembers : List (String × Json) → List (String × Json)
  | [] => []
  | (k, v) :: rest => (k, v.canonical) :: canonicalMembers rest
end

/-- The members of an object as they were written; no other document has any. -/
def members? : Json → Option (List (String × Json))
  | .object members => some members
  | _ => none

/-- The members of an object in order. -/
def fields? : Json → Option Fields
  | .object members => some (Fields.ofList members)
  | _ => none

/-- The text of a string. -/
def string? : Json → Option String
  | .string s => some s
  | _ => none

/-- The value of a key of an object. -/
def member? (k : String) : Json → Option Json
  | .object members => Keyed.find? k members
  | _ => none

/-- A count. -/
def ofNat (n : Nat) : Json := .int n

/-- A list of texts. -/
def ofStrings (l : List String) : Json := .array (l.map .string)

end Json
end Clearance
