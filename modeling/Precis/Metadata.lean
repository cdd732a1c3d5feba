import Precis.Text.Basic

/-!
Metadata: keys in ascending order, each with the list of its values. The list may be empty, and the
key is present all the same.
-/

namespace Precis

abbrev Metadata.Entries := List (Text × List Text)

/-- Keys are compared by code point. -/
structure Metadata where
  entries : Metadata.Entries
  sorted : entries.Pairwise (·.1 < ·.1)
deriving DecidableEq

namespace Metadata

namespace Entries

def find? (key : Text) : Entries → Option (List Text)
  | [] => none
  | (k, values) :: rest => if k = key then some values else find? key rest

/-- Gives the key these values, whatever it had. -/
def insert (key : Text) (values : List Text) : Entries → Entries
  | [] => [(key, values)]
  | (k, old) :: rest =>
      if k = key then (key, values) :: rest
      else if key < k then (key, values) :: (k, old) :: rest
      else (k, old) :: insert key values rest

def erase (key : Text) (entries : Entries) : Entries :=
  entries.filter fun e => e.1 != key

theorem fst_of_mem_insert {key : Text} {values : List Text} {entries : Entries}
    {e : Text × List Text} (h : e ∈ insert key values entries) : e.1 = key ∨ e ∈ entries := by
  induction entries with
  | nil => simp_all [insert]
  | cons head rest ih =>
      simp only [insert] at h
      split at h
      · simp only [List.mem_cons] at h ⊢
        rcases h with rfl | h
        · exact .inl rfl
        · exact .inr (.inr h)
      · split at h
        · simp only [List.mem_cons] at h ⊢
          rcases h with rfl | h
          · exact .inl rfl
          · exact .inr h
        · simp only [List.mem_cons] at h ⊢
          rcases h with rfl | h
          · exact .inr (.inl rfl)
          · rcases ih h with h | h
            · exact .inl h
            · exact .inr (.inr h)

theorem pairwise_insert {key : Text} {values : List Text} {entries : Entries}
    (h : entries.Pairwise (·.1 < ·.1)) : (insert key values entries).Pairwise (·.1 < ·.1) := by
  induction entries with
  | nil => simp [insert]
  | cons head rest ih =>
      obtain ⟨hhead, hrest⟩ := List.pairwise_cons.1 h
      simp only [insert]
      split
      · next he => subst he; exact List.pairwise_cons.2 ⟨hhead, hrest⟩
      · next hne =>
        split
        · next hlt =>
          refine List.pairwise_cons.2 ⟨?_, h⟩
          intro e he
          rcases List.mem_cons.1 he with rfl | he
          · exact hlt
          · exact List.lt_trans hlt (hhead e he)
        · next hnlt =>
          refine List.pairwise_cons.2 ⟨?_, ih hrest⟩
          intro e he
          rcases fst_of_mem_insert he with rfl | he
          · exact Std.lt_of_le_of_ne (Std.not_lt.1 hnlt) (Ne.symm fun h => hne h.symm)
          · exact hhead e he

theorem find?_insert (key k : Text) (values : List Text) (entries : Entries) :
    (insert key values entries).find? k = if k = key then some values else entries.find? k := by
  induction entries with
  | nil => simp only [insert, find?, eq_comm]
  | cons head rest ih =>
      by_cases hk : k = key
      · subst hk
        simp only [insert]
        split
        · simp [find?]
        · split
          · simp [find?]
          · next hne _ => simpa [find?, hne] using ih
      · have hk' : ¬ key = k := fun h => hk h.symm
        simp only [insert]
        split
        · next he => simp [find?, he, hk']
        · split
          · simp [find?, hk']
          · simp only [find?, ih, hk, if_false]

theorem find?_erase (key k : Text) (entries : Entries) :
    (erase key entries).find? k = if k = key then none else entries.find? k := by
  induction entries with
  | nil => simp [erase, find?]
  | cons head rest ih =>
      by_cases hh : head.1 = key
      · have : erase key (head :: rest) = erase key rest := by simp [erase, hh]
        rw [this, ih]
        by_cases hk : k = key
        · simp [hk]
        · have hk' : ¬ key = k := fun h => hk h.symm
          simp [find?, hh, hk, hk']
      · have : erase key (head :: rest) = head :: erase key rest := by simp [erase, hh]
        rw [this]
        by_cases hk : head.1 = k
        · have : ¬ k = key := fun h => hh (hk.trans h)
          simp [find?, hk, this]
        · simp [find?, hk, ih]

theorem pairwise_erase {key : Text} {entries : Entries}
    (h : entries.Pairwise (·.1 < ·.1)) : (erase key entries).Pairwise (·.1 < ·.1) :=
  h.filter _

end Entries

def empty : Metadata := ⟨[], .nil⟩

instance : Inhabited Metadata := ⟨empty⟩

def find? (m : Metadata) (key : Text) : Option (List Text) :=
  m.entries.find? key

def contains (m : Metadata) (key : Text) : Bool :=
  (m.find? key).isSome

def values (m : Metadata) (key : Text) : List Text :=
  (m.find? key).getD []

/-- The first value of the key. -/
def get? (m : Metadata) (key : Text) : Option Text :=
  (m.find? key).bind List.head?

def joined? (m : Metadata) (key : Text) : Option Text :=
  (m.find? key).map List.flatten

def isEmpty (m : Metadata) : Bool :=
  m.entries.isEmpty

def toList (m : Metadata) : List (Text × List Text) :=
  m.entries

def insert (m : Metadata) (key : Text) (values : List Text) : Metadata :=
  ⟨m.entries.insert key values, Entries.pairwise_insert m.sorted⟩

/-- The value takes the place of all values of the key. -/
def set (m : Metadata) (key value : Text) : Metadata :=
  m.insert key [value]

/-- The value goes behind the values of the key. -/
def add (m : Metadata) (key value : Text) : Metadata :=
  m.insert key (m.values key ++ [value])

def erase (m : Metadata) (key : Text) : Metadata :=
  ⟨m.entries.erase key, Entries.pairwise_erase m.sorted⟩

/-- The values that the key had, and the metadata without it. -/
def remove (m : Metadata) (key : Text) : Option (List Text) × Metadata :=
  (m.find? key, m.erase key)

theorem find?_empty (key : Text) : empty.find? key = none := rfl

theorem find?_insert (m : Metadata) (key k : Text) (values : List Text) :
    (m.insert key values).find? k = if k = key then some values else m.find? k :=
  Entries.find?_insert ..

theorem find?_set (m : Metadata) (key k value : Text) :
    (m.set key value).find? k = if k = key then some [value] else m.find? k :=
  m.find?_insert ..

theorem find?_add (m : Metadata) (key k value : Text) :
    (m.add key value).find? k = if k = key then some (m.values key ++ [value]) else m.find? k :=
  m.find?_insert ..

theorem find?_erase (m : Metadata) (key k : Text) :
    (m.erase key).find? k = if k = key then none else m.find? k :=
  Entries.find?_erase ..

/-- Of entries with one key the last one counts. -/
def ofList (entries : List (Text × List Text)) : Metadata :=
  entries.foldl (fun m e => m.insert e.1 e.2) empty

end Metadata
end Precis
