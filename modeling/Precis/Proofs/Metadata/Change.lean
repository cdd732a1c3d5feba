import Precis.Proofs.Metadata.Extensional

/-!
Changes to metadata. Each names one key and leaves all others alone, so what is found under a key
after any number of changes is what the changes that name this key make of its values, in their
order and without the rest of the metadata.
-/

namespace Precis.Metadata

inductive Change where
  | set (key value : Text)
  | add (key value : Text)
  | remove (key : Text)

namespace Change

def key : Change → Text
  | .set key _ | .add key _ | .remove key => key

def apply (m : Metadata) : Change → Metadata
  | .set key value => m.set key value
  | .add key value => m.add key value
  | .remove key => (m.remove key).2

/-- What the change makes of the values of its key, of which there are none while it is absent. -/
def onValues (values : Option (List Text)) : Change → Option (List Text)
  | .set _ value => some [value]
  | .add _ value => some (values.getD [] ++ [value])
  | .remove _ => none

end Change

def run (m : Metadata) (changes : List Change) : Metadata :=
  changes.foldl Change.apply m

/-- What changes make of the values of one key, if they all name it. -/
def replay (values : Option (List Text)) (changes : List Change) : Option (List Text) :=
  changes.foldl Change.onValues values

/-- Every present key has at least one value. -/
def IsFilled (m : Metadata) : Prop :=
  ∀ e ∈ m.toList, e.2 ≠ []

variable {m : Metadata}

theorem find?_apply (m : Metadata) (change : Change) (key : Text) :
    (change.apply m).find? key =
      if key = change.key then change.onValues (m.find? key) else m.find? key := by
  cases change with
  | set k value => exact m.find?_set k key value
  | add k value =>
      refine (m.find?_add k key value).trans ?_
      by_cases heq : key = k
      · rw [if_pos heq, heq]
        exact (if_pos rfl).symm
      · rw [if_neg heq]
        exact (if_neg heq).symm
  | remove k => exact m.find?_erase k key

theorem find?_run (m : Metadata) (changes : List Change) (key : Text) :
    (m.run changes).find? key =
      replay (m.find? key) (changes.filter fun change => change.key = key) := by
  induction changes generalizing m with
  | nil => rfl
  | cons change changes ih =>
      rw [run, List.foldl_cons]
      refine (ih (change.apply m)).trans ?_
      rw [find?_apply]
      by_cases heq : change.key = key
      · rw [if_pos heq.symm, List.filter_cons_of_pos (by simpa using heq)]
        rfl
      · rw [if_neg fun h => heq h.symm, List.filter_cons_of_neg (by simpa using heq)]

theorem isFilled_iff : m.IsFilled ↔ ∀ key, m.find? key ≠ some [] := by
  constructor
  · intro h key hkey
    exact h (key, []) (mem_entries_iff.2 hkey) rfl
  · rintro h ⟨key, values⟩ hmem rfl
    exact h key (mem_entries_iff.1 hmem)

/-- No change leaves a key behind without values. -/
theorem IsFilled.apply (h : m.IsFilled) (change : Change) : (change.apply m).IsFilled := by
  rw [isFilled_iff] at h ⊢
  intro key
  rw [find?_apply]
  split
  · cases change <;> simp [Change.onValues]
  · exact h key

theorem IsFilled.run (h : m.IsFilled) (changes : List Change) : (m.run changes).IsFilled := by
  induction changes generalizing m with
  | nil => exact h
  | cons change changes ih => exact ih (h.apply change)

theorem IsFilled.contains_iff (h : m.IsFilled) {key : Text} :
    m.contains key = true ↔ ∃ value, m.get? key = some value := by
  have hkey := isFilled_iff.1 h key
  rw [contains, get?]
  cases hfound : m.find? key with
  | none => simp
  | some values =>
      obtain ⟨value, rest, rfl⟩ := List.exists_cons_of_ne_nil fun hnil => hkey (hnil ▸ hfound)
      simp

theorem mem_toList_iff {key : Text} {values : List Text} :
    (key, values) ∈ m.toList ↔ m.contains key = true ∧ m.values key = values := by
  rw [toList, mem_entries_iff, contains, Metadata.values]
  cases m.find? key <;> simp

theorem count_keys (m : Metadata) (key : Text) :
    (m.toList.map Prod.fst).count key = if m.contains key then 1 else 0 := by
  have hmem : key ∈ m.toList.map Prod.fst ↔ m.contains key = true := by
    simp [mem_toList_iff]
  simp only [m.nodup_keys.count, hmem]

/-- Keys do not depend on each other. After any changes a key has the values that the changes which
name it make of those it had at first, and all questions about the key are answered from them. The
keys that are present are listed in ascending order, each of them once. Metadata that start without
a key that has no values get none, and then a key is present exactly if it has a first value. -/
theorem keys_are_independent (m : Metadata) (changes : List Change) :
    let final := m.run changes
    (∀ key,
      let values := replay (m.find? key) (changes.filter fun change => change.key = key)
      final.contains key = values.isSome ∧ final.get? key = values.bind List.head? ∧
      final.values key = values.getD [] ∧ final.joined? key = values.map List.flatten ∧
      (final.remove key).1 = values) ∧
    (final.toList.map Prod.fst).Pairwise (· < ·) ∧
    (∀ key, (final.toList.map Prod.fst).count key = if final.contains key then 1 else 0) ∧
    (∀ key values, (key, values) ∈ final.toList ↔
      final.contains key = true ∧ final.values key = values) ∧
    ((∀ e ∈ m.toList, e.2 ≠ []) →
      ∀ key, final.contains key = true ↔ ∃ value, final.get? key = some value) := by
  intro final
  refine ⟨fun key => ?_, final.sorted_keys, final.count_keys, fun _ _ => mem_toList_iff,
    fun h key => (IsFilled.run h changes).contains_iff⟩
  intro values
  have hfound : final.find? key = values := find?_run m changes key
  exact ⟨congrArg Option.isSome hfound, congrArg (·.bind List.head?) hfound,
    congrArg (·.getD []) hfound, congrArg (·.map List.flatten) hfound, hfound⟩

/-- A title that is removed after it grew, among changes to other keys. -/
theorem keys_are_independent_removed_title :
    let title : Text := "title".toList
    let pages : Text := "pages".toList
    let m := Metadata.empty.set title "Annual ".toList
    let changes : List Change := [.add title "Report".toList, .add pages "3".toList, .remove title,
      .set pages "7".toList, .add title "Tides".toList]
    (∀ e ∈ m.toList, e.2 ≠ []) ∧
    (m.run changes).values title = ["Tides".toList] ∧
    (m.run changes).joined? pages = some "7".toList ∧
    (m.run (changes.take 2)).joined? title = some "Annual Report".toList ∧
    ((m.run (changes.take 2)).remove title).1 = some ["Annual ".toList, "Report".toList] ∧
    ((m.run (changes.take 3)).contains title = true ↔
      ∃ value, (m.run (changes.take 3)).get? title = some value) := by
  intro title pages m changes
  have hfilled : ∀ e ∈ m.toList, e.2 ≠ [] := by decide
  obtain ⟨hfinal, -⟩ := keys_are_independent m changes
  obtain ⟨hgrown, -⟩ := keys_are_independent m (changes.take 2)
  obtain ⟨-, -, -, -, hpresent⟩ := keys_are_independent m (changes.take 3)
  obtain ⟨-, -, hvalues, -, -⟩ := hfinal title
  obtain ⟨-, -, -, hpages, -⟩ := hfinal pages
  obtain ⟨-, -, -, hjoined, hremoved⟩ := hgrown title
  refine ⟨hfilled, hvalues.trans ?_, hpages.trans ?_, hjoined.trans ?_, hremoved.trans ?_,
    hpresent hfilled title⟩ <;> decide

end Precis.Metadata
