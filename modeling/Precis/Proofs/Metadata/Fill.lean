import Precis.Document.ParseMetadata

/-!
Filling in what metadata lack. A key that is present keeps its values, even if it has none; an
absent key gets one value, if there is one for it. What is found under a key afterwards depends on
that key alone, so keys can be filled one after another in any order.
-/

namespace Precis.Metadata

theorem contains_eq_false_iff {m : Metadata} {key : Text} :
    m.contains key = false ↔ m.find? key = none := by
  rw [contains, Option.isSome_eq_false_iff, Option.isNone_iff_eq_none]

theorem add_of_find?_eq_none {m : Metadata} {key : Text} (value : Text)
    (h : m.find? key = none) : m.add key value = m.set key value := by
  rw [add, values, h, Option.getD_none, List.nil_append, set]

theorem find?_setSome (m : Metadata) (key k : Text) (value : Option Text) :
    (m.setSome key value).find? k =
      if k = key then (value.map fun v => [v]).or (m.find? k) else m.find? k := by
  cases value with
  | none => simp [setSome]
  | some value => simp [setSome, find?_set]

/-- Gives an absent key the value that there is for it. -/
def fill (m : Metadata) (key : Text) (value : Option Text) : Metadata :=
  if m.contains key then m else m.setSome key value

def fillAll (m : Metadata) (value : Text → Option Text) (keys : List Text) : Metadata :=
  keys.foldl (fun m key => m.fill key (value key)) m

theorem find?_fill (m : Metadata) (key k : Text) (value : Option Text) :
    (m.fill key value).find? k =
      if k = key then (m.find? k).or (value.map fun v => [v]) else m.find? k := by
  unfold fill
  split
  · next hcontains =>
    obtain ⟨values, hvalues⟩ := Option.isSome_iff_exists.1 hcontains
    split
    · next heq => rw [heq, hvalues, Option.some_or]
    · rfl
  · next hcontains =>
    have hnone : m.find? key = none := contains_eq_false_iff.1 (by simpa using hcontains)
    rw [find?_setSome]
    split
    · next heq => rw [heq, hnone, Option.or_none, Option.none_or]
    · rfl

theorem find?_fillAll (m : Metadata) (value : Text → Option Text) (keys : List Text) (k : Text) :
    (m.fillAll value keys).find? k =
      if k ∈ keys then (m.find? k).or ((value k).map fun v => [v]) else m.find? k := by
  unfold fillAll
  induction keys generalizing m with
  | nil => simp
  | cons key keys ih =>
      rw [List.foldl_cons, ih, find?_fill]
      by_cases heq : k = key
      · subst heq
        simp [Option.or_assoc]
      · simp [heq]

theorem find?_foldl_erase (m : Metadata) (keys : List Text) (k : Text) :
    (keys.foldl erase m).find? k = if k ∈ keys then none else m.find? k := by
  induction keys generalizing m with
  | nil => simp
  | cons key keys ih =>
      rw [List.foldl_cons, ih, find?_erase]
      by_cases heq : k = key
      · simp [heq]
      · simp [heq]

end Precis.Metadata
