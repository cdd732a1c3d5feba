import Mathlib.Data.List.Find
import Precis.Document.IndexFields
import Precis.Proofs.Metadata.Fill

/-!
The description that metadata have. Of the keys that may hold one the first present key decides, and
it may be present without any text; the keys behind it are then not looked at.
-/

namespace Precis.Metadata

/-- The values of the key, run together, are some text. -/
def HasText (m : Metadata) (key : Text) : Prop :=
  ∃ values, m.find? key = some values ∧ values.flatten ≠ []

/-- The first present one of the keys for a description has some text. -/
def IsDescribed (m : Metadata) : Prop :=
  ∃ key, [Key.summary, Key.description, Key.twitterDescription].find? m.contains = some key ∧
    m.HasText key

theorem isDescribed_iff {m : Metadata} :
    m.IsDescribed ↔ ∃ key, descriptionKeys.find? m.contains = some key ∧ m.HasText key :=
  Iff.rfl

theorem hasText_iff {m : Metadata} {key : Text} :
    m.HasText key ↔ (m.joined? key).getD [] ≠ [] := by
  unfold HasText joined?
  cases m.find? key with
  | none => simp
  | some values => simp

theorem isSome_joined? (m : Metadata) (key : Text) :
    (m.joined? key).isSome = m.contains key := by
  rw [joined?, Option.isSome_map, contains]

theorem findSome?_joined? (m : Metadata) (keys : List Text) :
    keys.findSome? m.joined? = (keys.find? m.contains).bind m.joined? := by
  induction keys with
  | nil => rfl
  | cons key keys ih =>
      rw [List.findSome?_cons, List.find?_cons, ← isSome_joined?]
      cases hjoined : m.joined? key with
      | none => simpa using ih
      | some text => simp [hjoined]

theorem describedAs_ne_nil_iff {m : Metadata} : m.describedAs ≠ [] ↔ m.IsDescribed := by
  rw [describedAs, findSome?_joined?, isDescribed_iff]
  cases descriptionKeys.find? m.contains with
  | none => simp
  | some key => simp [hasText_iff]

instance (m : Metadata) : Decidable m.IsDescribed :=
  decidable_of_iff (m.describedAs ≠ []) describedAs_ne_nil_iff

theorem isDescribed_congr {m m' : Metadata}
    (h : ∀ key ∈ descriptionKeys, m.find? key = m'.find? key) :
    m.IsDescribed ↔ m'.IsDescribed := by
  have hfirst : descriptionKeys.find? m.contains = descriptionKeys.find? m'.contains :=
    List.find?_congr fun key hkey => by rw [contains, contains, h key hkey]
  rw [isDescribed_iff, isDescribed_iff, hfirst]
  refine exists_congr fun key => and_congr_right fun hkey => ?_
  rw [HasText, HasText, h key (List.mem_of_find?_eq_some hkey)]

theorem isDescribed_iff_of_find?_summary {m : Metadata} {values : List Text}
    (h : m.find? Key.summary = some values) : m.IsDescribed ↔ values.flatten ≠ [] := by
  have hfirst : descriptionKeys.find? m.contains = some Key.summary := by
    simp [descriptionKeys, contains, h]
  simp [isDescribed_iff, hfirst, HasText, h]

theorem find?_eraseDescriptions (m : Metadata) (key : Text) :
    m.eraseDescriptions.find? key = if key ∈ descriptionKeys then none else m.find? key :=
  m.find?_foldl_erase descriptionKeys key

end Precis.Metadata
