import Mathlib.Data.List.Nodup
import Precis.Json.Record
import Precis.Proofs.Text.Numeral

/-!
Records whose objects were edited. Of a record that was written with all its fields some may be
deleted, members that the record does not know may be added, and the order is free. Each field is
then read from what was kept of it, or has its default.
-/

namespace Precis.Json

/-- `edited` holds the members of `written` whose keys are not deleted, in any order, among others
whose keys are no field names. -/
inductive Edit (names deleted : List Text) : Json → Json → Prop
  | object {written foreign edited : List (Text × Json)}
      (hforeign : ∀ m ∈ foreign, m.1 ∉ names)
      (horder : edited.Perm (written.filter (fun m => !deleted.contains m.1) ++ foreign)) :
      Edit names deleted (.object written) (.object edited)

/-- What is read of a field: its default, if it was deleted. -/
def unlessDeleted {α : Type} (deleted : List Text) (name : String) (written default : α) : α :=
  if deleted.contains name.toList then default else written

theorem Edit.refl {names : List Text} {members : List (Text × Json)} :
    Edit names [] (.object members) (.object members) := by
  have hnone : ∀ m ∈ ([] : List (Text × Json)), m.1 ∉ names := by simp
  exact .object hnone (by simp)

theorem toUInt64?_natural (n : UInt64) : toUInt64? (.natural n.toNat) = some n :=
  Text.word64?_eq_some_iff.2 rfl

theorem toList?_ofTexts (ts : List Text) : toList? toText? (ofTexts ts) = some ts := by
  change (ts.map Json.string).mapM toText? = some ts
  induction ts with
  | nil => rfl
  | cons t ts ih =>
      rw [List.map_cons, List.mapM_cons, ih]
      rfl

variable {names deleted : List Text} {members written : List (Text × Json)} {key : Text}
  {value json : Json}

theorem member?_eq_head? (key : Text) (members : List (Text × Json)) :
    member? key members = (members.filter fun m => m.1 == key).head?.map Prod.snd := by
  induction members with
  | nil => rfl
  | cons m members ih =>
      simp only [member?, List.filter_cons, beq_iff_eq]
      split
      · rfl
      · exact ih

theorem filter_key_of_nodup (hkeys : (members.map Prod.fst).Nodup) (h : (key, value) ∈ members) :
    members.filter (fun m => m.1 == key) = [(key, value)] := by
  induction members with
  | nil => exact absurd h List.not_mem_nil
  | cons m members ih =>
      rw [List.map_cons, List.nodup_cons] at hkeys
      obtain ⟨hnew, hkeys⟩ := hkeys
      rcases List.mem_cons.1 h with rfl | h
      · have hrest : members.filter (fun m => m.1 == key) = [] := by
          refine List.filter_eq_nil_iff.2 fun m hm heq => hnew ?_
          exact List.mem_map.2 ⟨m, hm, by simpa using heq⟩
        rw [List.filter_cons_of_pos (by simp), hrest]
      · have hne : m.1 ≠ key := fun heq => hnew (List.mem_map.2 ⟨_, h, heq.symm⟩)
        rw [List.filter_cons_of_neg (by simpa using hne), ih hkeys h]

/-- What the members with the key of a field are after an edit. -/
theorem filter_key_of_edit {foreign edited : List (Text × Json)}
    (hforeign : ∀ m ∈ foreign, m.1 ∉ names)
    (horder : edited.Perm (written.filter (fun m => !deleted.contains m.1) ++ foreign))
    (hkeys : (written.map Prod.fst).Nodup) (hkey : key ∈ names) (h : (key, value) ∈ written) :
    edited.filter (fun m => m.1 == key) =
      if deleted.contains key then [] else [(key, value)] := by
  have hnone : foreign.filter (fun m => m.1 == key) = [] := by
    refine List.filter_eq_nil_iff.2 fun m hm heq => hforeign m hm ?_
    rwa [eq_of_beq heq]
  have hperm := horder.filter fun m => m.1 == key
  rw [List.filter_append, hnone, List.append_nil, List.filter_comm,
    filter_key_of_nodup hkeys h] at hperm
  split
  case isTrue hdeleted =>
    rw [List.filter_cons_of_neg (by simpa using hdeleted), List.filter_nil] at hperm
    exact List.perm_nil.1 hperm
  case isFalse hkept =>
    rw [List.filter_cons_of_pos (by simpa using hkept), List.filter_nil] at hperm
    exact List.perm_singleton.1 hperm

namespace Record

theorem eq_of_orDefault? {α : Type} {r : Record} {name : String} {default a : α}
    {decode : Json → Option α} (h : r.orDefault? name default decode = some a) :
    a = ((r name.toList).bind decode).getD default := by
  unfold orDefault? at h
  split at h
  · next hnone => rw [hnone, Option.bind_none, Option.getD_none, Option.some.inj h]
  · next value hvalue => rw [hvalue, Option.bind_some, h, Option.getD_some]

/-- The record has what was written of every field that is not deleted. -/
def Keeps (r : Record) (deleted : List Text) (written : List (Text × Json)) : Prop :=
  ∀ key value, (key, value) ∈ written →
    r key = if deleted.contains key then none else some value

theorem Keeps.orDefault?_eq {α : Type} {r : Record} {decode : Json → Option α} {a : α}
    (hr : r.Keeps deleted written) (name : String) (hmem : (name.toList, value) ∈ written)
    (hdecode : decode value = some a) (default : α) :
    r.orDefault? name default decode = some (unlessDeleted deleted name a default) := by
  rw [orDefault?, hr _ _ hmem, unlessDeleted]
  split_ifs
  · rfl
  · exact hdecode

theorem Keeps.required?_eq {α : Type} {r : Record} {decode : Json → Option α} {a : α}
    (hr : r.Keeps deleted written) (name : String) (hmem : (name.toList, value) ∈ written)
    (hdecode : decode value = some a) :
    r.required? name decode = if deleted.contains name.toList then none else some a := by
  rw [required?, hr _ _ hmem]
  split_ifs
  · rfl
  · exact hdecode

/-- A field that may be null is absent if it is deleted. -/
theorem Keeps.optional?_eq {α : Type} {r : Record} {encode : α → Json} {decode : Json → Option α}
    {a : Option α} (hr : r.Keeps deleted written) (name : String)
    (hmem : (name.toList, ofOption encode a) ∈ written)
    (hread : ∀ a, encode a ≠ .null ∧ decode (encode a) = some a) :
    r.optional? name decode = some (unlessDeleted deleted name a none) := by
  rw [optional?, hr _ _ hmem, unlessDeleted]
  split_ifs
  · rfl
  · cases a with
    | none => rfl
    | some a =>
        obtain ⟨hnull, hdecode⟩ := hread a
        simp only [ofOption, hdecode, Option.map_some]

end Record

/-- An edited record can be read, and no field of it is lost or changed. -/
theorem Edit.exists_record (h : Edit names deleted (.object written) json)
    (hnames : written.map Prod.fst = names) (hnodup : names.Nodup) :
    ∃ r : Record, json.record? names = some r ∧ r.Keeps deleted written := by
  obtain @⟨_, foreign, edited, hforeign, horder⟩ := h
  have hfilter : ∀ key value, (key, value) ∈ written →
      edited.filter (fun m => m.1 == key) =
        if deleted.contains key then [] else [(key, value)] :=
    fun key value hmem =>
      filter_key_of_edit hforeign horder (hnames ▸ hnodup)
        (hnames ▸ List.mem_map.2 ⟨_, hmem, rfl⟩) hmem
  have honce : hasRepeated names edited = false := by
    rw [hasRepeated, List.any_eq_false]
    intro key hkey
    obtain ⟨⟨_, value⟩, hmem, rfl⟩ := List.mem_map.1 (hnames ▸ hkey)
    rw [hfilter _ _ hmem]
    split_ifs <;> simp
  refine ⟨fun key => member? key edited, ?_, fun key value hmem => ?_⟩
  · rw [record?, honce]
    rfl
  · change member? key edited = _
    rw [member?_eq_head?, hfilter _ _ hmem]
    split_ifs <;> rfl

end Precis.Json
