import Precis.Metadata.Json
import Precis.Proofs.Json.Record
import Precis.Proofs.Json.RoundTrip
import Precis.Proofs.Metadata.Extensional

/-!
Metadata read back. The keys of metadata differ, so it makes no difference in which order the
members of their object are inserted.
-/

namespace Precis.Metadata

variable {entries : List (Text × List Text)} {key : Text} {values : List Text}

theorem find?_foldl_insert_of_not_mem (h : key ∉ entries.map Prod.fst) (m : Metadata) :
    (entries.foldl (fun m e => m.insert e.1 e.2) m).find? key = m.find? key := by
  induction entries generalizing m with
  | nil => rfl
  | cons e entries ih =>
      rw [List.map_cons, List.mem_cons, not_or] at h
      rw [List.foldl_cons, ih h.2, find?_insert, if_neg h.1]

theorem find?_foldl_insert_of_mem (hkeys : (entries.map Prod.fst).Nodup)
    (h : (key, values) ∈ entries) (m : Metadata) :
    (entries.foldl (fun m e => m.insert e.1 e.2) m).find? key = some values := by
  induction entries generalizing m with
  | nil => exact absurd h List.not_mem_nil
  | cons e entries ih =>
      rw [List.map_cons, List.nodup_cons] at hkeys
      rcases List.mem_cons.1 h with rfl | h
      · rw [List.foldl_cons, find?_foldl_insert_of_not_mem hkeys.1, find?_insert, if_pos rfl]
      · exact ih hkeys.2 h _

theorem ofList_of_perm {m : Metadata} (h : entries.Perm m.toList) : ofList entries = m := by
  have hkeys : (entries.map Prod.fst).Nodup := (h.map Prod.fst).nodup_iff.2 m.nodup_keys
  refine ext_find? fun key => ?_
  rw [ofList]
  cases hfound : m.find? key with
  | some values =>
      exact find?_foldl_insert_of_mem hkeys (h.mem_iff.2 (mem_entries_iff.2 hfound)) empty
  | none =>
      refine find?_foldl_insert_of_not_mem (fun hmem => ?_) empty
      obtain ⟨⟨_, values⟩, he, rfl⟩ := List.mem_map.1 ((h.map Prod.fst).mem_iff.1 hmem)
      rw [mem_entries_iff.1 he] at hfound
      cases hfound

/-- The member for a key with its values. -/
def member (e : Text × List Text) : Text × Json :=
  (e.1, .ofTexts e.2)

theorem mapM_member (entries : List (Text × List Text)) :
    (entries.map member).mapM entry? = some entries := by
  induction entries with
  | nil => rfl
  | cons e entries ih =>
      have hentry : entry? (member e) = some e := by
        rw [member, entry?, Json.toList?_ofTexts]
        rfl
      rw [List.map_cons, List.mapM_cons, hentry, ih]
      rfl

theorem ofJson?_of_perm {m : Metadata} (h : entries.Perm m.toList) :
    ofJson? (.object (entries.map member)) = some m := by
  rw [ofJson?, mapM_member, Option.map_some, ofList_of_perm h]

theorem ofJson?_toJson (m : Metadata) : ofJson? m.toJson = some m :=
  ofJson?_of_perm (.refl _)

theorem readable_toJson (m : Metadata) : m.toJson.Readable := by
  refine .object fun member hmember => ?_
  obtain ⟨e, -, rfl⟩ := List.mem_map.1 hmember
  exact Json.readable_ofTexts e.2

end Precis.Metadata
