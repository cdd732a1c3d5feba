import Mathlib.Data.List.Sort
import Precis.Metadata

/-!
Metadata are determined by what is found under each key, for the keys stand in one order only and
none of them twice.
-/

namespace Precis.Metadata

theorem Entries.find?_eq_some_iff {entries : Entries} (h : entries.Pairwise (·.1 < ·.1))
    {key : Text} {values : List Text} :
    entries.find? key = some values ↔ (key, values) ∈ entries := by
  induction entries with
  | nil => simp [find?]
  | cons head rest ih =>
      obtain ⟨hhead, hrest⟩ := List.pairwise_cons.1 h
      rw [find?, List.mem_cons]
      split
      · next heq =>
        have hnot : (key, values) ∉ rest := by
          intro hmem
          have hlt : head.1 < key := hhead _ hmem
          rw [heq] at hlt
          exact List.lt_irrefl key hlt
        rw [or_iff_left hnot, Prod.ext_iff, heq, Option.some_inj]
        simp [eq_comm]
      · next hne =>
        rw [ih hrest, iff_or_self]
        rintro rfl
        exact absurd rfl hne

theorem mem_entries_iff {m : Metadata} {key : Text} {values : List Text} :
    (key, values) ∈ m.entries ↔ m.find? key = some values :=
  (Entries.find?_eq_some_iff m.sorted).symm

theorem ext_find? {m m' : Metadata} (h : ∀ key, m.find? key = m'.find? key) : m = m' := by
  have heq : m.entries = m'.entries := by
    refine m.sorted.eq_of_mem_iff m'.sorted fun e => ?_
    rw [mem_entries_iff, mem_entries_iff, h]
  cases m
  cases m'
  cases heq
  rfl

theorem sorted_keys (m : Metadata) : (m.toList.map Prod.fst).Pairwise (· < ·) :=
  List.pairwise_map.2 m.sorted

theorem nodup_keys (m : Metadata) : (m.toList.map Prod.fst).Nodup :=
  m.sorted_keys.nodup

end Precis.Metadata
