import Mathlib.Data.List.Nodup

/-! Association lists with distinct keys: an entry is found under its key from either end. -/
namespace TcdOran.Lib

variable {κ ν : Type} {entries : List (κ × ν)} {key : κ} {value : ν}

theorem lookup_of_mem [BEq κ] [LawfulBEq κ] (hnodup : (entries.map Prod.fst).Nodup)
    (h : (key, value) ∈ entries) : entries.lookup key = some value := by
  obtain ⟨front, behind, rfl⟩ := List.append_of_mem h
  rw [List.map_append, List.map_cons, List.nodup_middle, List.nodup_cons] at hnodup
  rw [List.lookup_eq_some_iff]
  refine ⟨front, behind, rfl, fun entry hentry => ?_⟩
  have hkey : entry.1 ∈ front.map Prod.fst ++ behind.map Prod.fst :=
    List.mem_append_left _ (List.mem_map_of_mem hentry)
  have hne : key ≠ entry.1 := fun heq => hnodup.1 (heq ▸ hkey)
  simpa using hne

theorem lookup_reverse_of_mem [BEq κ] [LawfulBEq κ] (hnodup : (entries.map Prod.fst).Nodup)
    (h : (key, value) ∈ entries) : entries.reverse.lookup key = some value := by
  apply lookup_of_mem _ (List.mem_reverse.mpr h)
  rw [List.map_reverse]
  exact List.nodup_reverse.mpr hnodup

theorem filter_key_of_mem [DecidableEq κ] (hnodup : (entries.map Prod.fst).Nodup)
    (h : (key, value) ∈ entries) : (entries.filter fun entry => entry.1 = key) =
      [(key, value)] := by
  obtain ⟨front, behind, rfl⟩ := List.append_of_mem h
  rw [List.map_append, List.map_cons, List.nodup_middle, List.nodup_cons, List.mem_append,
    not_or] at hnodup
  have hother {others : List (κ × ν)} (hkey : key ∉ others.map Prod.fst) :
      (others.filter fun entry => entry.1 = key) = [] := by
    rw [List.filter_eq_nil_iff]
    intro entry hentry
    have hne : entry.1 ≠ key := fun heq => hkey (heq ▸ List.mem_map_of_mem hentry)
    simpa using hne
  rw [List.filter_append, List.filter_cons_of_pos (by simp), hother hnodup.1.1, hother hnodup.1.2,
    List.nil_append]

end TcdOran.Lib
