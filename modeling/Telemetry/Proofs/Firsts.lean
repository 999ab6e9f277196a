import Mathlib.Data.List.Induction
import Mathlib.Data.List.Nodup
import Telemetry.Assoc
/-!
# What came first

A list without its repetitions, and what is kept of a history by key: each key stands where it came
first, with what all that came under it amounts to. Main fact: what is kept follows the history by
one entry at a time.
-/
namespace Telemetry

section EraseDups

variable {α : Type} [DecidableEq α]

theorem eraseDups_concat (l : List α) (a : α) :
    (l ++ [a]).eraseDups = if a ∈ l then l.eraseDups else l.eraseDups ++ [a] := by
  rw [List.eraseDups_append]
  split
  · rename_i h
    simp [List.removeAll, h]
  · rename_i h
    simp [List.removeAll, h, List.eraseDups_cons]

theorem nodup_eraseDups (l : List α) : l.eraseDups.Nodup := by
  induction l using List.reverseRecOn with
  | nil => exact List.nodup_nil
  | append_singleton l a ih =>
    rw [eraseDups_concat]
    split
    · exact ih
    · rename_i ha
      refine List.nodup_append.2 ⟨ih, List.nodup_singleton a, ?_⟩
      rintro b hb c hc rfl
      exact ha (List.mem_singleton.1 hc ▸ List.mem_eraseDups.1 hb)

end EraseDups

namespace Assoc

variable {α β γ : Type} [DecidableEq α]

/-- An entry takes the place of all that was there under its key. -/
theorem mem_put_of_nodup {key : α} {value : γ} {entries : List (α × γ)} {entry : α × γ}
    (hn : (entries.map (·.1)).Nodup) (h : entry ∈ put key value entries) :
    entry = (key, value) ∨ entry.1 ≠ key ∧ entry ∈ entries := by
  induction entries with
  | nil => exact .inl (List.mem_singleton.1 h)
  | cons first rest ih =>
    rw [List.map_cons, List.nodup_cons] at hn
    rw [put] at h
    split at h
    · rename_i hk
      refine (List.mem_cons.1 h).imp_right fun he => ⟨?_, List.mem_cons_of_mem first he⟩
      rintro rfl
      exact hn.1 (hk ▸ List.mem_map_of_mem he)
    · rename_i hk
      rcases List.mem_cons.1 h with rfl | h
      · exact .inr ⟨hk, List.mem_cons_self⟩
      · exact (ih hn.2 h).imp_right (And.imp_right (List.mem_cons_of_mem first))

theorem not_mem_of_get?_eq_none {key : α} {entries : List (α × γ)} (h : get? key entries = none) :
    key ∉ entries.map (·.1) := by
  induction entries with
  | nil => exact List.not_mem_nil
  | cons entry rest ih =>
    rw [get?] at h
    split at h
    · cases h
    · rename_i hk
      rw [List.map_cons, List.mem_cons, not_or]
      exact ⟨fun he => hk he.symm, ih h⟩

/-- The keys of a history, each where it came first, with something that fits what came under it. -/
structure Keeps (key : β → α) (fits : List β → γ → Prop) (history : List β)
    (entries : List (α × γ)) : Prop where
  keys : entries.map (·.1) = (history.map key).eraseDups
  values : ∀ entry ∈ entries, fits (history.filter (key · = entry.1)) entry.2

namespace Keeps

variable {key : β → α} {fits : List β → γ → Prop} {history : List β} {entries : List (α × γ)}

theorem nil : Keeps key fits [] [] :=
  ⟨rfl, fun _ h => absurd h List.not_mem_nil⟩

section Kept

variable (h : Keeps key fits history entries)
include h

theorem nodup : (entries.map (·.1)).Nodup :=
  h.keys ▸ nodup_eraseDups _

theorem of_get? {k : α} {value : γ} (hg : get? k entries = some value) :
    fits (history.filter (key · = k)) value :=
  h.values (k, value) (mem_of_get? hg)

theorem filter_eq_nil {k : α} (hg : get? k entries = none) : history.filter (key · = k) = [] := by
  have hk := not_mem_of_get?_eq_none hg
  rw [h.keys, List.mem_eraseDups] at hk
  rw [List.filter_eq_nil_iff]
  intro u hu he
  exact hk (List.mem_map.2 ⟨u, hu, of_decide_eq_true he⟩)

theorem put {u : β} {value : γ} (hv : fits (history.filter (key · = key u) ++ [u]) value) :
    Keeps key fits (history ++ [u]) (put (key u) value entries) where
  keys := by
    rw [map_fst_put, h.keys, List.map_append, List.map_singleton, eraseDups_concat]
    simp only [List.mem_eraseDups]
  values entry he := by
    rw [List.filter_append]
    rcases mem_put_of_nodup h.nodup he with rfl | ⟨hne, he⟩
    · simpa using hv
    · simpa [hne.symm] using h.values entry he

end Kept

end Keeps

end Assoc

end Telemetry
