/-!
# Association lists in order of entry

Lists of keyed values in which a key stands once and keeps the place of its first entry. Main
facts: what is found after an entry, and what the keys are then.
-/
namespace Telemetry.Assoc

variable {α β : Type} [DecidableEq α]

/-- Enters a value: in place of the old one of its key, or at the end. -/
def put (key : α) (value : β) : List (α × β) → List (α × β)
  | [] => [(key, value)]
  | entry :: rest =>
    if entry.1 = key then (key, value) :: rest else entry :: put key value rest

def get? (key : α) : List (α × β) → Option β
  | [] => none
  | entry :: rest => if entry.1 = key then some entry.2 else get? key rest

@[simp] theorem get?_put (key other : α) (value : β) (entries : List (α × β)) :
    get? other (put key value entries) = if key = other then some value else get? other entries := by
  induction entries with
  | nil => rfl
  | cons entry rest ih =>
    rw [put]
    split
    · rename_i h
      by_cases ho : key = other <;> simp [get?, h, ho]
    · rename_i h
      rw [get?, ih, get?]
      by_cases ho : entry.1 = other
      · subst ho
        simp [Ne.symm h]
      · simp [ho]

theorem map_fst_put (key : α) (value : β) (entries : List (α × β)) :
    (put key value entries).map (·.1) =
      if key ∈ entries.map (·.1) then entries.map (·.1) else entries.map (·.1) ++ [key] := by
  induction entries with
  | nil => rfl
  | cons entry rest ih =>
    rw [put]
    split
    · rename_i h
      simp [h]
    · rename_i h
      have hk : key ≠ entry.1 := fun e => h e.symm
      simp only [List.map_cons, ih, List.mem_cons, hk, false_or]
      split <;> simp

theorem mem_put {key : α} {value : β} {entries : List (α × β)} {entry : α × β}
    (h : entry ∈ put key value entries) : entry = (key, value) ∨ entry ∈ entries := by
  induction entries with
  | nil => exact .inl (List.mem_singleton.1 h)
  | cons first rest ih =>
    rw [put] at h
    split at h
    · rcases List.mem_cons.1 h with he | h
      · exact .inl he
      · exact .inr (List.mem_cons_of_mem first h)
    · rcases List.mem_cons.1 h with rfl | h
      · exact .inr List.mem_cons_self
      · exact (ih h).imp_right (List.mem_cons_of_mem first)

theorem mem_of_get? {key : α} {value : β} {entries : List (α × β)}
    (h : get? key entries = some value) : (key, value) ∈ entries := by
  induction entries with
  | nil => cases h
  | cons entry rest ih =>
    rw [get?] at h
    split at h
    · rename_i hk
      rw [← hk, ← Option.some.inj h]
      exact List.mem_cons_self
    · exact List.mem_cons_of_mem entry (ih h)

theorem nodup_put {key : α} {value : β} {entries : List (α × β)}
    (h : (entries.map (·.1)).Nodup) : ((put key value entries).map (·.1)).Nodup := by
  rw [map_fst_put]
  split
  · exact h
  · rename_i hk
    exact List.nodup_append.2 ⟨h, by simp, by rintro a ha b hb rfl; simp_all⟩

end Telemetry.Assoc
