/-!
# Cutting lists into chunks

A list is cut from the front into chunks of one length; only the last may be shorter. Main facts:
the chunks make up the list again, none is empty and none too long.
-/
namespace Telemetry

variable {α : Type}

/-- Chunks of `n` members, or of one if `n` is zero. -/
def chunks (n : Nat) : List α → List (List α)
  | [] => []
  | a :: l => (a :: l.take (n - 1)) :: chunks n (l.drop (n - 1))
termination_by l => l.length
decreasing_by
  simp only [List.length_drop, List.length_cons]
  omega

@[simp] theorem chunks_nil (n : Nat) : chunks n ([] : List α) = [] := by
  rw [chunks]

@[simp] theorem flatten_chunks (n : Nat) (l : List α) : (chunks n l).flatten = l := by
  fun_induction chunks n l with
  | case1 => rfl
  | case2 a l ih => simp [ih]

theorem ne_nil_of_mem_chunks {n : Nat} {l c : List α} (h : c ∈ chunks n l) : c ≠ [] := by
  fun_induction chunks n l with
  | case1 => simp at h
  | case2 a l ih =>
    rcases List.mem_cons.1 h with rfl | h
    · exact List.cons_ne_nil _ _
    · exact ih h

theorem length_le_of_mem_chunks {n : Nat} {l c : List α} (hn : 0 < n) (h : c ∈ chunks n l) :
    c.length ≤ n := by
  fun_induction chunks n l with
  | case1 => simp at h
  | case2 a l ih =>
    rcases List.mem_cons.1 h with rfl | h
    · simp only [List.length_cons, List.length_take]
      omega
    · exact ih h

/-- All chunks but the last have the full length. -/
theorem length_of_mem_dropLast_chunks {n : Nat} {l c : List α} (hn : 0 < n)
    (h : c ∈ (chunks n l).dropLast) : c.length = n := by
  fun_induction chunks n l with
  | case1 => simp at h
  | case2 a l ih =>
    have hne : chunks n (l.drop (n - 1)) ≠ [] := by
      intro he
      simp [he] at h
    rw [List.dropLast_cons_of_ne_nil hne] at h
    rcases List.mem_cons.1 h with rfl | h
    · have hl : l.drop (n - 1) ≠ [] := by
        intro he
        simp [he] at hne
      have := List.length_pos_iff.2 hl
      simp only [List.length_drop, List.length_cons, List.length_take] at *
      omega
    · exact ih h

end Telemetry
