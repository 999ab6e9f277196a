/-!
# Segments of a text

Texts made of parts with one separator character between them, as in dotted metric names. Cutting
at the separator and joining with it are inverse to each other on parts that do not hold it.
-/
namespace Telemetry.Text

/-- The parts with `sep` between neighbours. -/
def joinWith (sep : Char) : List String → String
  | [] => ""
  | [s] => s
  | s :: t :: rest => s ++ String.singleton sep ++ joinWith sep (t :: rest)

/-- Cuts at every `sep`; there is one more piece than there are separators. -/
def pieces (sep : Char) : List Char → List (List Char)
  | [] => [[]]
  | c :: cs =>
    if c = sep then [] :: pieces sep cs
    else match pieces sep cs with
      | [] => [[c]]
      | p :: ps => (c :: p) :: ps

/-- The non-empty pieces between separators, joined by single separators. -/
def collapse (sep : Char) (cs : List Char) : List Char :=
  (((pieces sep cs).filter (!·.isEmpty)).intersperse [sep]).flatten

theorem pieces_ne_nil (sep : Char) (cs : List Char) : pieces sep cs ≠ [] := by
  cases cs with
  | nil => simp [pieces]
  | cons c cs =>
    rw [pieces]
    split
    · simp
    · split <;> simp

theorem not_mem_of_mem_pieces {sep : Char} {cs p : List Char} (h : p ∈ pieces sep cs) :
    sep ∉ p := by
  induction cs generalizing p with
  | nil => simp_all [pieces]
  | cons c cs ih =>
    rw [pieces] at h
    split at h
    · rcases List.mem_cons.1 h with rfl | h
      · simp
      · exact ih h
    · rename_i hc
      split at h
      · rename_i he
        exact absurd he (pieces_ne_nil sep cs)
      · rename_i q qs he
        rcases List.mem_cons.1 h with rfl | h
        · have := ih (p := q) (by simp [he])
          simp [this, Ne.symm hc]
        · exact ih (by simp [he, h])

theorem pieces_append_cons {sep : Char} {l : List Char} (h : sep ∉ l) (rest : List Char) :
    pieces sep (l ++ sep :: rest) = l :: pieces sep rest := by
  induction l with
  | nil => simp [pieces]
  | cons c l ih =>
    obtain ⟨hc, hl⟩ := not_or.1 (mt List.mem_cons.2 h)
    rw [List.cons_append, pieces, if_neg (Ne.symm hc), ih hl]

theorem pieces_of_not_mem {sep : Char} {l : List Char} (h : sep ∉ l) : pieces sep l = [l] := by
  induction l with
  | nil => rfl
  | cons c l ih =>
    obtain ⟨hc, hl⟩ := not_or.1 (mt List.mem_cons.2 h)
    rw [pieces, if_neg (Ne.symm hc), ih hl]

/-- Each side of a separator is cut for itself. -/
theorem pieces_append (sep : Char) (l rest : List Char) :
    pieces sep (l ++ sep :: rest) = pieces sep l ++ pieces sep rest := by
  induction l with
  | nil => simp [pieces]
  | cons c l ih =>
    rw [List.cons_append, pieces, pieces, ih]
    split
    · rfl
    · cases h : pieces sep l with
      | nil => exact absurd h (pieces_ne_nil sep l)
      | cons p ps => rfl

/-- Pieces that are joined by single separators are cut apart again. -/
theorem pieces_flatten_intersperse {sep : Char} {p : List Char} {ps : List (List Char)}
    (h : ∀ q ∈ p :: ps, sep ∉ q) :
    pieces sep ((p :: ps).intersperse [sep]).flatten = p :: ps := by
  induction ps generalizing p with
  | nil => simpa using pieces_of_not_mem (h p List.mem_cons_self)
  | cons q ps ih =>
    have hq := ih fun x hx => h x (List.mem_cons_of_mem p hx)
    have hp := pieces_append_cons (h p List.mem_cons_self)
      ((q :: ps).intersperse [sep]).flatten
    rw [hq] at hp
    exact hp

/-- Lines that are each ended by the separator are cut apart again. -/
theorem pieces_flatMap {sep : Char} {lines : List (List Char)} (h : ∀ l ∈ lines, sep ∉ l) :
    pieces sep (lines.flatMap (· ++ [sep])) = lines ++ [[]] := by
  induction lines with
  | nil => rfl
  | cons l lines ih =>
    have hl : sep ∉ l := h l List.mem_cons_self
    have hr := ih fun x hx => h x (List.mem_cons_of_mem l hx)
    rw [List.flatMap_cons, List.append_assoc, List.singleton_append, pieces_append_cons hl, hr]
    rfl

theorem length_pieces (sep : Char) (cs : List Char) :
    (pieces sep cs).length = cs.count sep + 1 := by
  induction cs with
  | nil => rfl
  | cons c cs ih =>
    rw [pieces, List.count_cons]
    split
    · rename_i hc
      simp [hc, ih]
    · rename_i hc
      cases h : pieces sep cs with
      | nil => exact absurd h (pieces_ne_nil sep cs)
      | cons p ps =>
        rw [h] at ih
        simpa [hc] using ih

/-- Lines make as many pieces more than there are lines as they hold separators. -/
theorem length_pieces_flatMap (sep : Char) (lines : List (List Char)) :
    (pieces sep (lines.flatMap (· ++ [sep]))).length =
      lines.flatten.count sep + lines.length + 1 := by
  induction lines with
  | nil => rfl
  | cons l lines ih =>
    rw [List.flatMap_cons, List.append_assoc, List.singleton_append, pieces_append,
      List.length_append, ih, length_pieces, List.flatten_cons, List.count_append,
      List.length_cons]
    omega

/-- Parts that are joined are each cut for themselves. -/
theorem pieces_joinWith (sep : Char) {parts : List String} (h : parts ≠ []) :
    pieces sep (joinWith sep parts).toList = parts.flatMap (pieces sep ·.toList) := by
  induction parts with
  | nil => exact absurd rfl h
  | cons s parts ih =>
    cases parts with
    | nil => simp [joinWith]
    | cons t rest =>
      have hs : (joinWith sep (s :: t :: rest)).toList =
          s.toList ++ sep :: (joinWith sep (t :: rest)).toList := by
        simp [joinWith]
      rw [hs, pieces_append, ih (List.cons_ne_nil t rest)]
      rfl

theorem joinWith_eq_intercalate (sep : Char) (parts : List String) :
    joinWith sep parts = (String.singleton sep).intercalate parts := by
  induction parts with
  | nil => rfl
  | cons s parts ih =>
    cases parts with
    | nil => simp [joinWith]
    | cons t rest => rw [joinWith, ih, String.intercalate_cons_cons]

/-- Joining adds no character but the separator. -/
theorem mem_joinWith {c sep : Char} (h : c ≠ sep) {parts : List String} :
    c ∈ (joinWith sep parts).toList ↔ ∃ s ∈ parts, c ∈ s.toList := by
  induction parts with
  | nil => simp [joinWith]
  | cons s parts ih =>
    cases parts with
    | nil => simp [joinWith]
    | cons t rest =>
      rw [joinWith, String.toList_append, String.toList_append, List.mem_append, List.mem_append, ih]
      simp [h]

/-- A separator at an end or next to another one leaves an empty piece. -/
theorem nil_mem_pieces {sep : Char} {cs : List Char}
    (h : cs.head? = some sep ∨ cs.getLast? = some sep ∨ [sep, sep] <:+: cs) :
    [] ∈ pieces sep cs := by
  rcases h with h | h | h
  · obtain ⟨rest, rfl⟩ := List.head?_eq_some_iff.1 h
    rw [← List.nil_append (sep :: rest), pieces_append]
    exact List.mem_append_left _ List.mem_cons_self
  · obtain ⟨front, rfl⟩ := List.getLast?_eq_some_iff.1 h
    rw [pieces_append]
    exact List.mem_append_right _ List.mem_cons_self
  · obtain ⟨front, rest, rfl⟩ := h
    rw [List.append_assoc, List.cons_append, List.cons_append, List.nil_append, pieces_append,
      ← List.nil_append (sep :: rest), pieces_append]
    exact List.mem_append_right _ (List.mem_append_left _ List.mem_cons_self)

/-- The pieces of a collapsed text are the non-empty ones there were. -/
theorem pieces_collapse {sep : Char} {cs : List Char} (h : collapse sep cs ≠ []) :
    pieces sep (collapse sep cs) = (pieces sep cs).filter (!·.isEmpty) := by
  cases hf : (pieces sep cs).filter (!·.isEmpty) with
  | nil => simp [collapse, hf] at h
  | cons p ps =>
    rw [collapse, hf]
    apply pieces_flatten_intersperse
    intro q hq
    rw [← hf] at hq
    exact not_mem_of_mem_pieces (List.mem_filter.1 hq).1

/-- A collapsed text has no separator at either end and no two in a row. -/
theorem collapse_neat (sep : Char) (cs : List Char) :
    (collapse sep cs).head? ≠ some sep ∧ (collapse sep cs).getLast? ≠ some sep ∧
      ¬ [sep, sep] <:+: collapse sep cs := by
  by_cases h : collapse sep cs = []
  · simp [h]
  · have hn : [] ∉ pieces sep (collapse sep cs) := by
      rw [pieces_collapse h]
      simp
    exact ⟨fun hh => hn (nil_mem_pieces (.inl hh)), fun hh => hn (nil_mem_pieces (.inr (.inl hh))),
      fun hh => hn (nil_mem_pieces (.inr (.inr hh)))⟩

end Telemetry.Text
