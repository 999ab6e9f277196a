import Telemetry.Proofs.Regex.Marks
import Telemetry.Proofs.Regex.Signs
/-!
# Patterns read between two ends of a text

The pattern of a rule is read inside of a group, with the signs that close the group and end the
text behind it. Main statement: a pattern that can be read so either closes a group that it does
not open, or can be read alone and gives what stands between the two ends.
-/
namespace Telemetry.Regex

/-! ## What a step does -/

theorem suffix_step [Engine] {s s' : ParseState} {c : Char} {cs rest : List Char}
    (h : step s c cs = .ok (s', rest)) : rest <:+ cs := by
  by_cases hc : c = '\\'
  · subst hc
    obtain ⟨⟨sign, more⟩, he, h⟩ := bind_eq_ok.1 h
    obtain ⟨pushed, -, h⟩ := bind_eq_ok.1 h
    cases h
    exact suffix_escape he
  · exact (local_step s hc).suffix h

theorem cut_step [Engine] {s s' : ParseState} {c : Char} {cs left : List Char}
    (h : step s c (cs ++ closing) = .ok (s', left)) (hl : 2 ≤ left.length) :
    (∃ rest, left = rest ++ closing ∧ step s c cs = .ok (s', rest)) ∨
      (s' = s.push (.look (.wordBoundary s.flags.unicode)) ∧ Dangling s.flags left) := by
  by_cases hc : c = '\\'
  · subst hc
    obtain ⟨⟨sign, left⟩, he, h⟩ := bind_eq_ok.1 h
    obtain ⟨pushed, hp, h⟩ := bind_eq_ok.1 h
    cases h
    rcases cut_escape he hl with ⟨rest, rfl, hr⟩ | ⟨hsign, hd⟩
    · exact .inl ⟨rest, rfl, bind_eq_ok.2 ⟨_, hr, bind_eq_ok.2 ⟨_, hp, rfl⟩⟩⟩
    · subst hsign
      cases hp
      exact .inr ⟨rfl, hd⟩
  · exact .inl ((local_step s hc).cut h hl)

/-- What a step does to a state. Only the sign `)` takes a group off the stack. -/
inductive Moves (s : ParseState) (c : Char) : ParseState → Prop where
  | push (item : Nested)
    (h : (∃ cls, item.expr = .chars cls) ∨ ∃ condition, item.expr = .look condition) :
    Moves s c { s with current := s.current.push item }
  | flags (flags : Flags) : Moves s c { s with flags, current.parts := none :: s.current.parts }
  | alternate : Moves s c s.alternate
  | repeated {item : Nested} {parts : List (Option Nested)} (least : Nat) (most : Option Nat)
    (lazy : Bool) (h : s.current.parts = some item :: parts) :
    Moves s c (s.repeated item parts least most lazy)
  | opened (flags : Flags) (index : Option Nat) (groups : Nat) (names : List String)
    (h : ∀ i, index = some i → 0 < i) :
    Moves s c
      { flags := flags
        current := { outer := s.flags, index := index }
        around := s.current :: s.around
        groups := groups
        names := names }
  | closed {outer : OpenGroup} {around : List OpenGroup} (hc : c = ')')
    (h : s.around = outer :: around) :
    Moves s c { s with
      flags := s.current.outer, current := outer.push s.current.close, around }

section Moves

variable {s s' : ParseState} {c : Char} {cs rest : List Char}

theorem moves_of_openCapture {name : Option String} (h : s.openCapture name = .ok s') :
    Moves s c s' := by
  rw [ParseState.openCapture] at h
  split at h
  · cases h
  · cases h
    refine .opened _ _ _ _ fun i hi => ?_
    rw [← Option.some.inj hi]
    exact Nat.succ_pos _

theorem moves_of_openAs {kind : Opening} (h : s.openAs kind cs = .ok (s', rest)) :
    Moves s c s' := by
  cases kind with
  | named =>
    obtain ⟨⟨name, more⟩, -, h⟩ := bind_eq_ok.1 h
    obtain ⟨opened, ho, h⟩ := bind_eq_ok.1 h
    cases h
    exact moves_of_openCapture ho
  | flagged =>
    obtain ⟨⟨flags, last, more⟩, -, h⟩ := bind_eq_ok.1 h
    dsimp only at h
    split at h
    · cases h
      exact .flags flags
    · cases h
      exact .opened _ _ _ _ nofun
  | plain =>
    obtain ⟨opened, ho, h⟩ := bind_eq_ok.1 h
    cases h
    exact moves_of_openCapture ho

theorem moves_of_repeatLast {least : Nat} {most : Option Nat}
    (h : s.repeatLast least most cs = .ok (s', rest)) : Moves s c s' := by
  by_cases hp : ∃ item parts, s.current.parts = some item :: parts
  · obtain ⟨item, parts, hp⟩ := hp
    by_cases hc : cs.head? = some '?'
    · obtain ⟨cs, rfl⟩ := List.head?_eq_some_iff.1 hc
      rw [repeatLast_lazy hp] at h
      cases h
      exact .repeated _ _ _ hp
    · rw [repeatLast_of_head hp hc] at h
      cases h
      exact .repeated _ _ _ hp
  · rw [repeatLast_of_nothing fun item parts he => hp ⟨item, parts, he⟩] at h
    cases h

theorem moves_of_pushSign {sign : Sign} (h : s.pushSign sign = .ok s') : Moves s c s' := by
  cases sign with
  | char d =>
    cases h
    exact .push _ (.inl ⟨_, rfl⟩)
  | byte d =>
    rw [ParseState.pushSign] at h
    split at h
    · cases h
    · cases h
      exact .push _ (.inl ⟨_, rfl⟩)
  | cls cls =>
    cases h
    exact .push _ (.inl ⟨_, rfl⟩)
  | look condition =>
    cases h
    exact .push _ (.inr ⟨_, rfl⟩)

theorem moves_of_step [Engine] (h : step s c cs = .ok (s', rest)) : Moves s c s' := by
  by_cases hc : c ∈ ruling
  · simp only [ruling, List.mem_cons, List.not_mem_nil, or_false] at hc
    rcases hc with rfl | rfl | rfl | rfl | rfl | rfl | rfl | rfl | rfl | rfl | rfl | rfl
    · change s.openGroup cs = _ at h
      rw [openGroup_eq] at h
      split at h
      · cases h
      · exact moves_of_openAs h
    · obtain ⟨closed, ho, h⟩ := bind_eq_ok.1 h
      cases h
      rw [ParseState.closeGroup] at ho
      split at ho
      · cases ho
      · rename_i outer around ha
        cases ho
        exact .closed rfl ha
    · cases h
      exact .alternate
    · obtain ⟨⟨o, more⟩, -, h⟩ := bind_eq_ok.1 h
      obtain ⟨⟨cls, depth, more⟩, -, h⟩ := bind_eq_ok.1 h
      cases h
      exact .push ⟨.chars cls, depth⟩ (.inl ⟨cls, rfl⟩)
    · exact moves_of_repeatLast h
    · exact moves_of_repeatLast h
    · exact moves_of_repeatLast h
    · simp only [step] at h
      split at h
      · obtain ⟨⟨least, most, more⟩, -, h⟩ := bind_eq_ok.1 h
        exact moves_of_repeatLast h
      · cases h
    · obtain ⟨⟨sign, more⟩, -, h⟩ := bind_eq_ok.1 h
      obtain ⟨pushed, hp, h⟩ := bind_eq_ok.1 h
      cases h
      exact moves_of_pushSign hp
    · obtain ⟨cls, -, h⟩ := bind_eq_ok.1 h
      cases h
      exact .push _ (.inl ⟨cls, rfl⟩)
    · cases h
      exact .push _ (.inr ⟨_, rfl⟩)
    · cases h
      exact .push _ (.inr ⟨_, rfl⟩)
  · rw [step_of_not_ruling hc] at h
    obtain ⟨pushed, hp, h⟩ := bind_eq_ok.1 h
    cases h
    exact moves_of_pushSign hp

end Moves

/-! ## Reading inside of a group -/

/-- The state with one more group below all others. -/
def ParseState.within (s : ParseState) (g : OpenGroup) : ParseState :=
  { s with around := s.around ++ [g] }

section Within

variable {g : OpenGroup} {s : ParseState}

@[simp] theorem ParseState.within_flags : (s.within g).flags = s.flags := rfl

@[simp] theorem ParseState.within_current : (s.within g).current = s.current := rfl

@[simp] theorem ParseState.within_around : (s.within g).around = s.around ++ [g] := rfl

/-- What a reader of states gives inside of a group. -/
def insideOf (g : OpenGroup) (found : ParseState × List Char) : ParseState × List Char :=
  (found.1.within g, found.2)

theorem openCapture_within (name : Option String) :
    (s.within g).openCapture name = (s.openCapture name).map (·.within g) := by
  unfold ParseState.openCapture
  by_cases hn : (name.map s.names.contains).getD false = true
  · have hn' : (name.map (s.within g).names.contains).getD false = true := hn
    rw [if_pos hn, if_pos hn']
    rfl
  · have hn' : ¬ (name.map (s.within g).names.contains).getD false = true := hn
    rw [if_neg hn, if_neg hn']
    rfl

theorem openAs_within (kind : Opening) (cs : List Char) :
    (s.within g).openAs kind cs = (s.openAs kind cs).map (insideOf g) := by
  cases kind with
  | named =>
    simp only [ParseState.openAs, openCapture_within]
    cases groupName cs with
    | error e => rfl
    | ok found =>
      dsimp only [bind, Except.bind]
      cases s.openCapture (some found.1) <;> rfl
  | flagged =>
    simp only [ParseState.openAs, ParseState.within_flags]
    cases readFlags s.flags s.flags [] false cs with
    | error e => rfl
    | ok found =>
      dsimp only [bind, Except.bind]
      cases found.2.1 == ')' <;> rfl
  | plain =>
    simp only [ParseState.openAs, openCapture_within]
    cases s.openCapture none <;> rfl

theorem repeatLast_within (least : Nat) (most : Option Nat) (cs : List Char) :
    (s.within g).repeatLast least most cs = (s.repeatLast least most cs).map (insideOf g) := by
  by_cases hp : ∃ item parts, s.current.parts = some item :: parts
  · obtain ⟨item, parts, hp⟩ := hp
    have hp' : (s.within g).current.parts = some item :: parts := hp
    by_cases hc : cs.head? = some '?'
    · obtain ⟨cs, rfl⟩ := List.head?_eq_some_iff.1 hc
      rw [repeatLast_lazy hp, repeatLast_lazy hp']
      rfl
    · rw [repeatLast_of_head hp hc, repeatLast_of_head hp' hc]
      rfl
  · have hn : ∀ item parts, s.current.parts ≠ some item :: parts :=
      fun item parts he => hp ⟨item, parts, he⟩
    have hn' : ∀ item parts, (s.within g).current.parts ≠ some item :: parts := hn
    rw [repeatLast_of_nothing hn, repeatLast_of_nothing hn']
    rfl

theorem pushSign_within (sign : Sign) :
    (s.within g).pushSign sign = (s.pushSign sign).map (·.within g) := by
  cases sign with
  | byte c =>
    unfold ParseState.pushSign
    dsimp only
    by_cases hn : (!s.flags.unicode && decide (128 ≤ c.toNat)) = true
    · have hn' : (!(s.within g).flags.unicode && decide (128 ≤ c.toNat)) = true := hn
      rw [if_pos hn, if_pos hn']
      rfl
    · have hn' : ¬ (!(s.within g).flags.unicode && decide (128 ≤ c.toNat)) = true := hn
      rw [if_neg hn, if_neg hn']
      rfl
  | _ => rfl

theorem step_count_within [Engine] (cs : List Char) :
    step (s.within g) '\x7b' cs = (step s '\x7b' cs).map (insideOf g) := by
  simp only [step, ParseState.within_current, ParseState.within_flags]
  split
  · cases readCount s.flags cs with
    | error e => rfl
    | ok found => exact repeatLast_within _ _ _
  · rfl

/-- A step does inside of a group what it does alone, unless it closes that group. -/
theorem step_within [Engine] {c : Char} (h : c = ')' → s.around ≠ []) (cs : List Char) :
    step (s.within g) c cs = (step s c cs).map (insideOf g) := by
  by_cases hc : c ∈ ruling
  · simp only [ruling, List.mem_cons, List.not_mem_nil, or_false] at hc
    rcases hc with rfl | rfl | rfl | rfl | rfl | rfl | rfl | rfl | rfl | rfl | rfl | rfl
    · change (s.within g).openGroup cs = (s.openGroup cs).map (insideOf g)
      rw [openGroup_eq, openGroup_eq, ParseState.within_flags]
      cases opening? (s.flags.skip cs) with
      | none => rfl
      | some found => exact openAs_within found.1 found.2
    · obtain ⟨outer, around, ha⟩ := List.exists_cons_of_ne_nil (h rfl)
      simp only [step, ParseState.closeGroup, ParseState.within_around, ha, List.cons_append]
      rfl
    · rfl
    · simp only [step, ParseState.within_flags]
      cases openClass s.flags cs with
      | error e => rfl
      | ok found =>
        dsimp only [bind, Except.bind]
        cases bracketed s.flags (found.2.length + 1) found.1 [] found.2 <;> rfl
    · exact repeatLast_within 0 (some 1) cs
    · exact repeatLast_within 0 none cs
    · exact repeatLast_within 1 none cs
    · exact step_count_within cs
    · simp only [step, ParseState.within_flags]
      cases escape s.flags cs with
      | error e => rfl
      | ok found =>
        dsimp only [bind, Except.bind]
        rw [pushSign_within]
        cases s.pushSign found.1 <;> rfl
    · simp only [step, ParseState.within_flags]
      cases dotClass s.flags <;> rfl
    · rfl
    · rfl
  · rw [step_of_not_ruling hc, step_of_not_ruling hc, pushSign_within]
    cases s.pushSign (.char c) <;> rfl

end Within

/-! ## Whole texts -/

/-- What the moves of a state keep, a reader of a text keeps. -/
theorem readAll_keeps [Engine] {P : ParseState → Prop} (hP : ∀ s c s', Moves s c s' → P s → P s')
    {fuel : Nat} {s s' : ParseState} {cs : List Char} (h : readAll fuel s cs = .ok s') (hs : P s) :
    P s' := by
  induction fuel generalizing s cs with
  | zero =>
    cases h
    exact hs
  | succ fuel ih =>
    rw [readAll] at h
    split at h
    · cases h
      exact hs
    · obtain ⟨⟨t, rest⟩, ht, h⟩ := bind_eq_ok.1 h
      exact ih h (hP _ _ _ (moves_of_step ht) hs)

theorem Moves.around_ne_nil {s s' : ParseState} {c : Char} (h : Moves s c s') (hc : c ≠ ')')
    (hs : s.around ≠ []) : s'.around ≠ [] := by
  cases h with
  | opened => exact List.cons_ne_nil _ _
  | closed he => exact absurd he hc
  | _ => exact hs

/-- Without a closing sign a group stays open. -/
theorem around_ne_nil_of_readAll [Engine] {fuel : Nat} {s s' : ParseState} {cs : List Char}
    (h : readAll fuel s cs = .ok s') (hc : ')' ∉ cs) (hs : s.around ≠ []) : s'.around ≠ [] := by
  induction fuel generalizing s cs with
  | zero =>
    cases h
    exact hs
  | succ fuel ih =>
    have hsuffix := s.flags.skip_suffix cs
    rw [readAll] at h
    split at h
    · cases h
      exact hs
    · rename_i c more hm
      rw [hm] at hsuffix
      obtain ⟨⟨t, rest⟩, ht, h⟩ := bind_eq_ok.1 h
      have hrest : rest <:+ cs := ((suffix_step ht).trans (List.suffix_cons c more)).trans hsuffix
      refine ih h (fun hmem => hc (hrest.subset hmem)) ((moves_of_step ht).around_ne_nil ?_ hs)
      rintro rfl
      exact hc (hsuffix.subset List.mem_cons_self)

theorem skip_of_ruling {f : Flags} {c : Char} (hc : c ∈ ruling) (cs : List Char) :
    f.skip (c :: cs) = c :: cs := by
  have hall : (ruling.all fun c => !Text.isSpace c && !(c == '#')) = true := by decide
  have hblank := List.all_eq_true.1 hall c hc
  simp only [Bool.and_eq_true, Bool.not_eq_true'] at hblank
  obtain ⟨hs, hn⟩ := hblank
  rw [Flags.skip, skipBlank, hs, hn]
  cases f.freeSpacing <;> rfl

/-- A brace that is left dangling is no count. -/
theorem step_dangling [Engine] {s : ParseState} {blank : List Char} (hb : s.flags.skip blank = []) :
    ∃ e, step s '\x7b' (blank ++ closing) = .error e := by
  have hn (cs : List Char) (hcs : cs = closing ∨ cs = []) :
      readNumber s.flags cs = .ok (none, s.flags.skip cs) := by
    rcases hcs with rfl | rfl
    · have hd : closing.dropWhile Text.isSpace = closing := rfl
      rw [readNumber, hd, readDecimal_of_head (by rintro _ ⟨⟩; rfl), finish_eq, hd]
      rfl
    · rfl
  have hc : s.flags.skip (blank ++ closing) = closing ∨ s.flags.skip (blank ++ closing) = [] := by
    rcases s.flags.skip_append blank with h | h
    · exact .inl (by rw [h, hb]; rfl)
    · exact .inr h
  have hcount : readCount s.flags (blank ++ closing) = .error .repetition := by
    rw [readCount_eq, readBounds, hn _ hc]
    rfl
  simp only [step]
  split
  · exact ⟨_, by rw [hcount]; rfl⟩
  · exact ⟨_, rfl⟩

/-- The state behind the signs that close a group and end a text. -/
def ParseState.sealed (s : ParseState) (g : OpenGroup) : ParseState :=
  { s with
    flags := s.current.outer
    current := (g.push s.current.close).push ⟨.look (lineLook s.current.outer false), 0⟩
    around := [] }

theorem readAll_of_nil [Engine] {fuel : Nat} {s : ParseState} {cs : List Char}
    (h : s.flags.skip cs = []) : readAll (fuel + 1) s cs = .ok s := by
  rw [readAll, h]

theorem readAll_of_cons [Engine] {fuel : Nat} {s : ParseState} {cs rest : List Char} {c : Char}
    (h : s.flags.skip cs = c :: rest) :
    readAll (fuel + 1) s cs = step s c rest >>= fun (t, rest) => readAll fuel t rest := by
  rw [readAll, h]

theorem readAll_sealed [Engine] {g : OpenGroup} {s : ParseState} (hs : s.around = []) (fuel : Nat) :
    (step (s.within g) ')' ['$'] >>= fun (t, rest) => readAll (fuel + 2) t rest) =
      .ok (s.sealed g) := by
  have hclose : step (s.within g) ')' ['$'] = .ok
      ({ s with
        flags := s.current.outer, current := g.push s.current.close, around := [] }, ['$']) := by
    simp only [step, ParseState.closeGroup, ParseState.within_around, hs]
    rfl
  rw [hclose]
  change readAll (fuel + 2) _ ['$'] = _
  rw [readAll_of_cons (skip_of_ruling (by decide) _)]
  exact readAll_of_nil (Flags.skip_nil _)

theorem not_mem_of_short {left cs : List Char} (h : left <:+ cs ++ closing) (hl : left.length < 2) :
    ')' ∉ left := by
  have hs : left <:+ [')', '$'] :=
    List.suffix_of_suffix_length_le h (List.suffix_append cs closing) hl.le
  rcases List.suffix_cons_iff.1 hs with rfl | hs
  · exact absurd hl (by decide)
  · exact fun hm => absurd (hs.subset hm) (by decide)

section Within

variable {g : OpenGroup} {s whole : ParseState}

theorem step_of_within [Engine] {t : ParseState} {c : Char} {cs left : List Char}
    (hc : c = ')' → s.around ≠ []) (h : step (s.within g) c cs = .ok (t, left)) :
    ∃ u, t = u.within g ∧ step s c cs = .ok (u, left) := by
  rw [step_within hc] at h
  cases hs : step s c cs with
  | error e =>
    rw [hs] at h
    cases h
  | ok found =>
    rw [hs] at h
    cases h
    exact ⟨found.1, rfl, rfl⟩

/-- At the closing signs the group is closed and the text ends, if nothing else is open. -/
theorem sealed_of_closing [Engine] {fuel : Nat}
    (h : (step (s.within g) ')' ['$'] >>= fun (t, rest) => readAll (fuel + 2) t rest) = .ok whole)
    (hw : whole.around = []) : s.around = [] ∧ whole = s.sealed g := by
  by_cases hs : s.around = []
  · rw [readAll_sealed hs] at h
    exact ⟨hs, (Except.ok.inj h).symm⟩
  · obtain ⟨⟨t, left⟩, ht, h⟩ := bind_eq_ok.1 h
    obtain ⟨u, rfl, hu⟩ := step_of_within (fun _ => hs) ht
    have hshort : ')' ∉ left := fun hm => absurd ((suffix_step hu).subset hm) (by decide)
    have hopen : (u.within g).around ≠ [] := by simp
    exact absurd hw (around_ne_nil_of_readAll h hshort hopen)

theorem readAll_dangling [Engine] {fuel : Nat} {left : List Char} (hd : Dangling s.flags left) :
    ∃ e, readAll (fuel + 1) s left = .error e := by
  obtain ⟨blank, rfl, hb⟩ := hd
  obtain ⟨e, he⟩ := step_dangling hb
  refine ⟨e, ?_⟩
  rw [readAll_of_cons (skip_of_ruling (by decide) _), he]
  rfl

/-- What is read inside of a group and a closed text is read alone, unless it closes that group. -/
theorem readAll_within [Engine] {cs : List Char} {fuel fuel' : Nat}
    (h : readAll fuel' (s.within g) (cs ++ closing) = .ok whole) (hw : whole.around = [])
    (hf : cs.length < fuel) (hf' : cs.length + 2 < fuel') :
    readAll fuel s cs = .error .groupUnopened ∨
      ∃ own, readAll fuel s cs = .ok own ∧ own.around = [] ∧ whole = own.sealed g := by
  have hopen (u : ParseState) : (u.within g).around ≠ [] := by simp
  -- the two readers stay side by side until the text is over, or one sign reaches behind its end
  induction fuel' generalizing s cs fuel with
  | zero => omega
  | succ fuel' ih =>
    obtain ⟨fuel, rfl⟩ : ∃ k, fuel = k + 1 := ⟨fuel - 1, by omega⟩
    have hlen := (s.flags.skip_suffix cs).length_le
    have hboth : (s.within g).flags.skip (cs ++ closing) = s.flags.skip cs ++ closing := by
      rcases s.flags.skip_append cs with hk | hk
      · exact hk
      · -- a comment has swallowed the closing signs
        rw [readAll_of_nil (s := s.within g) hk] at h
        cases h
        exact absurd hw (hopen s)
    cases hc : s.flags.skip cs with
    | nil =>
      rw [hc] at hboth
      obtain ⟨k, rfl⟩ : ∃ k, fuel' = k + 2 := ⟨fuel' - 2, by omega⟩
      rw [readAll_of_cons hboth] at h
      exact .inr ⟨s, readAll_of_nil hc, sealed_of_closing h hw⟩
    | cons c rest =>
      rw [hc] at hboth
      rw [hc, List.length_cons] at hlen
      rw [readAll_of_cons hboth] at h
      rw [readAll_of_cons hc]
      by_cases hclose : c = ')' ∧ s.around = []
      · obtain ⟨rfl, hs⟩ := hclose
        refine .inl ?_
        rw [step, ParseState.closeGroup, hs]
        rfl
      obtain ⟨⟨t, left⟩, ht, h⟩ := bind_eq_ok.1 h
      obtain ⟨u, rfl, hu⟩ := step_of_within (fun he hs => hclose ⟨he, hs⟩) ht
      by_cases hl : 2 ≤ left.length
      · rcases cut_step hu hl with ⟨more, rfl, hm⟩ | ⟨rfl, hd⟩
        · have hle := (suffix_step hm).length_le
          rw [hm]
          exact ih h (by omega) (by omega)
        · -- a brace is left over, which cannot be read as a count
          obtain ⟨k, rfl⟩ : ∃ k, fuel' = k + 1 := ⟨fuel' - 1, by omega⟩
          obtain ⟨e, he⟩ := readAll_dangling (s := (s.push _).within g) hd
          cases he.symm.trans h
      · -- the sign that closes the group is gone, so it stays open
        have hshort := not_mem_of_short (suffix_step hu) (by omega)
        exact absurd hw (around_ne_nil_of_readAll h hshort (hopen u))

end Within

/-! ## What a whole text gives -/

/-- The group at the bottom of the stack. -/
def ParseState.bottom (s : ParseState) : OpenGroup :=
  s.around.getLast?.getD s.current

theorem Moves.bottom {s s' : ParseState} {c : Char} (h : Moves s c s') :
    s'.bottom.outer = s.bottom.outer ∧ s'.bottom.index = s.bottom.index := by
  cases h with
  | opened =>
    rw [ParseState.bottom, List.getLast?_cons]
    exact ⟨rfl, rfl⟩
  | closed _ ha =>
    rw [ParseState.bottom, ParseState.bottom, ha, List.getLast?_cons, Option.getD_some]
    cases List.getLast? _ with
    | none => exact ⟨rfl, rfl⟩
    | some g => exact ⟨rfl, rfl⟩
  | _ =>
    unfold ParseState.bottom
    cases h : s.around.getLast? with
    | none => simp [h, OpenGroup.push, ParseState.alternate, ParseState.repeated]
    | some g => simp [h, ParseState.alternate, ParseState.repeated]

theorem numbered_cats {es : List Expr} (h : ∀ e ∈ es, e.Numbered) : (Expr.cats es).Numbered := by
  induction es using Expr.cats.induct with
  | case1 => trivial
  | case2 e => exact h e List.mem_cons_self
  | case3 e es hne ih =>
    obtain ⟨he, hes⟩ := List.forall_mem_cons.1 h
    rw [Expr.cats]
    · exact ⟨he, ih hes⟩
    · exact hne

theorem numbered_alts {es : List Expr} (h : ∀ e ∈ es, e.Numbered) : (Expr.alts es).Numbered := by
  induction es using Expr.alts.induct with
  | case1 => trivial
  | case2 e => exact h e List.mem_cons_self
  | case3 e es hne ih =>
    obtain ⟨he, hes⟩ := List.forall_mem_cons.1 h
    rw [Expr.alts]
    · exact ⟨he, ih hes⟩
    · exact hne

/-- All groups in what has been read have numbers from one on, and so does an open group. -/
structure OpenGroup.Numbered (g : OpenGroup) : Prop where
  index : ∀ i, g.index = some i → 0 < i
  branches : ∀ item ∈ g.branches, item.expr.Numbered
  parts : ∀ item, some item ∈ g.parts → item.expr.Numbered

namespace OpenGroup.Numbered

variable {g : OpenGroup}

theorem branch (h : g.Numbered) : g.branch.expr.Numbered := by
  refine numbered_cats fun e he => ?_
  obtain ⟨item, hi, rfl⟩ := List.mem_map.1 he
  obtain ⟨part, hp, rfl⟩ := List.mem_filterMap.1 hi
  exact h.parts item (List.mem_reverse.1 hp)

theorem body (h : g.Numbered) : g.body.expr.Numbered := by
  refine numbered_alts fun e he => ?_
  obtain ⟨item, hi, rfl⟩ := List.mem_map.1 he
  rcases List.mem_cons.1 (List.mem_reverse.1 hi) with rfl | hi
  · exact h.branch
  · exact h.branches item hi

theorem close (h : g.Numbered) : g.close.expr.Numbered := by
  rw [OpenGroup.close]
  cases hi : g.index with
  | none => exact h.body
  | some i => exact ⟨h.index i hi, h.body⟩

theorem push (h : g.Numbered) {item : Nested} (hi : item.expr.Numbered) :
    (g.push item).Numbered where
  index := h.index
  branches := h.branches
  parts := by
    intro part hp
    rcases List.mem_cons.1 hp with he | hp
    · cases he
      exact hi
    · exact h.parts part hp

end OpenGroup.Numbered

/-- All groups read so far have numbers from one on. -/
def ParseState.Numbered (s : ParseState) : Prop :=
  ∀ g ∈ s.current :: s.around, g.Numbered

theorem Moves.numbered {s s' : ParseState} {c : Char} (h : Moves s c s') (hs : s.Numbered) :
    s'.Numbered := by
  obtain ⟨hc, ha⟩ := List.forall_mem_cons.1 hs
  cases h with
  | push item hi =>
    refine List.forall_mem_cons.2 ⟨hc.push ?_, ha⟩
    rcases hi with ⟨cls, he⟩ | ⟨condition, he⟩ <;> (rw [he]; trivial)
  | flags flags =>
    refine List.forall_mem_cons.2 ⟨⟨hc.index, hc.branches, fun item hi => ?_⟩, ha⟩
    rcases List.mem_cons.1 hi with he | hi
    · cases he
    · exact hc.parts item hi
  | alternate =>
    refine List.forall_mem_cons.2 ⟨⟨hc.index, List.forall_mem_cons.2 ⟨hc.branch, hc.branches⟩,
      fun item hi => ?_⟩, ha⟩
    cases hi
  | @repeated last parts least most lazy hp =>
    have hparts := hc.parts
    rw [hp] at hparts
    refine List.forall_mem_cons.2 ⟨⟨hc.index, hc.branches, fun item hi => ?_⟩, ha⟩
    rcases List.mem_cons.1 hi with he | hi
    · cases he
      exact hparts last List.mem_cons_self
    · exact hparts item (List.mem_cons_of_mem _ hi)
  | opened flags index groups names hi =>
    exact List.forall_mem_cons.2 ⟨⟨hi, nofun, nofun⟩, hs⟩
  | closed hc' ho =>
    rw [ho] at ha
    obtain ⟨houter, ha⟩ := List.forall_mem_cons.1 ha
    exact List.forall_mem_cons.2 ⟨houter.push hc.close, ha⟩

theorem Expr.parse_eq_ok_iff [Engine] {cs : List Char} {e : Expr} : Expr.parse cs = .ok e ↔
    ∃ s, readAll (cs.length + 1) {} cs = .ok s ∧ s.around = [] ∧ s.current.body.depth ≤ maxDepth ∧
      Engine.fits s.current.body.expr = true ∧ e = s.current.body.expr := by
  rw [Expr.parse]
  constructor
  · intro h
    obtain ⟨s, hs, h⟩ := bind_eq_ok.1 h
    split at h
    · cases h
    rename_i ha
    dsimp only at h
    split at h
    · cases h
    rename_i hd
    split at h
    · cases h
    rename_i hw
    cases h
    exact ⟨s, hs, by simpa using ha, Nat.not_lt.1 hd, by simpa using hw, rfl⟩
  · rintro ⟨s, hs, ha, hd, hw, rfl⟩
    refine bind_eq_ok.2 ⟨s, hs, ?_⟩
    rw [if_neg (by simp [ha])]
    dsimp only
    rw [if_neg (Nat.not_lt.2 hd), if_neg (by simp [hw])]

theorem Expr.parse_eq_error [Engine] {cs : List Char} {e : ParseError}
    (h : readAll (cs.length + 1) {} cs = .error e) : Expr.parse cs = .error e := by
  rw [Expr.parse, h]
  rfl

theorem Expr.numbered_of_parse [Engine] {cs : List Char} {e : Expr} (h : Expr.parse cs = .ok e) :
    e.Numbered := by
  obtain ⟨s, hs, -, -, -, rfl⟩ := parse_eq_ok_iff.1 h
  have hstart : ParseState.Numbered {} :=
    List.forall_mem_singleton.2 ⟨nofun, nofun, nofun⟩
  exact (readAll_keeps (fun _ _ _ hm => hm.numbered) hs hstart _ List.mem_cons_self).body

/-- The group that the signs before a pattern open, with the start of the text before it. -/
def outerGroup : OpenGroup where
  outer := {}
  parts := [some ⟨.look .textStart, 0⟩]

theorem readAll_opening [Engine] (fuel : Nat) (cs : List Char) :
    readAll (fuel + 2) {} (['^', '(', '?', ':'] ++ cs) =
      readAll fuel (ParseState.within {} outerGroup) cs := by
  rfl

/-- What is left at the end is one sequence: the start of the text, the group and the end. -/
theorem body_sealed {s : ParseState} (ho : s.current.outer = {}) (hi : s.current.index = none) :
    (s.sealed outerGroup).current.body.expr =
        s.current.body.expr.between ∧
      s.current.body.depth ≤ (s.sealed outerGroup).current.body.depth := by
  have hexpr : s.current.close.expr = s.current.body.expr := by
    rw [OpenGroup.close, hi]
  constructor
  · rw [← hexpr]
    simp only [ParseState.sealed, ho]
    rfl
  · have hclose : s.current.close.depth ≤ (s.sealed outerGroup).current.body.depth := by
      rw [ParseState.sealed]
      generalize s.current.close = closed
      simp [outerGroup, OpenGroup.push, OpenGroup.body, OpenGroup.branch, OpenGroup.deepest]
    exact (Nat.le_succ _).trans hclose

/-- A pattern whose whole form can be read closes a group that it does not open, or it can be read
alone; then the whole form is read as the pattern between the two ends of a text. -/
theorem Expr.parse_wrapped [Engine] {cs : List Char} {whole : Expr}
    (h : Expr.parse (['^', '(', '?', ':'] ++ (cs ++ closing)) = .ok whole) :
    Expr.parse cs = .error .groupUnopened ∨ ∃ own, Expr.parse cs = .ok own ∧
      whole = own.between := by
  obtain ⟨t, ht, ha, hd, hw, rfl⟩ := parse_eq_ok_iff.1 h
  have hlen : (['^', '(', '?', ':'] ++ (cs ++ closing)).length + 1 = cs.length + 5 + 2 := by
    simp [closing]
  rw [hlen, readAll_opening] at ht
  rcases readAll_within ht ha (Nat.lt_succ_self cs.length) (by omega) with
    he | ⟨own, ho, hown, rfl⟩
  · exact .inl (parse_eq_error he)
  obtain ⟨houter, hindex⟩ :=
    readAll_keeps (P := fun s => s.bottom.outer = {} ∧ s.bottom.index = none)
      (fun _ _ _ hm hs => ⟨hm.bottom.1.trans hs.1, hm.bottom.2.trans hs.2⟩) ho ⟨rfl, rfl⟩
  rw [ParseState.bottom, hown] at houter hindex
  obtain ⟨he, hdepth⟩ := body_sealed houter hindex
  rw [he] at hw
  have hfits : Engine.fits own.current.body.expr = true :=
    (Engine.fits_of_cat _ _ (Engine.fits_of_cat _ _ hw).2).1
  exact .inr ⟨own.current.body.expr,
    parse_eq_ok_iff.2 ⟨own, ho, hown, hdepth.trans hd, hfits, rfl⟩, he⟩

end Telemetry.Regex
