import Telemetry.Proofs.Regex.Brackets
/-!
# Signs with closing signs behind them

Flags, groups, counts and repeated parts are local readers. Main statement: a step of the reader at
any sign but a backslash is local.
-/
namespace Telemetry.Regex

variable {f : Flags}

/-! ## Groups -/

theorem suffix_readFlags {old new flags : Flags} {seen cs rest : List Char} {minus : Bool}
    {last : Char} (h : readFlags old new seen minus cs = .ok (flags, last, rest)) :
    rest <:+ cs := by
  induction cs generalizing new seen minus with
  | nil => cases h
  | cons c cs ih =>
    have later {new : Flags} {seen : List Char} {minus : Bool}
        (h : readFlags old new seen minus cs = .ok (flags, last, rest)) : rest <:+ c :: cs :=
      (ih h).trans (List.suffix_cons c cs)
    rw [readFlags] at h
    split at h
    · split at h
      · cases h
      split at h
      · cases h
      · cases h
        exact List.suffix_cons _ _
    split at h
    · cases h
    split at h
    · exact later h
    split at h
    · exact later h
    · cases h

theorem cut_readFlags {old new flags : Flags} {seen cs left : List Char} {minus : Bool}
    {last : Char} (h : readFlags old new seen minus (cs ++ closing) = .ok (flags, last, left))
    (hl : 2 ≤ left.length) : ∃ rest, left = rest ++ closing ∧
      readFlags old new seen minus cs = .ok (flags, last, rest) := by
  induction cs generalizing new seen minus with
  | nil =>
    -- the closing sign would end the flags
    have hle : left.length ≤ 1 := by
      rw [List.nil_append, closing, readFlags, if_pos (by decide)] at h
      split at h
      · cases h
      split at h
      · cases h
      · cases h
        exact Nat.le_refl _
    omega
  | cons c cs ih =>
    rw [List.cons_append, readFlags] at h
    rw [readFlags]
    split at h
    · rename_i hc
      rw [if_pos hc]
      split at h
      · cases h
      rename_i hm
      rw [if_neg hm]
      split at h
      · cases h
      rename_i hs
      rw [if_neg hs]
      cases h
      exact ⟨cs, rfl, rfl⟩
    rename_i hc
    rw [if_neg hc]
    split at h
    · cases h
    rename_i hseen
    rw [if_neg hseen]
    split at h
    · rename_i hm
      rw [if_pos hm]
      exact ih h
    rename_i hm
    rw [if_neg hm]
    split at h
    · exact ih h
    · cases h

theorem local_groupName : Local 0 groupName where
  suffix {cs name rest} h := by
    rw [groupName] at h
    split at h
    · rename_i hd
      split at h
      · cases h
        refine List.IsSuffix.trans ?_ (List.dropWhile_suffix (· != '>'))
        rw [hd]
        exact List.suffix_cons _ _
      · cases h
    · cases h
  cut {cs name left} h hl := by
    rw [groupName] at h ⊢
    cases hd : cs.dropWhile (· != '>') with
    | nil =>
      have hd' : (cs ++ closing).dropWhile (· != '>') = [] := by
        rw [List.dropWhile_append, hd]
        rfl
      rw [hd'] at h
      split at h
      · contradiction
      · cases h
    | cons c more =>
      obtain ⟨hd', ht⟩ := dropWhile_append_closing hd
      rw [hd', ht] at h
      cases hn : cs.takeWhile (· != '>') with
      | nil => simp [hn] at h
      | cons d name =>
        rw [hn] at h
        dsimp only at h ⊢
        split at h
        · rename_i hc
          rw [if_pos hc]
          cases h
          exact ⟨more, rfl, rfl⟩
        · cases h

/-- What a bracket opens: a group with a name, flags with or without a group, or a group. -/
inductive Opening where
  | named
  | flagged
  | plain

/-- What is opened by the signs behind a bracket, unless they look around. -/
def opening? : List Char → Option (Opening × List Char)
  | '?' :: '=' :: _ | '?' :: '!' :: _ | '?' :: '<' :: '=' :: _ | '?' :: '<' :: '!' :: _ => none
  | '?' :: 'P' :: '<' :: rest | '?' :: '<' :: rest => some (.named, rest)
  | '?' :: rest => some (.flagged, rest)
  | rest => some (.plain, rest)

theorem opening?_of_head {cs : List Char} (h : cs.head? ≠ some '?') :
    opening? cs = some (.plain, cs) := by
  unfold opening?
  split
  all_goals first | rfl | exact absurd rfl h

theorem opening?_angle {c : Char} (hbefore : c ≠ '=') (hnot : c ≠ '!') (cs : List Char) :
    opening? ('?' :: '<' :: c :: cs) = some (.named, c :: cs) := by
  rw [opening?]
  · rintro _ ⟨⟩
    exact hbefore rfl
  · rintro _ ⟨⟩
    exact hnot rfl

theorem opening?_flags {c : Char} {cs : List Char} (hbefore : c ≠ '=') (hnot : c ≠ '!')
    (hangle : c ≠ '<') (hname : c = 'P' → cs.head? ≠ some '<') :
    opening? ('?' :: c :: cs) = some (.flagged, c :: cs) := by
  rw [opening?]
  · rintro _ ⟨⟩
    exact hbefore rfl
  · rintro _ ⟨⟩
    exact hnot rfl
  · rintro _ ⟨⟩
    exact hangle rfl
  · rintro _ ⟨⟩
    exact hangle rfl
  · rintro _ ⟨⟩
    exact hname rfl rfl
  · rintro _ ⟨⟩
    exact hangle rfl

theorem opening?_suffix {cs rest : List Char} {kind : Opening}
    (h : opening? cs = some (kind, rest)) : rest <:+ cs := by
  unfold opening? at h
  split at h
  iterate 4 cases h
  · cases h
    exact ((List.suffix_cons _ _).trans (List.suffix_cons _ _)).trans (List.suffix_cons _ _)
  · cases h
    exact (List.suffix_cons _ _).trans (List.suffix_cons _ _)
  · cases h
    exact List.suffix_cons _ _
  · cases h
    exact List.suffix_rfl

theorem opening?_append (cs : List Char) :
    opening? (cs ++ closing) = (opening? cs).map fun (kind, rest) => (kind, rest ++ closing) := by
  by_cases hc : cs.head? = some '?'
  · obtain ⟨cs, rfl⟩ := List.head?_eq_some_iff.1 hc
    rcases cs with _ | ⟨d, cs⟩
    · rfl
    rcases eq_or_ne d '=' with rfl | hbefore
    · rfl
    rcases eq_or_ne d '!' with rfl | hnot
    · rfl
    rcases eq_or_ne d '<' with rfl | hangle
    · rcases cs with _ | ⟨e, cs⟩
      · rfl
      rcases eq_or_ne e '=' with rfl | hbefore
      · rfl
      rcases eq_or_ne e '!' with rfl | hnot
      · rfl
      rw [opening?_angle hbefore hnot]
      exact opening?_angle hbefore hnot _
    by_cases hname : d = 'P' ∧ cs.head? = some '<'
    · obtain ⟨rfl, hh⟩ := hname
      obtain ⟨cs, rfl⟩ := List.head?_eq_some_iff.1 hh
      rfl
    rw [opening?_flags hbefore hnot hangle fun hd hh => hname ⟨hd, hh⟩]
    refine opening?_flags hbefore hnot hangle fun hd hh => hname ⟨hd, ?_⟩
    cases cs with
    | nil => cases hh
    | cons e cs => exact hh
  · have hc' := head?_append_closing (by decide) hc
    rw [opening?_of_head hc, opening?_of_head hc']
    rfl

/-- Opens what the signs behind a bracket say. -/
def ParseState.openAs (s : ParseState) (kind : Opening) (cs : List Char) :
    Except ParseError (ParseState × List Char) := do
  match kind with
  | .named =>
    let (name, rest) ← groupName cs
    .ok (← s.openCapture (some name), rest)
  | .flagged =>
    let (flags, last, rest) ← readFlags s.flags s.flags [] false cs
    if last == ')' then
      .ok ({ s with flags, current.parts := none :: s.current.parts }, rest)
    else
      .ok ({ s with
        flags
        around := s.current :: s.around
        current := { outer := s.flags } }, rest)
  | .plain => .ok (← s.openCapture none, cs)

theorem openGroup_eq (s : ParseState) (cs : List Char) : s.openGroup cs =
    match opening? (s.flags.skip cs) with
    | none => .error .lookAround
    | some (kind, rest) => s.openAs kind rest := by
  rw [ParseState.openGroup]
  generalize s.flags.skip cs = cs
  split
  all_goals first | rfl | (rw [opening?] <;> first | rfl | assumption)

theorem local_openAs (s : ParseState) (kind : Opening) : Local 0 (s.openAs kind) := by
  cases kind with
  | named =>
    exact .bind local_groupName fun name => .check fun opened => .ok opened
  | flagged =>
    constructor
    · intro cs a rest h
      obtain ⟨⟨flags, last, more⟩, hr, h⟩ := bind_eq_ok.1 h
      dsimp only at h
      split at h
      iterate 2
        cases h
        exact suffix_readFlags hr
    · intro cs a left h hl
      obtain ⟨⟨flags, last, more⟩, hr, h⟩ := bind_eq_ok.1 h
      dsimp only at h
      split at h
      all_goals
        rename_i hlast
        cases h
        obtain ⟨rest, rfl, ho⟩ := cut_readFlags hr hl
        refine ⟨rest, rfl, bind_eq_ok.2 ⟨_, ho, ?_⟩⟩
        simp only [hlast]
        rfl
  | plain => exact .check fun opened => .ok opened

theorem local_openGroup (s : ParseState) : Local 0 s.openGroup where
  suffix {cs a rest} h := by
    rw [openGroup_eq] at h
    split at h
    · cases h
    · rename_i kind more ho
      have hmore : more <:+ cs := (opening?_suffix ho).trans (s.flags.skip_suffix cs)
      exact ((local_openAs s kind).suffix h).trans hmore
  cut {cs a left} h hl := by
    rw [openGroup_eq] at h ⊢
    rcases s.flags.skip_append cs with hs | hs
    · rw [hs, opening?_append] at h
      cases ho : opening? (s.flags.skip cs) with
      | none =>
        rw [ho] at h
        cases h
      | some found =>
        rw [ho] at h
        exact (local_openAs s found.1).cut h hl
    · rw [hs] at h
      have hle : left.length ≤ 0 := ((local_openAs s .plain).suffix h).length_le
      omega

/-! ## Counts -/

theorem dropSpace_append (cs : List Char) :
    (cs ++ closing).dropWhile Text.isSpace = cs.dropWhile Text.isSpace ++ closing := by
  rw [List.dropWhile_append]
  split
  · rename_i he
    rw [List.isEmpty_iff.1 he]
    rfl
  · rfl

theorem Local.space {α : Type} {n : Nat} {R : List Char → Except ParseError (α × List Char)}
    (h : Local n R) : Local n fun cs => R (cs.dropWhile Text.isSpace) where
  suffix hr := (h.suffix hr).trans (List.dropWhile_suffix _)
  cut hr hl := by
    rw [dropSpace_append] at hr
    exact h.cut hr hl

/-- The number of some digits, the latest first. -/
def ofDigits (digits cs : List Char) : Except ParseError (Option Nat × List Char) :=
  if digits.isEmpty then .ok (none, cs)
  else
    let n := digits.reverse.foldl (fun n c => n * 10 + (c.toNat - '0'.toNat)) 0
    if n < UInt32.size then .ok (some n, cs) else .error .repetition

theorem finish_eq (digits cs : List Char) : readDecimal.finish f digits cs =
    ofDigits digits (f.skip (cs.dropWhile Text.isSpace)) := rfl

theorem local_ofDigits (digits : List Char) : Local 0 (ofDigits digits) := by
  unfold ofDigits
  split
  · exact .ok none
  dsimp only
  split
  · exact .ok _
  · exact .error _

theorem local_finish (digits : List Char) : Local 0 (readDecimal.finish f digits) := by
  rw [funext (finish_eq digits)]
  exact ((local_ofDigits digits).skip f).space

theorem readDecimal_of_digit {fuel : Nat} {digits rest : List Char} {c : Char}
    (h : c.isDigit = true) : readDecimal f (fuel + 1) digits (c :: rest) =
      readDecimal f fuel (c :: digits) (f.skip rest) := by
  rw [readDecimal, if_pos h]

theorem readDecimal_of_head {fuel : Nat} {digits cs : List Char}
    (h : ∀ c, cs.head? = some c → c.isDigit = false) :
    readDecimal f fuel digits cs = readDecimal.finish f digits cs := by
  rw [readDecimal.eq_def]
  split
  · rename_i c rest
    rw [h c rfl, if_neg Bool.false_ne_true]
  · rfl

theorem suffix_readDecimal {fuel : Nat} {digits cs rest : List Char} {n : Option Nat}
    (h : readDecimal f fuel digits cs = .ok (n, rest)) : rest <:+ cs := by
  induction fuel generalizing digits cs with
  | zero => exact (local_finish digits).suffix h
  | succ fuel ih =>
    cases cs with
    | nil => exact (local_finish digits).suffix h
    | cons c cs =>
      rw [readDecimal] at h
      split at h
      · exact ((ih h).trans (f.skip_suffix cs)).trans (List.suffix_cons c cs)
      · exact (local_finish digits).suffix h

theorem cut_readDecimal {fuel fuel' : Nat} {digits cs left : List Char} {n : Option Nat}
    (h : readDecimal f fuel' digits (cs ++ closing) = .ok (n, left)) (hl : 2 ≤ left.length)
    (hf : cs.length ≤ fuel) (hf' : cs.length ≤ fuel') :
    ∃ rest, left = rest ++ closing ∧ readDecimal f fuel digits cs = .ok (n, rest) := by
  induction fuel generalizing fuel' digits cs with
  | zero =>
    obtain rfl : cs = [] := List.length_eq_zero_iff.1 (by omega)
    rw [readDecimal_of_head (by rintro _ ⟨⟩; rfl)] at h
    exact (local_finish digits).cut h hl
  | succ fuel ih =>
    by_cases hd : ∃ c rest, cs = c :: rest ∧ c.isDigit = true
    · obtain ⟨c, cs, rfl, hc⟩ := hd
      rw [List.length_cons] at hf hf'
      obtain ⟨fuel', rfl⟩ : ∃ k, fuel' = k + 1 := ⟨fuel' - 1, by omega⟩
      have hs := (f.skip_suffix cs).length_le
      rw [List.cons_append, readDecimal_of_digit hc] at h
      rw [readDecimal_of_digit hc]
      rcases f.skip_append cs with hk | hk
      · rw [hk] at h
        exact ih h (by omega) (by omega)
      · rw [hk] at h
        have hle : left.length ≤ 0 := (suffix_readDecimal h).length_le
        omega
    · have hcs (c : Char) (hc : cs.head? = some c) : c.isDigit = false := by
        obtain ⟨rest, rfl⟩ := List.head?_eq_some_iff.1 hc
        exact Bool.eq_false_iff.2 fun hc => hd ⟨c, rest, rfl, hc⟩
      have hcs' (c : Char) (hc : (cs ++ closing).head? = some c) : c.isDigit = false := by
        cases cs with
        | nil =>
          cases hc
          rfl
        | cons d cs => exact hcs c hc
      rw [readDecimal_of_head hcs'] at h
      rw [readDecimal_of_head hcs]
      exact (local_finish digits).cut h hl

/-- A number with blanks around it. -/
def readNumber (f : Flags) (cs : List Char) : Except ParseError (Option Nat × List Char) :=
  readDecimal f cs.length [] (cs.dropWhile Text.isSpace)

theorem local_readNumber : Local 0 (readNumber f) where
  suffix h := (suffix_readDecimal h).trans (List.dropWhile_suffix _)
  cut {cs n left} h hl := by
    have hlen := (List.dropWhile_suffix Text.isSpace (l := cs)).length_le
    rw [readNumber, dropSpace_append] at h
    exact cut_readDecimal h hl hlen (by rw [List.length_append]; omega)

/-- The end of a count with an upper bound. -/
def readMostEnd (f : Flags) (least most : Nat) : List Char →
    Except ParseError ((Nat × Option Nat) × List Char)
  | '\x7d' :: rest =>
    if most < least then .error .repetition else .ok ((least, some most), f.skip rest)
  | _ => .error .repetition

/-- The upper bound of a count with one. -/
def readMost (f : Flags) (least : Nat) (cs : List Char) :
    Except ParseError ((Nat × Option Nat) × List Char) := do
  let (most?, rest) ← readNumber f cs
  match most? with
  | some most => readMostEnd f least most rest
  | none => .error .repetition

/-- The rest of a count behind its comma. -/
def readBehindComma (f : Flags) (least : Nat) : List Char →
    Except ParseError ((Nat × Option Nat) × List Char)
  | '\x7d' :: rest => .ok ((least, none), f.skip rest)
  | rest => readMost f least rest

/-- The rest of a count behind its first number. -/
def readBehindLeast (f : Flags) (least : Nat) : List Char →
    Except ParseError ((Nat × Option Nat) × List Char)
  | '\x7d' :: rest => .ok ((least, some least), f.skip rest)
  | ',' :: rest => readBehindComma f least (f.skip rest)
  | _ => .error .repetition

/-- The bounds of a count behind its brace. -/
def readBounds (f : Flags) (cs : List Char) :
    Except ParseError ((Nat × Option Nat) × List Char) := do
  let (least?, rest) ← readNumber f (f.skip cs)
  match least? with
  | some least => readBehindLeast f least rest
  | none => .error .repetition

theorem readMostEnd_of_head {least most : Nat} {cs : List Char} (h : cs.head? ≠ some '\x7d') :
    readMostEnd f least most cs = .error .repetition := by
  rw [readMostEnd]
  rintro rest rfl
  exact h rfl

theorem local_readMostEnd (least most : Nat) : Local 0 (readMostEnd f least most) := by
  refine .of_head (by decide) (fun _ => readMostEnd_of_head) ?_ (.error _)
  simp only [readMostEnd]
  split
  · exact .error _
  · exact .skip f (.ok _)

theorem local_readMost (least : Nat) : Local 0 (readMost f least) := by
  refine .bind local_readNumber fun most? => ?_
  cases most? with
  | none => exact .error _
  | some most => exact local_readMostEnd least most

theorem readBehindComma_of_head {least : Nat} {cs : List Char} (h : cs.head? ≠ some '\x7d') :
    readBehindComma f least cs = readMost f least cs := by
  unfold readBehindComma
  split
  · exact absurd rfl h
  · rfl

theorem local_readBehindComma (least : Nat) : Local 0 (readBehindComma f least) :=
  .of_head (by decide) (fun _ => readBehindComma_of_head) (.skip f (.ok (least, none)))
    (local_readMost least)

theorem readBehindLeast_of_head {least : Nat} {cs : List Char} (h : cs.head? ≠ some '\x7d')
    (h' : cs.head? ≠ some ',') : readBehindLeast f least cs = .error .repetition := by
  rw [readBehindLeast]
  · rintro rest rfl
    exact h rfl
  · rintro rest rfl
    exact h' rfl

theorem local_readBehindLeast (least : Nat) : Local 0 (readBehindLeast f least) := by
  refine .of_cons nofun fun c => ?_
  by_cases hc : c = '\x7d'
  · subst hc
    exact .skip f (.ok (least, some least))
  by_cases hc' : c = ','
  · subst hc'
    exact (local_readBehindComma least).skip f
  · have he (cs : List Char) : readBehindLeast f least (c :: cs) = .error .repetition :=
      readBehindLeast_of_head (by simpa using hc) (by simpa using hc')
    rw [funext he]
    exact .error _

theorem local_readBounds : Local 0 (readBounds f) := by
  refine .bind (local_readNumber.skip f) fun least? => ?_
  cases least? with
  | none => exact .error _
  | some least => exact local_readBehindLeast least

theorem readCount_eq (cs : List Char) : readCount f cs =
    (readBounds f cs).map fun ((least, most), rest) => (least, most, rest) := by
  change (readNumber f (f.skip cs) >>= fun (least?, rest) => _) = _
  rw [readBounds]
  cases readNumber f (f.skip cs) with
  | error e => rfl
  | ok found =>
    obtain ⟨least?, rest⟩ := found
    cases least? with
    | none => rfl
    | some least =>
      dsimp only [bind, Except.bind]
      split
      · rfl
      · rename_i rest
        rw [readBehindLeast]
        generalize f.skip rest = rest
        split
        · rfl
        · rename_i hn
          rw [readBehindComma_of_head fun h => (List.head?_eq_some_iff.1 h).elim hn, readMost,
            ← readNumber]
          cases readNumber f rest with
          | error e => rfl
          | ok found =>
            obtain ⟨most?, rest⟩ := found
            cases most? with
            | none => rfl
            | some most =>
              dsimp only [bind, Except.bind]
              split
              · rename_i he
                cases he
                rw [readMostEnd]
                split <;> rfl
              · rename_i hn
                rw [readMostEnd_of_head fun h => (List.head?_eq_some_iff.1 h).elim (hn _ · rfl)]
                rfl
      · rename_i hbrace hcomma
        rw [readBehindLeast_of_head fun h => (List.head?_eq_some_iff.1 h).elim hbrace]
        · rfl
        · exact fun h => (List.head?_eq_some_iff.1 h).elim hcomma

/-! ## Single steps -/

/-- Repeats a part with a greed that may be swapped. -/
def ParseState.repeated (s : ParseState) (item : Nested) (parts : List (Option Nested))
    (least : Nat) (most : Option Nat) (lazy : Bool) : ParseState :=
  { s with
    current.parts :=
      some ⟨.times item.expr least most (lazy == s.flags.swapGreed), item.depth + 1⟩ :: parts }

section Repeat

variable {s : ParseState} {item : Nested} {parts : List (Option Nested)} {least : Nat}
  {most : Option Nat} {cs : List Char}

theorem repeatLast_lazy (h : s.current.parts = some item :: parts) :
    s.repeatLast least most ('?' :: cs) = .ok (s.repeated item parts least most true, cs) := by
  rw [ParseState.repeatLast, h]
  rfl

theorem repeatLast_of_head (h : s.current.parts = some item :: parts) (hc : cs.head? ≠ some '?') :
    s.repeatLast least most cs = .ok (s.repeated item parts least most false, cs) := by
  simp only [ParseState.repeatLast, h]
  split
  · exact absurd rfl hc
  · rfl

theorem repeatLast_of_nothing (h : ∀ item parts, s.current.parts ≠ some item :: parts) :
    s.repeatLast least most cs = .error .nothingToRepeat := by
  unfold ParseState.repeatLast
  split
  · rename_i hp
    exact absurd hp (h _ _)
  · rfl

end Repeat

theorem local_repeatLast (s : ParseState) (least : Nat) (most : Option Nat) :
    Local 0 (s.repeatLast least most) := by
  by_cases h : ∃ item parts, s.current.parts = some item :: parts
  · obtain ⟨item, parts, hp⟩ := h
    refine .of_head (c := '?') (by decide) (fun _ => repeatLast_of_head hp) ?_ (.ok _)
    rw [funext fun _ => repeatLast_lazy hp]
    exact .ok _
  · have he (cs : List Char) : s.repeatLast least most cs = .error .nothingToRepeat :=
      repeatLast_of_nothing fun item parts hp => h ⟨item, parts, hp⟩
    rw [funext he]
    exact .error _

theorem local_step_count [Engine] (s : ParseState) : Local 0 (step s '\x7b') := by
  by_cases h : ∃ item parts, s.current.parts = some item :: parts
  · obtain ⟨item, parts, hp⟩ := h
    have he (cs : List Char) : step s '\x7b' cs =
        readBounds s.flags cs >>= fun (bounds, rest) => s.repeatLast bounds.1 bounds.2 rest := by
      simp only [step, hp, readCount_eq]
      cases readBounds s.flags cs <;> rfl
    rw [funext he]
    exact .bind local_readBounds fun bounds => local_repeatLast s bounds.1 bounds.2
  · have he (cs : List Char) : step s '\x7b' cs = .error .nothingToRepeat := by
      simp only [step]
      split
      · rename_i hp
        exact absurd ⟨_, _, hp⟩ h
      · rfl
    rw [funext he]
    exact .error _

theorem local_step_class [Engine] (s : ParseState) : Local 0 (step s '[') where
  suffix {cs a rest} h := by
    obtain ⟨⟨o, more⟩, ho, h⟩ := bind_eq_ok.1 h
    obtain ⟨⟨cls, depth, rest⟩, hb, h⟩ := bind_eq_ok.1 h
    cases h
    exact (suffix_bracketed hb).1.trans (local_openClass.suffix ho)
  cut {cs a left} h hl := by
    obtain ⟨⟨o, more⟩, ho, h⟩ := bind_eq_ok.1 h
    obtain ⟨⟨cls, depth, left⟩, hb, h⟩ := bind_eq_ok.1 h
    cases h
    have hle : 2 ≤ left.length := hl
    have hlt : left.length < more.length := (suffix_bracketed hb).2
    obtain ⟨more, rfl, hm⟩ := local_openClass.cut ho (by omega)
    obtain ⟨rest, rfl, hr⟩ := cut_bracketed hb hl (Nat.lt_succ_self _)
    exact ⟨rest, rfl, bind_eq_ok.2 ⟨_, hm, bind_eq_ok.2 ⟨_, hr, rfl⟩⟩⟩

/-- The signs that do not stand for themselves outside of brackets. -/
def ruling : List Char :=
  ['(', ')', '|', '[', '?', '*', '+', '\x7b', '\\', '.', '^', '$']

theorem step_of_not_ruling [Engine] {s : ParseState} {c : Char} (h : c ∉ ruling) (cs : List Char) :
    step s c cs = s.pushSign (.char c) >>= fun pushed => .ok (pushed, cs) := by
  simp only [ruling, List.mem_cons, List.not_mem_nil, or_false, not_or] at h
  obtain ⟨h₁, h₂, h₃, h₄, h₅, h₆, h₇, h₈, h₉, h₁₀, h₁₁, h₁₂⟩ := h
  rw [step] <;> assumption

theorem local_step [Engine] (s : ParseState) {c : Char} (hc : c ≠ '\\') : Local 0 (step s c) := by
  by_cases h : c ∈ ruling
  · simp only [ruling, List.mem_cons, List.not_mem_nil, or_false] at h
    rcases h with rfl | rfl | rfl | rfl | rfl | rfl | rfl | rfl | rfl | rfl | rfl | rfl
    · exact local_openGroup s
    · exact .check fun closed => .ok closed
    · exact .ok s.alternate
    · exact local_step_class s
    · exact local_repeatLast s 0 (some 1)
    · exact local_repeatLast s 0 none
    · exact local_repeatLast s 1 none
    · exact local_step_count s
    · contradiction
    · exact .check fun cls => .ok (s.push (.chars cls))
    · exact .ok _
    · exact .ok _
  · rw [funext (step_of_not_ruling h)]
    exact .check fun pushed => .ok pushed

end Telemetry.Regex
