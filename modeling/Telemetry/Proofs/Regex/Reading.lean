import Mathlib.Data.List.Infix
import Telemetry.Regex.Parser
/-!
# Readers of a text with closing signs behind it

A pattern for whole names is read with the signs `)` and `$` behind it. A reader is local when it
takes of such a text what it takes of the text alone, so long as it leaves the two signs. Local
readers compose. Main statement: escapes are local, up to a condition on words with a brace behind
it that nothing follows.
-/
namespace Telemetry.Regex

theorem bind_eq_ok {ε α β : Type} {x : Except ε α} {f : α → Except ε β} {b : β} :
    (x >>= f) = .ok b ↔ ∃ a, x = .ok a ∧ f a = .ok b := by
  cases x with
  | error e => exact ⟨nofun, nofun⟩
  | ok a => exact ⟨fun h => ⟨a, rfl, h⟩, fun ⟨_, rfl, h⟩ => h⟩

/-- The signs that close a group and end a text. -/
def closing : List Char := [')', '$']

theorem head?_append_closing {cs : List Char} {c : Char} (hc : c ≠ ')') (h : cs.head? ≠ some c) :
    (cs ++ closing).head? ≠ some c := by
  cases cs with
  | nil => exact fun he => hc (Option.some.inj he).symm
  | cons d cs => exact h

/-- A sign that is found in a text is found at the same place with the closing signs behind it. -/
theorem dropWhile_append_closing {p : Char → Bool} {cs more : List Char} {c : Char}
    (h : cs.dropWhile p = c :: more) : (cs ++ closing).dropWhile p = c :: (more ++ closing) ∧
      (cs ++ closing).takeWhile p = cs.takeWhile p := by
  have hlength := congrArg List.length (List.takeWhile_append_dropWhile (p := p) (l := cs))
  rw [List.length_append, h, List.length_cons] at hlength
  constructor
  · rw [List.dropWhile_append, h]
    rfl
  · rw [List.takeWhile_append, if_neg (by omega)]

section Skip

theorem skipBlank_suffix (b : Bool) (cs : List Char) : skipBlank b cs <:+ cs := by
  induction cs generalizing b with
  | nil => exact List.suffix_rfl
  | cons c cs ih =>
    have hlater (b : Bool) : skipBlank b cs <:+ c :: cs := (ih b).trans (List.suffix_cons c cs)
    rw [skipBlank]
    split
    · exact hlater _
    split
    · exact hlater _
    split
    · exact hlater _
    · exact List.suffix_rfl

/-- A comment that has no end takes the closing signs with it. -/
theorem skipBlank_append (b : Bool) (cs : List Char) :
    skipBlank b (cs ++ closing) = skipBlank b cs ++ closing ∨
      skipBlank b (cs ++ closing) = [] := by
  induction cs generalizing b with
  | nil =>
    cases b with
    | false => exact .inl rfl
    | true => exact .inr rfl
  | cons c cs ih =>
    rw [List.cons_append, skipBlank, skipBlank]
    split
    · exact ih _
    split
    · exact ih _
    split
    · exact ih _
    · exact .inl rfl

theorem skipBlank_cons {b : Bool} {cs rest : List Char} {c : Char}
    (h : skipBlank b cs = c :: rest) (more : List Char) :
    skipBlank false (c :: more) = c :: more := by
  induction cs generalizing b with
  | nil => cases h
  | cons d cs ih =>
    rw [skipBlank] at h
    split at h
    · exact ih h
    split at h
    · exact ih h
    split at h
    · exact ih h
    · rename_i hs hc
      cases h
      rw [skipBlank, if_neg Bool.false_ne_true, if_neg hs, if_neg hc]

namespace Flags

variable (f : Flags)

@[simp] theorem skip_nil : f.skip [] = [] := by
  rw [skip]
  split <;> rfl

theorem skip_suffix (cs : List Char) : f.skip cs <:+ cs := by
  rw [skip]
  split
  · exact skipBlank_suffix false cs
  · exact List.suffix_rfl

theorem skip_append (cs : List Char) :
    f.skip (cs ++ closing) = f.skip cs ++ closing ∨ f.skip (cs ++ closing) = [] := by
  simp only [skip]
  split
  · exact skipBlank_append false cs
  · exact .inl rfl

/-- What comes behind a sign that is no blank is left alone. -/
theorem skip_cons {cs rest : List Char} {c : Char} (h : f.skip cs = c :: rest)
    (more : List Char) : f.skip (c :: more) = c :: more := by
  rw [skip] at h ⊢
  split
  · rename_i hf
    rw [if_pos hf] at h
    exact skipBlank_cons h more
  · rfl

theorem skip_closing : f.skip closing = closing := by
  rw [skip]
  split <;> rfl

@[simp] theorem skip_skip (cs : List Char) : f.skip (f.skip cs) = f.skip cs := by
  cases h : f.skip cs with
  | nil => exact f.skip_nil
  | cons c rest => exact f.skip_cons h rest

end Flags

end Skip

/-- A reader gives back an end of its text. What it takes of a text with the closing signs behind
it, leaving at least `n` signs and those, it takes of the text alone. -/
structure Local {α : Type} (n : Nat) (read : List Char → Except ParseError (α × List Char)) :
    Prop where
  suffix : ∀ {cs a rest}, read cs = .ok (a, rest) → rest <:+ cs
  cut : ∀ {cs a left}, read (cs ++ closing) = .ok (a, left) → n + 2 ≤ left.length →
    ∃ rest, left = rest ++ closing ∧ read cs = .ok (a, rest)

namespace Local

variable {α β : Type} {n : Nat} {R : List Char → Except ParseError (α × List Char)}

theorem ok (a : α) : Local n fun cs => .ok (a, cs) where
  suffix h := by
    cases h
    exact List.suffix_rfl
  cut h _ := by
    cases h
    exact ⟨_, rfl, rfl⟩

theorem error (e : ParseError) : Local (α := α) n fun _ => .error e where
  suffix := nofun
  cut := nofun

/-- What comes after another reader. -/
theorem bind {K : α × List Char → Except ParseError (β × List Char)} (h : Local n R)
    (k : ∀ a, Local n fun rest => K (a, rest)) : Local n fun cs => R cs >>= K where
  suffix hr := by
    obtain ⟨⟨a, rest⟩, ha, hk⟩ := bind_eq_ok.1 hr
    exact ((k a).suffix hk).trans (h.suffix ha)
  cut h' hl := by
    obtain ⟨⟨a, left⟩, ha, hk⟩ := bind_eq_ok.1 h'
    obtain ⟨more, rfl, hm⟩ := h.cut ha (hl.trans ((k a).suffix hk).length_le)
    obtain ⟨rest, rfl, hr⟩ := (k a).cut hk hl
    exact ⟨rest, rfl, bind_eq_ok.2 ⟨_, hm, hr⟩⟩

/-- A check that takes no sign. -/
theorem check {x : Except ParseError α} {K : α → List Char → Except ParseError (β × List Char)}
    (k : ∀ a, Local n (K a)) : Local n fun cs => x >>= fun a => K a cs := by
  cases x with
  | error e => exact error e
  | ok a => exact k a

theorem skip (f : Flags) (h : Local n R) : Local n fun cs => R (f.skip cs) where
  suffix {cs} _ _ hr := (h.suffix hr).trans (f.skip_suffix cs)
  cut {cs a left} hr hl := by
    rcases f.skip_append cs with hs | hs
    · rw [hs] at hr
      exact h.cut hr hl
    · rw [hs] at hr
      have hle : left.length ≤ 0 := (h.suffix hr).length_le
      omega

/-- A reader that begins with the next sign that is no blank. -/
theorem of_skip (f : Flags) (hs : ∀ cs, R (f.skip cs) = R cs) (hnil : ∀ x, R [] ≠ .ok x)
    (h : ∀ c, (∀ more, f.skip (c :: more) = c :: more) → Local n fun rest => R (c :: rest)) :
    Local n R where
  suffix {cs a rest} hr := by
    rw [← hs] at hr
    refine List.IsSuffix.trans ?_ (f.skip_suffix cs)
    cases hc : f.skip cs with
    | nil =>
      rw [hc] at hr
      exact absurd hr (hnil _)
    | cons c more =>
      rw [hc] at hr
      exact ((h c (f.skip_cons hc)).suffix hr).trans (List.suffix_cons c more)
  cut {cs a left} hr hl := by
    rw [← hs] at hr
    rcases f.skip_append cs with hc | hc
    · rw [hc] at hr
      cases hd : f.skip cs with
      | nil =>
        -- what begins with the closing sign leaves too little
        rw [hd] at hr
        have hle : left.length ≤ 1 := ((h ')' (f.skip_cons f.skip_closing)).suffix hr).length_le
        omega
      | cons c more =>
        rw [hd] at hr
        obtain ⟨rest, rfl, hm⟩ := (h c (f.skip_cons hd)).cut hr hl
        exact ⟨rest, rfl, by rw [← hs, hd, hm]⟩
    · rw [hc] at hr
      exact absurd hr (hnil _)

/-- A reader that begins with the next sign. -/
theorem of_cons (hnil : ∀ x, R [] ≠ .ok x) (h : ∀ c, Local n fun rest => R (c :: rest)) :
    Local n R :=
  of_skip {} (fun _ => rfl) hnil fun c _ => h c

/-- A reader that does something else at one sign. -/
theorem of_head {S : List Char → Except ParseError (α × List Char)} {c : Char} (hc : c ≠ ')')
    (hR : ∀ cs, cs.head? ≠ some c → R cs = S cs) (h : Local n fun rest => R (c :: rest))
    (hS : Local n S) : Local n R where
  suffix {cs a rest} hr := by
    by_cases hd : cs.head? = some c
    · obtain ⟨cs, rfl⟩ := List.head?_eq_some_iff.1 hd
      exact (h.suffix hr).trans (List.suffix_cons c cs)
    · rw [hR cs hd] at hr
      exact hS.suffix hr
  cut {cs a left} hr hl := by
    by_cases hd : cs.head? = some c
    · obtain ⟨cs, rfl⟩ := List.head?_eq_some_iff.1 hd
      exact h.cut hr hl
    · have hd' := head?_append_closing hc hd
      rw [hR _ hd'] at hr
      rw [hR cs hd]
      exact hS.cut hr hl

/-- A reader that first looks for one thing and does something else if it is not there. -/
theorem of_find {S : List Char → Except ParseError (α × List Char)}
    {find : List Char → Option (β × List Char)} {g : β → α}
    (happend : ∀ cs, find (cs ++ closing) = (find cs).map fun (b, rest) => (b, rest ++ closing))
    (hsuffix : ∀ {cs b rest}, find cs = some (b, rest) → rest <:+ cs)
    (hsome : ∀ {cs b rest}, find cs = some (b, rest) → R cs = .ok (g b, rest))
    (hnone : ∀ {cs}, find cs = none → R cs = S cs) (h : Local n S) : Local n R where
  suffix {cs a rest} hr := by
    cases hf : find cs with
    | some found =>
      rw [hsome hf] at hr
      cases hr
      exact hsuffix hf
    | none =>
      rw [hnone hf] at hr
      exact h.suffix hr
  cut {cs a left} hr hl := by
    have hf := happend cs
    cases hc : find cs with
    | some found =>
      rw [hc] at hf
      rw [hsome hf] at hr
      cases hr
      exact ⟨_, rfl, hsome hc⟩
    | none =>
      rw [hc] at hf
      rw [hnone hf] at hr
      rw [hnone hc]
      exact h.cut hr hl

/-- A reader that takes nothing but wants something to be left. -/
theorem ok_of_left (e : ParseError) (a : α) :
    Local 1 fun cs => if cs.isEmpty then .error e else .ok (a, cs) where
  suffix {cs b rest} h := by
    split at h
    · cases h
    · cases h
      exact List.suffix_rfl
  cut {cs b left} h hl := by
    split at h
    · cases h
    · cases h
      have hne : cs ≠ [] := by
        rintro rfl
        exact absurd hl (by decide)
      exact ⟨cs, rfl, if_neg (by simpa using hne)⟩

end Local

variable {f : Flags}

theorem local_hexDigits_cons {count : Nat} (h : Local 0 (hexDigits f count)) (c : Char) :
    Local 0 fun rest => hexDigits f (count + 1) (c :: rest) := by
  simp only [hexDigits]
  by_cases hc : isHexDigit c = true
  · simp only [hc]
    exact .bind (.skip f h) fun digits => .ok (c :: digits)
  · simp only [hc]
    exact .error _

theorem local_hexDigits (count : Nat) : Local 0 (hexDigits f count) := by
  induction count with
  | zero => exact .ok []
  | succ count ih => exact .of_cons nofun fun c => local_hexDigits_cons ih c

theorem untilBrace_closing : untilBrace f closing = .error .escape := by
  have hspace : Text.isSpace ')' = false ∧ Text.isSpace '$' = false := by decide
  simp [untilBrace, closing, hspace]
  rfl

theorem local_untilBrace : Local 0 (untilBrace f) where
  suffix {cs a rest} h := by
    induction cs generalizing a with
    | nil => cases h
    | cons c cs ih =>
      rw [untilBrace] at h
      split at h
      · cases h
        exact List.suffix_cons c _
      split at h
      · exact (ih h).trans (List.suffix_cons c cs)
      · obtain ⟨⟨text, rest⟩, ht, h⟩ := bind_eq_ok.1 h
        cases h
        exact (ih ht).trans (List.suffix_cons c cs)
  cut {cs a left} h hl := by
    induction cs generalizing a with
    | nil => exact absurd (untilBrace_closing.symm.trans h) nofun
    | cons c cs ih =>
      rw [List.cons_append, untilBrace] at h
      rw [untilBrace]
      split at h
      · rename_i hc
        cases h
        exact ⟨cs, rfl, if_pos hc⟩
      rename_i hc
      rw [if_neg hc]
      split at h
      · rename_i hs
        rw [if_pos hs]
        exact ih h
      · rename_i hs
        rw [if_neg hs]
        obtain ⟨⟨text, left⟩, ht, h⟩ := bind_eq_ok.1 h
        cases h
        obtain ⟨rest, rfl, hr⟩ := ih ht
        exact ⟨rest, rfl, bind_eq_ok.2 ⟨_, hr, rfl⟩⟩

theorem local_hexEscape (count : Nat) : Local 0 (hexEscape f (count + 1)) := by
  have finish (digits : List Char) : Local 0 fun rest =>
      (do .ok (← charOf digits, f.skip rest) : Except ParseError (Char × List Char)) :=
    .check fun d => .skip f (.ok d)
  refine .of_skip f ?_ ?_ fun c hc => ?_
  · simp [hexEscape]
  · simp [hexEscape]
  simp only [hexEscape, hc]
  by_cases hb : (c == '\x7b') = true
  · simp only [hb, if_true]
    refine .bind local_untilBrace fun digits => ?_
    dsimp only
    split
    · exact .error _
    · exact finish digits
  · simp only [hb]
    exact .bind (local_hexDigits_cons (local_hexDigits count) c) finish

theorem local_propertyEscape [Engine] (negated : Bool) : Local 0 (propertyEscape f negated) := by
  by_cases hu : f.unicode = true
  · refine .of_skip f ?_ ?_ fun c hc => ?_
    · simp [propertyEscape]
    · simp [propertyEscape, hu]
    simp only [propertyEscape, hu, hc]
    by_cases hb : c = '\x7b'
    · subst hb
      refine .bind local_untilBrace fun text => ?_
      dsimp only
      exact .check fun found => .ok _
    · simp only [Bool.not_true, Bool.false_eq_true, if_false]
      cases c == '\\' with
      | true => exact .error _
      | false =>
        cases propertyOf? (normalName [c]) with
        | none => exact .error _
        | some p => exact .skip f (.ok _)
  · have he : propertyEscape f negated = fun _ => .error .notText := by
      funext cs
      simp only [propertyEscape, hu]
      rfl
    rw [he]
    exact .error _

/-- The letters behind a backslash whose meaning hangs on what comes next. -/
def isReadingOn (c : Char) : Bool :=
  c == 'x' || c == 'u' || c == 'U' || c == 'p' || c == 'P' || c == 'b'

theorem escape_cons_of_not_isReadingOn [Engine] {c : Char} (h : isReadingOn c = false)
    (cs : List Char) : escape f (c :: cs) = (escape f [c]).map fun (sign, _) => (sign, cs) := by
  simp only [isReadingOn, Bool.or_eq_false_iff, beq_eq_false_iff_ne] at h
  obtain ⟨⟨⟨⟨⟨hx, hu⟩, hU⟩, hp⟩, hP⟩, hb⟩ := h
  unfold escape
  dsimp only
  split
  all_goals try contradiction
  all_goals try rfl
  all_goals try (cases shortClass f _ <;> rfl)
  split <;> rfl

theorem local_escape_x [Engine] : Local 0 fun rest => escape f ('x' :: rest) where
  suffix h := by
    obtain ⟨⟨d, rest⟩, hd, h⟩ := bind_eq_ok.1 h
    cases h
    exact (local_hexEscape 1).suffix hd
  cut {cs sign left} h hl := by
    obtain ⟨⟨d, left⟩, hd, h⟩ := bind_eq_ok.1 h
    cases h
    obtain ⟨rest, rfl, hr⟩ := (local_hexEscape 1).cut hd hl
    have hs : (f.skip (cs ++ closing)).head? = (f.skip cs).head? := by
      rcases f.skip_append cs with hs | hs
      · cases hc : f.skip cs with
        | nil => simp [hexEscape, hc] at hr
        | cons c more => rw [hs, hc]; rfl
      · simp [hexEscape, hs] at hd
    refine ⟨rest, rfl, bind_eq_ok.2 ⟨_, hr, ?_⟩⟩
    simp only [hs]

/-- The condition on words is the only sign that can be misread because of the closing signs. -/
theorem local_escape_cons [Engine] {c : Char} (hb : c ≠ 'b') :
    Local 0 fun rest => escape f (c :: rest) := by
  cases hc : isReadingOn c with
  | false =>
    have he : (fun rest => escape f (c :: rest)) = _ :=
      funext (escape_cons_of_not_isReadingOn hc)
    rw [he]
    cases escape f [c] with
    | error e => exact .error e
    | ok found => exact .ok found.1
  | true =>
    simp only [isReadingOn, Bool.or_eq_true, beq_iff_eq, hb, or_false] at hc
    obtain ((((rfl | rfl) | rfl) | rfl) | rfl) := hc
    · exact local_escape_x
    · exact .bind (local_hexEscape 3) fun d => .ok (Sign.char d)
    · exact .bind (local_hexEscape 7) fun d => .ok (Sign.char d)
    · exact .bind (local_propertyEscape _) fun cls => .ok (Sign.cls cls)
    · exact .bind (local_propertyEscape _) fun cls => .ok (Sign.cls cls)

/-- An open brace with blanks alone up to the closing signs. -/
def Dangling (f : Flags) (left : List Char) : Prop :=
  ∃ blank, left = '\x7b' :: (blank ++ closing) ∧ f.skip blank = []

/-- The condition on words that a name in braces stands for. -/
def boundaryOf (f : Flags) (name : List Char) : Except ParseError Look :=
  match String.ofList name with
  | "start" => .ok (.wordStart f.unicode)
  | "end" => .ok (.wordEnd f.unicode)
  | "start-half" => .ok (.wordStartHalf f.unicode)
  | "end-half" => .ok (.wordEndHalf f.unicode)
  | _ => .error .escape

theorem boundaryKind_brace (cs : List Char) : boundaryKind f ('\x7b' :: cs) =
    match f.skip cs with
    | [] => .error .escape
    | c :: more =>
      if isBoundaryLetter c then do
        let (name, rest) ← untilBrace f (c :: more)
        .ok (some (← boundaryOf f name, rest))
      else .ok none := by
  rw [boundaryKind]
  cases f.skip cs with
  | nil => rfl
  | cons c more =>
    dsimp only
    cases isBoundaryLetter c with
    | false => rfl
    | true =>
      simp only [if_true, Bool.not_true, Bool.false_eq_true, if_false]
      cases untilBrace f (c :: more) with
      | error e => rfl
      | ok found =>
        simp only [boundaryOf, bind, Except.bind, pure, Except.pure]
        generalize String.ofList found.1 = name
        split
        iterate 4 rfl
        simp only
        rfl

theorem boundaryKind_of_head {cs : List Char} (h : cs.head? ≠ some '\x7b') :
    boundaryKind f cs = .ok none := by
  rw [boundaryKind]
  · rfl
  · rintro rest rfl
    exact h rfl

theorem suffix_escape_b [Engine] {cs left : List Char} {sign : Sign}
    (h : escape f ('b' :: cs) = .ok (sign, left)) : left <:+ cs := by
  obtain ⟨kind, hk, h⟩ := bind_eq_ok.1 h
  cases kind with
  | none =>
    cases h
    exact List.suffix_rfl
  | some kind =>
    cases h
    by_cases hb : cs.head? = some '\x7b'
    · obtain ⟨cs, rfl⟩ := List.head?_eq_some_iff.1 hb
      rw [boundaryKind_brace] at hk
      split at hk
      · cases hk
      rename_i c more hs
      split at hk
      · obtain ⟨⟨name, rest⟩, hr, hk⟩ := bind_eq_ok.1 hk
        obtain ⟨look, -, hk⟩ := bind_eq_ok.1 hk
        cases hk
        have hmore : c :: more <:+ cs := hs ▸ f.skip_suffix cs
        exact ((local_untilBrace.suffix hr).trans hmore).trans (List.suffix_cons _ cs)
      · cases hk
    · rw [boundaryKind_of_head hb] at hk
      cases hk

theorem cut_escape_b [Engine] {cs left : List Char} {sign : Sign}
    (h : escape f ('b' :: (cs ++ closing)) = .ok (sign, left)) (hl : 2 ≤ left.length) :
    (∃ rest, left = rest ++ closing ∧ escape f ('b' :: cs) = .ok (sign, rest)) ∨
      (sign = .look (.wordBoundary f.unicode) ∧ Dangling f left) := by
  obtain ⟨kind, hk, h⟩ := bind_eq_ok.1 h
  by_cases hb : cs.head? = some '\x7b'
  · obtain ⟨cs, rfl⟩ := List.head?_eq_some_iff.1 hb
    rw [List.cons_append, boundaryKind_brace] at hk
    rcases f.skip_append cs with hs | hs
    · rw [hs] at hk
      cases hc : f.skip cs with
      | nil =>
        -- the brace is left to be read as the start of a count
        rw [hc] at hk
        obtain rfl : none = kind := Except.ok.inj hk
        cases h
        exact .inr ⟨rfl, cs, rfl, hc⟩
      | cons c more =>
        rw [hc] at hk
        simp only [List.cons_append] at hk
        split at hk
        · rename_i hletter
          obtain ⟨⟨name, left⟩, hr, hk⟩ := bind_eq_ok.1 hk
          obtain ⟨look, hlook, hk⟩ := bind_eq_ok.1 hk
          cases hk
          cases h
          rw [← List.cons_append] at hr
          obtain ⟨rest, rfl, ho⟩ := local_untilBrace.cut hr hl
          refine .inl ⟨rest, rfl, bind_eq_ok.2 ⟨some (look, rest), ?_, rfl⟩⟩
          simp only [boundaryKind_brace, hc, if_pos hletter]
          exact bind_eq_ok.2 ⟨_, ho, bind_eq_ok.2 ⟨_, hlook, rfl⟩⟩
        · rename_i hletter
          obtain rfl : none = kind := Except.ok.inj hk
          cases h
          refine .inl ⟨_, rfl, bind_eq_ok.2 ⟨none, ?_, rfl⟩⟩
          simp only [boundaryKind_brace, hc, if_neg hletter]
    · rw [hs] at hk
      cases hk
  · have hb' := head?_append_closing (by decide) hb
    rw [boundaryKind_of_head hb'] at hk
    cases hk
    cases h
    exact .inl ⟨cs, rfl, bind_eq_ok.2 ⟨none, boundaryKind_of_head hb, rfl⟩⟩

theorem suffix_escape [Engine] {cs left : List Char} {sign : Sign}
    (h : escape f cs = .ok (sign, left)) : left <:+ cs := by
  cases cs with
  | nil => cases h
  | cons c cs =>
    refine List.IsSuffix.trans ?_ (List.suffix_cons c cs)
    by_cases hb : c = 'b'
    · subst hb
      exact suffix_escape_b h
    · exact (local_escape_cons hb).suffix h

theorem cut_escape [Engine] {cs left : List Char} {sign : Sign}
    (h : escape f (cs ++ closing) = .ok (sign, left)) (hl : 2 ≤ left.length) :
    (∃ rest, left = rest ++ closing ∧ escape f cs = .ok (sign, rest)) ∨
      (sign = .look (.wordBoundary f.unicode) ∧ Dangling f left) := by
  cases cs with
  | nil =>
    have hle : left.length ≤ 1 :=
      ((local_escape_cons (f := f) (c := ')') (by decide)).suffix h).length_le
    omega
  | cons c cs =>
    by_cases hb : c = 'b'
    · subst hb
      exact cut_escape_b h hl
    · exact .inl ((local_escape_cons hb).cut h hl)

end Telemetry.Regex
