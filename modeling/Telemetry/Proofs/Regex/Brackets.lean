import Telemetry.Proofs.Regex.Reading
/-!
# Classes with closing signs behind them

The parts of a class in brackets are local readers, and so is one round of the pass over its
signs. Main statement: a class that ends before the closing signs is read as in the text alone.
-/
namespace Telemetry.Regex

variable {f : Flags}

theorem leadingHyphens_of_head {fuel : Nat} {o : OpenClass} {cs : List Char}
    (h : cs.head? ≠ some '-') : leadingHyphens f fuel o cs = (o, cs) := by
  rw [leadingHyphens]
  rintro _ rest - rfl
  exact h rfl

theorem leadingHyphens_suffix (fuel : Nat) (o : OpenClass) (cs : List Char) :
    (leadingHyphens f fuel o cs).2 <:+ cs := by
  induction fuel generalizing o cs with
  | zero => exact List.suffix_rfl
  | succ fuel ih =>
    by_cases hc : cs.head? = some '-'
    · obtain ⟨rest, rfl⟩ := List.head?_eq_some_iff.1 hc
      exact ((ih _ _).trans (f.skip_suffix rest)).trans (List.suffix_cons _ rest)
    · rw [leadingHyphens_of_head hc]

theorem leadingHyphens_append {fuel fuel' : Nat} {o : OpenClass} {cs : List Char}
    (hf : cs.length ≤ fuel) (hf' : cs.length ≤ fuel') :
    leadingHyphens f fuel' o (cs ++ closing) =
        ((leadingHyphens f fuel o cs).1, (leadingHyphens f fuel o cs).2 ++ closing) ∨
      (leadingHyphens f fuel' o (cs ++ closing)).2 = [] := by
  induction fuel generalizing fuel' o cs with
  | zero =>
    obtain rfl : cs = [] := List.length_eq_zero_iff.1 (by omega)
    exact .inl (leadingHyphens_of_head (by decide))
  | succ fuel ih =>
    by_cases hc : cs.head? = some '-'
    · obtain ⟨rest, rfl⟩ := List.head?_eq_some_iff.1 hc
      rw [List.length_cons] at hf hf'
      obtain ⟨fuel', rfl⟩ : ∃ k, fuel' = k + 1 := ⟨fuel' - 1, by omega⟩
      have hs := (f.skip_suffix rest).length_le
      rw [List.cons_append, leadingHyphens, leadingHyphens]
      rcases f.skip_append rest with h | h
      · rw [h]
        exact ih (by omega) (by omega)
      · rw [h, leadingHyphens_of_head (by decide)]
        exact .inr rfl
    · have hc' := head?_append_closing (by decide) hc
      rw [leadingHyphens_of_head hc, leadingHyphens_of_head hc']
      exact .inl rfl

/-- The start of a class behind the sign that negates it. -/
def openBehind (f : Flags) (negated : Bool) (cs : List Char) :
    Except ParseError (OpenClass × List Char) :=
  let (o, after) := leadingHyphens f cs.length { negated } cs
  let (o, after) := match cs, after with
    | ']' :: _, ']' :: rest => (o.add (.char ']'), f.skip rest)
    | _, after => (o, after)
  if after.isEmpty then .error .classUnclosed else .ok (o, after)

theorem openBehind_bracket (negated : Bool) (rest : List Char) :
    openBehind f negated (']' :: rest) = if (f.skip rest).isEmpty then .error .classUnclosed
      else .ok (OpenClass.add { negated } (.char ']'), f.skip rest) := by
  rw [openBehind, leadingHyphens_of_head (by simp)]
  rfl

/-- The start of a class that has no bracket as its first sign. -/
def openHyphens (f : Flags) (negated : Bool) (cs : List Char) :
    Except ParseError (OpenClass × List Char) :=
  if (leadingHyphens f cs.length { negated } cs).2.isEmpty then .error .classUnclosed
  else .ok (leadingHyphens f cs.length { negated } cs)

theorem openBehind_of_head {negated : Bool} {cs : List Char} (h : cs.head? ≠ some ']') :
    openBehind f negated cs = openHyphens f negated cs := by
  rw [openBehind, openHyphens]
  generalize leadingHyphens f cs.length { negated } cs = found
  obtain ⟨o, after⟩ := found
  dsimp only
  split
  · exact absurd rfl h
  · rfl

theorem local_openHyphens (negated : Bool) : Local 1 (openHyphens f negated) where
  suffix {cs o rest} h := by
    rw [openHyphens] at h
    split at h
    · cases h
    · have hs := leadingHyphens_suffix (f := f) cs.length { negated } cs
      rwa [Except.ok.inj h] at hs
  cut {cs o left} h hl := by
    rw [openHyphens] at h ⊢
    split at h
    · cases h
    have hle : cs.length ≤ (cs ++ closing).length := by simp
    rcases leadingHyphens_append (f := f) (o := { negated }) (Nat.le_refl _) hle with hs | hs
    · rw [hs] at h
      cases h
      have hne : (leadingHyphens f cs.length { negated } cs).2 ≠ [] := fun he => by
        simp [he, closing] at hl
      exact ⟨_, rfl, if_neg (by simpa using hne)⟩
    · rw [Except.ok.inj h] at hs
      subst hs
      exact absurd hl (by decide)

theorem local_openBehind (negated : Bool) : Local 1 (openBehind f negated) := by
  refine .of_head (by decide) (fun _ => openBehind_of_head) ?_ (local_openHyphens negated)
  rw [funext (openBehind_bracket negated)]
  exact (Local.ok_of_left _ _).skip f

/-- The start of a class at a sign that is no blank. -/
def openAt (f : Flags) : List Char → Except ParseError (OpenClass × List Char)
  | '^' :: rest => openBehind f true (f.skip rest)
  | cs => openBehind f false cs

theorem openAt_of_head {cs : List Char} (h : cs.head? ≠ some '^') :
    openAt f cs = openBehind f false cs := by
  rw [openAt]
  rintro rest rfl
  exact h rfl

theorem openClass_eq (cs : List Char) : openClass f cs = openAt f (f.skip cs) := by
  rw [openClass]
  generalize f.skip cs = cs
  by_cases hc : cs.head? = some '^'
  · obtain ⟨rest, rfl⟩ := List.head?_eq_some_iff.1 hc
    rfl
  · rw [openAt_of_head hc]
    split
    · rename_i he
      split at he
      · exact absurd rfl hc
      · cases he
        rfl

theorem local_openAt : Local 1 (openAt f) :=
  .of_head (by decide) (fun _ => openAt_of_head) ((local_openBehind true).skip f)
    (local_openBehind false)

theorem local_openClass : Local 1 (openClass f) := by
  rw [funext openClass_eq]
  exact local_openAt.skip f

/-- A class named up to a colon. -/
def asciiBehind? (negated : Bool) (cs : List Char) : Option (CharClass × List Char) :=
  match cs.dropWhile (· != ':') with
  | ':' :: ']' :: after =>
    (CharClass.ofAsciiName? (String.ofList (cs.takeWhile (· != ':')))).map
      fun cls => (Flags.negate negated cls, after)
  | _ => none

theorem asciiClass?_of_head {cs : List Char} (h : cs.head? ≠ some '^') :
    asciiClass? (':' :: cs) = asciiBehind? false cs := by
  rw [asciiClass?]
  · rfl
  · rintro rest rfl
    exact h rfl

theorem asciiClass?_eq_none {cs : List Char} (h : cs.head? ≠ some ':') : asciiClass? cs = none := by
  rw [asciiClass?]
  rintro rest rfl
  exact h rfl

theorem asciiBehind?_append (negated : Bool) (cs : List Char) :
    asciiBehind? negated (cs ++ closing) =
      (asciiBehind? negated cs).map fun (cls, rest) => (cls, rest ++ closing) := by
  cases hd : cs.dropWhile (· != ':') with
  | nil =>
    have hd' : (cs ++ closing).dropWhile (· != ':') = [] := by
      rw [List.dropWhile_append, hd]
      rfl
    rw [asciiBehind?, asciiBehind?, hd, hd']
    rfl
  | cons c more =>
    obtain ⟨hd', ht⟩ := dropWhile_append_closing hd
    rw [asciiBehind?, asciiBehind?, hd, hd', ht]
    by_cases hc : c = ':'
    · subst hc
      cases more with
      | nil => rfl
      | cons d more =>
        by_cases hd : d = ']'
        · subst hd
          simp only [List.cons_append, Option.map_map]
          rfl
        · simp [hd]
    · simp [hc]

theorem asciiBehind?_suffix {negated : Bool} {cs rest : List Char} {cls : CharClass}
    (h : asciiBehind? negated cs = some (cls, rest)) : rest <:+ cs := by
  rw [asciiBehind?] at h
  split at h
  · rename_i after hd
    obtain ⟨_, -, he⟩ := Option.map_eq_some_iff.1 h
    cases he
    refine List.IsSuffix.trans ?_ (List.dropWhile_suffix (· != ':'))
    rw [hd]
    exact (List.suffix_cons _ _).trans (List.suffix_cons _ _)
  · cases h

theorem asciiClass?_append (cs : List Char) : asciiClass? (cs ++ closing) =
    (asciiClass? cs).map fun (cls, rest) => (cls, rest ++ closing) := by
  by_cases hc : cs.head? = some ':'
  · obtain ⟨cs, rfl⟩ := List.head?_eq_some_iff.1 hc
    by_cases hn : cs.head? = some '^'
    · obtain ⟨cs, rfl⟩ := List.head?_eq_some_iff.1 hn
      exact asciiBehind?_append true cs
    · have hn' := head?_append_closing (by decide) hn
      rw [List.cons_append, asciiClass?_of_head hn, asciiClass?_of_head hn']
      exact asciiBehind?_append false cs
  · have hc' := head?_append_closing (by decide) hc
    rw [asciiClass?_eq_none hc, asciiClass?_eq_none hc']
    rfl

theorem asciiClass?_suffix {cs rest : List Char} {cls : CharClass}
    (h : asciiClass? cs = some (cls, rest)) : rest <:+ cs := by
  by_cases hc : cs.head? = some ':'
  · obtain ⟨cs, rfl⟩ := List.head?_eq_some_iff.1 hc
    refine List.IsSuffix.trans ?_ (List.suffix_cons _ cs)
    by_cases hn : cs.head? = some '^'
    · obtain ⟨cs, rfl⟩ := List.head?_eq_some_iff.1 hn
      exact (asciiBehind?_suffix h).trans (List.suffix_cons _ cs)
    · rw [asciiClass?_of_head hn] at h
      exact asciiBehind?_suffix h
  · rw [asciiClass?_eq_none hc] at h
    cases h

theorem classSign_cons_of_ne [Engine] {c : Char} (hc : c ≠ '\\') (cs : List Char) :
    classSign f (c :: cs) = .ok (.char c, cs) := by
  rw [classSign]
  rintro rfl
  exact hc rfl

theorem suffix_classSign_cons [Engine] {c : Char} {cs left : List Char} {sign : Sign}
    (h : classSign f (c :: cs) = .ok (sign, left)) : left <:+ cs := by
  by_cases hc : c = '\\'
  · subst hc
    exact suffix_escape h
  · rw [classSign_cons_of_ne hc] at h
    cases h
    exact List.suffix_rfl

theorem suffix_classSign [Engine] {cs left : List Char} {sign : Sign}
    (h : classSign f cs = .ok (sign, left)) : left <:+ cs := by
  cases cs with
  | nil => cases h
  | cons c cs => exact (suffix_classSign_cons h).trans (List.suffix_cons c cs)

theorem cut_classSign [Engine] {cs left : List Char} {sign : Sign}
    (h : classSign f (cs ++ closing) = .ok (sign, left)) (hl : 2 ≤ left.length)
    (hs : ∀ condition, sign ≠ .look condition) :
    ∃ rest, left = rest ++ closing ∧ classSign f cs = .ok (sign, rest) := by
  cases cs with
  | nil =>
    cases h
    simp at hl
  | cons c cs =>
    by_cases hc : c = '\\'
    · subst hc
      rcases cut_escape h hl with ⟨rest, rfl, hr⟩ | ⟨rfl, -⟩
      · exact ⟨rest, rfl, hr⟩
      · exact absurd rfl (hs _)
    · rw [List.cons_append, classSign_cons_of_ne hc] at h
      cases h
      exact ⟨cs, rfl, classSign_cons_of_ne hc cs⟩

theorem ne_look_of_toEnd {sign : Sign} {c : Char} (h : sign.toEnd f = .ok c)
    (condition : Look) : sign ≠ .look condition := by
  rintro rfl
  cases h

/-- The upper end of a range. -/
def readRangeEnd [Engine] (f : Flags) (first : Sign) (cs : List Char) :
    Except ParseError (CharClass × List Char) := do
  let (last, rest) ← classSign f cs
  let lo ← first.toEnd f
  let hi ← last.toEnd f
  if hi < lo then throw .classRange
  .ok (.range lo hi, rest)

/-- An item of one sign. -/
def loneItem (f : Flags) (first : Sign) (cs : List Char) :
    Except ParseError (CharClass × List Char) := do
  .ok (← first.toItem f, cs)

/-- What comes behind the first sign of an item. -/
def readItemRest [Engine] (f : Flags) (first : Sign) (cs : List Char) :
    Except ParseError (CharClass × List Char) :=
  match cs with
  | [] => .error .classUnclosed
  | '-' :: after =>
    match f.skip after with
    | [] => .error .classUnclosed
    | d :: more =>
      if d == ']' || d == '-' then loneItem f first cs else readRangeEnd f first (d :: more)
  | _ => loneItem f first cs

theorem readItemRest_hyphen [Engine] (first : Sign) (after : List Char) :
    readItemRest f first ('-' :: after) =
    match f.skip after with
    | [] => .error .classUnclosed
    | d :: more =>
      if d == ']' || d == '-' then loneItem f first ('-' :: after)
      else readRangeEnd f first (d :: more) := rfl

theorem readItemRest_cons [Engine] {first : Sign} {c : Char} (h : c ≠ '-') (cs : List Char) :
    readItemRest f first (c :: cs) = loneItem f first (c :: cs) := by
  rw [readItemRest]
  · exact nofun
  · rintro _ ⟨⟩
    exact h rfl

theorem classItem_eq [Engine] (cs : List Char) : classItem f cs =
    classSign f cs >>= fun (first, rest) => readItemRest f first (f.skip rest) := by
  rw [classItem]
  congr 1
  funext found
  obtain ⟨first, rest⟩ := found
  dsimp only
  cases f.skip rest with
  | nil => rfl
  | cons c more =>
    by_cases hc : c = '-'
    · subst hc
      rw [readItemRest_hyphen]
      split
      · contradiction
      · rename_i he
        obtain rfl := (List.cons.inj he).2
        cases f.skip more <;> rfl
      · rename_i hne
        exact absurd rfl (hne more)
    · rw [readItemRest_cons hc]
      split
      · contradiction
      · rename_i he
        exact absurd (List.cons.inj he).1 hc
      · rfl

theorem readRangeEnd_inv [Engine] {first : Sign} {cs rest : List Char} {cls : CharClass}
    (h : readRangeEnd f first cs = .ok (cls, rest)) :
    ∃ last lo hi, classSign f cs = .ok (last, rest) ∧ first.toEnd f = .ok lo ∧
      last.toEnd f = .ok hi ∧ ¬ hi < lo ∧ cls = .range lo hi := by
  obtain ⟨⟨last, rest⟩, hs, h⟩ := bind_eq_ok.1 h
  obtain ⟨lo, hlo, h⟩ := bind_eq_ok.1 h
  obtain ⟨hi, hhi, h⟩ := bind_eq_ok.1 h
  split at h
  · cases h
  · rename_i hlt
    cases h
    exact ⟨last, lo, hi, hs, hlo, hhi, hlt, rfl⟩

theorem local_readRangeEnd [Engine] (first : Sign) : Local 0 (readRangeEnd f first) where
  suffix h := by
    obtain ⟨last, lo, hi, hs, -⟩ := readRangeEnd_inv h
    exact suffix_classSign hs
  cut h hl := by
    obtain ⟨last, lo, hi, hs, hlo, hhi, hlt, rfl⟩ := readRangeEnd_inv h
    obtain ⟨rest, rfl, hr⟩ := cut_classSign hs hl (ne_look_of_toEnd hhi)
    refine ⟨rest, rfl, ?_⟩
    simp only [readRangeEnd, hr, hlo, hhi, bind, Except.bind, if_neg hlt]

theorem local_loneItem {n : Nat} (first : Sign) : Local n (loneItem f first) :=
  .check fun cls => .ok cls

theorem ne_look_of_readItemRest [Engine] {first : Sign} {cs rest : List Char} {cls : CharClass}
    (h : readItemRest f first cs = .ok (cls, rest)) (condition : Look) :
    first ≠ .look condition := by
  rintro rfl
  unfold readItemRest at h
  split at h
  · cases h
  · split at h
    · cases h
    split at h
    · cases h
    · obtain ⟨_, _, _, _, hlo, -⟩ := readRangeEnd_inv h
      cases hlo
  · cases h

theorem suffix_readItemRest [Engine] {first : Sign} {cs rest : List Char} {cls : CharClass}
    (h : readItemRest f first cs = .ok (cls, rest)) : rest <:+ cs := by
  unfold readItemRest at h
  split at h
  · cases h
  · rename_i after
    split at h
    · cases h
    rename_i d more hd
    split at h
    · exact (local_loneItem (n := 0) first).suffix h
    · have hm : d :: more <:+ after := hd ▸ f.skip_suffix after
      exact (((local_readRangeEnd first).suffix h).trans hm).trans (List.suffix_cons _ after)
  · exact (local_loneItem (n := 0) first).suffix h

theorem cut_readItemRest [Engine] {first : Sign} {cs left : List Char} {cls : CharClass}
    (h : readItemRest f first (cs ++ closing) = .ok (cls, left)) (hl : 3 ≤ left.length) :
    ∃ rest, left = rest ++ closing ∧ readItemRest f first cs = .ok (cls, rest) := by
  cases cs with
  | nil =>
    have hle : left.length ≤ 2 := (suffix_readItemRest h).length_le
    omega
  | cons c cs =>
    rw [List.cons_append] at h
    by_cases hc : c = '-'
    · subst hc
      rw [readItemRest_hyphen] at h ⊢
      rcases f.skip_append cs with hs | hs
      · rw [hs] at h
        cases hd : f.skip cs with
        | nil =>
          rw [hd] at h
          have hle : left.length ≤ 2 := ((local_readRangeEnd first).suffix h).length_le
          omega
        | cons d more =>
          rw [hd] at h
          simp only [List.cons_append] at h
          dsimp only
          split at h
          · rename_i hb
            rw [if_pos hb]
            exact (local_loneItem first).cut h hl
          · rename_i hb
            rw [if_neg hb]
            exact (local_readRangeEnd first).cut h (by omega)
      · rw [hs] at h
        cases h
    · rw [readItemRest_cons hc] at h ⊢
      exact (local_loneItem first).cut h hl

theorem suffix_classItem_cons [Engine] {c : Char} {cs rest : List Char} {cls : CharClass}
    (h : classItem f (c :: cs) = .ok (cls, rest)) : rest <:+ cs := by
  rw [classItem_eq] at h
  obtain ⟨⟨first, more⟩, hs, h⟩ := bind_eq_ok.1 h
  exact ((suffix_readItemRest h).trans (f.skip_suffix more)).trans (suffix_classSign_cons hs)

theorem local_classItem [Engine] : Local 1 (classItem f) where
  suffix {cs cls rest} h := by
    cases cs with
    | nil => cases h
    | cons c cs => exact (suffix_classItem_cons h).trans (List.suffix_cons c cs)
  cut {cs cls left} h hl := by
    rw [classItem_eq] at h ⊢
    obtain ⟨⟨first, more⟩, hs, h⟩ := bind_eq_ok.1 h
    have hle : left.length ≤ more.length :=
      ((suffix_readItemRest h).trans (f.skip_suffix more)).length_le
    obtain ⟨more, rfl, hm⟩ := cut_classSign hs (by omega) (ne_look_of_readItemRest h)
    dsimp only at h
    rcases f.skip_append more with hk | hk
    · rw [hk] at h
      obtain ⟨rest, rfl, hr⟩ := cut_readItemRest h hl
      exact ⟨rest, rfl, bind_eq_ok.2 ⟨_, hm, hr⟩⟩
    · rw [hk] at h
      cases h

theorem local_classItem_cons [Engine] (c : Char) : Local 1 fun rest => classItem f (c :: rest) where
  suffix := suffix_classItem_cons
  cut {cs cls left} h hl := by
    rw [← List.cons_append] at h
    exact local_classItem.cut h hl

/-- The operation between classes at the start of a text. -/
def setOp? : List Char → Option (SetOp × List Char)
  | '&' :: '&' :: rest => some (.inter, rest)
  | '-' :: '-' :: rest => some (.diff, rest)
  | '~' :: '~' :: rest => some (.symDiff, rest)
  | _ => none

theorem setOp?_append (cs : List Char) :
    setOp? (cs ++ closing) = (setOp? cs).map fun (op, rest) => (op, rest ++ closing) := by
  match cs with
  | [] => rfl
  | [c] => simp [setOp?, closing]
  | c :: d :: rest =>
    unfold setOp?
    dsimp only [List.cons_append]
    split <;> simp_all

theorem setOp?_suffix {c : Char} {cs rest : List Char} {op : SetOp}
    (h : setOp? (c :: cs) = some (op, rest)) : rest <:+ cs := by
  unfold setOp? at h
  split at h
  iterate 3
    rename_i he
    cases h
    obtain ⟨-, rfl⟩ := List.cons.inj he
    exact List.suffix_cons _ _
  cases h

/-- What is known of a class after one more sign: all of it with its depth, or what is open. -/
abbrev ClassState := (CharClass × Nat) ⊕ (OpenClass × List OpenClass)

/-- A round at a bracket that opens: a named class, or a class inside of the last one. -/
def openRound (f : Flags) (o : OpenClass) (around : List OpenClass) (cs : List Char) :
    Except ParseError ((OpenClass × List OpenClass) × List Char) :=
  match asciiClass? cs with
  | some (cls, rest) => .ok ((o.add cls, around), rest)
  | none => do
    let (inner, rest) ← openClass f cs
    .ok ((inner, o :: around), rest)

/-- A round at a bracket that closes the last class. -/
def closeRound (f : Flags) (o : OpenClass) (around : List OpenClass) :
    Except ParseError ClassState := do
  let cls ← o.close f
  match around with
  | [] => .ok (.inl (cls, o.depth))
  | outer :: around =>
    .ok (.inr ({ outer.add cls with depth := max outer.depth (o.depth + 1) }, around))

/-- A round at any other sign: an operation, or an item. -/
def itemRound [Engine] (f : Flags) (o : OpenClass) (around : List OpenClass) (c : Char)
    (cs : List Char) : Except ParseError ((OpenClass × List OpenClass) × List Char) :=
  match setOp? (c :: cs) with
  | some (op, rest) => .ok ((o.operate f op, around), rest)
  | none => do
    let (cls, rest) ← classItem f (c :: cs)
    .ok ((o.add cls, around), rest)

/-- One round of a pass over brackets, at a sign that is no blank. -/
def bracketStep [Engine] (f : Flags) (o : OpenClass) (around : List OpenClass) (c : Char)
    (cs : List Char) : Except ParseError (ClassState × List Char) :=
  if c = '[' then do
    let (state, rest) ← openRound f o around cs
    .ok (.inr state, rest)
  else if c = ']' then do
    .ok (← closeRound f o around, cs)
  else do
    let (state, rest) ← itemRound f o around c cs
    .ok (.inr state, rest)

theorem local_openRound (o : OpenClass) (around : List OpenClass) :
    Local 1 (openRound f o around) := by
  have hinner : Local 1 fun cs =>
      openClass f cs >>= fun (inner, rest) => .ok ((inner, o :: around), rest) :=
    .bind local_openClass fun inner => .ok (inner, o :: around)
  refine .of_find (g := fun cls => (o.add cls, around)) asciiClass?_append asciiClass?_suffix
    (fun h => ?_) (fun h => ?_) hinner
  · rw [openRound, h]
  · rw [openRound, h]

theorem local_itemRound [Engine] (o : OpenClass) (around : List OpenClass) (c : Char) :
    Local 1 (itemRound f o around c) := by
  have hitem : Local 1 fun cs =>
      classItem f (c :: cs) >>= fun (cls, rest) => .ok ((o.add cls, around), rest) :=
    .bind (local_classItem_cons c) fun cls => .ok (o.add cls, around)
  refine .of_find (g := fun op => (o.operate f op, around)) (fun cs => setOp?_append (c :: cs))
    setOp?_suffix (fun h => ?_) (fun h => ?_) hitem
  · rw [itemRound, h]
  · rw [itemRound, h]

theorem bracketed_of_nil [Engine] {fuel : Nat} {o : OpenClass} {around : List OpenClass}
    {cs : List Char} (h : f.skip cs = []) :
    bracketed f (fuel + 1) o around cs = .error .classUnclosed := by
  rw [bracketed, h]

/-- What comes of a round: a class and the rest of the text, or more rounds. -/
def afterRound [Engine] (f : Flags) (fuel : Nat) :
    ClassState × List Char → Except ParseError (CharClass × Nat × List Char)
  | (.inl (cls, depth), rest) => .ok (cls, depth, rest)
  | (.inr (o, around), rest) => bracketed f fuel o around rest

theorem bracketed_of_cons [Engine] {fuel : Nat} {o : OpenClass} {around : List OpenClass}
    {cs rest : List Char} {c : Char} (h : f.skip cs = c :: rest) :
    bracketed f (fuel + 1) o around cs =
      bracketStep f o around c rest >>= afterRound f fuel := by
  rw [bracketed, h]
  split
  · contradiction
  · rename_i he
    obtain ⟨rfl, rfl⟩ := List.cons.inj he
    rw [bracketStep, if_pos rfl, openRound]
    cases asciiClass? rest with
    | some found => rfl
    | none => cases openClass f rest <;> rfl
  · rename_i he
    obtain ⟨rfl, rfl⟩ := List.cons.inj he
    rw [bracketStep, if_neg (by decide), if_pos rfl, closeRound]
    cases o.close f with
    | error e => rfl
    | ok cls => cases around <;> rfl
  iterate 3
    rename_i he
    obtain ⟨rfl, rfl⟩ := List.cons.inj he
    rw [bracketStep, if_neg (by decide), if_neg (by decide)]
    rfl
  · rename_i hopen hclose hinter hdiff hsym
    have ho : c ≠ '[' := fun he => hopen rest (he ▸ rfl)
    have hc : c ≠ ']' := fun he => hclose rest (he ▸ rfl)
    have hs : setOp? (c :: rest) = none := by
      unfold setOp?
      split
      · exact absurd ‹_› (hinter _)
      · exact absurd ‹_› (hdiff _)
      · exact absurd ‹_› (hsym _)
      · rfl
    rw [bracketStep, if_neg ho, if_neg hc, itemRound, hs]
    cases classItem f (c :: rest) <;> rfl

theorem suffix_bracketStep [Engine] {o : OpenClass} {around : List OpenClass} {c : Char}
    {cs rest : List Char} {state : ClassState}
    (h : bracketStep f o around c cs = .ok (state, rest)) : rest <:+ cs := by
  rw [bracketStep] at h
  split at h
  · obtain ⟨⟨opened, rest⟩, ho, h⟩ := bind_eq_ok.1 h
    cases h
    exact (local_openRound o around).suffix ho
  split at h
  · obtain ⟨state, -, h⟩ := bind_eq_ok.1 h
    cases h
    exact List.suffix_rfl
  · obtain ⟨⟨longer, rest⟩, hi, h⟩ := bind_eq_ok.1 h
    cases h
    exact (local_itemRound o around c).suffix hi

/-- A round at the very end of a text may be misread, but leaves its class open. -/
theorem cut_bracketStep [Engine] {o : OpenClass} {around : List OpenClass} {c : Char}
    {cs left : List Char} {state : ClassState}
    (h : bracketStep f o around c (cs ++ closing) = .ok (state, left)) (hl : 2 ≤ left.length) :
    (∃ rest, left = rest ++ closing ∧ bracketStep f o around c cs = .ok (state, rest)) ∨
      (left.length = 2 ∧ state.isRight = true) := by
  have edge : 3 ≤ left.length ∨ left.length = 2 := by omega
  rw [bracketStep] at h ⊢
  split at h
  · rename_i hc
    obtain ⟨⟨opened, left⟩, ho, h⟩ := bind_eq_ok.1 h
    cases h
    refine edge.imp (fun hl => ?_) (⟨·, rfl⟩)
    obtain ⟨rest, rfl, hr⟩ := (local_openRound o around).cut ho hl
    rw [if_pos hc]
    exact ⟨rest, rfl, bind_eq_ok.2 ⟨_, hr, rfl⟩⟩
  rename_i hopen
  split at h
  · rename_i hc
    obtain ⟨state, hs, h⟩ := bind_eq_ok.1 h
    cases h
    rw [if_neg hopen, if_pos hc]
    exact .inl ⟨cs, rfl, bind_eq_ok.2 ⟨_, hs, rfl⟩⟩
  · rename_i hclose
    obtain ⟨⟨longer, left⟩, hi, h⟩ := bind_eq_ok.1 h
    cases h
    refine edge.imp (fun hl => ?_) (⟨·, rfl⟩)
    obtain ⟨rest, rfl, hr⟩ := (local_itemRound o around c).cut hi hl
    rw [if_neg hopen, if_neg hclose]
    exact ⟨rest, rfl, bind_eq_ok.2 ⟨_, hr, rfl⟩⟩

theorem suffix_bracketed [Engine] {fuel depth : Nat} {o : OpenClass} {around : List OpenClass}
    {cs rest : List Char} {cls : CharClass}
    (h : bracketed f fuel o around cs = .ok (cls, depth, rest)) :
    rest <:+ cs ∧ rest.length < cs.length := by
  induction fuel generalizing o around cs with
  | zero => cases h
  | succ fuel ih =>
    have hs := f.skip_suffix cs
    cases hc : f.skip cs with
    | nil =>
      rw [bracketed_of_nil hc] at h
      cases h
    | cons c more =>
      rw [bracketed_of_cons hc] at h
      rw [hc] at hs
      obtain ⟨⟨state, left⟩, hb, h⟩ := bind_eq_ok.1 h
      have hleft := suffix_bracketStep hb
      have hr : rest <:+ left := by
        cases state with
        | inl found =>
          cases h
          exact List.suffix_rfl
        | inr found => exact (ih h).1
      have hlen := hs.length_le
      have hlen' := (hr.trans hleft).length_le
      rw [List.length_cons] at hlen
      exact ⟨((hr.trans hleft).trans (List.suffix_cons c more)).trans hs, by omega⟩

theorem suffix_afterRound [Engine] {fuel depth : Nat} {state : ClassState} {left rest : List Char}
    {cls : CharClass} (h : afterRound f fuel (state, left) = .ok (cls, depth, rest)) :
    rest <:+ left ∧ (state.isRight = true → rest.length < left.length) := by
  cases state with
  | inl found =>
    cases h
    exact ⟨List.suffix_rfl, nofun⟩
  | inr found => exact ⟨(suffix_bracketed h).1, fun _ => (suffix_bracketed h).2⟩

theorem cut_bracketed [Engine] {fuel fuel' depth : Nat} {o : OpenClass} {around : List OpenClass}
    {cs left : List Char} {cls : CharClass}
    (h : bracketed f fuel' o around (cs ++ closing) = .ok (cls, depth, left))
    (hl : 2 ≤ left.length) (hf : cs.length < fuel) :
    ∃ rest, left = rest ++ closing ∧ bracketed f fuel o around cs = .ok (cls, depth, rest) := by
  induction fuel' generalizing o around cs fuel with
  | zero => cases h
  | succ fuel' ih =>
    obtain ⟨fuel, rfl⟩ : ∃ k, fuel = k + 1 := ⟨fuel - 1, by omega⟩
    have hs := (f.skip_suffix cs).length_le
    rcases f.skip_append cs with hk | hk
    · cases hc : f.skip cs with
      | nil =>
        have hk' : f.skip (cs ++ closing) = ')' :: ['$'] := by rw [hk, hc]; rfl
        rw [bracketed_of_cons hk'] at h
        obtain ⟨⟨state, more⟩, hb, h⟩ := bind_eq_ok.1 h
        have hle := ((suffix_afterRound h).1.trans (suffix_bracketStep hb)).length_le
        exact absurd (hl.trans hle) (by decide)
      | cons c more =>
        have hk' : f.skip (cs ++ closing) = c :: (more ++ closing) := by rw [hk, hc]; rfl
        rw [bracketed_of_cons hk'] at h
        rw [bracketed_of_cons hc]
        rw [hc, List.length_cons] at hs
        obtain ⟨⟨state, left'⟩, hb, h⟩ := bind_eq_ok.1 h
        obtain ⟨hsuffix, hlt⟩ := suffix_afterRound h
        rcases cut_bracketStep hb (hl.trans hsuffix.length_le) with ⟨rest', rfl, hr⟩ | ⟨h2, hright⟩
        · have hrest := (suffix_bracketStep hr).length_le
          cases state with
          | inl found =>
            cases h
            exact ⟨rest', rfl, bind_eq_ok.2 ⟨_, hr, rfl⟩⟩
          | inr found =>
            have hfuel : rest'.length < fuel := by omega
            obtain ⟨rest, rfl, ho⟩ := ih h hfuel
            exact ⟨rest, rfl, bind_eq_ok.2 ⟨_, hr, ho⟩⟩
        · -- a round that was misread leaves too little to close the class
          have := hlt hright
          omega
    · rw [bracketed_of_nil hk] at h
      cases h

end Telemetry.Regex
