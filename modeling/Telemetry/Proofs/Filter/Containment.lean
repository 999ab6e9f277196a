import Telemetry.Proofs.Filter.Choice
/-!
# Patterns between stars

A pattern between two stars looks for its text anywhere in a name, as the pattern alone does. Main
statement: what each of the two passes, and that they pass the same snapshots exactly if no
character of the pattern has a case variant besides the letters `A` to `Z`, which is all that the
pattern alone knows of case.
-/
namespace Telemetry.Filter

open Unicode

/-- The pattern that is made of a trimmed one between two stars. -/
def starred (w : String) : String :=
  String.ofList ('*' :: (Text.trimChars w.toList ++ ['*']))

/-- The text is found in the other one, with the case of the letters `A` to `Z` ignored. -/
def FoundIn (part text : List Char) : Prop :=
  part.map Char.toLower <:+: text.map Char.toLower

/-- The text is found in the other one, with all case ignored. -/
def FoundInAnyCase (part text : List Char) : Prop :=
  part.map fold <:+: text.map fold

/-- The character differs in case from no other ones than the letters `A` to `Z` do. -/
def PlainCase (c : Char) : Prop :=
  ∀ d, fold d = fold c → d.toLower = c.toLower

/-- The pattern between stars is not too large to be used. -/
def Starrable [Regex.Engine] (w : String) : Prop :=
  ∃ p, Pattern.ofString? (starred w) = some p ∧ p.usable = true

theorem plainCase_iff {c : Char} :
    PlainCase c ↔ ((caseVariants c).all fun d => d.toLower == c.toLower) = true := by
  simp only [PlainCase, List.all_eq_true, mem_caseVariants, beq_iff_eq]

instance : DecidablePred PlainCase := fun _ => decidable_of_iff' _ plainCase_iff

variable {pattern text : List Char}

theorem map_fold_map_toLower (cs : List Char) : (cs.map Char.toLower).map fold = cs.map fold := by
  rw [List.map_map]
  exact List.map_congr_left fun c _ => fold_toLower c

theorem FoundIn.anyCase (h : FoundIn pattern text) : FoundInAnyCase pattern text := by
  rw [FoundInAnyCase, ← map_fold_map_toLower pattern, ← map_fold_map_toLower text]
  exact h.map fold

/-- A text stands in another one, both seen through `f`, if it looks like some part of it. -/
theorem map_infix_map_iff (f : Char → Char) : pattern.map f <:+: text.map f ↔
    ∃ before part last, text = before ++ (part ++ last) ∧ part.map f = pattern.map f := by
  constructor
  · rintro ⟨before, last, he⟩
    obtain ⟨front, last', rfl, hfront, -⟩ := List.map_eq_append_iff.1 he.symm
    obtain ⟨before', part, rfl, -, hp⟩ := List.map_eq_append_iff.1 hfront
    exact ⟨before', part, last', List.append_assoc .., hp⟩
  · rintro ⟨before, part, last, rfl, hp⟩
    refine ⟨before.map f, last.map f, ?_⟩
    rw [List.map_append, List.map_append, hp, List.append_assoc]

/-- A pattern without wildcards takes a part that is equal to it but for case. -/
theorem written_append_iff {rest : List Char} (hw : ¬ HasWildcard pattern) :
    Written (pattern ++ rest) text ↔
      ∃ part last, text = part ++ last ∧ part.map fold = pattern.map fold ∧ Written rest last := by
  induction pattern generalizing text with
  | nil => simp
  | cons c pattern ih =>
    obtain ⟨hstar, hmark⟩ : ¬ '*' ∈ c :: pattern ∧ ¬ '?' ∈ c :: pattern := not_or.1 hw
    obtain ⟨hs, hstar⟩ := not_or.1 (mt List.mem_cons.2 hstar)
    obtain ⟨hq, hmark⟩ := not_or.1 (mt List.mem_cons.2 hmark)
    rw [List.cons_append, written_cons]
    simp only [ih (not_or.2 ⟨hstar, hmark⟩), Replaces, if_neg (Ne.symm hs), if_neg (Ne.symm hq)]
    constructor
    · rintro ⟨_, _, rfl, ⟨d, rfl, hd⟩, part, last, rfl, hp, hl⟩
      refine ⟨d :: part, last, rfl, ?_, hl⟩
      rw [List.map_cons, List.map_cons, hp, beq_iff_eq.1 hd]
    · rintro ⟨part, last, rfl, hp, hl⟩
      obtain ⟨d, part, rfl, hd, hp⟩ := List.map_eq_cons_iff.1 hp
      exact ⟨[d], part ++ last, rfl, ⟨d, rfl, beq_iff_eq.2 hd.symm⟩, part, last, rfl, hp, hl⟩

theorem written_star_iff : Written ['*'] text ↔ '\n' ∉ text := by
  rw [written_cons]
  simp [Replaces, written_nil]

/-- Between stars a pattern without wildcards looks for its text, whatever the case. -/
theorem written_starred_iff (hw : ¬ HasWildcard pattern) (ht : '\n' ∉ text) :
    Written ('*' :: (pattern ++ ['*'])) text ↔ FoundInAnyCase pattern text := by
  rw [written_cons, FoundInAnyCase, map_infix_map_iff]
  simp only [Replaces, if_true, written_append_iff hw, written_star_iff]
  constructor
  · rintro ⟨before, _, rfl, -, part, last, rfl, hp, -⟩
    exact ⟨before, part, last, rfl, hp⟩
  · rintro ⟨before, part, last, rfl, hp⟩
    simp only [List.mem_append, not_or] at ht
    exact ⟨before, part ++ last, rfl, ht.1, part, last, rfl, hp, ht.2.2⟩

theorem map_toLower_eq {part : List Char} (hp : part.map fold = pattern.map fold)
    (h : ∀ c ∈ pattern, ∀ d ∈ part, fold d = fold c → d.toLower = c.toLower) :
    part.map Char.toLower = pattern.map Char.toLower := by
  induction pattern generalizing part with
  | nil => simpa using hp
  | cons c pattern ih =>
    obtain ⟨d, part, rfl, hd, hp⟩ := List.map_eq_cons_iff.1 hp
    have hcd := h c List.mem_cons_self d List.mem_cons_self hd
    have hrest := ih hp fun c hc d hd =>
      h c (List.mem_cons_of_mem _ hc) d (List.mem_cons_of_mem _ hd)
    rw [List.map_cons, List.map_cons, hcd, hrest]

theorem FoundInAnyCase.foundIn (hf : FoundInAnyCase pattern text)
    (h : ∀ c ∈ pattern, ∀ d ∈ text, fold d = fold c → d.toLower = c.toLower) :
    FoundIn pattern text := by
  obtain ⟨before, part, last, rfl, hp⟩ := (map_infix_map_iff fold).1 hf
  refine (map_infix_map_iff Char.toLower).2 ⟨before, part, last, rfl, map_toLower_eq hp ?_⟩
  intro c hc d hd
  exact h c hc d (List.mem_append_right _ (List.mem_append_left _ hd))

/-- A pattern with a line feed is found in no text without one. -/
theorem not_foundInAnyCase_of_lineFeed (hp : '\n' ∈ pattern) (ht : '\n' ∉ text) :
    ¬ FoundInAnyCase pattern text := by
  intro hf
  have hm : fold '\n' ∈ text.map fold := hf.subset (List.mem_map_of_mem hp)
  obtain ⟨d, hd, he⟩ := List.mem_map.1 hm
  rw [fold_eq_lineFeed_iff.2 rfl, fold_eq_lineFeed_iff] at he
  exact ht (he ▸ hd)

/-- A text in which one character of another one is put in another case is found in it only if all
case is ignored. -/
theorem not_foundIn_of_case {a b : List Char} {c d : Char} (h : d.toLower ≠ c.toLower) :
    ¬ FoundIn (a ++ c :: b) (a ++ d :: b) := by
  intro hf
  have he := hf.eq_of_length (by simp)
  simp only [List.map_append, List.map_cons, List.append_cancel_left_eq, List.cons.injEq] at he
  exact h he.1.symm

/-! ## What is read of the two patterns -/

theorem toList_starred (w : String) :
    (starred w).toList = '*' :: (Text.trimChars w.toList ++ ['*']) := by
  rw [starred, String.toList_ofList]

theorem trimChars_starred (w : String) :
    Text.trimChars (starred w).toList = (starred w).toList := by
  have hstar : ¬ Text.isSpace '*' = true := by decide
  have hback : (starred w).toList.reverse = '*' :: ('*' :: Text.trimChars w.toList).reverse := by
    rw [toList_starred, ← List.cons_append, List.reverse_append]
    rfl
  have hfront : (starred w).toList.dropWhile Text.isSpace = (starred w).toList := by
    rw [toList_starred, List.dropWhile_cons_of_neg hstar]
  rw [Text.trimChars, hfront, hback, List.dropWhile_cons_of_neg hstar, ← hback,
    List.reverse_reverse]

variable {w : String} {p : Pattern} {s : Snapshot}

theorem ofString?_plain (hb : Text.trimChars w.toList ≠ [])
    (hw : ¬ HasWildcard (Text.trimChars w.toList)) :
    Pattern.ofString? w = some (.plain (Text.trimChars w.toList)) := by
  rw [Pattern.ofString?]
  generalize Text.trimChars w.toList = cs at hb hw
  obtain ⟨hstar, hmark⟩ := not_or.1 hw
  have hany : ¬ (cs.any fun c => c == '*' || c == '?') = true := by
    simp only [List.any_eq_true, Bool.or_eq_true, beq_iff_eq]
    rintro ⟨c, hc, rfl | rfl⟩
    · exact hstar hc
    · exact hmark hc
  have hall : ¬ cs.all (· == '*') = true := by
    obtain ⟨c, cs, rfl⟩ := List.exists_cons_of_ne_nil hb
    simp only [List.all_eq_true, beq_iff_eq]
    exact fun h => hstar (h c List.mem_cons_self ▸ List.mem_cons_self)
  simp [hb, hall, hany]

theorem ofString?_starred (hb : Text.trimChars w.toList ≠ [])
    (hw : ¬ HasWildcard (Text.trimChars w.toList)) :
    Pattern.ofString? (starred w) = some (.wild (Glob.ofChars (starred w).toList)) := by
  rw [Pattern.ofString?, trimChars_starred, toList_starred]
  generalize Text.trimChars w.toList = cs at hb hw
  have hall : ¬ ('*' :: (cs ++ ['*'])).all (· == '*') = true := by
    obtain ⟨c, cs, rfl⟩ := List.exists_cons_of_ne_nil hb
    simp only [List.all_eq_true, beq_iff_eq]
    intro h
    have hc : c = '*' := h c (List.mem_cons_of_mem _ List.mem_cons_self)
    exact hw (.inl (hc ▸ List.mem_cons_self))
  simp [hall]

theorem passes_allow_singleton_iff [Regex.Engine] (h : Pattern.ofString? w = some p) :
    (allow (PatternSet.ofList [w]).1).passes s = true ↔
      p.usable = true ∧ p.fits s.name.toList s.fullName.toList = true := by
  rw [passes, PatternSet.holds, List.any_eq_true]
  simp only [PatternSet.mem_patterns_ofList, List.mem_singleton, exists_eq_left, h,
    Option.some.injEq]
  constructor
  · rintro ⟨_, ⟨rfl, hu⟩, hf⟩
    exact ⟨hu, hf⟩
  · rintro ⟨hu, hf⟩
    exact ⟨p, ⟨rfl, hu⟩, hf⟩

/-- A full name begins with the name. -/
theorem exists_fullName_eq (s : Snapshot) :
    ∃ suffix, s.fullName.toList = s.name.toList ++ suffix := by
  rw [Snapshot.fullName]
  split
  · exact ⟨[], (List.append_nil _).symm⟩
  · exact ⟨".".toList ++ s.kind.suffix.toList, by
      rw [String.toList_append, String.toList_append, List.append_assoc]⟩

section Passes

variable (hb : Text.trimChars w.toList ≠ []) (hw : ¬ HasWildcard (Text.trimChars w.toList))
include hb hw

theorem passes_plain_iff [Regex.Engine] : (allow (PatternSet.ofList [w]).1).passes s = true ↔
    FoundIn (Text.trimChars w.toList) s.fullName.toList := by
  rw [passes_allow_singleton_iff (ofString?_plain hb hw), Pattern.fits,
    Pattern.containsIgnoringCase_iff]
  exact and_iff_right rfl

/-- What is found in the name is found in the full name too. -/
theorem passes_starred_iff [Regex.Engine] (ht : '\n' ∉ s.fullName.toList) :
    (allow (PatternSet.ofList [starred w]).1).passes s = true ↔
      Starrable w ∧ FoundInAnyCase (Text.trimChars w.toList) s.fullName.toList := by
  obtain ⟨suffix, hs⟩ := exists_fullName_eq s
  have hname : '\n' ∉ s.name.toList := by
    rw [hs, List.mem_append, not_or] at ht
    exact ht.1
  have hread := ofString?_starred hb hw
  rw [passes_allow_singleton_iff hread, Starrable, hread, Pattern.fits, Bool.or_eq_true,
    accepts_ofChars_iff, accepts_ofChars_iff, toList_starred, written_starred_iff hw hname,
    written_starred_iff hw ht]
  simp only [Option.some.injEq, exists_eq_left']
  have hfull (h : FoundInAnyCase (Text.trimChars w.toList) s.name.toList) :
      FoundInAnyCase (Text.trimChars w.toList) s.fullName.toList := by
    rw [FoundInAnyCase, hs, List.map_append]
    exact h.trans (List.prefix_append _ _).isInfix
  rw [or_iff_right_of_imp hfull]

end Passes

/-- The two patterns decide alike about every snapshot whose names hold no line feed. -/
def Agree [Regex.Engine] (w : String) : Prop :=
  ∀ s : Snapshot, '\n' ∉ s.fullName.toList →
    (allow (PatternSet.ofList [w]).1).passes s =
      (allow (PatternSet.ofList [starred w]).1).passes s ∧
    (block (PatternSet.ofList [w]).1).passes s =
      (block (PatternSet.ofList [starred w]).1).passes s

/-- A gauge of which the given text is the full name. -/
def named (text : List Char) : Snapshot :=
  { labels := .ofName (String.ofList text), kind := .gauge, value := 0 }

@[simp] theorem toList_fullName_named (text : List Char) : (named text).fullName.toList = text :=
  String.toList_ofList

/-- A name that differs from the pattern in one letter tells apart what the two find, unless all
variants of the letter are found by the pattern alone. -/
theorem plainCase_of_found {pattern : List Char} {A : Prop} (hline : '\n' ∉ pattern)
    (h : ∀ s : Snapshot, '\n' ∉ s.fullName.toList →
      (FoundIn pattern s.fullName.toList ↔ A ∧ FoundInAnyCase pattern s.fullName.toList))
    (ha : A) : ∀ c ∈ pattern, PlainCase c := by
  intro c hc d hd
  by_contra hne
  obtain ⟨a, b, rfl⟩ := List.append_of_mem hc
  have hname : '\n' ∉ a ++ d :: b := by
    simp only [List.mem_append, List.mem_cons, not_or] at hline ⊢
    refine ⟨hline.1, fun hdl => hline.2.1 ?_, hline.2.2⟩
    rw [← hdl, fold_eq_lineFeed_iff.2 rfl] at hd
    exact (fold_eq_lineFeed_iff.1 hd.symm).symm
  have hsame : (a ++ c :: b).map fold = (a ++ d :: b).map fold := by
    rw [List.map_append, List.map_append, List.map_cons, List.map_cons, hd]
  have hs := h (named (a ++ d :: b))
  rw [toList_fullName_named] at hs
  refine not_foundIn_of_case hne ((hs hname).2 ⟨ha, ?_⟩)
  exact ⟨[], [], by rw [List.nil_append, List.append_nil, hsame]⟩

theorem agree_iff [Regex.Engine] (hb : Text.trimChars w.toList ≠ [])
    (hw : ¬ HasWildcard (Text.trimChars w.toList)) : Agree w ↔
      '\n' ∈ Text.trimChars w.toList ∨
        Starrable w ∧ ∀ c ∈ Text.trimChars w.toList, PlainCase c := by
  have hdecide : Agree w ↔ ∀ s : Snapshot, '\n' ∉ s.fullName.toList →
      (FoundIn (Text.trimChars w.toList) s.fullName.toList ↔
        Starrable w ∧ FoundInAnyCase (Text.trimChars w.toList) s.fullName.toList) := by
    refine forall_congr' fun s => forall_congr' fun ht => ?_
    rw [← passes_plain_iff hb hw, ← passes_starred_iff hb hw ht, passes_block, passes_block,
      ← Bool.eq_iff_iff]
    exact and_iff_left_of_imp fun h => congrArg _ h
  rw [hdecide]
  by_cases hline : '\n' ∈ Text.trimChars w.toList
  · simp only [hline, true_or, iff_true]
    intro s ht
    have hnot := not_foundInAnyCase_of_lineFeed hline ht
    exact ⟨fun hf => absurd hf.anyCase hnot, fun hf => absurd hf.2 hnot⟩
  rw [or_iff_right hline]
  constructor
  · intro h
    have hself : FoundIn (Text.trimChars w.toList) (Text.trimChars w.toList) := List.infix_rfl
    have hstar : Starrable w := by
      have hs := h (named (Text.trimChars w.toList))
      rw [toList_fullName_named] at hs
      exact ((hs hline).1 hself).1
    exact ⟨hstar, plainCase_of_found hline h hstar⟩
  · rintro ⟨hstar, hcase⟩ s ht
    refine ⟨fun hf => ⟨hstar, hf.anyCase⟩, fun hf => hf.2.foundIn ?_⟩
    exact fun c hc d _ hd => hcase c hc d hd

/-- A pattern alone ignores the case of the letters `A` to `Z`, the same one between stars all
case. So the two choose the same snapshots of those without a line feed just if the pattern has a
line feed, or if it is not too large between stars and no character of it has other variants. With
both written in the first 128 characters they always agree, unless the pattern is too large. -/
theorem plain_agrees_iff [Regex.Engine] (hb : Text.trimChars w.toList ≠ [])
    (hw : ¬ HasWildcard (Text.trimChars w.toList)) :
    (∀ s : Snapshot, '\n' ∉ s.fullName.toList →
      ((allow (PatternSet.ofList [w]).1).passes s = true ↔
        FoundIn (Text.trimChars w.toList) s.fullName.toList) ∧
      ((allow (PatternSet.ofList [starred w]).1).passes s = true ↔
        Starrable w ∧ FoundInAnyCase (Text.trimChars w.toList) s.fullName.toList)) ∧
    (Agree w ↔ '\n' ∈ Text.trimChars w.toList ∨
      Starrable w ∧ ∀ c ∈ Text.trimChars w.toList, PlainCase c) ∧
    (Starrable w → ∀ s : Snapshot, '\n' ∉ s.fullName.toList →
      (∀ c ∈ Text.trimChars w.toList, c.toNat < 128) → (∀ c ∈ s.fullName.toList, c.toNat < 128) →
      (allow (PatternSet.ofList [w]).1).passes s =
        (allow (PatternSet.ofList [starred w]).1).passes s) := by
  refine ⟨fun s ht => ⟨passes_plain_iff hb hw, passes_starred_iff hb hw ht⟩, agree_iff hb hw, ?_⟩
  intro hstar s ht hp hs
  rw [Bool.eq_iff_iff, passes_plain_iff hb hw, passes_starred_iff hb hw ht]
  refine ⟨fun hf => ⟨hstar, hf.anyCase⟩, fun hf => hf.2.foundIn ?_⟩
  intro c hc d hd he
  rw [← fold_of_ascii (hp c hc), ← fold_of_ascii (hs d hd), he]

attribute [local instance] Regex.Engine.estimating

theorem queue_agrees_between_stars :
    let s : Snapshot := { labels := .ofName "app.Queue", kind := .max, value := 0 }
    Agree " queue.MAX " ∧ (allow (PatternSet.ofList [" queue.MAX "]).1).passes s = true ∧
      (allow (PatternSet.ofList ["*queue.MAX*"]).1).passes s = true := by
  intro s
  have hstar : Starrable " queue.MAX " := ⟨_, rfl, by decide +kernel⟩
  have hall : ((Text.trimChars " queue.MAX ".toList).all fun c => decide (PlainCase c)) = true := by
    decide +kernel
  have hcase : ∀ c ∈ Text.trimChars " queue.MAX ".toList, PlainCase c :=
    fun c hc => of_decide_eq_true (List.all_eq_true.1 hall c hc)
  obtain ⟨hpass, hagree, -⟩ := plain_agrees_iff (w := " queue.MAX ") (by decide +kernel)
    (by decide +kernel)
  obtain ⟨hplain, hstarred⟩ := hpass s (by decide +kernel)
  have hfound : FoundIn (Text.trimChars " queue.MAX ".toList) s.fullName.toList :=
    ⟨"app.".toList, [], by decide +kernel⟩
  exact ⟨hagree.2 (.inr ⟨hstar, hcase⟩), hplain.2 hfound, hstarred.2 ⟨hstar, hfound.anyCase⟩⟩

/-- Between stars a pattern chooses names by letters of any alphabet in either case, alone only by
those of `A` to `Z`. -/
theorem not_plain_agrees :
    ¬ ∀ w : String, Text.trimChars w.toList ≠ [] → ¬ HasWildcard (Text.trimChars w.toList) →
      Agree w := by
  intro h
  have hagree := h "É" (by decide +kernel) (by decide +kernel)
  have hs := (hagree (named "café".toList) (by decide +kernel)).1
  revert hs
  decide +kernel

end Telemetry.Filter
