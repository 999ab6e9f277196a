import Mathlib.Data.List.TakeWhile
import Telemetry.Config.Publisher
import Telemetry.Proofs.Filter.Expression
/-!
# Which snapshots filters pass

What it means that a pattern chooses a snapshot, said without a matcher. Main statement: an
allow-list passes what one of its patterns chooses and a block-list all else, a chain passes what
each of its members passes, and the chain of a publisher asks just the lists that are configured.
-/
namespace Telemetry

namespace Filter

/-- The pattern holds a sign that stands for other characters. -/
def HasWildcard (pattern : List Char) : Prop :=
  '*' ∈ pattern ∨ '?' ∈ pattern

instance : DecidablePred HasWildcard := fun pattern =>
  inferInstanceAs (Decidable ('*' ∈ pattern ∨ '?' ∈ pattern))

/-- The pattern is made of stars alone. -/
def IsStars (pattern : List Char) : Prop :=
  ∀ c ∈ pattern, c = '*'

-- Said by name, as a search among all characters would be an instance too.
instance : DecidablePred IsStars := fun pattern =>
  List.decidableBAll (· = '*') pattern

/-- The regular expression for a wildcard pattern. -/
def compile [Regex.Engine] (pattern : List Char) : Except Regex.ParseError Regex :=
  Regex.parse (String.ofList (expression pattern))

/-- If the pattern needs a regular expression, there is one that is not too large. -/
def Compiles [Regex.Engine] (pattern : List Char) : Prop :=
  HasWildcard pattern → ¬ IsStars pattern → (compile pattern).isOk = true

instance [Regex.Engine] : DecidablePred Compiles := fun pattern =>
  inferInstanceAs (Decidable
    (HasWildcard pattern → ¬ IsStars pattern → (compile pattern).isOk = true))

/-- The pattern is meant for the snapshot: it is not empty, and it is made of stars alone, or it
holds no wildcard and stands in the full name but for the case of ASCII letters, or it holds one
and is written for the whole of the name or of the full name. -/
def Chooses (pattern : List Char) (s : Snapshot) : Prop :=
  pattern ≠ [] ∧ (IsStars pattern ∨
    (¬ HasWildcard pattern ∧
      pattern.map Char.toLower <:+: s.fullName.toList.map Char.toLower) ∨
    (HasWildcard pattern ∧ (Written pattern s.name.toList ∨ Written pattern s.fullName.toList)))

instance (pattern : List Char) (s : Snapshot) : Decidable (Chooses pattern s) :=
  inferInstanceAs (Decidable (pattern ≠ [] ∧ (IsStars pattern ∨
    (¬ HasWildcard pattern ∧
      pattern.map Char.toLower <:+: s.fullName.toList.map Char.toLower) ∨
    (HasWildcard pattern ∧
      (Written pattern s.name.toList ∨ Written pattern s.fullName.toList)))))

/-- All patterns compile, once trimmed. -/
def Compilable [Regex.Engine] (written : List String) : Prop :=
  ∀ w ∈ written, Compiles (Text.trimChars w.toList)

instance [Regex.Engine] : DecidablePred Compilable := fun written =>
  inferInstanceAs (Decidable (∀ w ∈ written, Compiles (Text.trimChars w.toList)))

/-- One of the patterns is meant for the snapshot, once trimmed. -/
def SomeChooses (written : List String) (s : Snapshot) : Prop :=
  ∃ w ∈ written, Chooses (Text.trimChars w.toList) s

instance (written : List String) (s : Snapshot) : Decidable (SomeChooses written s) :=
  inferInstanceAs (Decidable (∃ w ∈ written, Chooses (Text.trimChars w.toList) s))

theorem isOk_compile_iff [Regex.Engine] {pattern : List Char} : (compile pattern).isOk = true ↔
    Regex.Engine.fits (Glob.ofChars pattern).expr = true := by
  rw [compile, Regex.parse, String.toList_ofList, parse_expression, expr_ofChars]
  split
  next h => exact iff_of_true rfl h
  next h => exact iff_of_false Bool.false_ne_true h

namespace Pattern

theorem startsIgnoringCase_iff {part text : List Char} : startsIgnoringCase part text = true ↔
    part.map Char.toLower <+: text.map Char.toLower := by
  fun_induction startsIgnoringCase part text with
  | case1 text => simp
  | case2 part h => simpa using h
  | case3 a part b text ih => simp [List.cons_prefix_cons, ih]

theorem containsIgnoringCase_iff {part text : List Char} : containsIgnoringCase part text = true ↔
    part.map Char.toLower <:+: text.map Char.toLower := by
  induction text with
  | nil => simp [containsIgnoringCase]
  | cons c text ih =>
    rw [containsIgnoringCase, Bool.or_eq_true, startsIgnoringCase_iff, ih, List.map_cons,
      List.infix_cons_iff]

/-- A text is read as a pattern that is used and fits just the snapshots it is meant for. -/
theorem exists_fits_iff [Regex.Engine] {w : String} (h : Compiles (Text.trimChars w.toList))
    (s : Snapshot) :
    (∃ p, ofString? w = some p ∧ p.usable = true ∧
      p.fits s.name.toList s.fullName.toList = true) ↔ Chooses (Text.trimChars w.toList) s := by
  rw [ofString?]
  generalize Text.trimChars w.toList = p at h
  by_cases hempty : p = []
  · simp [hempty, Chooses]
  have hall : p.all (· == '*') = true ↔ IsStars p := by
    simp [IsStars]
  have hany : (p.any fun c => c == '*' || c == '?') = true ↔ HasWildcard p := by
    simp [HasWildcard, and_or_left, exists_or]
  by_cases hstars : IsStars p
  · have hchooses : Chooses p s := ⟨hempty, .inl hstars⟩
    simpa [hempty, hall, hstars, usable, fits] using hchooses
  simp only [List.isEmpty_iff, hempty, hall, hany, if_false, Chooses, hstars, ne_eq,
    not_false_eq_true, true_and, false_or]
  by_cases hwild : HasWildcard p
  · have husable : (wild (Glob.ofChars p)).usable = true :=
      isOk_compile_iff.1 (h hwild hstars)
    simp [hwild, husable, fits, accepts_ofChars_iff]
  · simp [hwild, usable, fits, containsIgnoringCase_iff]

end Pattern

theorem PatternSet.mem_patterns_ofList [Regex.Engine] {written : List String} {p : Pattern} :
    p ∈ (ofList written).1.patterns ↔
      ∃ w ∈ written, Pattern.ofString? w = some p ∧ p.usable = true := by
  simp only [ofList, List.mem_map, List.mem_filter, List.mem_filterMap, Option.map_eq_some_iff]
  constructor
  · rintro ⟨_, ⟨⟨w, hw, q, hq, rfl⟩, hu⟩, rfl⟩
    exact ⟨w, hw, hq, hu⟩
  · rintro ⟨w, hw, hp, hu⟩
    exact ⟨(Text.trim w, p), ⟨⟨w, hw, p, hp, rfl⟩, hu⟩, rfl⟩

variable {written : List String} {s : Snapshot}

/-- An allow-list passes what one of its patterns is meant for. -/
theorem passes_allow_iff [Regex.Engine] (h : Compilable written) :
    (allow (PatternSet.ofList written).1).passes s = true ↔ SomeChooses written s := by
  rw [passes, PatternSet.holds, List.any_eq_true]
  constructor
  · rintro ⟨p, hp, hf⟩
    obtain ⟨w, hw, hr, hu⟩ := PatternSet.mem_patterns_ofList.1 hp
    exact ⟨w, hw, (Pattern.exists_fits_iff (h w hw) s).1 ⟨p, hr, hu, hf⟩⟩
  · rintro ⟨w, hw, hc⟩
    obtain ⟨p, hr, hu, hf⟩ := (Pattern.exists_fits_iff (h w hw) s).2 hc
    exact ⟨p, PatternSet.mem_patterns_ofList.2 ⟨w, hw, hr, hu⟩, hf⟩

theorem passes_block (patterns : PatternSet) :
    (block patterns).passes s = !(allow patterns).passes s := by
  rw [passes, passes]

theorem passes_block_iff [Regex.Engine] (h : Compilable written) :
    (block (PatternSet.ofList written).1).passes s = true ↔ ¬ SomeChooses written s := by
  rw [passes_block, Bool.not_eq_true', ← Bool.not_eq_true, passes_allow_iff h]

theorem passes_chain_iff {members : List Filter} :
    (chain members).passes s = true ↔ ∀ f ∈ members, f.passes s = true := by
  rw [passes, passesAll_eq_all, List.all_eq_true]

/-- Lists of the same patterns give sets that decide alike. -/
theorem holds_ofList_congr [Regex.Engine] {others : List String}
    (h : ∀ w, w ∈ others ↔ w ∈ written) :
    (PatternSet.ofList others).1.holds s = (PatternSet.ofList written).1.holds s := by
  rw [Bool.eq_iff_iff, PatternSet.holds, PatternSet.holds, List.any_eq_true, List.any_eq_true]
  simp only [PatternSet.mem_patterns_ofList, h]

variable {c : PublisherConfig}

/-- The chain of a publisher consists of the lists that are configured. -/
theorem mem_filters_iff [Regex.Engine] {f : Filter} : f ∈ c.filters.1 ↔
    (∃ l ∈ c.allowList, f = allow (PatternSet.ofList l).1) ∨
      ∃ l ∈ c.blockList, f = block (PatternSet.ofList l).1 := by
  obtain ⟨allowed, ha⟩ : ∃ l, c.allowList = l := ⟨_, rfl⟩
  obtain ⟨blocked, hb⟩ : ∃ l, c.blockList = l := ⟨_, rfl⟩
  rw [PublisherConfig.filters, ha, hb]
  cases allowed <;> cases blocked <;> simp

theorem passes_filters_iff [Regex.Engine] (ha : ∀ l ∈ c.allowList, Compilable l)
    (hb : ∀ l ∈ c.blockList, Compilable l) : (chain c.filters.1).passes s = true ↔
      (∀ l ∈ c.allowList, SomeChooses l s) ∧ ∀ l ∈ c.blockList, ¬ SomeChooses l s := by
  rw [passes_chain_iff]
  simp only [mem_filters_iff]
  constructor
  · intro hf
    exact ⟨fun l hl => (passes_allow_iff (ha l hl)).1 (hf _ (.inl ⟨l, hl, rfl⟩)),
      fun l hl => (passes_block_iff (hb l hl)).1 (hf _ (.inr ⟨l, hl, rfl⟩))⟩
  · rintro ⟨hallow, hblock⟩ f (⟨l, hl, rfl⟩ | ⟨l, hl, rfl⟩)
    · exact (passes_allow_iff (ha l hl)).2 (hallow l hl)
    · exact (passes_block_iff (hb l hl)).2 (hblock l hl)

theorem trimChars_of_isBlank {w : String} (h : Text.isBlank w = true) :
    Text.trimChars w.toList = [] := by
  rw [Text.isBlank, List.all_eq_true] at h
  rw [Text.trimChars, List.dropWhile_eq_nil_iff.2 h]
  rfl

/-- Blank patterns are meant for nothing. -/
theorem not_someChooses_of_isBlank (h : ∀ w ∈ written, Text.isBlank w = true) :
    ¬ SomeChooses written s := by
  rintro ⟨w, hw, hne, -⟩
  exact hne (trimChars_of_isBlank (h w hw))

/-- If no list holds a wildcard pattern that is too large, filters decide by what their patterns
are meant for. A list that is absent asks nothing, an allow-list without a pattern passes nothing,
and in what order and how often patterns stand in a list makes no difference. -/
theorem passes_iff_chooses [Regex.Engine] (h : Compilable written)
    (ha : ∀ l ∈ c.allowList, Compilable l) (hb : ∀ l ∈ c.blockList, Compilable l) (s : Snapshot) :
    ((allow (PatternSet.ofList written).1).passes s = true ↔ SomeChooses written s) ∧
    (block (PatternSet.ofList written).1).passes s =
      !(allow (PatternSet.ofList written).1).passes s ∧
    (∀ members, (chain members).passes s = true ↔ ∀ f ∈ members, f.passes s = true) ∧
    ((chain c.filters.1).passes s = true ↔
      (∀ l ∈ c.allowList, SomeChooses l s) ∧ ∀ l ∈ c.blockList, ¬ SomeChooses l s) ∧
    (∀ l ∈ c.allowList, (∀ w ∈ l, Text.isBlank w = true) →
      (chain c.filters.1).passes s = false) ∧
    (∀ others, (∀ w, w ∈ others ↔ w ∈ written) →
      (allow (PatternSet.ofList others).1).passes s =
        (allow (PatternSet.ofList written).1).passes s ∧
      (block (PatternSet.ofList others).1).passes s =
        (block (PatternSet.ofList written).1).passes s) ∧
    ∀ pattern r, compile pattern = .ok r →
      ∀ text, r.isMatch text = true ↔ Written pattern text := by
  refine ⟨passes_allow_iff h, passes_block _, fun _ => passes_chain_iff, passes_filters_iff ha hb,
    ?_, ?_, fun _ _ hr _ => isMatch_expression_iff hr⟩
  · intro l hl hblank
    rw [← Bool.not_eq_true, passes_filters_iff ha hb]
    rintro ⟨hallow, -⟩
    exact not_someChooses_of_isBlank hblank (hallow l hl)
  · intro others hsame
    have := holds_ofList_congr (s := s) hsame
    constructor
    · rw [passes, passes, this]
    · rw [passes, passes, this]

attribute [local instance] Regex.Engine.estimating

/-- A metric that an allow-list knows by its full name and a block-list by its name. -/
theorem not_passes_of_blocked :
    let s : Snapshot := { labels := .ofName "App.(Host).Load5", kind := .max, value := 0 }
    let c : PublisherConfig :=
      { allowList := some ["D5.MAX", " "], blockList := some ["*.(?ost).*5 "] }
    (allow (PatternSet.ofList [" ", " app.*.load?.max "]).1).passes s = true ∧
      (chain c.filters.1).passes s = false := by
  intro s c
  have h : Compilable [" ", " app.*.load?.max "] := by decide +kernel
  have ha : ∀ l ∈ c.allowList, Compilable l := by decide +kernel
  have hb : ∀ l ∈ c.blockList, Compilable l := by decide +kernel
  obtain ⟨hallow, -, -, hchain, -⟩ := passes_iff_chooses h ha hb s
  constructor
  · exact hallow.2 (by decide +kernel)
  · rw [← Bool.not_eq_true, hchain]
    rintro ⟨-, hblock⟩
    exact hblock _ rfl (by decide +kernel)

end Filter

end Telemetry
