import Mathlib.Tactic.Common
import Telemetry.Proofs.Exposition.Reading
/-!
# Pages read back

What a registry holds can be read off its page, whatever characters stand in the values of labels.
Main statement: the page of a publisher shows just the families in its registry, in order, with
their types, samples and labels, and all names on it are valid.
-/
namespace Telemetry.Exposition

namespace Reading

theorem word?_append {first later : Char → Bool} {w : List Char} (hw : IsWord first later w)
    (rest : List Char) (hr : ∀ c ∈ rest.head?, later c = false) :
    word? first later (w ++ rest) = some (String.ofList w, rest) := by
  cases w with
  | nil => exact hw.elim
  | cons c cs =>
    obtain ⟨hc, hcs⟩ := hw
    have hrest : rest.takeWhile later = [] ∧ rest.dropWhile later = rest := by
      cases rest with
      | nil => exact ⟨rfl, rfl⟩
      | cons d rest =>
        have hd : later d = false := hr d rfl
        simp [hd]
    simp [word?, hc, List.takeWhile_append_of_pos hcs, List.dropWhile_append_of_pos hcs, hrest]

/-- Escaping is undone up to the quote behind the value. -/
theorem quoted?_escapeValue (value rest : List Char) :
    quoted? (escapeValue value ++ '"' :: rest) = some (value, rest) := by
  induction value with
  | nil => exact quoted?_quote rest
  | cons c cs ih =>
    by_cases hb : c = '\\'
    · simp [escapeValue, quoted?_escape, escaped?, hb, ih]
    by_cases hq : c = '"'
    · simp [escapeValue, quoted?_escape, escaped?, hq, ih]
    by_cases hn : c = '\n'
    · simp [escapeValue, quoted?_escape, escaped?, hn, ih]
    · simp [escapeValue, quoted?_plain hq hb, hb, hq, hn, ih]

variable {l : String × String} {labels : LabelSet} (rest : List Char)

theorem label?_labelText (h : IsKey l.1) :
    label? ((labelText l).toList ++ rest) = some (l, rest) := by
  have hw := word?_append h ('=' :: '"' :: (escapeValue l.2.toList ++ '"' :: rest))
    (by simp [isKeyChar, isKeyStart])
  have ht : (labelText l).toList ++ rest =
      l.1.toList ++ '=' :: '"' :: (escapeValue l.2.toList ++ '"' :: rest) := by
    simp [labelText, quotedValue]
  rw [ht]
  simp [label?, hw, quoted?_escapeValue]

theorem labels?_labelTexts (hne : labels ≠ []) (h : ∀ l ∈ labels, IsKey l.1) :
    labels? ((Text.joinWith ',' (labels.map labelText)).toList ++ '\x7d' :: rest) =
      some (labels, rest) := by
  induction labels with
  | nil => exact absurd rfl hne
  | cons l labels ih =>
    have hl : IsKey l.1 := h l List.mem_cons_self
    cases labels with
    | nil =>
      have hr := label?_labelText ('\x7d' :: rest) hl
      simp [Text.joinWith, labels?_of_label? hr]
    | cons l' labels =>
      have hi := ih (List.cons_ne_nil l' labels) fun x hx => h x (List.mem_cons_of_mem l hx)
      have ht : (Text.joinWith ',' ((l :: l' :: labels).map labelText)).toList ++ '\x7d' :: rest =
          (labelText l).toList ++ ',' ::
            ((Text.joinWith ',' ((l' :: labels).map labelText)).toList ++ '\x7d' :: rest) := by
        simp [Text.joinWith]
      have hr := label?_labelText
        (',' :: ((Text.joinWith ',' ((l' :: labels).map labelText)).toList ++ '\x7d' :: rest)) hl
      rw [ht, labels?_of_label? hr, if_pos rfl, hi]
      rfl

theorem labelSet?_labelsText (h : ∀ l ∈ labels, IsKey l.1) :
    labelSet? ((labelsText labels).toList ++ ' ' :: rest) = some (labels, ' ' :: rest) := by
  cases labels with
  | nil => simp [labelsText, labelSet?]
  | cons l labels =>
    have hr := labels?_labelTexts (' ' :: rest) (List.cons_ne_nil l labels) h
    have ht : (labelsText (l :: labels)).toList ++ ' ' :: rest = '\x7b' ::
        ((Text.joinWith ',' ((l :: labels).map labelText)).toList ++ '\x7d' :: ' ' :: rest) := by
      simp [labelsText]
    rw [ht, labelSet?, if_pos rfl, hr]

end Reading

section Numbers

/-- The characters that numbers are written with. -/
def isNumberChar (c : Char) : Bool :=
  c.isAlphanum || c == '.' || c == '-' || c == '+'

theorem not_blank_of_isNumberChar {c : Char} (h : isNumberChar c = true) : c ≠ ' ' ∧ c ≠ '\n' := by
  constructor
  · rintro rfl
    revert h
    decide
  · rintro rfl
    revert h
    decide

theorem isNumberChar_of_mem_toDigits {n : Nat} {c : Char} (h : c ∈ Nat.toDigits 10 n) :
    isNumberChar c = true := by
  have hd : c.isDigit = true := Nat.isDigit_of_mem_toDigits (by decide) (by decide) h
  simp [isNumberChar, Char.isAlphanum, hd]

/-- Text that is not empty and made of characters of numbers. -/
def IsNumber (text : String) : Prop :=
  text.toList ≠ [] ∧ ∀ c ∈ text.toList, isNumberChar c = true

theorem isNumber_positional (d : Decimal.Dec) : IsNumber d.positional := by
  have hd : ∀ c ∈ Nat.toDigits 10 d.digits, isNumberChar c = true :=
    fun c => isNumberChar_of_mem_toDigits
  have hz : isNumberChar '0' = true := rfl
  have hp : isNumberChar '.' = true := rfl
  unfold Decimal.Dec.positional
  simp only
  split
  · constructor
    · simp [Nat.toDigits_ne_nil]
    · intro c hc
      rw [String.toList_ofList, List.mem_append] at hc
      rcases hc with hc | hc
      · exact hd c hc
      · rw [List.eq_of_mem_replicate hc, hz]
  · split
    · constructor
      · simp
      · intro c hc
        rw [String.toList_ofList, List.mem_append, List.mem_cons] at hc
        rcases hc with hc | rfl | hc
        · exact hd c (List.mem_of_mem_take hc)
        · exact hp
        · exact hd c (List.mem_of_mem_drop hc)
    · constructor
      · simp
      · intro c hc
        rw [String.toList_ofList, List.mem_cons, List.mem_cons, List.mem_append] at hc
        rcases hc with rfl | rfl | hc | hc
        · exact hz
        · exact hp
        · rw [List.eq_of_mem_replicate hc, hz]
        · exact hd c hc

theorem IsNumber.signed {text : String} (h : IsNumber text) (negative : Bool) :
    IsNumber (if negative then "-" ++ text else text) := by
  cases negative with
  | false => exact h
  | true =>
    constructor
    · simp
    · intro c hc
      simp only [if_true, String.toList_append, List.mem_append] at hc
      rcases hc with hc | hc
      · rw [List.mem_singleton.1 hc]
        rfl
      · exact h.2 c hc

theorem isNumber_number (x : Float) : IsNumber (number x) := by
  have plain (text : String) (hne : text.toList ≠ [])
      (h : text.toList.all isNumberChar = true) : IsNumber text := ⟨hne, List.all_eq_true.1 h⟩
  unfold number
  simp only
  split
  · split
    · exact plain _ (by simp) rfl
    · split <;> exact plain _ (by simp) rfl
  · refine IsNumber.signed ?_ _
    split
    · exact plain _ (by simp) rfl
    · exact isNumber_positional _

end Numbers

section Lines

variable {name : String} {kind : FamilyKind} {labels : LabelSet}

/-- The characters of the line with the type of a family. -/
def typeChars (name : String) (kind : FamilyKind) : List Char :=
  "# TYPE ".toList ++ (name.toList ++ ' ' :: kind.text.toList)

/-- The characters of the line of a sample. -/
def sampleChars (name : String) (sample : LabelSet × Float) : List Char :=
  name.toList ++ ((labelsText sample.1).toList ++ ' ' :: (number sample.2).toList)

def familyLines (name : String) (family : Family) : List (List Char) :=
  typeChars name family.kind :: (family.samples.map (sampleChars name) ++ [[]])

theorem toList_sampleLine (name : String) (sample : LabelSet × Float) :
    (sampleLine name sample.1 sample.2).toList = sampleChars name sample ++ ['\n'] := by
  have hs : " ".toList = [' '] := rfl
  have hn : "\n".toList = ['\n'] := rfl
  simp only [sampleLine, sampleChars, String.toList_append, List.append_assoc, hs, hn,
    List.cons_append, List.nil_append]

theorem toList_typeLine (name : String) (kind : FamilyKind) :
    (typeLine name kind.text).toList = typeChars name kind ++ ['\n'] := by
  have hs : " ".toList = [' '] := rfl
  have hn : "\n".toList = ['\n'] := rfl
  unfold typeLine typeChars
  -- the literal is kept closed: it is slow to compare with an appended text
  generalize "# TYPE " = front
  simp only [String.toList_append, List.append_assoc, hs, hn, List.cons_append, List.nil_append]

theorem toList_familyText (name : String) (family : Family) :
    (Registry.familyText name family).toList = (familyLines name family).flatMap (· ++ ['\n']) := by
  have hn : "\n".toList = ['\n'] := rfl
  simp only [Registry.familyText, familyLines, String.toList_append, String.toList_join,
    toList_typeLine, List.flatMap_cons, List.flatMap_append, List.flatMap_map, List.flatMap_nil,
    List.append_assoc, List.append_nil, List.nil_append, hn, toList_sampleLine]

theorem toList_render (r : Registry) :
    r.render.toList =
      (r.families.flatMap fun entry => familyLines entry.1 entry.2).flatMap (· ++ ['\n']) := by
  simp only [Registry.render, String.toList_join, toList_familyText, List.flatMap_map,
    List.flatMap_assoc]

theorem IsWord.not_mem {first later : Char → Bool} {cs : List Char} (h : IsWord first later cs)
    {c : Char} (hf : first c = false) (hl : later c = false) : c ∉ cs := by
  cases cs with
  | nil => exact h.elim
  | cons d cs =>
    obtain ⟨hd, hcs⟩ := h
    rw [List.mem_cons, not_or]
    constructor
    · rintro rfl
      rw [hd] at hf
      cases hf
    · intro hm
      rw [hcs c hm] at hl
      cases hl

theorem lineFeed_not_mem_escapeValue (value : List Char) : '\n' ∉ escapeValue value := by
  induction value with
  | nil => exact List.not_mem_nil
  | cons c cs ih =>
    rw [escapeValue]
    split
    · simp [ih]
    · split
      · simp [ih]
      · split
        · simp [ih]
        · rename_i hn
          simp [ih, Ne.symm hn]

theorem lineFeed_not_mem_labelTexts (h : ∀ l ∈ labels, IsKey l.1) :
    '\n' ∉ (Text.joinWith ',' (labels.map labelText)).toList := by
  have one (l : String × String) (hl : IsKey l.1) : '\n' ∉ (labelText l).toList := by
    have hk : '\n' ∉ l.1.toList := hl.not_mem rfl rfl
    simp [labelText, quotedValue, hk, lineFeed_not_mem_escapeValue]
  induction labels with
  | nil => simp [Text.joinWith]
  | cons l labels ih =>
    have hl := one l (h l List.mem_cons_self)
    have hr := ih fun x hx => h x (List.mem_cons_of_mem l hx)
    cases labels with
    | nil => simpa [Text.joinWith] using hl
    | cons l' labels =>
      rw [List.map_cons] at hr
      simp [Text.joinWith, hl, hr]

theorem lineFeed_not_mem_labelsText (h : ∀ l ∈ labels, IsKey l.1) :
    '\n' ∉ (labelsText labels).toList := by
  cases labels with
  | nil => simp [labelsText]
  | cons l labels =>
    have hl := lineFeed_not_mem_labelTexts h
    rw [List.map_cons] at hl
    simp [labelsText, hl]

theorem lineFeed_not_mem_typeChars (h : IsName name) : '\n' ∉ typeChars name kind := by
  have hn : '\n' ∉ name.toList := h.not_mem rfl rfl
  have hf : '\n' ∉ "# TYPE ".toList := by decide
  have hk : '\n' ∉ kind.text.toList := by
    cases kind <;> decide
  unfold typeChars
  generalize "# TYPE ".toList = front at hf
  simp [hf, hn, hk]

theorem lineFeed_not_mem_sampleChars (h : IsName name) {sample : LabelSet × Float}
    (hk : ∀ l ∈ sample.1, IsKey l.1) : '\n' ∉ sampleChars name sample := by
  have hn : '\n' ∉ name.toList := h.not_mem rfl rfl
  have hl := lineFeed_not_mem_labelsText hk
  have hv : '\n' ∉ (number sample.2).toList := fun hm =>
    (not_blank_of_isNumberChar ((isNumber_number sample.2).2 _ hm)).2 rfl
  simp [sampleChars, hn, hl, hv]

/-- The name and all keys in a family are valid. -/
structure Family.Valid (name : String) (family : Family) : Prop where
  name : IsName name
  keys : ∀ sample ∈ family.samples, ∀ l ∈ sample.1, IsKey l.1

theorem lineFeed_not_mem_familyLines {family : Family} (h : family.Valid name) :
    ∀ line ∈ familyLines name family, '\n' ∉ line := by
  intro line hl
  rw [familyLines, List.mem_cons, List.mem_append, List.mem_map, List.mem_singleton] at hl
  rcases hl with rfl | ⟨sample, hs, rfl⟩ | rfl
  · exact lineFeed_not_mem_typeChars h.name
  · exact lineFeed_not_mem_sampleChars h.name (h.keys sample hs)
  · exact List.not_mem_nil

end Lines

/-- A sample with its value as it is printed. -/
def printed (sample : LabelSet × Float) : LabelSet × String :=
  (sample.1, number sample.2)

def Family.listing (name : String) (family : Family) : Listing where
  name := name
  kind := family.kind
  samples := family.samples.map printed

/-- What a page of the registry is to show. -/
def Registry.listings (r : Registry) : List Listing :=
  r.families.map fun entry => entry.2.listing entry.1

namespace Reading

variable {name : String}

theorem type?_typeChars (h : IsName name) (kind : FamilyKind) :
    type? (typeChars name kind) = some (name, kind) := by
  have hw := word?_append h (' ' :: kind.text.toList) (by simp [isNameChar, isNameStart])
  have hk : kind? kind.text.toList = some kind := by
    cases kind <;> decide
  have ht : typeChars name kind =
      '#' :: ' ' :: 'T' :: 'Y' :: 'P' :: 'E' :: ' ' :: (name.toList ++ ' ' :: kind.text.toList) := rfl
  rw [ht]
  simp [type?, hw, hk]

theorem sample?_sampleChars (h : IsName name) {sample : LabelSet × Float}
    (hk : ∀ l ∈ sample.1, IsKey l.1) :
    sample? name (sampleChars name sample) = some (printed sample) := by
  obtain ⟨labels, value⟩ := sample
  have hl := labelSet?_labelsText (number value).toList hk
  have hw := word?_append h ((labelsText labels).toList ++ ' ' :: (number value).toList) <| by
    cases labels with
    | nil => simp [labelsText, isNameChar, isNameStart]
    | cons l labels => simp [labelsText, isNameChar, isNameStart]
  have hv : (number value).toList ≠ [] ∧ ' ' ∉ (number value).toList :=
    ⟨(isNumber_number value).1, fun hm =>
      (not_blank_of_isNumberChar ((isNumber_number value).2 _ hm)).1 rfl⟩
  simp only at hl
  simp [sample?, sampleChars, hw, hl, hv, printed]

theorem sampleChars_ne_nil (name : String) (sample : LabelSet × Float) :
    sampleChars name sample ≠ [] := by
  simp [sampleChars]

/-- The lines of samples go to the family that has begun, which ends with an empty line. -/
theorem listings?_samples (h : IsName name) (kind : FamilyKind) (done : List (LabelSet × String))
    {samples : List (LabelSet × Float)} (hk : ∀ sample ∈ samples, ∀ l ∈ sample.1, IsKey l.1)
    (lines : List (List Char)) :
    listings? (some ⟨name, kind, done⟩) (samples.map (sampleChars name) ++ [] :: lines) =
      (listings? none lines).map (⟨name, kind, done ++ samples.map printed⟩ :: ·) := by
  induction samples generalizing done with
  | nil => simp [listings?]
  | cons sample samples ih =>
    have hs := sample?_sampleChars h (hk sample List.mem_cons_self)
    have hi := ih (done ++ [printed sample]) fun x hx => hk x (List.mem_cons_of_mem sample hx)
    rw [List.map_cons, List.cons_append, listings?_of_ne_nil (sampleChars_ne_nil name sample), hs]
    simpa using hi

theorem listings?_families {families : List (String × Family)}
    (h : ∀ entry ∈ families, entry.2.Valid entry.1) :
    listings? none (families.flatMap fun entry => familyLines entry.1 entry.2) =
      some (families.map fun entry => entry.2.listing entry.1) := by
  induction families with
  | nil => rfl
  | cons entry families ih =>
    obtain ⟨name, family⟩ := entry
    obtain ⟨hn, hk⟩ := h (name, family) List.mem_cons_self
    have hr := ih fun x hx => h x (List.mem_cons_of_mem _ hx)
    have hs := listings?_samples hn family.kind [] hk
      (families.flatMap fun entry => familyLines entry.1 entry.2)
    have ht := type?_typeChars hn family.kind
    rw [List.flatMap_cons, familyLines, List.cons_append, List.append_assoc, listings?, ht]
    simp only [Option.bind_eq_bind, Option.bind_some, List.singleton_append]
    rw [hs, hr]
    rfl

/-- The page of a registry whose names are all valid shows what it holds. -/
theorem page?_render {r : Registry} (h : ∀ entry ∈ r.families, entry.2.Valid entry.1) :
    page? r.render = some r.listings := by
  have hl : ∀ line ∈ r.families.flatMap fun entry => familyLines entry.1 entry.2, '\n' ∉ line := by
    intro line hm
    obtain ⟨entry, he, hm⟩ := List.mem_flatMap.1 hm
    exact lineFeed_not_mem_familyLines (h entry he) line hm
  rw [page?, toList_render, Text.pieces_flatMap hl, List.reverse_concat]
  simp only [List.reverse_reverse]
  exact listings?_families h

end Reading

end Telemetry.Exposition
