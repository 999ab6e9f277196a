import Telemetry.Exposition.Registry
/-!
# Reading a page of samples

The text format of a page, read by its grammar: for each family a line with its type, a line for
each of its samples and an empty line. Nothing here looks at how a page is written. Main facts: what
each reader makes of a well-formed piece of text that anything may follow.
-/
namespace Telemetry.Exposition

/-- A family as it stands on a page. -/
structure Listing where
  name : String
  kind : FamilyKind
  samples : List (LabelSet × String)
deriving DecidableEq, Repr

/-- The characters are a word of which the first may stand in front and all others behind it. -/
def IsWord (first later : Char → Bool) : List Char → Prop
  | [] => False
  | c :: cs => first c = true ∧ ∀ d ∈ cs, later d = true

instance (first later : Char → Bool) : DecidablePred (IsWord first later)
  | [] => inferInstanceAs (Decidable False)
  | c :: cs =>
    -- Said by name, as a search among all characters would be an instance too.
    let _ : Decidable (∀ d ∈ cs, later d = true) := List.decidableBAll (later · = true) cs
    inferInstanceAs (Decidable (first c = true ∧ ∀ d ∈ cs, later d = true))

/-- A name in letters, digits, underscores and colons that starts with no digit. -/
abbrev IsName (name : String) : Prop :=
  IsWord isNameStart isNameChar name.toList

/-- A key in letters, digits and underscores that starts with no digit. -/
abbrev IsKey (key : String) : Prop :=
  IsWord isKeyStart isKeyChar key.toList

namespace Reading

/-- The longest word in front. -/
def word? (first later : Char → Bool) : List Char → Option (String × List Char)
  | [] => none
  | c :: cs =>
    if first c then some (String.ofList (c :: cs.takeWhile later), cs.dropWhile later) else none

/-- The character that is escaped by a backslash and another one. -/
def escaped? (c : Char) : Option Char :=
  if c = '\\' then some '\\'
  else if c = '"' then some '"'
  else if c = 'n' then some '\n'
  else none

/-- The value up to the quote that ends it. -/
def quoted? : List Char → Option (List Char × List Char)
  | [] => none
  | c :: cs =>
    if c = '"' then some ([], cs)
    else if c = '\\' then
      match cs with
      | [] => none
      | e :: cs => do
        let c ← escaped? e
        let (value, rest) ← quoted? cs
        some (c :: value, rest)
    else do
      let (value, rest) ← quoted? cs
      some (c :: value, rest)

theorem quoted?_quote (cs : List Char) : quoted? ('"' :: cs) = some ([], cs) := by
  rw [quoted?.eq_def]
  rfl

theorem quoted?_escape (e : Char) (cs : List Char) :
    quoted? ('\\' :: e :: cs) =
      (escaped? e).bind fun c => (quoted? cs).map fun read => (c :: read.1, read.2) := by
  rw [quoted?.eq_def]
  simp only [Option.map_eq_bind]
  rfl

theorem quoted?_plain {c : Char} (hq : c ≠ '"') (hb : c ≠ '\\') (cs : List Char) :
    quoted? (c :: cs) = (quoted? cs).map fun read => (c :: read.1, read.2) := by
  rw [quoted?.eq_def]
  simp only [hq, hb, if_false, Option.map_eq_bind]
  rfl

/-- A key with its value in quotes. -/
def label? (cs : List Char) : Option ((String × String) × List Char) := do
  let (key, rest) ← word? isKeyStart isKeyChar cs
  match rest with
  | '=' :: '"' :: rest =>
    let (value, rest) ← quoted? rest
    some ((key, String.ofList value), rest)
  | _ => none

theorem length_quoted? {cs value rest : List Char} (h : quoted? cs = some (value, rest)) :
    rest.length < cs.length := by
  fun_induction quoted? cs generalizing value rest with
  | case1 => cases h
  | case2 cs =>
    cases h
    simp
  | case3 => cases h
  | case4 e cs _ ih =>
    obtain ⟨c, -, ⟨v, r⟩, hr, he⟩ : ∃ c, escaped? e = some c ∧
        ∃ read, quoted? cs = some read ∧ some (c :: read.1, read.2) = some (value, rest) := by
      simpa [Option.bind_eq_some_iff] using h
    cases he
    have := ih hr
    simp only [List.length_cons]
    omega
  | case5 c cs _ _ ih =>
    obtain ⟨⟨v, r⟩, hr, he⟩ : ∃ read, quoted? cs = some read ∧
        some (c :: read.1, read.2) = some (value, rest) := by
      simpa [Option.bind_eq_some_iff] using h
    cases he
    have := ih hr
    simp only [List.length_cons]
    omega

theorem length_word? {first later : Char → Bool} {cs rest : List Char} {w : String}
    (h : word? first later cs = some (w, rest)) : rest.length < cs.length := by
  cases cs with
  | nil => cases h
  | cons c cs =>
    simp only [word?] at h
    split at h
    · cases h
      have := (List.dropWhile_suffix (l := cs) later).length_le
      simp only [List.length_cons]
      omega
    · cases h

theorem length_label? {cs rest : List Char} {l : String × String}
    (h : label? cs = some (l, rest)) : rest.length < cs.length := by
  obtain ⟨⟨key, r⟩, hw, h⟩ := Option.bind_eq_some_iff.1 h
  have hr := length_word? hw
  dsimp only at h
  split at h
  · rename_i r'
    obtain ⟨⟨value, r''⟩, hq, he⟩ := Option.bind_eq_some_iff.1 h
    cases he
    have hv := length_quoted? hq
    simp only [List.length_cons] at hr hv ⊢
    omega
  · cases h

/-- Labels with commas between them, up to the closing brace. -/
def labels? (cs : List Char) : Option (LabelSet × List Char) :=
  match _h : label? cs with
  | some (l, c :: rest) =>
    if c = ',' then (labels? rest).map fun read => (l :: read.1, read.2)
    else if c = '\x7d' then some ([l], rest)
    else none
  | _ => none
termination_by cs.length
decreasing_by
  have := length_label? _h
  simp only [List.length_cons] at this
  omega

theorem labels?_of_label? {cs rest : List Char} {l : String × String} {c : Char}
    (h : label? cs = some (l, c :: rest)) :
    labels? cs =
      if c = ',' then (labels? rest).map fun read => (l :: read.1, read.2)
      else if c = '\x7d' then some ([l], rest)
      else none := by
  rw [labels?.eq_def]
  split
  · rename_i l' c' rest' h'
    have he : some (l', c' :: rest') = some (l, c :: rest) := h'.symm.trans h
    cases he
    rfl
  · rename_i hn
    exact absurd h (hn l c rest)

/-- Labels in braces, or none. -/
def labelSet? : List Char → Option (LabelSet × List Char)
  | [] => none
  | c :: cs => if c = '\x7b' then labels? cs else some ([], c :: cs)

/-- The line of a sample that belongs to a family. -/
def sample? (name : String) (line : List Char) : Option (LabelSet × String) := do
  let (own, rest) ← word? isNameStart isNameChar line
  let (labels, rest) ← labelSet? rest
  match rest with
  | ' ' :: value =>
    if own = name ∧ value ≠ [] ∧ ' ' ∉ value then some (labels, String.ofList value) else none
  | _ => none

def kind? (text : List Char) : Option FamilyKind :=
  if text = "counter".toList then some .counter
  else if text = "gauge".toList then some .gauge
  else none

/-- The line with the type of a family. -/
def type? : List Char → Option (String × FamilyKind)
  | '#' :: ' ' :: 'T' :: 'Y' :: 'P' :: 'E' :: ' ' :: rest => do
    let (name, rest) ← word? isNameStart isNameChar rest
    match rest with
    | ' ' :: text => (kind? text).map fun kind => (name, kind)
    | _ => none
  | _ => none

/-- Families from lines, where one may have begun. -/
def listings? : Option Listing → List (List Char) → Option (List Listing)
  | none, [] => some []
  | some _, [] => none
  | none, line :: lines => do
    let (name, kind) ← type? line
    listings? (some ⟨name, kind, []⟩) lines
  | some f, [] :: lines => (listings? none lines).map (f :: ·)
  | some f, line :: lines => do
    let s ← sample? f.name line
    listings? (some { f with samples := f.samples ++ [s] }) lines

theorem listings?_of_ne_nil {line : List Char} (h : line ≠ []) (f : Listing)
    (lines : List (List Char)) :
    listings? (some f) (line :: lines) = (sample? f.name line).bind fun s =>
      listings? (some { f with samples := f.samples ++ [s] }) lines := by
  cases line with
  | nil => exact absurd rfl h
  | cons c cs => rfl

/-- A page of which every line is ended. -/
def page? (page : String) : Option (List Listing) :=
  match (Text.pieces '\n' page.toList).reverse with
  | [] :: lines => listings? none lines.reverse
  | _ => none

end Reading

end Telemetry.Exposition
