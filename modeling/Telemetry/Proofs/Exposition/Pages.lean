import Telemetry.Proofs.Exposition.RoundTrip
import Telemetry.Publish.Prometheus
/-!
# The page of a publisher

What is published goes into a registry under names and keys that are masked, so they are valid
unless they are empty. Main statement: whatever was published and cleared, the page of a publisher
reads back as its registry, and registries with the same page hold the same samples.
-/
namespace Telemetry

namespace Exposition

theorem isWord_mask {first later : Char → Bool} (hf : first '_' = true) (hl : later '_' = true)
    {cs : List Char} (h : cs ≠ []) : IsWord first later (mask first later cs) := by
  cases cs with
  | nil => exact absurd rfl h
  | cons c cs =>
    constructor
    · by_cases hc : first c = true
      · simp [hc]
      · simpa [hc] using hf
    · intro d hd
      obtain ⟨e, -, rfl⟩ := List.mem_map.1 hd
      by_cases he : later e = true
      · simp [he]
      · simpa [he] using hl

theorem sanitizeName_eq_empty_or_isName (name : String) :
    sanitizeName name = "" ∨ IsName (sanitizeName name) := by
  by_cases h : name.toList = []
  · exact .inl (by simp [sanitizeName, h, mask])
  · exact .inr (by simpa [IsName, sanitizeName] using isWord_mask rfl rfl h)

theorem sanitizeKey_eq_empty_or_isKey (key : String) :
    sanitizeKey key = "" ∨ IsKey (sanitizeKey key) := by
  by_cases h : key.toList = []
  · exact .inl (by simp [sanitizeKey, h, mask])
  · exact .inr (by simpa [IsKey, sanitizeKey] using isWord_mask rfl rfl h)

/-- All keys are empty or valid. -/
def LabelSet.Masked (labels : LabelSet) : Prop :=
  ∀ l ∈ labels, l.1 = "" ∨ IsKey l.1

theorem masked_labelPairs (l : Labels) : LabelSet.Masked (labelPairs l) := by
  intro pair hp
  obtain ⟨⟨name, value⟩, -, rfl⟩ := List.mem_map.1 hp
  exact sanitizeKey_eq_empty_or_isKey name

namespace Registry

/-- All names and keys are empty or valid. -/
def Masked (r : Registry) : Prop :=
  ∀ entry ∈ r.families, (entry.1 = "" ∨ IsName entry.1) ∧
    ∀ sample ∈ entry.2.samples, LabelSet.Masked sample.1

/-- No name and no key is empty. -/
def Named (r : Registry) : Prop :=
  ∀ entry ∈ r.families, entry.1 ≠ "" ∧ ∀ sample ∈ entry.2.samples, ∀ l ∈ sample.1, l.1 ≠ ""

theorem masked_empty : Masked {} := by
  intro entry he
  cases he

theorem Masked.valid {r : Registry} (h : r.Masked) (hn : r.Named) :
    ∀ entry ∈ r.families, entry.2.Valid entry.1 := by
  intro entry he
  obtain ⟨hname, hkeys⟩ := h entry he
  obtain ⟨hne, hks⟩ := hn entry he
  constructor
  · exact hname.resolve_left hne
  · intro sample hs l hl
    exact (hkeys sample hs l hl).resolve_left (hks sample hs l hl)

/-- A family that a sample is entered into holds no samples but those under its name. -/
theorem samples_familyFor {r : Registry} {name : String} {kind : FamilyKind}
    {sample : LabelSet × Float} (h : sample ∈ (r.familyFor name kind).samples) :
    ∃ family, (name, family) ∈ r.families ∧ sample ∈ family.samples := by
  unfold familyFor at h
  split at h
  · rename_i family hg
    split at h
    · exact ⟨family, Assoc.mem_of_get? hg, h⟩
    · cases h
  · cases h

theorem Masked.update {r : Registry} (h : r.Masked) {name : String} {labels : LabelSet}
    (hn : name = "" ∨ IsName name) (hl : labels.Masked) (kind : FamilyKind) (value : Float) :
    (r.update name kind labels value).Masked := by
  intro entry he
  rcases Assoc.mem_put he with rfl | he
  · refine ⟨hn, ?_⟩
    intro sample hs
    rcases Assoc.mem_put hs with rfl | hs
    · exact hl
    · obtain ⟨family, hf, hs⟩ := samples_familyFor hs
      exact (h (name, family) hf).2 sample hs
  · exact h entry he

end Registry

end Exposition

namespace PrometheusPublisher

/-- Something done with a publisher. -/
inductive Action where
  | publish (batch : List Snapshot)
  | clear

def act (p : PrometheusPublisher) : Action → PrometheusPublisher
  | .publish batch => (p.publish batch).1
  | .clear => p.clear

def run (p : PrometheusPublisher) (actions : List Action) : PrometheusPublisher :=
  actions.foldl act p

variable {p : PrometheusPublisher}

theorem masked_record (h : p.registry.Masked) (s : Snapshot) : (p.record s).1.registry.Masked :=
  h.update (Exposition.sanitizeName_eq_empty_or_isName _) (Exposition.masked_labelPairs _) _ _

theorem masked_publish (h : p.registry.Masked) (batch : List Snapshot) :
    (p.publish batch).1.registry.Masked := by
  have hr : (p.recordAll batch).1.registry.Masked := by
    induction batch generalizing p with
    | nil => exact h
    | cons s ss ih => exact ih (masked_record h s)
  exact hr

theorem masked_run (h : p.registry.Masked) (actions : List Action) :
    (p.run actions).registry.Masked := by
  induction actions generalizing p with
  | nil => exact h
  | cons a actions ih =>
    apply ih
    cases a with
    | publish batch => exact masked_publish h batch
    | clear => exact Exposition.Registry.masked_empty

/-- The page of a publisher reads back as what its registry holds, under valid names and keys, and
any other publisher with the same page holds the same. -/
theorem page_reads_back (config : PublisherConfig) (relabeler : Relabeler) (actions : List Action) :
    let r := (run { config, relabeler } actions).registry
    r.Named →
      Exposition.Reading.page? r.render = some r.listings ∧
      (∀ entry ∈ r.families, Exposition.IsName entry.1 ∧
        ∀ sample ∈ entry.2.samples, ∀ l ∈ sample.1, Exposition.IsKey l.1) ∧
      ∀ (config' : PublisherConfig) (relabeler' : Relabeler) (actions' : List Action),
        let r' := (run { config := config', relabeler := relabeler' } actions').registry
        r'.Named → r'.render = r.render → r'.listings = r.listings := by
  intro r hn
  have valid (config : PublisherConfig) (relabeler : Relabeler) (actions : List Action)
      (hn : (run { config, relabeler } actions).registry.Named) :
      ∀ entry ∈ (run { config, relabeler } actions).registry.families, entry.2.Valid entry.1 :=
    (masked_run Exposition.Registry.masked_empty actions).valid hn
  have hv := valid config relabeler actions hn
  have hp := Exposition.Reading.page?_render hv
  refine ⟨hp, fun entry he => ⟨(hv entry he).name, (hv entry he).keys⟩, ?_⟩
  intro config' relabeler' actions' r' hn' hr
  have hp' := Exposition.Reading.page?_render (valid config' relabeler' actions' hn')
  rw [hr, hp] at hp'
  exact (Option.some.inj hp').symm

/-- Two samples whose labels hold all that is escaped or divides labels. -/
private def awkward : List Action :=
  let labels : Labels :=
    { name := "http.requests", backNames := ["1st path"],
      backValues := ["a\"b\\c\nd\x7be\x7d,f=g"] }
  [.publish
    [{ labels, kind := .count, value := 3, timestamp := 0, tags := {} },
      { labels := .ofName "9 lives", kind := .gauge, value := 0.5, timestamp := 0, tags := {} }]]

theorem awkward_page_reads_back :
    let r := (run { config := .named "page" .prometheus, relabeler := {} } awkward).registry
    r.Named ∧ Exposition.Reading.page? r.render = some r.listings := by
  intro r
  have hn : r.Named := by
    unfold Exposition.Registry.Named
    decide +kernel
  exact ⟨hn, (page_reads_back _ {} awkward hn).1⟩

end PrometheusPublisher

end Telemetry
