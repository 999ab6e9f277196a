import Mathlib.Data.List.DropRight
import Telemetry.Proofs.Exposition.RoundTrip
import Telemetry.Proofs.Firsts
/-!
# What a registry recalls

Samples are entered into a registry and the registry is cleared, in any order. Main statement: the
registry holds the families updated since it was last cleared, each with the kind of its last
update and with the samples updated since its kind last changed, in the order in which they came
first and with their latest values; and its page, written out line by line, lists just these.
-/
namespace Telemetry.Exposition

/-- A value for a sample. -/
structure Update where
  name : String
  kind : FamilyKind
  labels : LabelSet
  value : Float

/-- Something done with a registry. -/
inductive Change where
  | update (u : Update)
  | clear

def Change.update? : Change → Option Update
  | update u => some u
  | clear => none

/-- The updates at the end that are of one kind: those since the kind changed to it. -/
def recent (kind : FamilyKind) (us : List Update) : List Update :=
  us.rtakeWhile (·.kind = kind)

theorem recent_concat (us : List Update) (u : Update) :
    recent u.kind (us ++ [u]) = recent u.kind us ++ [u] :=
  List.rtakeWhile_concat_pos _ us u (by simp)

theorem recent_eq_nil {us : List Update} {kind other : FamilyKind}
    (h : us.getLast?.map (·.kind) = some other) (hne : other ≠ kind) : recent kind us = [] := by
  rw [recent, List.rtakeWhile_eq_nil_iff]
  intro hl
  rw [List.getLast?_eq_some_getLast hl] at h
  simpa [Option.some.inj h] using hne

/-- How a character of a label value stands between quotes. -/
def escaped (c : Char) : List Char :=
  if c = '\\' then ['\\', '\\'] else if c = '"' then ['\\', '"']
  else if c = '\n' then ['\\', 'n'] else [c]

/-- A label as it is listed. -/
def shownLabel (label : String × String) : String :=
  label.1 ++ "=\"" ++ String.ofList (label.2.toList.flatMap escaped) ++ "\""

/-- The line that lists a sample of a family. -/
def shownSample (name : String) (sample : LabelSet × Float) : String :=
  let labels :=
    if sample.1 = [] then "" else "\x7b" ++ ",".intercalate (sample.1.map shownLabel) ++ "\x7d"
  name ++ labels ++ " " ++ number sample.2

/-- The lines that list a family: its kind, its samples and an empty line. -/
def Family.lines (name : String) (family : Family) : List String :=
  let kind := match family.kind with
    | .counter => "counter"
    | .gauge => "gauge"
  ("# TYPE " ++ name ++ " " ++ kind) :: family.samples.map (shownSample name) ++ [""]

/-- A value is the last one. -/
def IsLatest (us : List Update) (value : Float) : Prop :=
  us.getLast?.map (·.value) = some value

/-- What a family holds after the updates under its name. -/
structure Family.Recalls (us : List Update) (family : Family) : Prop where
  kind : us.getLast?.map (·.kind) = some family.kind
  samples : Assoc.Keeps Update.labels IsLatest (recent family.kind us) family.samples

namespace Registry

/-- What a registry holds after updates. -/
def Recalls (us : List Update) (r : Registry) : Prop :=
  Assoc.Keeps Update.name Family.Recalls us r.families

/-- A sample is entered beside the samples since the kind of its family last changed. -/
theorem Recalls.familyFor {us : List Update} {r : Registry} (h : r.Recalls us) (name : String)
    (kind : FamilyKind) : Assoc.Keeps Update.labels IsLatest
      (recent kind (us.filter (·.name = name))) (r.familyFor name kind).samples := by
  unfold Registry.familyFor
  split
  · rename_i family hg
    have hf := h.of_get? hg
    split
    · rename_i hk
      exact hk ▸ hf.samples
    · rename_i hk
      rw [recent_eq_nil hf.kind hk]
      exact .nil
  · rename_i hg
    rw [h.filter_eq_nil hg]
    exact .nil

theorem Recalls.update {us : List Update} {r : Registry} (h : r.Recalls us) (u : Update) :
    (r.update u.name u.kind u.labels u.value).Recalls (us ++ [u]) := by
  refine Assoc.Keeps.put h ?_
  constructor
  · rw [List.getLast?_concat, kind_familyFor]
    rfl
  · rw [kind_familyFor, recent_concat]
    refine (h.familyFor u.name u.kind).put ?_
    rw [IsLatest, List.getLast?_concat]
    rfl

def act (r : Registry) : Change → Registry
  | .update u => r.update u.name u.kind u.labels u.value
  | .clear => {}

/-- The registry after some changes, if it held nothing before. -/
def run (changes : List Change) : Registry :=
  changes.foldl act {}

/-- The updates since the last time that the registry was cleared. -/
def sinceClear (changes : List Change) : List Update :=
  (changes.rtakeWhile (·.update?.isSome)).filterMap Change.update?

theorem sinceClear_update (changes : List Change) (u : Update) :
    sinceClear (changes ++ [.update u]) = sinceClear changes ++ [u] := by
  rw [sinceClear, List.rtakeWhile_concat_pos _ _ _ (by rfl), List.filterMap_append]
  rfl

theorem sinceClear_clear (changes : List Change) : sinceClear (changes ++ [.clear]) = [] := by
  rw [sinceClear, List.rtakeWhile_concat_neg _ _ _ (by simp [Change.update?])]
  rfl

theorem recalls_run (changes : List Change) : (run changes).Recalls (sinceClear changes) := by
  induction changes using List.reverseRecOn with
  | nil => exact .nil
  | append_singleton changes c ih =>
    rw [run, List.foldl_concat]
    cases c with
    | update u =>
      rw [sinceClear_update]
      exact ih.update u
    | clear =>
      rw [sinceClear_clear]
      exact .nil

section Page

theorem escapeValue_eq (value : List Char) : escapeValue value = value.flatMap escaped := by
  induction value with
  | nil => rfl
  | cons c cs ih =>
    rw [escapeValue, List.flatMap_cons, ih, escaped]
    split_ifs <;> rfl

theorem labelText_eq (label : String × String) : labelText label = shownLabel label := by
  rw [labelText, shownLabel, quotedValue, escapeValue_eq]

theorem sampleLine_eq (name : String) (sample : LabelSet × Float) :
    sampleLine name sample.1 sample.2 = shownSample name sample ++ "\n" := by
  obtain ⟨labels, value⟩ := sample
  have hl : labelsText labels =
      if labels = [] then "" else "\x7b" ++ ",".intercalate (labels.map shownLabel) ++ "\x7d" := by
    simp only [labelsText, List.isEmpty_iff, Text.joinWith_eq_intercalate, funext labelText_eq]
    rfl
  rw [sampleLine, shownSample, hl]

theorem join_lines (name : String) (family : Family) :
    String.join ((family.lines name).map (· ++ "\n")) = familyText name family := by
  have hs : family.samples.map (fun sample => sampleLine name sample.1 sample.2) =
      (family.samples.map (shownSample name)).map (· ++ "\n") := by
    rw [List.map_map]
    exact List.map_congr_left fun sample _ => sampleLine_eq name sample
  have ht : typeLine name family.kind.text =
      "# TYPE " ++ name ++ " " ++ (match family.kind with
        | .counter => "counter"
        | .gauge => "gauge") ++ "\n" := by
    cases family.kind <;> rfl
  rw [familyText, ht, hs, Family.lines]
  simp only [List.map_append, List.map_cons, List.map_nil, String.join_append, String.join_cons,
    String.join_nil, String.empty_append, String.append_empty]

theorem render_eq (r : Registry) : r.render =
    String.join ((r.families.flatMap fun entry => entry.2.lines entry.1).map (· ++ "\n")) := by
  rw [render, List.map_flatMap]
  induction r.families with
  | nil => rfl
  | cons entry families ih =>
    rw [List.map_cons, String.join_cons, ih, List.flatMap_cons, String.join_append, join_lines]

end Page

theorem size_eq (r : Registry) : r.size = (r.families.flatMap (·.2.samples)).length := by
  rw [size, List.length_flatMap]
  rfl

private def retyping : List Change :=
  let set (name : String) (kind : FamilyKind) (path : String) : Change :=
    .update { name, kind, labels := [("path", path)], value := 1 }
  [set "old" .gauge "/", .clear, set "hits" .gauge "/a", set "load" .gauge "/",
    set "hits" .counter "/b", set "hits" .gauge "/c", set "hits" .gauge "/a"]

/-- A family whose kind changes and changes back keeps its place but not its samples. -/
example :
    (run retyping).families.map (fun (name, family) =>
        (name, family.kind, family.samples.map (·.1))) =
      [("hits", .gauge, [[("path", "/c")], [("path", "/a")]]),
        ("load", .gauge, [[("path", "/")]])] := by
  decide

end Registry

end Telemetry.Exposition
