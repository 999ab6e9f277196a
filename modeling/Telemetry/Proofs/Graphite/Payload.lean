import Telemetry.Proofs.Decimal.Fixed
import Telemetry.Proofs.Exposition.RoundTrip
import Telemetry.Publish.Graphite
/-!
# Payloads read back

A payload is read by its line feeds into lines and by its spaces into a path, a value and a time,
and nothing of a path is masked when it is written. Main statement: a payload has one line for each
snapshot just if no tag, base name or value of a label in a path holds a line feed, and it reads
back as the paths, values and times of its snapshots just if none holds a space either.
-/
namespace Telemetry

namespace Plaintext

/-- What a line says. -/
structure Datum where
  path : String
  value : Decimal.Numeral
  time : ℕ
deriving DecidableEq, Repr

/-- Three fields with single spaces between them. -/
def line? (line : List Char) : Option Datum :=
  match Text.pieces ' ' line with
  | [path, value, time] => do
    let value ← Decimal.numeral? value
    let time ← Decimal.digits? time
    some { path := String.ofList path, value, time }
  | _ => none

def lines? : List (List Char) → Option (List Datum)
  | [] => some []
  | line :: lines => do
    let d ← line? line
    let ds ← lines? lines
    some (d :: ds)

/-- A payload of which every line is ended. -/
def payload? (text : String) : Option (List Datum) :=
  match (Text.pieces '\n' text.toList).reverse with
  | [] :: lines => lines? lines.reverse
  | _ => none

theorem lines?_eq_some_iff {lines : List (List Char)} {data : List Datum} :
    lines? lines = some data ↔ List.Forall₂ (fun l d => line? l = some d) lines data := by
  induction lines generalizing data with
  | nil => simp [lines?, eq_comm]
  | cons l lines ih =>
    simp only [lines?, Option.bind_eq_bind, Option.bind_eq_some_iff, List.forall₂_cons_left_iff, ih,
      Option.some.injEq]
    constructor
    · rintro ⟨d, hd, ds, hds, rfl⟩
      exact ⟨d, ds, hd, hds, rfl⟩
    · rintro ⟨d, ds, hd, hds, rfl⟩
      exact ⟨d, hd, ds, hds, rfl⟩

theorem payload?_eq_some_iff {text : String} {data : List Datum} :
    payload? text = some data ↔ ∃ lines, Text.pieces '\n' text.toList = lines ++ [[]] ∧
      List.Forall₂ (fun l d => line? l = some d) lines data := by
  rw [payload?]
  constructor
  · intro h
    split at h
    · rename_i lines hl
      exact ⟨lines.reverse, by simpa using congrArg List.reverse hl, lines?_eq_some_iff.1 h⟩
    · cases h
  · rintro ⟨lines, hl, hd⟩
    rw [hl, List.reverse_concat]
    simp only [List.reverse_reverse]
    exact lines?_eq_some_iff.2 hd

end Plaintext

namespace GraphitePublisher

open Plaintext

/-- The texts that a path is made of, the kind apart. -/
def pathTexts (tags : Tags) (s : Snapshot) : List String :=
  tags.values ++ s.labels.segments

/-- The tags that a snapshot is sent with. -/
def tagsOf (p : GraphitePublisher) (s : Snapshot) : Tags :=
  p.config.tags.getD s.tags

/-- The characters of a line. -/
def lineChars (tags : Tags) (s : Snapshot) : List Char :=
  (path tags s).toList ++
    ' ' :: ((Decimal.fixed 2 s.value).toList ++ ' ' :: Nat.toDigits 10 s.timestamp)

/-- A line says of a snapshot what it is to say. -/
structure Reports (tags : Tags) (s : Snapshot) (d : Datum) : Prop where
  path : d.path = path tags s
  value : Decimal.Shows 2 s.value.toModel.unpack d.value
  time : d.time = s.timestamp

section Line

variable {tags : Tags} {s : Snapshot}

theorem mem_path_iff {c : Char} (h : c = ' ' ∨ c = '\n') :
    c ∈ (path tags s).toList ↔ ∃ t ∈ pathTexts tags s, c ∈ t.toList := by
  have hc : c ≠ '.' := by
    rintro rfl
    exact absurd h (by decide)
  have hk : c ∉ s.kind.suffix.toList := by
    rcases h with rfl | rfl <;> cases s.kind <;> decide
  have hname : c ∈ s.fullName.toList ↔ ∃ t ∈ s.labels.segments, c ∈ t.toList := by
    rw [← Text.mem_joinWith hc]
    change _ ↔ c ∈ s.name.toList
    rw [Snapshot.fullName]
    split
    · exact Iff.rfl
    · simp [hc, hk]
  rw [path, Text.mem_joinWith hc, pathTexts]
  simp only [List.mem_append, List.mem_singleton, or_and_right, exists_or, exists_eq_left, hname]

theorem isNumber_fixed (places : ℕ) (x : Float) : Exposition.IsNumber (Decimal.fixed places x) := by
  have hd (n : ℕ) : ∀ c ∈ Nat.toDigits 10 n, Exposition.isNumberChar c = true :=
    fun c => Exposition.isNumberChar_of_mem_toDigits
  have placed (n : ℕ) : Exposition.IsNumber (String.ofList (Decimal.placed places n)) := by
    rw [Exposition.IsNumber, String.toList_ofList]
    constructor
    · obtain ⟨c, cs, hc, -⟩ := Decimal.exists_placed_eq_cons places n
      simp [hc]
    · rcases Nat.eq_zero_or_pos places with rfl | hp
      · simpa [Decimal.placed] using hd n
      · obtain ⟨k, hk, -⟩ := Decimal.exists_placed_eq hp n
        intro c hc
        rw [hk, List.mem_append, List.mem_cons, List.mem_append] at hc
        rcases hc with hc | rfl | hc | hc
        · exact hd _ c hc
        · rfl
        · rw [List.eq_of_mem_replicate hc]
          rfl
        · exact hd _ c hc
  have word (text : String) (hne : text.toList ≠ [])
      (h : text.toList.all Exposition.isNumberChar = true) : Exposition.IsNumber text :=
    ⟨hne, List.all_eq_true.1 h⟩
  rw [Decimal.fixed]
  split
  · split
    · exact word _ (by simp) rfl
    · split <;> exact word _ (by simp) rfl
  · exact (placed _).signed _

theorem not_mem_of_isNumberChar {cs : List Char}
    (hcs : ∀ c ∈ cs, Exposition.isNumberChar c = true) {c : Char} (h : c = ' ' ∨ c = '\n') :
    c ∉ cs := by
  intro hc
  obtain ⟨hspace, hfeed⟩ := Exposition.not_blank_of_isNumberChar (hcs c hc)
  exact h.elim hspace hfeed

theorem not_mem_fixed {c : Char} (h : c = ' ' ∨ c = '\n') (x : Float) :
    c ∉ (Decimal.fixed 2 x).toList :=
  not_mem_of_isNumberChar (isNumber_fixed 2 x).2 h

theorem not_mem_time {c : Char} (h : c = ' ' ∨ c = '\n') (n : ℕ) : c ∉ Nat.toDigits 10 n :=
  not_mem_of_isNumberChar (fun _ => Exposition.isNumberChar_of_mem_toDigits) h

theorem lineFeed_mem_lineChars : '\n' ∈ lineChars tags s ↔ '\n' ∈ (path tags s).toList := by
  simp [lineChars, not_mem_fixed, not_mem_time]

theorem toList_line : (line tags s).toList = lineChars tags s ++ ['\n'] := by
  have hs : " ".toList = [' '] := rfl
  have hn : "\n".toList = ['\n'] := rfl
  simp only [line, lineChars, String.toList_append, Nat.toList_repr, hs, hn, List.append_assoc,
    List.cons_append, List.nil_append]

/-- The fields of a line are those of its path, its value and its time. -/
theorem pieces_lineChars : Text.pieces ' ' (lineChars tags s) =
    Text.pieces ' ' (path tags s).toList ++
      [(Decimal.fixed 2 s.value).toList, Nat.toDigits 10 s.timestamp] := by
  rw [lineChars, Text.pieces_append, Text.pieces_append_cons (not_mem_fixed (.inl rfl) _),
    Text.pieces_of_not_mem (not_mem_time (.inl rfl) _)]

theorem exists_line?_eq (h : ' ' ∉ (path tags s).toList) :
    ∃ d, line? (lineChars tags s) = some d ∧ Reports tags s d := by
  obtain ⟨value, hv, hs⟩ := Decimal.fixed_shows 2 s.value
  refine ⟨⟨path tags s, value, s.timestamp⟩, ?_, rfl, hs, rfl⟩
  rw [line?, pieces_lineChars, Text.pieces_of_not_mem h]
  simp [hv, Decimal.digits?_toDigits]

/-- A line with a space in its path has too many fields. -/
theorem not_mem_path_of_line? {d : Datum} (h : line? (lineChars tags s) = some d) :
    ' ' ∉ (path tags s).toList := by
  have hl : (Text.pieces ' ' (lineChars tags s)).length = 3 := by
    rw [line?] at h
    split at h
    · rename_i hp
      rw [hp]
      rfl
    · cases h
  rw [pieces_lineChars, List.length_append, Text.length_pieces] at hl
  simp only [List.length_cons, List.length_nil] at hl
  exact List.count_eq_zero.1 (by omega)

end Line

section Payload

variable (p : GraphitePublisher) (batch : List Snapshot)

theorem publish_of_connect {network : Network} (h : p.connect network = .ok ()) :
    (p.publish network batch).1 = .ok (String.join (p.lines batch)) := by
  rw [publish, h]

theorem toList_join_lines : (String.join (p.lines batch)).toList =
    (batch.map fun s => lineChars (p.tagsOf s) s).flatMap (· ++ ['\n']) := by
  rw [String.toList_join, lines, List.flatMap_map, List.flatMap_map]
  simp only [toList_line]
  rfl

/-- A payload has as many lines as there are snapshots just if no path holds a line feed. -/
theorem length_pieces_iff :
    (Text.pieces '\n' (String.join (p.lines batch)).toList).length = batch.length + 1 ↔
      ∀ s ∈ batch, '\n' ∉ (path (p.tagsOf s) s).toList := by
  have hz : (batch.map fun s => lineChars (p.tagsOf s) s).flatten.count '\n' = 0 ↔
      ∀ s ∈ batch, '\n' ∉ (path (p.tagsOf s) s).toList := by
    simp [List.count_eq_zero, lineFeed_mem_lineChars]
  rw [toList_join_lines, Text.length_pieces_flatMap, List.length_map, ← hz]
  omega

theorem pieces_of_not_mem (h : ∀ s ∈ batch, '\n' ∉ (path (p.tagsOf s) s).toList) :
    Text.pieces '\n' (String.join (p.lines batch)).toList =
      (batch.map fun s => lineChars (p.tagsOf s) s) ++ [[]] := by
  rw [toList_join_lines, Text.pieces_flatMap]
  intro l hl
  obtain ⟨s, hs, rfl⟩ := List.mem_map.1 hl
  exact fun hm => h s hs (lineFeed_mem_lineChars.1 hm)

/-- A payload reads back as its snapshots just if no path holds a space or a line feed. -/
theorem reads_back_iff :
    (∃ data, payload? (String.join (p.lines batch)) = some data ∧
        List.Forall₂ (fun s d => Reports (p.tagsOf s) s d) batch data) ↔
      ∀ s ∈ batch, ' ' ∉ (path (p.tagsOf s) s).toList ∧ '\n' ∉ (path (p.tagsOf s) s).toList := by
  constructor
  · rintro ⟨data, hd, hr⟩
    obtain ⟨lines, hl, hd⟩ := payload?_eq_some_iff.1 hd
    -- as many lines as snapshots were read, so no path holds a line feed
    have hn : ∀ s ∈ batch, '\n' ∉ (path (p.tagsOf s) s).toList := by
      rw [← length_pieces_iff, hl, List.length_append, hd.length_eq, hr.length_eq]
      rfl
    have he := List.append_cancel_right ((p.pieces_of_not_mem batch hn).symm.trans hl)
    rw [← he, List.forall₂_map_left_iff] at hd
    have hs : ∀ s ∈ batch, ' ' ∉ (path (p.tagsOf s) s).toList :=
      ((List.forall₂_and_left _ _).1 (hd.imp fun _ _ h => ⟨not_mem_path_of_line? h, h⟩)).1
    exact fun s hb => ⟨hs s hb, hn s hb⟩
  · intro h
    have hr : List.Forall₂ (fun s d => line? (lineChars (p.tagsOf s) s) = some d ∧
        Reports (p.tagsOf s) s d) batch
        (batch.map fun s => (line? (lineChars (p.tagsOf s) s)).getD ⟨"", .notNumber, 0⟩) := by
      rw [List.forall₂_map_right_iff, List.forall₂_same]
      intro s hs
      obtain ⟨d, hd, hr⟩ := exists_line?_eq (h s hs).1
      rw [hd]
      exact ⟨rfl, hr⟩
    refine ⟨_, payload?_eq_some_iff.2 ⟨_, p.pieces_of_not_mem batch fun s hs => (h s hs).2, ?_⟩,
      hr.imp fun _ _ h => h.2⟩
    rw [List.forall₂_map_left_iff]
    exact hr.imp fun _ _ h => h.1

/-- Once connected, a batch is written. Its text has as many lines as there are snapshots just if no
tag, base name or value of a label holds a line feed, and each line reads back as the own path, value
and time of its snapshot, in order, just if none of them holds a space either. -/
theorem payload_reads_back_iff (p : GraphitePublisher) (network : Network)
    (h : p.connect network = .ok ()) (batch : List Snapshot) :
    ∃ text, (p.publish network batch).1 = .ok text ∧
      ((Text.pieces '\n' text.toList).length = batch.length + 1 ↔
        ∀ s ∈ batch, ∀ t ∈ pathTexts (p.tagsOf s) s, '\n' ∉ t.toList) ∧
      ((∃ data, payload? text = some data ∧
          List.Forall₂ (fun s d => Reports (p.tagsOf s) s d) batch data) ↔
        ∀ s ∈ batch, ∀ t ∈ pathTexts (p.tagsOf s) s, ' ' ∉ t.toList ∧ '\n' ∉ t.toList) := by
  have mem (s : Snapshot) {c : Char} (hc : c = ' ' ∨ c = '\n') :
      c ∉ (path (p.tagsOf s) s).toList ↔ ∀ t ∈ pathTexts (p.tagsOf s) s, c ∉ t.toList := by
    rw [mem_path_iff hc]
    simp only [not_exists, not_and]
  refine ⟨_, p.publish_of_connect batch h, ?_, ?_⟩
  · rw [length_pieces_iff]
    simp only [mem _ (.inr rfl)]
  · rw [reads_back_iff]
    simp only [mem _ (.inl rfl), mem _ (.inr rfl), forall_and]

/-- A machine that reaches all others. -/
private def everywhere : Network := fun _ _ => .ok ()

private def blue : GraphitePublisher where
  config := { PublisherConfig.named "carbon" .graphite with
    host := "localhost", tags := some { env := some " ", cluster := some "blue" } }
  port := defaultPort

private def gauge (name : String) : Snapshot where
  labels := .ofName name
  kind := .gauge
  value := 1
  timestamp := 7

theorem payload_reads_back_without_spaces :
    blue.connect everywhere = .ok () ∧
      (∀ s ∈ [gauge "disk", gauge "µ.load"], ∀ t ∈ pathTexts (blue.tagsOf s) s,
        ' ' ∉ t.toList ∧ '\n' ∉ t.toList) ∧
      ∃ text, (blue.publish everywhere [gauge "disk", gauge "µ.load"]).1 = .ok text ∧
        (Text.pieces '\n' text.toList).length = 3 ∧
        ∃ data, payload? text = some data ∧ List.Forall₂ (fun s d => Reports (blue.tagsOf s) s d)
          [gauge "disk", gauge "µ.load"] data := by
  have hn : ∀ s ∈ [gauge "disk", gauge "µ.load"], ∀ t ∈ pathTexts (blue.tagsOf s) s,
      ' ' ∉ t.toList ∧ '\n' ∉ t.toList := by
    decide
  obtain ⟨text, ht, hl, hr⟩ := payload_reads_back_iff blue everywhere rfl
    [gauge "disk", gauge "µ.load"]
  exact ⟨rfl, hn, text, ht, hl.2 fun s hs t h => (hn s hs t h).2, hr.2 hn⟩

attribute [local instance] Regex.Engine.estimating

/-- A base name with spaces and a line feed adds a line of its own, which is read as a value of
another path. -/
theorem not_payload_reads_back :
    (¬ ∀ (config : PublisherConfig) (p : GraphitePublisher), ofConfig config = .ok p →
      ∀ (network : Network) (batch : List Snapshot) (text : String),
        (p.publish network batch).1 = .ok text →
          (Text.pieces '\n' text.toList).length = batch.length + 1 ∧
          ∃ data, payload? text = some data ∧
            List.Forall₂ (fun s d => Reports (p.tagsOf s) s d) batch data) ∧
    ∃ text, (blue.publish everywhere [gauge "disk 9.00 7\nload"]).1 = .ok text ∧
      payload? text = some [⟨"blue.disk", .decimal false 900 2, 7⟩,
        ⟨"load", .decimal false 100 2, 7⟩] := by
  have hw : (blue.publish everywhere [gauge "disk 9.00 7\nload"]).1 =
      .ok (String.join (blue.lines [gauge "disk 9.00 7\nload"])) :=
    blue.publish_of_connect _ rfl
  have hr : payload? (String.join (blue.lines [gauge "disk 9.00 7\nload"])) =
      some [⟨"blue.disk", .decimal false 900 2, 7⟩, ⟨"load", .decimal false 100 2, 7⟩] := by
    decide +kernel
  refine ⟨?_, _, hw, hr⟩
  intro h
  obtain ⟨-, data, hd, hf⟩ := h blue.config blue rfl everywhere _ _ hw
  rw [hr] at hd
  rw [← Option.some.inj hd] at hf
  exact absurd hf.length_eq (by decide)

end Payload

end GraphitePublisher

end Telemetry
