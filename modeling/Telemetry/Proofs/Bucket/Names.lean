import Telemetry.Proofs.Bucket
import Telemetry.Snapshot
/-!
# Names of the metrics in a bucket

A metric is written as its base name between the values of its labels, with a separator between
them. Main statement: the metrics of a bucket are told apart by their written names if no value
holds the separator and all of them, or none, have a value in front; the base name may hold it.
-/
namespace Telemetry

namespace Labels

/-- No value before or behind the base name holds the separator. -/
def Unbroken (sep : Char) (l : Labels) : Prop :=
  ∀ v ∈ l.frontValue.toList ++ l.backValues, sep ∉ v.toList

instance (sep : Char) (l : Labels) : Decidable (l.Unbroken sep) :=
  inferInstanceAs (Decidable (∀ v ∈ l.frontValue.toList ++ l.backValues, sep ∉ v.toList))

variable {sep : Char} {a b : Labels}

theorem flatMap_pieces_of_unbroken {values : List String} (h : ∀ v ∈ values, sep ∉ v.toList) :
    values.flatMap (Text.pieces sep ·.toList) = values.map String.toList := by
  induction values with
  | nil => rfl
  | cons v values ih =>
    rw [List.flatMap_cons, Text.pieces_of_not_mem (h v List.mem_cons_self),
      ih fun w hw => h w (List.mem_cons_of_mem v hw)]
    rfl

/-- A written name is cut into the values around the pieces of the base name. -/
theorem pieces_format (h : a.Unbroken sep) : Text.pieces sep (a.format sep).toList =
    a.frontValue.toList.map String.toList ++
      (Text.pieces sep a.name.toList ++ a.backValues.map String.toList) := by
  have hfront : ∀ v ∈ a.frontValue.toList, sep ∉ v.toList :=
    fun v hv => h v (List.mem_append_left _ hv)
  have hback : ∀ v ∈ a.backValues, sep ∉ v.toList := fun v hv => h v (List.mem_append_right _ hv)
  rw [format, Text.pieces_joinWith sep (by simp [segments]), segments, List.flatMap_append,
    List.flatMap_cons, flatMap_pieces_of_unbroken hfront, flatMap_pieces_of_unbroken hback]

/-- Under one base name the written name determines the values, if it is known whether there is one
in front. -/
theorem values_eq_of_format_eq (ha : a.Unbroken sep) (hb : b.Unbroken sep) (hn : a.name = b.name)
    (hf : a.frontValue.isSome = b.frontValue.isSome) (h : a.format sep = b.format sep) :
    a.frontValue = b.frontValue ∧ a.backValues = b.backValues := by
  have hp := congrArg (fun s : String => Text.pieces sep s.toList) h
  simp only [pieces_format ha, pieces_format hb, hn] at hp
  have hlen : (a.frontValue.toList.map String.toList).length =
      (b.frontValue.toList.map String.toList).length := by
    cases ha' : a.frontValue <;> cases hb' : b.frontValue <;> simp_all
  obtain ⟨hfront, hback⟩ := List.append_inj hp hlen
  have inj : Function.Injective (List.map String.toList) :=
    List.map_injective_iff.2 fun _ _ => String.toList_inj.1
  have hv := inj hfront
  refine ⟨?_, inj (List.append_cancel_left hback)⟩
  rw [← Option.head?_toList (o := a.frontValue), hv, Option.head?_toList]

end Labels

namespace Bucket

/-- What a key denotes is the parent with the values of the key, without a front name that has no
value. -/
theorem Key.denotes_eq (key : Key) (parent : Labels) : key.denotes parent =
    { parent with
      frontValue := (key.denotes parent).frontValue
      backValues := (key.denotes parent).backValues }.normalize := by
  cases key <;> rfl

theorem Key.name_denotes (key : Key) (parent : Labels) :
    (key.denotes parent).name = parent.name := by
  rw [denotes_eq]
  rfl

theorem Key.denotes_eq_of_values {parent : Labels} {j k : Key}
    (hf : (j.denotes parent).frontValue = (k.denotes parent).frontValue)
    (hb : (j.denotes parent).backValues = (k.denotes parent).backValues) :
    j.denotes parent = k.denotes parent := by
  rw [denotes_eq j, denotes_eq k, hf, hb]

/-- Each metric in a bucket has the labels that some key denotes. -/
theorem Kept.exists_denotes {parent : Labels} {kind : Kind} {actions : List Action}
    {found : List (Key × Nat)} {b : Bucket} (h : Kept parent kind actions found b) {i : Nat}
    {m : Metric} (hm : b.metrics[i]? = some m) :
    m.kind = kind ∧ ∃ key : Key, m.labels = key.denotes parent := by
  obtain ⟨f, hf, rfl⟩ := h.exists_found hm
  obtain rfl := Option.some.inj (hm.symm.trans (h.metric f hf))
  exact ⟨Metric.kind_run .., f.1, Metric.labels_run ..⟩

end Bucket

/-- Full names of one kind differ where names do. -/
theorem Snapshot.name_eq_of_fullName_eq {s t : Snapshot} (hk : s.kind = t.kind)
    (h : s.fullName = t.fullName) : s.name = t.name := by
  rw [fullName, fullName, hk] at h
  split at h
  · exact h
  · exact (String.append_left_inj _).1 ((String.append_left_inj _).1 h)

namespace Bucket

/-- The written names of labels in a bucket are equal just if their values are, where no value holds
the separator and both or neither have a value in front. So no two metrics of a bucket whose values
hold no dot share a name, nor do their snapshots. -/
theorem names_apart (parent : Labels) (kind : Kind) :
    (∀ (sep : Char) (j k : Key),
      (j.denotes parent).Unbroken sep → (k.denotes parent).Unbroken sep →
      (j.denotes parent).frontValue.isSome = (k.denotes parent).frontValue.isSome →
      ((j.denotes parent).format sep = (k.denotes parent).format sep ↔
        (j.denotes parent).frontValue = (k.denotes parent).frontValue ∧
          (j.denotes parent).backValues = (k.denotes parent).backValues)) ∧
    ∀ (actions : List Action) (i j : Nat) (m n : Metric),
      let b := run { parent, kind } actions
      b.metrics[i]? = some m → b.metrics[j]? = some n → i ≠ j →
      m.labels.Unbroken '.' → n.labels.Unbroken '.' →
      m.labels.frontValue.isSome = n.labels.frontValue.isSome →
      m.name ≠ n.name ∧ ∀ (x y : Float) (time time' : Nat) (tags tags' : Tags),
        (Snapshot.ofMetric m x time tags).name ≠ (Snapshot.ofMetric n y time' tags').name ∧
        (Snapshot.ofMetric m x time tags).fullName ≠
          (Snapshot.ofMetric n y time' tags').fullName := by
  have values (sep : Char) (j k : Key) (hj : (j.denotes parent).Unbroken sep)
      (hk : (k.denotes parent).Unbroken sep)
      (hf : (j.denotes parent).frontValue.isSome = (k.denotes parent).frontValue.isSome) :
      (j.denotes parent).format sep = (k.denotes parent).format sep ↔
        (j.denotes parent).frontValue = (k.denotes parent).frontValue ∧
          (j.denotes parent).backValues = (k.denotes parent).backValues := by
    constructor
    · exact Labels.values_eq_of_format_eq hj hk
        ((j.name_denotes parent).trans (k.name_denotes parent).symm) hf
    · rintro ⟨hf, hb⟩
      rw [Key.denotes_eq_of_values hf hb]
  refine ⟨values, ?_⟩
  intro actions i j m n b hm hn hij hmu hnu hf
  have h : Kept parent kind actions (found { parent, kind } actions) b := .of_run ..
  obtain ⟨hmk, k, hk⟩ := h.exists_denotes hm
  obtain ⟨hnk, l, hl⟩ := h.exists_denotes hn
  have hname : m.name ≠ n.name := by
    intro he
    rw [hk] at hmu hf
    rw [hl] at hnu hf
    rw [Metric.name, Metric.name, hk, hl] at he
    obtain ⟨hfront, hback⟩ := (values '.' k l hmu hnu hf).1 he
    refine hij (h.apart hm hn ?_)
    rw [hk, hl, Key.denotes_eq_of_values hfront hback]
  refine ⟨hname, ?_⟩
  intro x y time time' tags tags'
  refine ⟨hname, ?_⟩
  intro he
  exact hname (Snapshot.name_eq_of_fullName_eq (hmk.trans hnk.symm) he)

/-- An empty value behind a base name with dots is not lost. -/
theorem names_apart_by_empty_value :
    let parent := (withLabelNames "http.requests" .count "customer" ["status", "host"]).parent
    let j : Key := .both "acme" ["ok"]
    let k : Key := .both "acme" ["ok", ""]
    let b := run { parent, kind := .count } [.lookup j, .lookup k]
    (j.denotes parent).Unbroken '.' ∧ (k.denotes parent).Unbroken '.' ∧
      (j.denotes parent).frontValue.isSome = (k.denotes parent).frontValue.isSome ∧
      (j.denotes parent).format '.' ≠ (k.denotes parent).format '.' ∧
      b.metrics = #[.new (j.denotes parent) .count, .new (k.denotes parent) .count] ∧
      (Metric.new (j.denotes parent) .count).name ≠ (Metric.new (k.denotes parent) .count).name := by
  intro parent j k b
  obtain ⟨values, apart⟩ := names_apart parent .count
  have hj : (j.denotes parent).Unbroken '.' := by decide
  have hk : (k.denotes parent).Unbroken '.' := by decide
  have hb : b.metrics = #[.new (j.denotes parent) .count, .new (k.denotes parent) .count] := by
    simp only [b, j, k, parent]
    cbv
  refine ⟨hj, hk, rfl, ?_, hb, ?_⟩
  · rw [Ne, values '.' j k hj hk rfl]
    decide
  · exact (apart [.lookup j, .lookup k] 0 1 _ _ (congrArg (·[0]?) hb) (congrArg (·[1]?) hb)
      (by decide) hj hk rfl).1

end Bucket

end Telemetry
