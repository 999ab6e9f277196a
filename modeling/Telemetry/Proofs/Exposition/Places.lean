import Telemetry.Exposition.Name
/-!
# Where the values of labels go

On a page of samples a value stands under the key of its label or, if it has no name, in the name of
the family. Main statement: whatever names and values there are, each value goes to just one of the
two, in the order of the values, and a name without a value goes nowhere.
-/
namespace Telemetry.Exposition

/-- Where a value goes: under a key made of its name, or into the name of the family. -/
inductive Place where
  | label (name value : String)
  | part (value : String)
deriving DecidableEq, Repr

namespace Place

/-- The place of a value that has this name, or none. -/
def of : Option String → String → Place
  | some name, value => label name value
  | none, value => part value

def value : Place → String
  | label _ value => value
  | part value => value

def label? : Place → Option (String × String)
  | label name value => some (name, value)
  | part _ => none

def part? : Place → Option String
  | label .. => none
  | part value => some value

@[simp] theorem value_of (name? : Option String) (value : String) :
    (of name? value).value = value := by
  cases name? <;> rfl

@[simp] theorem label?_of (name? : Option String) (value : String) :
    (of name? value).label? = name?.map (·, value) := by
  cases name? <;> rfl

@[simp] theorem part?_of (name? : Option String) (value : String) :
    (of name? value).part? = if name?.isNone then some value else none := by
  cases name? <;> rfl

end Place

def frontPlace (l : Labels) : Option Place :=
  l.frontValue.map (.of l.frontName)

/-- The places of values, the first of which takes the first name, and so on. -/
def backPlaces : (names values : List String) → List Place
  | _, [] => []
  | names, value :: values => .of names.head? value :: backPlaces names.tail values

def places (l : Labels) : List Place :=
  (frontPlace l).toList ++ backPlaces l.backNames l.backValues

section Back

variable (names values : List String)

theorem map_value_backPlaces : (backPlaces names values).map Place.value = values := by
  induction values generalizing names with
  | nil => rfl
  | cons value values ih => rw [backPlaces, List.map_cons, ih, Place.value_of]

/-- Names and values meet in pairs as long as there are both. -/
theorem labels_backPlaces : (backPlaces names values).filterMap Place.label? = names.zip values := by
  induction values generalizing names with
  | nil => rw [backPlaces, List.filterMap_nil, List.zip_nil_right]
  | cons value values ih =>
    cases names with
    | nil => simp [backPlaces, ih]
    | cons name names => simp [backPlaces, ih]

/-- Values are left over behind as many as there are names. -/
theorem parts_backPlaces :
    (backPlaces names values).filterMap Place.part? = values.drop names.length := by
  induction values generalizing names with
  | nil => rw [backPlaces, List.filterMap_nil, List.drop_nil]
  | cons value values ih =>
    cases names with
    | nil => simp [backPlaces, ih]
    | cons name names => simp [backPlaces, ih]

/-- There are no more names than values. -/
theorem names_backPlaces :
    ((backPlaces names values).filterMap Place.label?).map (·.1) = names.take values.length := by
  induction values generalizing names with
  | nil => rw [backPlaces, List.filterMap_nil, List.map_nil, List.length_nil, List.take_zero]
  | cons value values ih =>
    cases names with
    | nil => simp [backPlaces, ih]
    | cons name names => simp [backPlaces, ih]

end Back

section Front

variable (l : Labels)

theorem map_value_frontPlace : (frontPlace l).toList.map Place.value = l.frontValue.toList := by
  cases h : l.frontValue <;> simp [frontPlace, h]

theorem labels_frontPlace :
    (frontPlace l).toList.filterMap Place.label? = l.frontPair.toList := by
  cases hv : l.frontValue <;> cases hn : l.frontName <;>
    simp [frontPlace, Labels.frontPair, hv, hn, Place.of, Place.label?]

theorem parts_frontPlace :
    (frontPlace l).toList.filterMap Place.part? = (unnamedFront l).toList := by
  cases hv : l.frontValue <;> cases hn : l.frontName <;>
    simp [frontPlace, unnamedFront, hv, hn, Place.of, Place.part?]

theorem names_frontPlace :
    ((frontPlace l).toList.filterMap Place.label?).map (·.1) =
      (l.frontName.filter fun _ => l.frontValue.isSome).toList := by
  cases hv : l.frontValue <;> cases hn : l.frontName <;>
    simp [frontPlace, hv, hn, Place.of, Place.label?, Option.filter]

end Front

section Places

variable (l : Labels)

theorem map_value_places :
    (places l).map Place.value = l.frontValue.toList ++ l.backValues := by
  rw [places, List.map_append, map_value_frontPlace, map_value_backPlaces]

theorem labels_places : (places l).filterMap Place.label? = l.pairs := by
  rw [places, List.filterMap_append, labels_frontPlace, labels_backPlaces, Labels.pairs]

theorem parts_places :
    (places l).filterMap Place.part? = (unnamedFront l).toList ++ unnamedBack l := by
  rw [places, List.filterMap_append, parts_frontPlace, parts_backPlaces, unnamedBack]

theorem labelPairs_eq : labelPairs l = ((places l).filterMap Place.label?).map
    (fun (name, value) => (sanitizeKey name, value)) := by
  rw [labels_places]
  rfl

/-- Only names that have a value become keys. -/
theorem map_fst_labelPairs : (labelPairs l).map (·.1) =
    ((l.frontName.filter fun _ => l.frontValue.isSome).toList ++
      l.backNames.take l.backValues.length).map sanitizeKey := by
  rw [← names_frontPlace, ← names_backPlaces, ← List.map_append, ← List.filterMap_append,
    ← places, labelPairs_eq, List.map_map, List.map_map]
  rfl

theorem map_snd_labelPairs :
    (labelPairs l).map (·.2) = ((places l).filterMap Place.label?).map (·.2) := by
  rw [labelPairs_eq, List.map_map]
  rfl

theorem familyParts_eq (app : Option String) (kind : Kind) : familyParts app l kind =
    (app.filter (!Text.isBlank ·)).toList ++ (frontPlace l).toList.filterMap Place.part? ++
      l.name :: (backPlaces l.backNames l.backValues).filterMap Place.part? ++
        if kind.suffix.isEmpty then [] else [kind.suffix] := by
  rw [parts_frontPlace, parts_backPlaces]
  rfl

end Places

/-- What goes under keys and what goes into the name is together all there is. -/
theorem labels_append_parts_perm (ps : List Place) :
    ((ps.filterMap Place.label?).map (·.2) ++ ps.filterMap Place.part?).Perm
      (ps.map Place.value) := by
  induction ps with
  | nil => exact .nil
  | cons p ps ih =>
    cases p with
    | label name value => exact ih.cons value
    | part value => exact List.perm_middle.trans (ih.cons value)

theorem labels_sublist (ps : List Place) :
    ((ps.filterMap Place.label?).map (·.2)).Sublist (ps.map Place.value) := by
  induction ps with
  | nil => exact .slnil
  | cons p ps ih =>
    cases p with
    | label name value => exact ih.cons_cons value
    | part value => exact ih.cons value

theorem parts_sublist (ps : List Place) :
    (ps.filterMap Place.part?).Sublist (ps.map Place.value) := by
  induction ps with
  | nil => exact .slnil
  | cons p ps ih =>
    cases p with
    | label name value => exact ih.cons value
    | part value => exact ih.cons_cons value

/-- Each value goes to one place, under a key or into the name of the family before it is made
valid, and nothing else but the base name, the application and the suffix of the kind is written.
The values under keys and those in the name are, each in order, all values of the labels, and only
names that have a value become keys. -/
theorem values_placed_once (app : Option String) (l : Labels) (kind : Kind) :
    let values := l.frontValue.toList ++ l.backValues
    let keyed := (labelPairs l).map (·.2)
    let unkeyed := (places l).filterMap Place.part?
    (places l).map Place.value = values ∧
      labelPairs l = ((places l).filterMap Place.label?).map
        (fun (name, value) => (sanitizeKey name, value)) ∧
      familyName app l kind = sanitizeName (Text.joinWith '_'
        ((app.filter (!Text.isBlank ·)).toList ++ (frontPlace l).toList.filterMap Place.part? ++
          l.name :: (backPlaces l.backNames l.backValues).filterMap Place.part? ++
            if kind.suffix.isEmpty then [] else [kind.suffix])) ∧
      unkeyed = (unnamedFront l).toList ++ unnamedBack l ∧
      (keyed ++ unkeyed).Perm values ∧ keyed.Sublist values ∧ unkeyed.Sublist values ∧
      (labelPairs l).map (·.1) =
        ((l.frontName.filter fun _ => l.frontValue.isSome).toList ++
          l.backNames.take l.backValues.length).map sanitizeKey := by
  intro values keyed unkeyed
  have hvalues : (places l).map Place.value = values := map_value_places l
  have hkeyed : keyed = ((places l).filterMap Place.label?).map (·.2) := map_snd_labelPairs l
  refine ⟨hvalues, labelPairs_eq l, ?_, parts_places l, ?_, ?_, ?_, map_fst_labelPairs l⟩
  · rw [familyName, familyParts_eq]
  · rw [hkeyed, ← hvalues]
    exact labels_append_parts_perm (places l)
  · rw [hkeyed, ← hvalues]
    exact labels_sublist (places l)
  · rw [← hvalues]
    exact parts_sublist (places l)

/-- A name in front without a value goes nowhere, and of three values two find a name. -/
example :
    let l : Labels :=
      { name := "requests", frontName := some "host", backNames := ["op", "code"],
        backValues := ["read", "200", "slow"] }
    places l = [.label "op" "read", .label "code" "200", .part "slow"] := by
  decide

end Telemetry.Exposition
