import Telemetry.Text.Blank
import Telemetry.Text.Segments
/-!
# Process tags

Every snapshot carries the tags of the process it came from. The tags that are not blank are the
front part of a written path.
-/
namespace Telemetry

/-- Where a process runs. -/
structure Tags where
  env : Option String := none
  appName : Option String := none
  region : Option String := none
  cluster : Option String := none
  hostname : Option String := none
deriving DecidableEq, Repr, Inhabited

namespace Tags

/-- The tags that hold more than white space, in their fixed order. -/
def values (t : Tags) : List String :=
  [t.env, t.appName, t.region, t.cluster, t.hostname].filterMap
    fun tag => tag.filter (!Text.isBlank ·)

def path (t : Tags) (sep : Char) : String :=
  Text.joinWith sep t.values

theorem not_isBlank_of_mem_values {t : Tags} {s : String} (h : s ∈ t.values) :
    Text.isBlank s = false := by
  simp only [values, List.mem_filterMap] at h
  obtain ⟨tag, -, htag⟩ := h
  cases tag with
  | none => simp at htag
  | some u =>
    simp only [Option.filter_eq_some_iff, Option.some.injEq] at htag
    obtain ⟨rfl, hu⟩ := htag
    simpa using hu

end Tags

end Telemetry
