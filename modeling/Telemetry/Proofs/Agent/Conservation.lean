import Telemetry.Proofs.Agent.Publishing
import Telemetry.Proofs.Float.Integers
/-!
# Conservation of counters

Main statement: whether the agent turns a counter into amounts or a publisher does, the amounts that
the publisher receives add up to what was tracked, and a publisher that takes no amounts receives
the totals. All sums are sums of integers, none of which is rounded.
-/
namespace Telemetry

open Floats

/-- The sums of the first numbers of a list, with `before` added to each. -/
def runningSums (before : ℤ) : List ℤ → List ℤ
  | [] => []
  | n :: ns => (before + n) :: runningSums (before + n) ns

theorem runningSums_concat (before : ℤ) (ns : List ℤ) (n : ℤ) :
    runningSums before (ns ++ [n]) = runningSums before ns ++ [before + ns.sum + n] := by
  induction ns generalizing before with
  | nil => rw [List.sum_nil, add_zero]; rfl
  | cons k ns ih =>
    rw [List.cons_append, runningSums, ih, List.sum_cons, ← add_assoc]
    rfl

/-- The differences of running sums are the numbers that were summed up. -/
theorem isInt_changes {xs : List Float} {ns : List ℤ} {before : ℤ} {last : Float}
    (h : List.Forall₂ IsInt xs (runningSums before ns)) (hl : IsInt last before)
    (hn : ∀ n ∈ ns, |n| < 2 ^ 53) : List.Forall₂ IsInt (Snapshot.changes last xs) ns := by
  induction ns generalizing xs before last with
  | nil =>
    cases h
    exact .nil
  | cons n ns ih =>
    rw [runningSums] at h
    obtain ⟨x, xs, hx, hxs, rfl⟩ := List.forall₂_cons_right_iff.1 h
    have hd : before + n - before = n := add_sub_cancel_left before n
    have hc := hx.sub hl (by rw [hd]; exact hn n List.mem_cons_self)
    rw [hd] at hc
    exact .cons hc (ih hxs hx fun k hk => hn k (List.mem_cons_of_mem n hk))

namespace Ledger

/-- The values tracked before the last cycle that sent the metric. -/
def reported (l : Ledger) : List Float :=
  l.closed.flatMap (·.1)

/-- What was tracked in each closed window. -/
def amounts (l : Ledger) : List ℤ :=
  l.closed.map fun window => intSum window.1

/-- What was tracked up to the end of each closed window. -/
def totals (l : Ledger) : List ℤ :=
  runningSums 0 l.amounts

theorem sum_amounts (l : Ledger) : l.amounts.sum = intSum l.reported := by
  rw [amounts, reported]
  induction l.closed with
  | nil => rfl
  | cons window closed ih =>
    rw [List.map_cons, List.sum_cons, ih, List.flatMap_cons, intSum_append]

theorem amounts_report (l : Ledger) (x : Float) :
    (l.report x).amounts = l.amounts ++ [intSum l.current] := by
  rw [amounts, amounts, report, List.map_append]
  rfl

theorem totals_report (l : Ledger) (x : Float) :
    (l.report x).totals = l.totals ++ [intSum l.values] := by
  rw [totals, amounts_report, runningSums_concat, sum_amounts, zero_add, ← intSum_append]
  rfl

end Ledger

/-- What the counter holds and what was sent of it are sums of integers. -/
structure Tallied (resets : Bool) (l : Ledger) : Prop where
  held : IsInt ((l.counted resets).foldl (· + ·) 0) (intSum (l.counted resets))
  sent : List.Forall₂ IsInt (l.closed.map (·.2)) (if resets then l.amounts else l.totals)

/-- The values tracked in a run are integers, and neither a sum that the counter at `ref` holds nor
an amount of one of its windows reaches 2 ^ 53. -/
structure World.Exact {κ : Type} [BufferedClient κ] (ref : MetricRef) (w : World κ) (l : Ledger)
    (activities : List Activity) : Prop where
  isInt : ∀ x ∈ activities.filterMap (Activity.trackedOn? ref), IsInt x (toInt x)
  held : ∀ before after, activities = before ++ after →
    |intSum ((Ledger.along ref w l before).counted (w.agent.config.resets .count))| < 2 ^ 53
  amounts : ∀ n ∈ (Ledger.along ref w l activities).amounts, |n| < 2 ^ 53

namespace Tallied

variable {resets : Bool} {l : Ledger}

theorem empty (resets : Bool) : Tallied resets {} where
  held := by cases resets <;> exact IsInt.zero
  sent := by cases resets <;> exact .nil

theorem track (h : Tallied resets l) {x : Float} (hx : IsInt x (toInt x))
    (hs : |intSum ((l.track x).counted resets)| < 2 ^ 53) : Tallied resets (l.track x) where
  held := by
    have hi : intSum [x] = toInt x := List.sum_singleton
    rw [Ledger.counted_track, intSum_append, hi] at hs
    rw [Ledger.counted_track, intSum_append, hi, List.foldl_append]
    exact h.held.add hx hs
  sent := h.sent

theorem report (h : Tallied resets l) {x : Float} (hx : x = (l.counted resets).foldl (· + ·) 0) :
    Tallied resets (l.report x) where
  held := by
    rw [Ledger.counted_report]
    split
    · exact IsInt.zero
    · exact h.held
  sent := by
    have hi := h.held
    have hs := h.sent
    rw [← hx] at hi
    rw [Ledger.amounts_report, Ledger.totals_report, Ledger.report, List.map_append]
    cases resets with
    | false => exact List.rel_append hs (.cons hi .nil)
    | true => exact List.rel_append hs (.cons hi .nil)

variable {κ : Type} {ref : MetricRef} {labels : Labels} {w : World κ}

theorem note (h : Tallied (w.agent.config.resets .count) l) (hb : Booked ref labels .count w l)
    {a : Activity} (hx : ∀ x ∈ a.trackedOn? ref, IsInt x (toInt x))
    (hs : |intSum ((l.note ref w a).counted (w.agent.config.resets .count))| < 2 ^ 53) :
    Tallied (w.agent.config.resets .count) (l.note ref w a) := by
  cases a with
  | track r now value =>
    rw [Ledger.note] at hs ⊢
    by_cases hr : r = ref
    · rw [if_pos hr] at hs ⊢
      exact h.track (hx value (by rw [Activity.trackedOn?, if_pos hr]; rfl)) hs
    · rwa [if_neg hr]
  | lookup b key => exact h
  | cycle now clock =>
    rw [Ledger.note]
    cases hr : w.reading now ref with
    | none => exact h
    | some s => exact h.report (hb.summarises_value hr)

theorem along [BufferedClient κ] {activities : List Activity} (h : Tallied (w.agent.config.resets .count) l)
    (hb : Booked ref labels .count w l) (he : w.Exact ref l activities) :
    Tallied (w.agent.config.resets .count) (Ledger.along ref w l activities) := by
  induction activities generalizing w l with
  | nil => exact h
  | cons a activities ih =>
    have hc : (w.act a).agent.config = w.agent.config := w.config_act a
    have hn : Tallied (w.agent.config.resets .count) (l.note ref w a) := by
      apply h.note hb
      · intro x hx
        apply he.isInt x
        rw [List.filterMap_cons, Option.mem_def.1 hx]
        exact List.mem_cons_self
      · exact he.held [a] activities rfl
    have ht : (w.act a).Exact ref (l.note ref w a) activities := by
      refine ⟨?_, ?_, he.amounts⟩
      · intro x hx
        obtain ⟨b, hb, hx⟩ := List.mem_filterMap.1 hx
        exact he.isInt x (List.mem_filterMap.2 ⟨b, List.mem_cons_of_mem a hb, hx⟩)
      · rintro before after rfl
        rw [hc]
        exact he.held (a :: before) after rfl
    rw [← hc] at hn ⊢
    exact ih hn (hb.act a) ht

end Tallied

/-- What a publisher received of a counter is what the ledger says was tracked. -/
structure Conserved (config : AgentConfig) (p : PublisherConfig) (l : Ledger) (xs : List Float) :
    Prop where
  amounts : config.counterReset = .agent ∨ p.resetCounters = true →
    List.Forall₂ IsInt xs l.amounts
  totals : config.counterReset = .publisher → p.resetCounters = false →
    List.Forall₂ IsInt xs l.totals
  sum : p.resetCounters = true → intSum xs = intSum l.reported

theorem Conserved.of_tallied {config : AgentConfig} {p : PublisherConfig} {l : Ledger}
    (h : Tallied (config.resets .count) l) (hs : ∀ n ∈ l.amounts, |n| < 2 ^ 53) :
    Conserved config p l (p.receipts config (l.closed.map (·.2))) := by
  have hx := h.sent
  have ha : config.counterReset = .agent ∨ p.resetCounters = true →
      List.Forall₂ IsInt (p.receipts config (l.closed.map (·.2))) l.amounts := by
    intro hr
    rw [PublisherConfig.receipts]
    cases hk : config.counterReset with
    | agent =>
      rw [if_pos (AgentConfig.resets_eq_true.2 (.inr hk))] at hx
      rwa [if_neg (by simp)]
    | publisher =>
      have hp : p.resetCounters = true := hr.resolve_left (by simp [hk])
      rw [AgentConfig.resets_eq_false.2 ⟨rfl, hk⟩, if_neg Bool.false_ne_true] at hx
      rw [if_pos ⟨hp, rfl⟩]
      exact isInt_changes hx IsInt.zero hs
  refine ⟨ha, ?_, ?_⟩
  · intro hk hp
    rw [AgentConfig.resets_eq_false.2 ⟨rfl, hk⟩, if_neg Bool.false_ne_true] at hx
    rwa [PublisherConfig.receipts, if_neg (by simp [hp])]
  · intro hp
    rw [intSum_of_forall₂ (ha (.inr hp)), l.sum_amounts]

namespace World

/-- What publisher `i` receives of a counter is conserved if its filters pass the counter, its
dispatches succeed and no other count is sent under the same labels. What it is handed would be the
same among any other publishers. -/
theorem conserved [Regex.Engine] {config : AgentConfig} {sources : Sources}
    {publishers others : List Publisher}
    {fleet : Fleet} {ref : MetricRef} {labels : Labels} (hc : config.validate = .ok ())
    (hp : ∀ p ∈ publishers, p.config.validate = .ok ())
    (ho : ∀ p ∈ others, p.config.validate = .ok ()) (hr : sources.Reaches ref)
    (hm : fleet.get? ref = some (.new labels .count)) :
    ∃ agent other,
      (Agent.ofPublishers config sources publishers).2 = .ok agent ∧
      (Agent.ofPublishers config sources others).2 = .ok other ∧
      ∀ activities : List Activity,
        let client := (run ⟨agent, fleet⟩ activities).agent.client
        let client' := (run ⟨other, fleet⟩ activities).agent.client
        let ledger := Ledger.along ref ⟨agent, fleet⟩ {} activities
        ledger.reported ++ ledger.current = activities.filterMap (Activity.trackedOn? ref) ∧
        (Exact ref ⟨agent, fleet⟩ {} activities →
          Unshared ref labels ⟨agent, fleet⟩ activities →
          ∀ i p, publishers[i]? = some p → p.config.Allows labels →
            (∀ entry ∈ client.handed i, entry.2.outcome = .published) →
            Conserved config p.config ledger (client.counts i labels)) ∧
        ∀ i j p, publishers[i]? = some p → others[j]? = some p →
          (client.handed i).map (·.1) = (client'.handed j).map (·.1) := by
  refine ⟨_, _, Agent.ofPublishers_of_valid sources hc hp, Agent.ofPublishers_of_valid sources hc ho,
    ?_⟩
  intro activities client client' ledger
  have hn : Booked ref labels .count (ofPublishers config sources publishers fleet) {} :=
    Booked.new hr hm
  refine ⟨Ledger.values_along activities, ?_, ?_⟩
  · intro he hu i p hi hf hd
    have hg : client.counts i labels = p.config.receipts config (ledger.closed.map (·.2)) :=
      counts_run hn hu hi hf hd
    rw [hg]
    exact .of_tallied ((Tallied.empty _).along hn he) he.amounts
  · intro i j p hi hj
    exact handed_run_eq config sources fleet activities hi hj

theorem Exact.of_sum_abs {κ : Type} [BufferedClient κ] {ref : MetricRef} {w : World κ}
    {activities : List Activity}
    (hx : ∀ x ∈ activities.filterMap (Activity.trackedOn? ref), IsInt x (toInt x))
    (hs : ((activities.filterMap (Activity.trackedOn? ref)).map fun x => |toInt x|).sum < 2 ^ 53) :
    Exact ref w {} activities where
  isInt := hx
  held := by
    rintro before after rfl
    refine (abs_intSum_le ?_).trans_lt hs
    have hv : (Ledger.along ref w {} before).values =
        before.filterMap (Activity.trackedOn? ref) := Ledger.values_along before
    rw [List.filterMap_append, ← hv, Ledger.counted]
    apply List.Sublist.trans _ (List.sublist_append_left _ _)
    split
    · exact List.sublist_append_right _ _
    · exact List.Sublist.refl _
  amounts := by
    intro n hn
    obtain ⟨window, hw, rfl⟩ := List.mem_map.1 hn
    refine (abs_intSum_le ?_).trans_lt hs
    have hv : (Ledger.along ref w {} activities).values =
        activities.filterMap (Activity.trackedOn? ref) := Ledger.values_along activities
    rw [← hv, Ledger.values]
    apply List.Sublist.trans _ (List.sublist_append_left _ _)
    rw [List.flatMap_def]
    exact List.sublist_flatten_of_mem (List.mem_map_of_mem hw)

theorem unshared_of_only {κ : Type} [BufferedClient κ] {ref : MetricRef} {w : World κ}
    (h : w.agent.sources = { metrics := [ref] }) (labels : Labels) (activities : List Activity) :
    w.Unshared ref labels activities := by
  intro before now clock after _
  have hs : (w.run before).agent.sources = { metrics := [ref] } := (w.sources_run before).trans h
  refine ⟨?_, ?_, ?_⟩
  · rw [hs]
    simp [Collection.provided]
  · rw [hs]
    intro r hr hne
    have hmem : r ∈ [ref] := by
      rw [Sources.live, List.mem_eraseDups, List.mem_filter] at hr
      simpa using hr.1
    exact absurd (List.mem_singleton.1 hmem) hne
  · rw [hs]
    simp

attribute [local instance] Regex.Engine.estimating

private def requests : Fleet :=
  { metrics := #[.new (.ofName "requests") .count] }

private def diffed : Publisher :=
  .memory { config := { PublisherConfig.named "diff" .memory with resetCounters := true } }

private def plain : Publisher :=
  .memory { config := .named "plain" .memory }

-- the second cycle comes too long after the first track to send the counter
private def calls : List Activity :=
  [.track (.alone 0) 1000000000 3, .cycle 2000000000 0, .cycle 90000000000 1,
    .track (.alone 0) 100000000000 5, .cycle 101000000000 2]

private theorem isInt_three : IsInt 3 3 := by
  have hu : (3 : Float).toModel.unpack = .finite .positive (3 * 2 ^ 51) (-51) (by decide) := rfl
  rw [IsInt, hu]
  norm_num [value, Float.Model.UnpackedFloat.Sign.apply]

private theorem isInt_five : IsInt 5 5 := by
  have hu : (5 : Float).toModel.unpack = .finite .positive (5 * 2 ^ 50) (-50) (by decide) := rfl
  rw [IsInt, hu]
  norm_num [value, Float.Model.UnpackedFloat.Sign.apply]

private theorem exact_calls {κ : Type} [BufferedClient κ] (w : World κ) :
    Exact (.alone 0) w {} calls := by
  have hc : calls.filterMap (Activity.trackedOn? (.alone 0)) = [3, 5] := rfl
  apply Exact.of_sum_abs
  · rw [hc]
    simp only [List.mem_cons, List.not_mem_nil, or_false, forall_eq_or_imp, forall_eq,
      isInt_three.toInt_eq, isInt_five.toInt_eq]
    exact ⟨isInt_three, isInt_five⟩
  · rw [hc]
    simp [isInt_three.toInt_eq, isInt_five.toInt_eq]

theorem requests_conserved :
    AgentConfig.validate {} = .ok () ∧ (∀ p ∈ [diffed, plain], p.config.validate = .ok ()) ∧
      Sources.Reaches { metrics := [.alone 0] } (.alone 0) ∧
      requests.get? (.alone 0) = some (.new (.ofName "requests") .count) ∧
      ∃ agent, (Agent.ofPublishers {} { metrics := [.alone 0] } [diffed, plain]).2 = .ok agent ∧
        (Ledger.along (.alone 0) ⟨agent, requests⟩ {} calls).closed.map (·.1) = [[3], [5]] ∧
        Conserved {} diffed.config (Ledger.along (.alone 0) ⟨agent, requests⟩ {} calls)
          ((run ⟨agent, requests⟩ calls).agent.client.counts 0 (.ofName "requests")) ∧
        Conserved {} plain.config (Ledger.along (.alone 0) ⟨agent, requests⟩ {} calls)
          ((run ⟨agent, requests⟩ calls).agent.client.counts 1 (.ofName "requests")) := by
  have hc : AgentConfig.validate {} = .ok () := rfl
  have hp : ∀ p ∈ [diffed, plain], p.config.validate = .ok () := by
    simp only [List.mem_cons, List.not_mem_nil, or_false, forall_eq_or_imp, forall_eq]
    decide
  have hr : Sources.Reaches { metrics := [.alone 0] } (.alone 0) :=
    ⟨.inl List.mem_cons_self, List.not_mem_nil⟩
  have hm : requests.get? (.alone 0) = some (.new (.ofName "requests") .count) := rfl
  obtain ⟨agent, other, ha, -, h⟩ := conserved hc hp hp hr hm
  obtain rfl := Except.ok.inj ((Agent.ofPublishers_of_valid _ hc hp).symm.trans ha)
  have he := exact_calls (ofPublishers {} { metrics := [.alone 0] } [diffed, plain] requests)
  have hu := unshared_of_only (w := ofPublishers {} { metrics := [.alone 0] } [diffed, plain] requests)
    rfl (.ofName "requests") calls
  refine ⟨hc, hp, hr, hm, _, ha, rfl, ?_, ?_⟩
  · apply (h calls).2.1 he hu 0 diffed rfl
    · exact fun s hs => rfl
    · decide +kernel
  · apply (h calls).2.1 he hu 1 plain rfl
    · exact fun s hs => rfl
    · decide +kernel

end World

end Telemetry
