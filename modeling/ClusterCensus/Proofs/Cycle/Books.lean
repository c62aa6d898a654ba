import ClusterCensus.Proofs.Cycle.Counts
import ClusterCensus.Proofs.Cycle.Nodes
import ClusterCensus.Proofs.Cycle.Stages
import ClusterCensus.Proofs.Cycle.Watch

/-!
# The books of a cycle balance

A cycle that returns has tried to write every record of its pods and then every record of its nodes.
A record either has a line, which has been written in its place, or it holds an integer that is too
long to be written; then it has been left out with a warning, and the others are not touched by it.

## Main result

`books_balance`: the lines, the counters and the warnings of a cycle that returns.
-/
namespace ClusterCensus

/-! ### The lines of a script -/

namespace Script

variable {now : Moment}

/-- Work that hands over records of one kind alone writes their lines alone. -/
theorem lines_of_quiet {script : Script Unit} (kind other : RecordKind) (different : kind ≠ other)
    (quiet : script.IsQuiet other) :
    script.events.filterMap CycleEvent.line? = (script.handed kind).filterMap Fields.line? := by
  rw [handed, List.filterMap_filterMap]
  refine List.filterMap_congr fun event member => ?_
  have silent := quiet event member
  -- A record is of one kind or the other, and there is none of the other.
  cases event with
  | record of fields => cases kind <;> cases other <;> cases of <;>
      simp [CycleEvent.handed?, CycleEvent.line?] at different silent ⊢
  | _ => rfl

/-- The lines of a script are those of its pod records, followed by those of its node records. -/
theorem lines_ofSnapshot (now : Moment) (snapshot : Snapshot) :
    (ofSnapshot now snapshot).events.filterMap CycleEvent.line? =
      ((ofSnapshot now snapshot).handed .pod ++
        (ofSnapshot now snapshot).handed .node).filterMap Fields.line? := by
  have silent : (survey now snapshot).events.filterMap CycleEvent.line? = [] :=
    List.filterMap_eq_nil_iff.mpr (silent_survey now snapshot)
  have quiet (kind : RecordKind) : (survey now snapshot).handed kind = [] :=
    (isQuiet_survey now snapshot).handed
  rw [ofSnapshot_eq]
  cases surveyed : (survey now snapshot).outcome with
  | error fault =>
    rw [Trace.bind_events_of_error surveyed, handed_bind_of_error surveyed,
      handed_bind_of_error surveyed, silent, quiet, quiet]
    rfl
  | ok found =>
    -- After the survey come the records of the census, and then the nodes.
    have offered : (offerPods found.2.settled).outcome = .ok () := rfl
    have podsOnly : (offerPods found.2.settled).IsQuiet .node :=
      List.filterMap_eq_nil_iff.mp (handed_offerPods_node found.2.settled)
    have nodesOnly : (scanNodes found.1 now found.2 snapshot.nodes).IsQuiet .pod :=
      isQuiet_scanNodes _ _ _ _
    rw [Trace.bind_events_of_ok surveyed, handed_bind_of_ok surveyed, handed_bind_of_ok surveyed,
      List.filterMap_append, silent, quiet, quiet, emission, Trace.bind_events_of_ok offered,
      handed_bind_of_ok offered, handed_bind_of_ok offered, List.filterMap_append,
      lines_of_quiet .pod .node (by simp) podsOnly, lines_of_quiet .node .pod (by simp) nodesOnly,
      podsOnly.handed, nodesOnly.handed]
    simp

end Script

/-! ### Warnings -/

def Entry.warning? : Entry → Option Note
  | .note told => if told.level = .warning then some told else none
  | _ => none

/-! ### Sound events -/

section Sound

variable {events : List CycleEvent}

/-- The records of a cycle hold plain values alone. -/
theorem plain_of_sound (sound : ∀ event ∈ events, event.IsSound) (kind : RecordKind) :
    ∀ fields ∈ events.filterMap (CycleEvent.handed? kind), ∀ field ∈ fields,
      field.2.isPlain = true := by
  intro fields member
  obtain ⟨event, inside, handed⟩ := List.mem_filterMap.mp member
  have one := sound event inside
  -- Only a record hands over fields.
  cases event with
  | record of own =>
    simp only [CycleEvent.handed?, Option.ite_none_right_eq_some, Option.some.injEq] at handed
    obtain ⟨-, rfl⟩ := handed
    exact one
  | _ => cases handed

theorem length_writtenLines (sound : ∀ event ∈ events, event.IsSound) (kind : RecordKind) :
    (writtenLines kind events).length =
      (events.filterMap (CycleEvent.handed? kind)).countP (¬Fields.HasLongInteger ·) :=
  Fields.length_lines_of_plain (plain_of_sound sound kind)

theorem length_leftOut (sound : ∀ event ∈ events, event.IsSound) (kind : RecordKind) :
    (leftOut kind events).length =
      (events.filterMap (CycleEvent.handed? kind)).countP (Fields.HasLongInteger ·) :=
  Fields.length_filter_isNone_of_plain (plain_of_sound sound kind)

/-- The only warnings that are told while sound events are followed are those of records left out,
one for each. -/
theorem warnings_of_sound (sound : ∀ event ∈ events, event.IsSound) :
    (events.filterMap CycleEvent.entered?).filterMap Entry.warning? =
      List.replicate ((leftOut .pod events).length + (leftOut .node events).length)
        (.recordDropped .longInteger) := by
  induction events with
  | nil => rfl
  | cons event rest ih =>
    have later := ih fun other member => sound other (.tail _ member)
    have one := sound event (.head _)
    simp only [leftOut, List.filterMap_cons] at later ⊢
    cases event with
    | note told =>
      have unremarkable : told.level ≠ .warning := Note.IsFinding.not_warning one
      simpa [CycleEvent.entered?, Entry.warning?, unremarkable, CycleEvent.handed?] using later
    | podScanned => simpa [CycleEvent.entered?, CycleEvent.handed?] using later
    | podSkipped => simpa [CycleEvent.entered?, CycleEvent.handed?] using later
    | nodeScanned => simpa [CycleEvent.entered?, CycleEvent.handed?] using later
    | record kind fields =>
      rcases Fields.line_of_plain one with ⟨-, fails⟩ | ⟨-, line, written⟩
      · -- A record without a line leaves a warning in its place.
        have unwritten : fields.line? = none := by rw [Fields.line?, fails]; rfl
        have entry : (CycleEvent.record kind fields).entered? =
            some (.note (.recordDropped .longInteger)) := by rw [CycleEvent.entered?, fails]
        have warned : Entry.warning? (.note (.recordDropped .longInteger)) =
            some (.recordDropped .longInteger) := rfl
        rw [entry, List.filterMap_cons_some warned, later, ← List.replicate_succ]
        congr 1
        cases kind <;> simp [CycleEvent.handed?, unwritten] <;> omega
      · have kept : fields.line? = some line := by rw [Fields.line?, written]; rfl
        have entry : (CycleEvent.record kind fields).entered? = some (.line line) := by
          rw [CycleEvent.entered?, written]
        have unremarkable : Entry.warning? (.line line) = none := rfl
        rw [entry, List.filterMap_cons_none unremarkable, later]
        cases kind <;> simp [CycleEvent.handed?, kept]

end Sound

/-! ### The counters of a script -/

/-- A script that goes through counts every pod and every node, and each record that it hands over
as written or as left out. -/
theorem Script.count_of_ok {now : Moment} {snapshot : Snapshot}
    (ended : (ofSnapshot now snapshot).outcome = .ok ()) :
    (ofSnapshot now snapshot).events.foldl CycleSummary.count (.begin now) =
      { startedAt := now
        podsScanned := snapshot.pods.length
        podsSkipped := snapshot.pods.countP (!·.isKept)
        podRecords := ((ofSnapshot now snapshot).handed .pod).countP (¬Fields.HasLongInteger ·)
        nodesScanned := snapshot.nodes.length
        nodeRecords := ((ofSnapshot now snapshot).handed .node).countP (¬Fields.HasLongInteger ·)
        serializationFailures :=
          ((ofSnapshot now snapshot).handed .pod ++ (ofSnapshot now snapshot).handed .node).countP
            (Fields.HasLongInteger ·) } := by
  have whole := ended
  rw [ofSnapshot_eq] at whole
  obtain ⟨found, surveyed, emitted⟩ := Trace.bind_outcome_ok_iff.mp whole
  -- Pods are counted in the survey, nodes in the emission, and neither in the other.
  obtain ⟨podsScanned, podsSkipped, noNodes⟩ := countP_survey surveyed
  have podless : (emission now snapshot.nodes found).Leaves IsPodless := podless_emission _ _
  have noPods : (emission now snapshot.nodes found).events.countP CycleEvent.isPodScanned = 0 :=
    Trace.Leaves.countP_eq_zero fun event member => (podless event member).1
  have noSkipped : (emission now snapshot.nodes found).events.countP CycleEvent.isPodSkipped = 0 :=
    Trace.Leaves.countP_eq_zero fun event member => (podless event member).2
  have events : (ofSnapshot now snapshot).events =
      (survey now snapshot).events ++ (emission now snapshot.nodes found).events := by
    rw [ofSnapshot_eq, Trace.bind_events_of_ok surveyed]
  have scanned : (ofSnapshot now snapshot).events.countP CycleEvent.isPodScanned =
      snapshot.pods.length := by
    rw [events, List.countP_append, podsScanned, noPods, Nat.add_zero]
  have skipped : (ofSnapshot now snapshot).events.countP CycleEvent.isPodSkipped =
      snapshot.pods.countP (!·.isKept) := by
    rw [events, List.countP_append, podsSkipped, noSkipped, Nat.add_zero]
  have nodes : (ofSnapshot now snapshot).events.countP CycleEvent.isNodeScanned =
      snapshot.nodes.length := by
    rw [events, List.countP_append, noNodes, countP_emission emitted, Nat.zero_add]
  have sound := ofSnapshot_sound now snapshot
  rw [CycleSummary.foldl_count, scanned, skipped, nodes, length_writtenLines sound,
    length_writtenLines sound, length_leftOut sound, length_leftOut sound]
  simp [CycleSummary.begin, handed]

/-! ### What a cycle leaves behind -/

namespace Collector.Passes

variable {w : Surroundings} {gateway : Gateway} {cluster : Cluster} {c : Collector}
  {now finished : Moment} {snapshot : Snapshot} {p : Progress}
  (passes : Passes w gateway cluster c now finished snapshot p)
include passes

/-- The records without an integer that is too long have been written in order. -/
theorem written_lines :
    ∃ lines, (c.cycle w gateway cluster).2.lines = c.lines ++ lines ∧
      List.Forall₂ (fun fields line => Value.line (.object fields) = .ok line)
        (((Script.ofSnapshot now snapshot).handed .pod ++
          (Script.ofSnapshot now snapshot).handed .node).filter (¬Fields.HasLongInteger ·))
        lines := by
  have sound := Script.ofSnapshot_sound now snapshot
  refine ⟨_, passes.lines_eq, ?_⟩
  rw [Script.lines_ofSnapshot]
  refine Fields.lines_of_plain fun fields member => ?_
  -- The records are those of both kinds.
  rcases List.mem_append.mp member with member | member
  · exact plain_of_sound sound .pod fields member
  · exact plain_of_sound sound .node fields member

/-- Each of the other records has left a warning. -/
theorem warnings_eq :
    ∃ added, (c.cycle w gateway cluster).2.journal = c.journal ++ added ∧
      added.filterMap Entry.warning? =
        List.replicate
          (((Script.ofSnapshot now snapshot).handed .pod ++
            (Script.ofSnapshot now snapshot).handed .node).countP (Fields.HasLongInteger ·))
          (.recordDropped .longInteger) := by
  have sound := Script.ofSnapshot_sound now snapshot
  refine ⟨_, passes.journal_eq, ?_⟩
  -- Neither the requests nor the closing note are warnings.
  have requests : ((gateway.snapshot cluster).events.map Entry.request).filterMap
      Entry.warning? = [] := by
    simp [List.filterMap_map, Function.comp_def, Entry.warning?]
  rw [List.filterMap_append, List.filterMap_append, requests, warnings_of_sound sound,
    length_leftOut sound, length_leftOut sound, List.countP_append]
  exact List.append_nil _

end Collector.Passes

/-! ## Main result -/

/-- The books of a cycle that has tried to write these records of pods and these of nodes. -/
structure Collector.Balances (c : Collector) (snapshot : Snapshot) (pods nodes : List Fields)
    (s : CycleSummary) (next : Collector) : Prop where
  /-- Precisely the records with an integer that is too long are left out. -/
  lines : ∃ lines, next.lines = c.lines ++ lines ∧
    List.Forall₂ (fun fields line => Value.line (.object fields) = .ok line)
      ((pods ++ nodes).filter (¬Fields.HasLongInteger ·)) lines
  podsScanned : s.podsScanned = snapshot.pods.length
  podsSkipped : s.podsSkipped = snapshot.pods.countP (!·.isKept)
  nodesScanned : s.nodesScanned = snapshot.nodes.length
  podRecords : s.podRecords = pods.countP (¬Fields.HasLongInteger ·)
  nodeRecords : s.nodeRecords = nodes.countP (¬Fields.HasLongInteger ·)
  failures : s.serializationFailures = (pods ++ nodes).countP (Fields.HasLongInteger ·)
  warnings : ∃ added, next.journal = c.journal ++ added ∧
    added.filterMap Entry.warning? =
      List.replicate ((pods ++ nodes).countP (Fields.HasLongInteger ·))
        (.recordDropped .longInteger)
  sum : s.podRecords + s.nodeRecords + s.serializationFailures = (pods ++ nodes).length
  error : s.error = none
  finished : s.finishedAt.isSome
  last : next.last = some s

open Collector in
/-- When a cycle returns, it has tried to write the settled records of its census and then those of
the nodes that were given one, in order, and its books balance. -/
theorem books_balance (w : Surroundings) (gateway : Gateway) (cluster : Cluster) (c : Collector)
    (s : CycleSummary) (returned : (c.cycle w gateway cluster).1 = .ok s) :
    ∃ now snapshot usage census attempts,
      w.clock c.readings = .ok now ∧ (gateway.snapshot cluster).outcome = .ok snapshot ∧
      (Script.survey now snapshot).outcome = .ok (usage, census) ∧
      List.Forall₂ (fun node attempt => (census.visitNode usage now node).outcome = .ok attempt)
        snapshot.nodes attempts ∧
      c.Balances snapshot (census.settled.map ContainerRecord.fields)
        ((attempts.filterMap id).map NodeRecord.fields) s (c.cycle w gateway cluster).2 := by
  obtain ⟨now, finished, snapshot, p, passes⟩ := passes_of_returned returned
  rcases Script.ofSnapshot_cases now snapshot with
    ⟨fault, failed, -⟩ |
      ⟨podUsage, usage, census, podIndexed, nodeIndexed, scanned, ended, pods, nodes⟩
  · rw [passes.ended] at failed
    cases failed
  obtain ⟨attempts, visits, handed⟩ := Script.scanNodes_ok (ended ▸ passes.ended)
  have surveyed : (Script.survey now snapshot).outcome = .ok (usage, census) :=
    Script.survey_ok_iff.mpr ⟨podUsage, podIndexed, nodeIndexed, scanned⟩
  refine ⟨now, snapshot, usage, census, attempts, passes.reading, passes.fetched, surveyed, visits,
    ?_⟩
  have counted := passes.took.summary.trans (Script.count_of_ok passes.ended)
  have cycle := passes.cycle_eq
  rw [cycle] at returned
  obtain rfl : { p.summary with finishedAt := some finished } = s := Except.ok.inj returned
  -- The attempted records are those that the script has handed over.
  rw [← pods, ← nodes.trans handed]
  constructor
  · exact passes.written_lines
  · rw [counted]
  · rw [counted]
  · rw [counted]
  · rw [counted]
  · rw [counted]
  · rw [counted]
  · exact passes.warnings_eq
  · rw [counted]
    have podSum := Fields.countP_add_countP ((Script.ofSnapshot now snapshot).handed .pod)
    have nodeSum := Fields.countP_add_countP ((Script.ofSnapshot now snapshot).handed .node)
    simp only [List.countP_append, List.length_append]
    omega
  · rw [counted]
  · rfl
  · rw [cycle]

/-! ### A sample -/

namespace Sample

/-- A clock that ticks, and a sink that takes every line. -/
def calm : Surroundings where
  clock := fun n => .ok ⟨n, none⟩
  sink := fun _ => none

def response (fields : Fields) : Value :=
  .object [("items", .list [.object fields])]

/-- The pod of the sample with a priority of 4301 digits, on its node. -/
def heavy : Cluster where
  pods := .ok [{ pod with spec := some ⟨some "alpha", some (10 ^ 4300), none,
    [container "web" (some "web:v1")], []⟩ }]
  nodes := .ok [node]
  metrics
    | .pods => .ok (response
        [("metadata", .object [("name", .text "shop"), ("namespace", .text "default")]),
          ("containers", .list [entry "web" 1])])
    | .nodes => .ok (response [("metadata", .object [("name", .text "alpha")]),
        ("usage", .object [("cpu", .int 1)])])

end Sample

open Collector in
/-- The record of the pod is left out and that of the node is written. -/
theorem books_balance_sample :
    ∃ s, (({} : Collector).cycle Sample.calm ⟨true, 5⟩ Sample.heavy).1 = .ok s ∧
      s.podsScanned = 1 ∧ s.podRecords = 0 ∧ s.nodeRecords = 1 ∧ s.serializationFailures = 1 := by
  obtain ⟨p, passes⟩ : ∃ p, Passes Sample.calm ⟨true, 5⟩ Sample.heavy {} ⟨0, none⟩ ⟨1, none⟩ _ p :=
    passes_of_open (fun _ => rfl) rfl rfl rfl rfl
  have returned := congrArg Prod.fst passes.cycle_eq
  obtain ⟨now, snapshot, usage, census, attempts, reading, fetched, surveyed, visits, books⟩ :=
    books_balance Sample.calm ⟨true, 5⟩ Sample.heavy {} _ returned
  -- The theorem finds what the collector has worked on, which is the sample.
  obtain rfl : ⟨0, none⟩ = now := Except.ok.inj reading
  obtain rfl := Except.ok.inj fetched
  obtain ⟨rfl, rfl⟩ := Prod.mk.inj (Except.ok.inj surveyed)
  obtain ⟨attempt, _, visited, ⟨⟩, rfl⟩ := List.forall₂_cons_left_iff.mp visits
  obtain rfl := Except.ok.inj visited
  refine ⟨_, returned, books.podsScanned, books.podRecords.trans ?_, books.nodeRecords.trans ?_,
    books.failures.trans ?_⟩ <;> decide +kernel

end ClusterCensus
