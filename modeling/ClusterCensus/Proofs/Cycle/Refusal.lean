import ClusterCensus.Proofs.Cycle.Order
import ClusterCensus.Proofs.Cycle.Partial

/-!
# A sink that refuses a line

A sink may refuse the n-th line that a cycle offers. Up to that line the cycle goes on as it would
with a sink that takes every line, and there it ends: what has been written is the beginning of what
would have been written, and the summary has counted just that. If the cycle has fewer lines, the
refusal is never met.

## Main result

`refusal_truncates`: the two cases, for every cluster and every number of lines.
-/
namespace ClusterCensus

/-! ### A run up to a refusal -/

namespace Progress

variable {sink other : Nat → Option String} {p : Progress} {event : CycleEvent}

/-- An event with a line is an offer, whatever the sink. -/
theorem step_of_line {line : String} (written : event.line? = some line) (p : Progress) :
    ∃ kind, ∀ sink, p.step sink event = p.offer sink kind line := by
  -- Only a record has a line.
  cases event with
  | record kind fields =>
    rw [CycleEvent.line?, Fields.line?] at written
    refine ⟨kind, ?_⟩
    intro sink
    cases text : Value.line (.object fields) with
    | error cause => simp [text, Except.toOption] at written
    | ok own =>
      rw [text] at written
      obtain rfl : own = line := Option.some.inj written
      rw [step, text]
  | _ => cases written

/-- An event without a line does not come to the sink. -/
theorem step_of_no_line (unwritten : event.line? = none) (p : Progress) :
    ∃ next, next.offers = p.offers ∧ ∀ sink, p.step sink event = (next, none) := by
  refine ⟨(p.step (fun _ => none) event).1, ?_⟩
  cases event with
  | record kind fields =>
    rw [CycleEvent.line?, Fields.line?] at unwritten
    cases text : Value.line (.object fields) with
    | ok line => simp [text, Except.toOption] at unwritten
    | error cause =>
      -- A record without a line is dropped, whatever the sink would say.
      have dropped : ∀ sink, p.step sink (.record kind fields) = (p.drop cause, none) := by
        intro sink
        rw [step, text]
      rw [dropped]
      exact ⟨rfl, dropped⟩
  | _ => exact ⟨rfl, fun _ => rfl⟩

/-- A step offers one line to the sink, or none. -/
theorem step_offers (sink : Nat → Option String) (p : Progress) (event : CycleEvent) :
    (p.step sink event).1.offers = p.offers + event.line?.toList.length := by
  cases written : event.line? with
  | none =>
    obtain ⟨next, same, steps⟩ := step_of_no_line written p
    rw [steps]
    exact same
  | some line =>
    obtain ⟨kind, steps⟩ := step_of_line written p
    rw [steps, offer]
    cases sink p.offers <;> rfl

theorem step_congr (same : event.line?.isSome → sink p.offers = other p.offers) :
    p.step sink event = p.step other event := by
  cases written : event.line? with
  | none =>
    obtain ⟨next, -, steps⟩ := step_of_no_line written p
    rw [steps, steps]
  | some line =>
    obtain ⟨kind, steps⟩ := step_of_line written p
    have asked : sink p.offers = other p.offers := same (by rw [written]; rfl)
    rw [steps, steps, offer, offer, asked]

/-- A step goes on unless the sink refuses a line that it has. -/
theorem step_goes (takes : event.line?.isSome → sink p.offers = none) :
    (p.step sink event).2 = none := by
  cases written : event.line? with
  | none =>
    obtain ⟨next, -, steps⟩ := step_of_no_line written p
    rw [steps]
  | some line =>
    obtain ⟨kind, steps⟩ := step_of_line written p
    rw [steps, offer, takes (by rw [written]; rfl)]

/-- A refused line stops the run, and nothing is taken. -/
theorem step_of_refusal {line reason : String} (written : event.line? = some line)
    (refuses : sink p.offers = some reason) :
    (p.step sink event).2 = some (.sinkRefused reason) ∧ p.Took (p.step sink event).1 [] := by
  obtain ⟨kind, steps⟩ := step_of_line written p
  rw [steps, offer, refuses]
  exact ⟨rfl, .nothing rfl rfl⟩

theorem lines_pos {line : String} (written : event.line? = some line) (rest : List CycleEvent) :
    0 < event.line?.toList.length + (rest.filterMap CycleEvent.line?).length := by
  rw [written, Option.toList_some, List.length_singleton]
  omega

/-- Two sinks that agree on as many lines as the events have are followed in the same way. -/
theorem run_congr {events : List CycleEvent}
    (same : ∀ k, k < (events.filterMap CycleEvent.line?).length →
      sink (p.offers + k) = other (p.offers + k)) :
    p.run sink events = p.run other events := by
  induction events generalizing p with
  | nil => rfl
  | cons event rest ih =>
    rw [length_lines_cons] at same
    have stepped : p.step sink event = p.step other event := by
      apply step_congr
      intro asked
      obtain ⟨line, written⟩ := Option.isSome_iff_exists.mp asked
      exact same 0 (lines_pos written rest)
    have offered := step_offers other p event
    rw [run, run, stepped]
    generalize p.step other event = reached at offered
    obtain ⟨next, _ | fault⟩ := reached
    · -- The rest begins after the line of the event, if it has one.
      have behind : next.offers = p.offers + event.line?.toList.length := offered
      apply ih
      intro k below
      rw [behind, Nat.add_assoc]
      exact same _ (by omega)
    · rfl

theorem run_of_taken {events : List CycleEvent}
    (takes : ∀ k, k < (events.filterMap CycleEvent.line?).length → sink (p.offers + k) = none) :
    (p.run sink events).2 = none ∧
      (p.run sink events).1.offers =
        p.offers + (events.filterMap CycleEvent.line?).length := by
  induction events generalizing p with
  | nil => exact ⟨rfl, rfl⟩
  | cons event rest ih =>
    rw [length_lines_cons] at takes ⊢
    -- The first line is taken, if the event has one.
    have goes : (p.step sink event).2 = none := by
      apply step_goes
      intro asked
      obtain ⟨line, written⟩ := Option.isSome_iff_exists.mp asked
      exact takes 0 (lines_pos written rest)
    have offered := step_offers sink p event
    rw [run]
    generalize p.step sink event = reached at goes offered
    obtain ⟨next, fault⟩ := reached
    obtain rfl : fault = none := goes
    have behind : next.offers = p.offers + event.line?.toList.length := offered
    obtain ⟨ended, counted⟩ := ih (p := next) fun k below => by
      rw [behind, Nat.add_assoc]
      exact takes _ (by omega)
    refine ⟨ended, ?_⟩
    simp only [counted, behind, Nat.add_assoc]

/-- A run that is not stopped goes on with what follows. -/
theorem run_append {events later : List CycleEvent} (goes : (p.run sink events).2 = none) :
    p.run sink (events ++ later) = (p.run sink events).1.run sink later := by
  induction events generalizing p with
  | nil => rfl
  | cons event rest ih =>
    rw [run] at goes
    rw [List.cons_append, run, run]
    generalize p.step sink event = reached at goes
    obtain ⟨next, _ | fault⟩ := reached
    · exact ih goes
    · cases goes

/-- The line behind the first few is that of an event, and the events before it have the others. -/
theorem exists_nth_line {events : List CycleEvent} {n : Nat}
    (enough : n < (events.filterMap CycleEvent.line?).length) :
    ∃ taken event later line, events = taken ++ event :: later ∧
      (taken.filterMap CycleEvent.line?).length = n ∧ event.line? = some line := by
  induction events generalizing n with
  | nil => simp at enough
  | cons event rest ih =>
    -- An event without a line is passed over; the first with a line counts as one.
    cases written : event.line? with
    | none =>
      rw [List.filterMap_cons_none written] at enough
      obtain ⟨taken, other, later, line, rfl, count, has⟩ := ih enough
      refine ⟨event :: taken, other, later, line, rfl, ?_, has⟩
      rw [List.filterMap_cons_none written, count]
    | some line =>
      rw [List.filterMap_cons_some written, List.length_cons] at enough
      cases n with
      | zero => exact ⟨[], event, rest, line, rfl, rfl, written⟩
      | succ n =>
        obtain ⟨taken, other, later, line, rfl, count, has⟩ := ih (Nat.lt_of_succ_lt_succ enough)
        refine ⟨event :: taken, other, later, line, rfl, ?_, has⟩
        rw [List.filterMap_cons_some written, List.length_cons, count]

/-- When the sink takes some lines and refuses the next, a run that has so many stops there: it has
taken events with just the lines before. -/
theorem run_of_refusal {events : List CycleEvent} {n : Nat} {reason : String}
    (takes : ∀ k, k < n → sink (p.offers + k) = none)
    (refuses : sink (p.offers + n) = some reason)
    (enough : n < (events.filterMap CycleEvent.line?).length) :
    ∃ taken, taken <+: events ∧ (taken.filterMap CycleEvent.line?).length = n ∧
      p.Took (p.run sink events).1 taken ∧
      (p.run sink events).2 = some (.sinkRefused reason) := by
  obtain ⟨taken, event, later, line, rfl, count, written⟩ := exists_nth_line enough
  obtain ⟨goes, offered⟩ : (p.run sink taken).2 = none ∧
      (p.run sink taken).1.offers = p.offers + (taken.filterMap CycleEvent.line?).length := by
    apply run_of_taken
    rwa [count]
  obtain ⟨whole, -, took, complete⟩ := run_took sink p taken
  obtain rfl : whole = taken := complete goes
  rw [run_append goes]
  generalize (p.run sink whole).1 = reached at offered took
  -- The next line is offered at the place where the sink refuses.
  rw [count] at offered
  rw [← offered] at refuses
  obtain ⟨stops, nothing⟩ := step_of_refusal written refuses
  rw [run]
  generalize reached.step sink event = stepped at stops nothing
  obtain ⟨stopped, fault⟩ := stepped
  obtain rfl : fault = some (.sinkRefused reason) := stops
  refine ⟨whole, List.prefix_append _ _, count, ?_, rfl⟩
  have both := took.trans nothing
  rwa [List.append_nil] at both

end Progress

/-! ### Pods before nodes -/

theorem writtenLines_append (kind : RecordKind) (events later : List CycleEvent) :
    writtenLines kind (events ++ later) = writtenLines kind events ++ writtenLines kind later := by
  simp only [writtenLines, List.filterMap_append]

theorem writtenLines_of_quiet {kind : RecordKind} {events : List CycleEvent}
    (quiet : ∀ event ∈ events, event.handed? kind = none) : writtenLines kind events = [] := by
  rw [writtenLines, List.filterMap_eq_nil_iff.mpr quiet]
  rfl

namespace Script

variable {now : Moment} {snapshot : Snapshot}

/-- In the events of a script there is a place before which no node is handed over, and after which
no pod is. -/
theorem events_split (now : Moment) (snapshot : Snapshot) :
    ∃ before after, (ofSnapshot now snapshot).events = before ++ after ∧
      (∀ event ∈ before, event.handed? .node = none) ∧
      ∀ event ∈ after, event.handed? .pod = none := by
  rw [ofSnapshot_eq]
  cases surveyed : (survey now snapshot).outcome with
  | error fault =>
    refine ⟨_, [], ?_, isQuiet_survey now snapshot, by simp⟩
    rw [Trace.bind_events_of_error surveyed, List.append_nil]
  | ok found =>
    -- The place is that between the records of the census and the first node.
    have offered : (offerPods found.2.settled).outcome = .ok () := rfl
    refine ⟨(survey now snapshot).events ++ (offerPods found.2.settled).events,
      (scanNodes found.1 now found.2 snapshot.nodes).events, ?_, ?_, isQuiet_scanNodes _ _ _ _⟩
    · rw [Trace.bind_events_of_ok surveyed, emission, Trace.bind_events_of_ok offered,
        List.append_assoc]
    · intro event member
      rcases List.mem_append.mp member with member | member
      · exact isQuiet_survey now snapshot event member
      · exact List.filterMap_eq_nil_iff.mp (handed_offerPods_node _) event member

theorem lines_eq_written (now : Moment) (snapshot : Snapshot) :
    (ofSnapshot now snapshot).events.filterMap CycleEvent.line? =
      writtenLines .pod (ofSnapshot now snapshot).events ++
        writtenLines .node (ofSnapshot now snapshot).events := by
  rw [lines_ofSnapshot, List.filterMap_append]
  rfl

/-- A part of a script that has the line of a node has the lines of all pods. -/
theorem podLines_of_nodeLine {taken : List CycleEvent}
    (begins : taken <+: (ofSnapshot now snapshot).events)
    (written : writtenLines .node taken ≠ []) :
    writtenLines .pod taken = writtenLines .pod (ofSnapshot now snapshot).events := by
  obtain ⟨before, after, split, nodeless, podless⟩ := events_split now snapshot
  rw [split] at begins ⊢
  -- The part ends before the place where the nodes begin, or it goes beyond.
  rcases List.prefix_or_prefix_of_prefix begins (List.prefix_append _ _) with within | past
  · have none : writtenLines .node taken = [] :=
      writtenLines_of_quiet fun event member => nodeless event (within.subset member)
    exact absurd none written
  · obtain ⟨more, rfl⟩ := past
    have inside := (List.prefix_append_right_inj _).mp begins
    have quiet : ∀ event ∈ more, event.handed? .pod = none :=
      fun event member => podless event (inside.subset member)
    rw [writtenLines_append, writtenLines_append, writtenLines_of_quiet quiet,
      writtenLines_of_quiet podless]

/-- Of the first lines of a script, those of pods come first. -/
theorem podCount_of_prefix {taken : List CycleEvent} {n : Nat}
    (begins : taken <+: (ofSnapshot now snapshot).events)
    (count : (taken.filterMap CycleEvent.line?).length = n) :
    (writtenLines .pod taken).length =
      ((writtenLines .pod (ofSnapshot now snapshot).events).take n).length := by
  rw [length_lines] at count
  have within : (writtenLines .pod taken).length ≤
      (writtenLines .pod (ofSnapshot now snapshot).events).length := by
    obtain ⟨later, whole⟩ := begins
    rw [← whole, writtenLines_append, List.length_append]
    omega
  rw [List.length_take]
  -- Either all lines are those of pods, or none of a pod is missing.
  by_cases nodeless : writtenLines .node taken = []
  · rw [nodeless, List.length_nil] at count
    omega
  · have all := podLines_of_nodeLine begins nodeless
    rw [all] at count within ⊢
    omega

end Script

/-! ### A cycle up to a refusal -/

/-- The lines of a kind that a cycle begun at a moment has to write, if all its data is fetched. -/
def Gateway.lines (gateway : Gateway) (cluster : Cluster) (now : Moment) (kind : RecordKind) :
    List String :=
  match (gateway.snapshot cluster).outcome with
  | .error _ => []
  | .ok snapshot => writtenLines kind (Script.ofSnapshot now snapshot).events

namespace Collector

variable {w v : Surroundings} {gateway : Gateway} {cluster : Cluster} {c : Collector} {now : Moment}

theorem follow_congr (sameClock : v.clock = w.clock) {summary : CycleSummary} {script : Script Unit}
    (same : Progress.run v.sink ⟨summary, c.offers, c.journal⟩ script.events =
      Progress.run w.sink ⟨summary, c.offers, c.journal⟩ script.events) :
    c.follow v summary script = c.follow w summary script := by
  simp only [follow, complete, close, readClock, same, sameClock]

/-- A cycle is the same with sinks that agree on its lines. -/
theorem cycle_congr (sameClock : v.clock = w.clock) (reading : w.clock c.readings = .ok now)
    (same : ∀ k, k < (gateway.lines cluster now .pod ++ gateway.lines cluster now .node).length →
      v.sink (c.offers + k) = w.sink (c.offers + k)) :
    c.cycle v gateway cluster = c.cycle w gateway cluster := by
  have readingAgain : v.clock c.readings = .ok now := by rw [sameClock, reading]
  -- What is fetched does not depend on the sink.
  cases fetched : (gateway.snapshot cluster).outcome with
  | error cause =>
    rw [cycle_of_fetch_error reading fetched, cycle_of_fetch_error readingAgain fetched]
    simp only [abort, close, readClock, sameClock]
  | ok snapshot =>
    rw [cycle_of_snapshot reading fetched, cycle_of_snapshot readingAgain fetched]
    apply follow_congr sameClock
    apply Progress.run_congr
    intro k below
    apply same
    simp only [Gateway.lines, fetched, List.length_append]
    rwa [length_lines] at below

/-- A sink that takes every line gets the lines of the whole script. -/
theorem lines_of_follow (steady : w.Steady) (willing : ∀ n, w.sink n = none) (c : Collector)
    (now : Moment) (script : Script Unit) :
    (c.follow w (.begin now) script).2.lines =
      c.lines ++ script.events.filterMap CycleEvent.line? := by
  obtain ⟨taken, -, took, whole⟩ :=
    Progress.run_took w.sink ⟨.begin now, c.offers, c.journal⟩ script.events
  have goes := Progress.run_of_open willing ⟨.begin now, c.offers, c.journal⟩ script.events
  obtain rfl : taken = script.events := whole goes
  rcases ran : Progress.run w.sink ⟨.begin now, c.offers, c.journal⟩ script.events with
    ⟨p, refused⟩
  rw [ran] at took goes
  obtain rfl : refused = none := goes
  cases ended : script.outcome with
  | error fault =>
    rw [follow_of_fault ran ended]
    exact took.lines
  | ok value =>
    obtain ⟨finished, readAgain⟩ := steady (c.reach p).readings
    rw [follow_of_ok ran ended, complete_of_clock readAgain]
    -- The note at the end is no line.
    rw [lines, List.filterMap_append]
    exact (List.append_nil _).trans took.lines

theorem lines_eq_of_snapshot {snapshot : Snapshot}
    (fetched : (gateway.snapshot cluster).outcome = .ok snapshot) (kind : RecordKind) :
    gateway.lines cluster now kind = writtenLines kind (Script.ofSnapshot now snapshot).events := by
  rw [Gateway.lines, fetched]

/-- With a sink that takes every line, a cycle writes all lines that it has to write, also when it
is ended by a fault. -/
theorem lines_of_willing (steady : w.Steady) (willing : ∀ n, w.sink n = none)
    (reading : w.clock c.readings = .ok now) :
    (c.cycle w gateway cluster).2.lines =
      c.lines ++ (gateway.lines cluster now .pod ++ gateway.lines cluster now .node) := by
  have begins : (c.begun now (gateway.snapshot cluster).events).lines = c.lines :=
    filterMap_line?_begun c now (gateway.snapshot cluster).events
  cases fetched : (gateway.snapshot cluster).outcome with
  | error cause =>
    -- If not everything is fetched, nothing is written.
    obtain ⟨finished, readAgain⟩ := steady (c.readings + 1)
    have begun : w.clock (c.begun now (gateway.snapshot cluster).events).readings = .ok finished :=
      readAgain
    rw [cycle_of_fetch_error reading fetched, abort_of_clock begun]
    simp only [Gateway.lines, fetched, List.append_nil]
    exact begins
  | ok snapshot =>
    rw [cycle_of_snapshot reading fetched, lines_eq_of_snapshot fetched,
      lines_eq_of_snapshot fetched, ← Script.lines_eq_written, ← begins]
    exact lines_of_follow steady willing _ now (.ofSnapshot now snapshot)

/-- What a cycle leaves that the sink has ended after a number of its lines: these lines are written
and counted, and its summary has been neither closed nor marked. -/
structure Truncated (c : Collector) (pods nodes : List String) (n : Nat) (reason : String)
    (outcome : Except CycleFault CycleSummary) (next : Collector) : Prop where
  outcome : outcome = .error (.workFailed (.sinkRefused reason))
  lines : next.lines = c.lines ++ (pods ++ nodes).take n
  last : ∃ s, next.last = some s ∧ s.podRecords + s.nodeRecords = n ∧
    s.podRecords = (pods.take n).length ∧ s.error = none ∧ s.finishedAt = none

/-- A script that is refused a line has written those before it, and nothing else. -/
theorem truncated_of_follow (c : Collector) (now : Moment) (snapshot : Snapshot) {n : Nat}
    {reason : String} (takes : ∀ k, k < n → v.sink (c.offers + k) = none)
    (refuses : v.sink (c.offers + n) = some reason)
    (enough : n < ((Script.ofSnapshot now snapshot).events.filterMap CycleEvent.line?).length) :
    c.Truncated (writtenLines .pod (Script.ofSnapshot now snapshot).events)
      (writtenLines .node (Script.ofSnapshot now snapshot).events) n reason
      (c.follow v (.begin now) (.ofSnapshot now snapshot)).1
      (c.follow v (.begin now) (.ofSnapshot now snapshot)).2 := by
  obtain ⟨taken, begins, count, took, ended⟩ :=
    Progress.run_of_refusal (p := ⟨.begin now, c.offers, c.journal⟩) takes refuses enough
  rcases ran : Progress.run v.sink ⟨.begin now, c.offers, c.journal⟩
    (Script.ofSnapshot now snapshot).events with ⟨p, refused⟩
  rw [ran] at took ended
  obtain rfl : refused = some (.sinkRefused reason) := ended
  have counted := took.summary.trans (CycleSummary.foldl_count _ _)
  -- The events taken are the first ones, so their lines are the first ones too.
  have first := List.prefix_iff_eq_take.mp (begins.filterMap CycleEvent.line?)
  rw [count, Script.lines_eq_written] at first
  rw [follow_of_refusal ran]
  constructor
  · rfl
  · rw [← first]
    exact took.lines
  · refine ⟨_, rfl, ?_, ?_, ?_, ?_⟩
    · rw [counted, ← count, length_lines]
      simp [CycleSummary.begin]
    · rw [counted, ← Script.podCount_of_prefix begins count]
      simp [CycleSummary.begin]
    · rw [counted]
      rfl
    · rw [counted]
      rfl

/-- A cycle that is refused a line is cut there. -/
theorem cycle_of_refusal {n : Nat} {reason : String} (reading : v.clock c.readings = .ok now)
    (takes : ∀ k, k < n → v.sink (c.offers + k) = none)
    (refuses : v.sink (c.offers + n) = some reason)
    (enough : n < (gateway.lines cluster now .pod ++ gateway.lines cluster now .node).length) :
    c.Truncated (gateway.lines cluster now .pod) (gateway.lines cluster now .node) n reason
      (c.cycle v gateway cluster).1 (c.cycle v gateway cluster).2 := by
  -- There are lines to write only if everything was fetched.
  cases fetched : (gateway.snapshot cluster).outcome with
  | error cause => simp [Gateway.lines, fetched] at enough
  | ok snapshot =>
    rw [lines_eq_of_snapshot fetched, lines_eq_of_snapshot fetched] at enough ⊢
    rw [← Script.lines_eq_written] at enough
    rw [cycle_of_snapshot reading fetched]
    obtain ⟨outcome, lines, last⟩ := truncated_of_follow
      (c.begun now (gateway.snapshot cluster).events) now snapshot takes refuses enough
    exact ⟨outcome, lines.trans (by rw [Collector.lines, filterMap_line?_begun]; rfl), last⟩

end Collector

/-! ## Main result -/

open Collector in
/-- Two cycles differ only in the sink: one takes every line, the other takes as many lines of its
cycle as it likes and refuses the next. The first writes lines of pods and then lines of nodes. If
it has no more than the second takes, both are the same. Otherwise the second ends with the refusal
and is truncated at it. -/
theorem refusal_truncates (w v : Surroundings) (gateway : Gateway) (cluster : Cluster)
    (c : Collector) (n : Nat) (reason : String) (steady : w.Steady)
    (willing : ∀ k, w.sink k = none) (sameClock : v.clock = w.clock)
    (takes : ∀ k, k < n → v.sink (c.offers + k) = none)
    (refuses : v.sink (c.offers + n) = some reason) :
    let whole := c.cycle w gateway cluster
    let cut := c.cycle v gateway cluster
    ∃ now, w.clock c.readings = .ok now ∧
      let pods := gateway.lines cluster now .pod
      let nodes := gateway.lines cluster now .node
      whole.2.lines = c.lines ++ (pods ++ nodes) ∧
      ((pods ++ nodes).length ≤ n → cut = whole) ∧
      (n < (pods ++ nodes).length → c.Truncated pods nodes n reason cut.1 cut.2) := by
  intro whole cut
  obtain ⟨now, reading⟩ := steady c.readings
  refine ⟨now, reading, lines_of_willing steady willing reading, ?_, ?_⟩
  · -- All lines are offered before the one that would be refused.
    intro few
    apply cycle_congr sameClock reading
    intro k below
    rw [willing, takes k (by omega)]
  · intro enough
    exact cycle_of_refusal (by rw [sameClock, reading]) takes refuses enough

/-! ### A sample -/

namespace Sample

/-- The calm surroundings, but for a sink that is full after one line. -/
def full : Surroundings :=
  { calm with sink := fun n => if n = 1 then some "disk full" else none }

end Sample

open Collector in
/-- There are three lines, two of pods and one of a node; the second is refused. -/
theorem refusal_truncates_sample :
    Sample.calm.Steady ∧
      ∃ pods nodes, pods.length = 2 ∧ nodes.length = 1 ∧
        (({} : Collector).cycle Sample.calm ⟨true, 5⟩
          { Sample.shop with pods := .ok [Sample.pod, Sample.peer] }).2.lines = pods ++ nodes ∧
        ({} : Collector).Truncated pods nodes 1 "disk full"
          (({} : Collector).cycle Sample.full ⟨true, 5⟩
            { Sample.shop with pods := .ok [Sample.pod, Sample.peer] }).1
          (({} : Collector).cycle Sample.full ⟨true, 5⟩
            { Sample.shop with pods := .ok [Sample.pod, Sample.peer] }).2 := by
  have steady : Sample.calm.Steady := fun n => ⟨_, rfl⟩
  refine ⟨steady, ?_⟩
  obtain ⟨now, reading, lines, -, cut⟩ :=
    refusal_truncates Sample.calm Sample.full ⟨true, 5⟩
      { Sample.shop with pods := .ok [Sample.pod, Sample.peer] } {} 1 "disk full" steady
      (fun _ => rfl) rfl (by decide) rfl
  obtain rfl : ⟨0, none⟩ = now := Except.ok.inj reading
  -- The pods have a line each.
  have podLines : (Gateway.lines ⟨true, 5⟩
      { Sample.shop with pods := .ok [Sample.pod, Sample.peer] } ⟨0, none⟩ .pod).length = 2 := by
    decide +kernel
  have nodeLines : (Gateway.lines ⟨true, 5⟩
      { Sample.shop with pods := .ok [Sample.pod, Sample.peer] } ⟨0, none⟩ .node).length = 1 := by
    decide +kernel
  refine ⟨_, _, podLines, nodeLines, lines.trans (List.nil_append _), cut ?_⟩
  rw [List.length_append, podLines, nodeLines]
  decide

end ClusterCensus
