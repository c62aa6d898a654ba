import ClusterCensus.Cycle.Collector
import ClusterCensus.Proofs.Cycle.Script
import ClusterCensus.Proofs.Record.Line

/-!
# What following a script leaves behind

A collector follows the events of a script in order. Whether or not the sink ends this early, the
summary and the journal are those of the events followed: counters grow by the number of events of
their kind, lines and notes are entered in the order of the events. A line that the sink refuses
leaves nothing.

## Main results

`Progress.run_cases`: a run takes all events or those up to the first refusal, and what it leaves
behind is determined by the events that it took. `CycleSummary.foldl_count`: the counters of a
summary after some events.
-/
namespace ClusterCensus

/-! ### Single events -/

/-- What an event leaves in the journal, when its line is taken if it has one. -/
def CycleEvent.entered? : CycleEvent → Option Entry
  | .note told => some (.note told)
  | .record _ fields =>
    match Value.line (.object fields) with
    | .error cause => some (.note (.recordDropped cause))
    | .ok line => some (.line line)
  | .podScanned | .podSkipped | .nodeScanned => none

/-- The line of an event, if it is a record that has one. -/
def CycleEvent.line? : CycleEvent → Option String
  | .record _ fields => fields.line?
  | _ => none

theorem CycleEvent.entered?_bind_line? (event : CycleEvent) :
    event.entered?.bind Entry.line? = event.line? := by
  cases event with
  | record kind fields =>
    rw [entered?, line?, Fields.line?]
    cases Value.line (.object fields) <;> rfl
  | _ => rfl

/-- What an event adds to a summary, when its line is taken if it has one. -/
def CycleSummary.count (s : CycleSummary) : CycleEvent → CycleSummary
  | .note _ => s
  | .podScanned => { s with podsScanned := s.podsScanned + 1 }
  | .podSkipped => { s with podsSkipped := s.podsSkipped + 1 }
  | .nodeScanned => { s with nodesScanned := s.nodesScanned + 1 }
  | .record kind fields =>
    match Value.line (.object fields) with
    | .error _ => { s with serializationFailures := s.serializationFailures + 1 }
    | .ok _ => s.countRecord kind

namespace Progress

variable {sink : Nat → Option String}

/-- The progress has grown by the events taken. -/
structure Took (p q : Progress) (taken : List CycleEvent) : Prop where
  summary : q.summary = taken.foldl CycleSummary.count p.summary
  journal : q.journal = p.journal ++ taken.filterMap CycleEvent.entered?

theorem Took.nothing {p q : Progress} (summary : q.summary = p.summary)
    (journal : q.journal = p.journal) : p.Took q [] :=
  ⟨summary, by simp [journal]⟩

/-- What has been taken adds up. -/
theorem Took.trans {p q r : Progress} {taken more : List CycleEvent} (first : p.Took q taken)
    (second : q.Took r more) : p.Took r (taken ++ more) := by
  refine ⟨?_, ?_⟩
  · rw [second.summary, first.summary, List.foldl_append]
  · rw [second.journal, first.journal, List.filterMap_append, List.append_assoc]

/-- The lines added to a journal are those of the events taken. -/
theorem Took.lines {p q : Progress} {taken : List CycleEvent} (took : p.Took q taken) :
    q.journal.filterMap Entry.line? =
      p.journal.filterMap Entry.line? ++ taken.filterMap CycleEvent.line? := by
  rw [took.journal, List.filterMap_append, List.filterMap_filterMap]
  simp only [CycleEvent.entered?_bind_line?]

/-- A step takes its event, or the sink refuses the line and nothing changes. -/
theorem step_cases (sink : Nat → Option String) (p : Progress) (event : CycleEvent) :
    ((p.step sink event).2 = none ∧ p.Took (p.step sink event).1 [event]) ∨
      ((∃ line reason, event.line? = some line ∧ sink p.offers = some reason ∧
          (p.step sink event).2 = some (.sinkRefused reason)) ∧
        p.Took (p.step sink event).1 []) := by
  cases event with
  | note told => exact .inl ⟨rfl, rfl, rfl⟩
  | podScanned => exact .inl ⟨rfl, rfl, by simp [step, CycleEvent.entered?]⟩
  | podSkipped => exact .inl ⟨rfl, rfl, by simp [step, CycleEvent.entered?]⟩
  | nodeScanned => exact .inl ⟨rfl, rfl, by simp [step, CycleEvent.entered?]⟩
  -- A record may have no line, a line that is taken, or one that is refused.
  | record kind fields =>
    rw [step]
    cases line : Value.line (.object fields) with
    | error cause =>
      refine .inl ⟨rfl, ?_, ?_⟩
      · simp [drop, enter, CycleSummary.count, line]
      · simp [drop, enter, CycleEvent.entered?, line]
    | ok text =>
      cases refused : sink p.offers with
      | none =>
        refine .inl ⟨by simp [offer, refused], ?_, ?_⟩
        · simp [offer, refused, enter, CycleSummary.count, line]
        · simp [offer, refused, enter, CycleEvent.entered?, line]
      | some reason =>
        refine .inr ⟨⟨text, reason, ?_, rfl, by simp [offer, refused]⟩, .nothing ?_ ?_⟩
        · rw [CycleEvent.line?, Fields.line?, line]
          rfl
        · simp [offer, refused]
        · simp [offer, refused]

/-- A run takes all events, or those up to the first line that the sink refuses. -/
theorem run_cases (sink : Nat → Option String) (p : Progress) (events : List CycleEvent) :
    ((p.run sink events).2 = none ∧ p.Took (p.run sink events).1 events) ∨
      ∃ taken event later line n reason, events = taken ++ event :: later ∧
        p.Took (p.run sink events).1 taken ∧ event.line? = some line ∧ sink n = some reason ∧
        (p.run sink events).2 = some (.sinkRefused reason) := by
  induction events generalizing p with
  | nil => exact .inl ⟨rfl, .nothing rfl rfl⟩
  | cons event rest ih =>
    rw [run]
    have one := step_cases sink p event
    -- The first event is taken or refused, which ends the run.
    generalize p.step sink event = stepped at one ⊢
    obtain ⟨next, fault⟩ := stepped
    rcases one with ⟨rfl, took⟩ | ⟨⟨line, reason, written, refuses, rfl⟩, took⟩
    · -- The event has been taken, and the run goes on with the rest.
      rcases ih next with ⟨ended, tookRest⟩ |
        ⟨taken, other, later, line, n, reason, rfl, tookRest, written, refuses, ended⟩
      · exact .inl ⟨ended, took.trans tookRest⟩
      · exact .inr ⟨event :: taken, other, later, line, n, reason, rfl, took.trans tookRest,
          written, refuses, ended⟩
    · exact .inr ⟨[], event, rest, line, _, reason, rfl, took, written, refuses, rfl⟩

/-- What a run leaves behind is that of the events that it took: without a refusal all of them. -/
theorem run_took (sink : Nat → Option String) (p : Progress) (events : List CycleEvent) :
    ∃ taken, taken <+: events ∧ p.Took (p.run sink events).1 taken ∧
      ((p.run sink events).2 = none → taken = events) := by
  rcases run_cases sink p events with ⟨-, took⟩ |
    ⟨taken, event, later, line, n, reason, split, took, -, -, ended⟩
  · exact ⟨events, List.prefix_rfl, took, fun _ => rfl⟩
  · refine ⟨taken, ⟨event :: later, split.symm⟩, took, fun finished => ?_⟩
    rw [ended] at finished
    cases finished

/-- A sink that takes every line ends no run. -/
theorem run_of_open (willing : ∀ n, sink n = none) (p : Progress) (events : List CycleEvent) :
    (p.run sink events).2 = none := by
  rcases run_cases sink p events with ⟨ended, -⟩ |
    ⟨taken, event, later, line, n, reason, -, -, -, refuses, -⟩
  · exact ended
  · rw [willing n] at refuses
    cases refuses

/-- Events without lines end no run. -/
theorem run_of_silent {events : List CycleEvent} (silent : ∀ event ∈ events, event.line? = none)
    (p : Progress) : (p.run sink events).2 = none := by
  rcases run_cases sink p events with ⟨ended, -⟩ |
    ⟨taken, event, later, line, n, reason, split, -, written, -, -⟩
  · exact ended
  · have unwritten : event.line? = none := silent event (by simp [split])
    rw [unwritten] at written
    cases written

end Progress

/-! ### Counters -/

namespace CycleEvent

@[simp]
def isPodScanned : CycleEvent → Bool
  | .podScanned => true
  | _ => false

@[simp]
def isPodSkipped : CycleEvent → Bool
  | .podSkipped => true
  | _ => false

@[simp]
def isNodeScanned : CycleEvent → Bool
  | .nodeScanned => true
  | _ => false

/-- An event that hands over no record of either kind has no line. -/
theorem line?_eq_none {event : CycleEvent} (pod : event.handed? .pod = none)
    (node : event.handed? .node = none) : event.line? = none := by
  cases event with
  | record kind fields => cases kind <;> simp [handed?] at pod node
  | _ => rfl

end CycleEvent

/-- The work before the first record has no lines. -/
theorem Script.silent_survey (now : Moment) (snapshot : Snapshot) :
    (survey now snapshot).Leaves fun event => event.line? = none :=
  fun event member => CycleEvent.line?_eq_none (isQuiet_survey now snapshot event member)
    (isQuiet_survey now snapshot event member)

/-- The lines of the records of a kind among some events. -/
def writtenLines (kind : RecordKind) (events : List CycleEvent) : List String :=
  (events.filterMap (CycleEvent.handed? kind)).filterMap Fields.line?

/-- The records of a kind among some events that have no line. -/
def leftOut (kind : RecordKind) (events : List CycleEvent) : List Fields :=
  (events.filterMap (CycleEvent.handed? kind)).filter (·.line?.isNone)

theorem length_lines_cons (event : CycleEvent) (rest : List CycleEvent) :
    ((event :: rest).filterMap CycleEvent.line?).length =
      event.line?.toList.length + (rest.filterMap CycleEvent.line?).length := by
  rw [List.filterMap_cons]
  cases event.line? with
  | none => exact (Nat.zero_add _).symm
  | some line => exact Nat.add_comm _ 1

/-- The lines are those of the pods and those of the nodes. -/
theorem length_lines (events : List CycleEvent) :
    (events.filterMap CycleEvent.line?).length =
      (writtenLines .pod events).length + (writtenLines .node events).length := by
  induction events with
  | nil => rfl
  | cons event rest ih =>
    rw [length_lines_cons, ih]
    simp only [writtenLines, List.filterMap_cons]
    cases event with
    | record kind fields =>
      -- A record has at most one line, and that is a line of its kind.
      have line : (CycleEvent.record kind fields).line? = fields.line? := rfl
      cases kind <;> cases written : fields.line? <;>
        simp [CycleEvent.handed?, line, written] <;> omega
    | _ => simp [CycleEvent.handed?, CycleEvent.line?]

/-- Every counter has grown by the number of events that belong to it. -/
theorem CycleSummary.foldl_count (events : List CycleEvent) (s : CycleSummary) :
    events.foldl CycleSummary.count s =
      { s with
        podsScanned := s.podsScanned + events.countP CycleEvent.isPodScanned
        podsSkipped := s.podsSkipped + events.countP CycleEvent.isPodSkipped
        podRecords := s.podRecords + (writtenLines .pod events).length
        nodesScanned := s.nodesScanned + events.countP CycleEvent.isNodeScanned
        nodeRecords := s.nodeRecords + (writtenLines .node events).length
        serializationFailures := s.serializationFailures + (leftOut .pod events).length +
          (leftOut .node events).length } := by
  induction events generalizing s with
  | nil => simp [writtenLines, leftOut]
  | cons event rest ih =>
    rw [List.foldl_cons, ih]
    simp only [writtenLines, leftOut, List.countP_cons, List.filterMap_cons]
    -- Each event adds one to a single counter; notes add nothing.
    cases event with
    | note told => simp [count, CycleEvent.handed?]
    | podScanned =>
      simp [count, CycleEvent.handed?]
      omega
    | podSkipped =>
      simp [count, CycleEvent.handed?]
      omega
    | nodeScanned =>
      simp [count, CycleEvent.handed?]
      omega
    | record kind fields =>
      cases line : Value.line (.object fields) with
      | error cause =>
        cases kind <;>
          simp [count, line, CycleEvent.handed?, Fields.line?, Except.toOption] <;> omega
      | ok text =>
        cases kind <;>
          simp [count, line, countRecord, CycleEvent.handed?, Fields.line?, Except.toOption] <;>
          omega

end ClusterCensus
