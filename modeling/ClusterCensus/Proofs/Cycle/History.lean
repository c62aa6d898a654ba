import ClusterCensus.Cycle.Collector
import Mathlib.Data.List.Basic

/-!
# Cycles do not see the past

A collector that has a past reads the clock and offers lines after those of its past, and enters
what it does below them. Apart from that a cycle runs as it would for a fresh collector whose clock
and sink stand where those of the collector stand.

## Main result

`cycle_after`: a cycle after a past is the cycle without it, put after the past.
-/
namespace ClusterCensus

/-- Clock and sink as they stand after some readings and offers. -/
def Surroundings.from (w : Surroundings) (readings offers : Nat) : Surroundings where
  clock := fun n => w.clock (readings + n)
  sink := fun n => w.sink (offers + n)

/-! ### The script of a cycle -/

namespace Progress

variable {sink : Nat → Option String} {offers : Nat} {journal : List Entry}

/-- Progress with offers and entries that came before. -/
def after (offers : Nat) (journal : List Entry) (p : Progress) : Progress where
  summary := p.summary
  offers := offers + p.offers
  journal := journal ++ p.journal

theorem enter_after (p : Progress) (entry : Entry) :
    (p.after offers journal).enter entry = (p.enter entry).after offers journal := by
  simp only [after, enter, List.append_assoc]

theorem drop_after (p : Progress) (cause : Fault) :
    (p.after offers journal).drop cause = (p.drop cause).after offers journal := by
  simp only [drop, enter, after, List.append_assoc]

theorem offer_after (p : Progress) (kind : RecordKind) (line : String) :
    (p.after offers journal).offer sink kind line =
      (p.offer (fun n => sink (offers + n)) kind line).map (after offers journal) id := by
  simp only [offer, after]
  cases sink (offers + p.offers) with
  | some reason => rfl
  | none => simp only [enter, Prod.map_apply, List.append_assoc, after, id, Nat.add_assoc]

/-- A step is the same behind a past, seen by a sink that has had the offers of the past. -/
theorem step_after (p : Progress) (event : CycleEvent) :
    (p.after offers journal).step sink event =
      (p.step (fun n => sink (offers + n)) event).map (after offers journal) id := by
  cases event with
  | note note => rw [step, enter_after]; rfl
  | podScanned => rfl
  | podSkipped => rfl
  | nodeScanned => rfl
  -- Only a record comes to the sink, if it has a line.
  | record kind fields =>
    rw [step, step]
    cases Value.line (.object fields) with
    | error cause => simp only [drop_after]; rfl
    | ok line => exact offer_after p kind line

/-- Whatever is followed, it is followed below what came before. -/
theorem run_after (p : Progress) (events : List CycleEvent) :
    (p.after offers journal).run sink events =
      (p.run (fun n => sink (offers + n)) events).map (after offers journal) id := by
  induction events generalizing p with
  | nil => rfl
  | cons event rest ih =>
    simp only [run, step_after]
    rcases p.step (fun n => sink (offers + n)) event with ⟨next, _ | fault⟩
    · exact ih next
    · rfl

end Progress

/-! ### The collector -/

namespace Collector

variable {w : Surroundings}

def after (past c : Collector) : Collector where
  last := c.last.or past.last
  readings := past.readings + c.readings
  offers := past.offers + c.offers
  journal := past.journal ++ c.journal

theorem after_empty (past : Collector) : past.after {} = past := by
  simp [after]

/-- What the surroundings are for a collector that goes on from a past. -/
def surroundings (w : Surroundings) (past : Collector) : Surroundings :=
  w.from past.readings past.offers

variable {past : Collector}

theorem enter_after (c : Collector) (entry : Entry) :
    (past.after c).enter entry = past.after (c.enter entry) := by
  simp only [after, enter, List.append_assoc]

theorem readClock_after (c : Collector) :
    (past.after c).readClock w = (c.readClock (past.surroundings w)).map id past.after := by
  rfl

theorem close_after (c : Collector) (summary : CycleSummary) :
    (past.after c).close w summary = (c.close (past.surroundings w) summary).map id past.after := by
  have marked : { past.after c with last := some summary } =
      past.after { c with last := some summary } := rfl
  simp only [close, marked, readClock_after]
  generalize readClock (past.surroundings w) _ = read
  rcases read with ⟨fault | now, next⟩
  · rfl
  · rfl

theorem abort_after (c : Collector) (summary : CycleSummary) (cause : Fault) :
    (past.after c).abort w summary cause =
      (c.abort (past.surroundings w) summary cause).map id past.after := by
  simp only [abort, close_after]
  generalize c.close (past.surroundings w) _ = closed
  rcases closed with ⟨fault | now, next⟩
  · rfl
  · rfl

theorem complete_after (c : Collector) (summary : CycleSummary) :
    (past.after c).complete w summary =
      (c.complete (past.surroundings w) summary).map id past.after := by
  simp only [complete, close_after]
  rcases c.close (past.surroundings w) summary with ⟨fault | closed, next⟩
  · rfl
  · simp only [Prod.map_apply, enter_after, id]

/-- Following a script is the same behind a past. -/
theorem follow_after (c : Collector) (summary : CycleSummary) (script : Script Unit) :
    (past.after c).follow w summary script =
      (c.follow (past.surroundings w) summary script).map id past.after := by
  have progress : (⟨summary, (past.after c).offers, (past.after c).journal⟩ : Progress) =
      (⟨summary, c.offers, c.journal⟩ : Progress).after past.offers past.journal := rfl
  have ran : Progress.run w.sink ⟨summary, (past.after c).offers, (past.after c).journal⟩
      script.events =
        (Progress.run (past.surroundings w).sink ⟨summary, c.offers, c.journal⟩
          script.events).map (Progress.after past.offers past.journal) id := by
    rw [progress, Progress.run_after]
    rfl
  simp only [follow, ran]
  -- From here both sides look only at how far the script was followed.
  generalize Progress.run (past.surroundings w).sink _ script.events = followed
  obtain ⟨reached, _ | refused⟩ := followed
  · cases script.outcome with
    | error fault => rfl
    | ok value =>
      exact complete_after { c with
        last := some reached.summary
        offers := reached.offers
        journal := reached.journal } reached.summary
  · rfl

/-- A cycle after a past is the cycle without it, put after the past. -/
theorem cycle_after (gateway : Gateway) (cluster : Cluster) (c : Collector) :
    (past.after c).cycle w gateway cluster =
      (c.cycle (past.surroundings w) gateway cluster).map id past.after := by
  simp only [cycle, readClock_after]
  generalize c.readClock (past.surroundings w) = read
  obtain ⟨fault | now, next⟩ := read
  · rfl
  · -- The cycle begins behind the past as it does without it.
    have begun : { past.after next with
        last := some (CycleSummary.begin now)
        journal := (past.after next).journal ++
          (gateway.snapshot cluster).events.map Entry.request } =
        past.after { next with
          last := some (CycleSummary.begin now)
          journal := next.journal ++ (gateway.snapshot cluster).events.map Entry.request } := by
      simp [after]
    simp only [Prod.map_apply, id, begun]
    cases (gateway.snapshot cluster).outcome with
    | error cause => exact abort_after _ _ cause
    | ok snapshot => exact follow_after _ _ _

end Collector
end ClusterCensus
