import ClusterCensus.Gateway.Basic
import ClusterCensus.Proofs.Gateway.Response
import ClusterCensus.Proofs.Trace

/-!
# The four fetches of a cycle

A cycle fetches pods, nodes, pod metrics and node metrics, in this order. Whether a fetch fails can
be read off the credentials, the answer of the cluster and the shape of the answer, without making
the fetches before it. The first one that fails ends the questions.

## Main results

`makes_fetches`: a snapshot makes the four fetches up to the first that fails. `snapshot_ok_iff`: it
is taken exactly when the gateway is configured and all four answers are given and can be read.
-/
namespace ClusterCensus

/-- A fetch: the request that it makes, and what makes it fail. -/
structure Fetch where
  request : Request
  failure : Option Fault

namespace Gateway

/-- What makes a fetch fail: missing credentials, a refusal, or something in the answer. -/
def failure? {α : Type} (gateway : Gateway) (answer : Answer α) (flaw? : α → Option Fault) :
    Option Fault :=
  if gateway.configured then
    match answer with
    | .error reason => some (.fetchRefused reason)
    | .ok value => flaw? value
  else some .unconfigured

/-- The fetches of a cycle, in order. -/
def fetches (gateway : Gateway) (cluster : Cluster) : List Fetch :=
  [⟨.pods gateway.timeout, gateway.failure? cluster.pods fun _ => none⟩,
   ⟨.nodes gateway.timeout, gateway.failure? cluster.nodes fun _ => none⟩,
   ⟨.metrics .pods MetricsKind.version gateway.timeout,
    gateway.failure? (cluster.metrics .pods) MetricsItem.responseFault?⟩,
   ⟨.metrics .nodes MetricsKind.version gateway.timeout,
    gateway.failure? (cluster.metrics .nodes) MetricsItem.responseFault?⟩]

/-- The requests that are put for some fetches; without credentials none is. -/
def asked (gateway : Gateway) (fetches : List Fetch) : List Request :=
  if gateway.configured then fetches.map Fetch.request else []

theorem asked_append (gateway : Gateway) (first later : List Fetch) :
    gateway.asked (first ++ later) = gateway.asked first ++ gateway.asked later := by
  unfold asked
  split <;> simp

/-! ### Making fetches -/

/-- The work makes fetches in order: all of them, or those up to the first that fails. -/
def Makes {α : Type} (gateway : Gateway) (fetches : List Fetch) (work : Trace Request Fault α) :
    Prop :=
  ((∀ fetch ∈ fetches, fetch.failure = none) ∧ (∃ value, work.outcome = .ok value) ∧
      work.events = gateway.asked fetches) ∨
    ∃ before fetch later cause, fetches = before ++ fetch :: later ∧
      (∀ earlier ∈ before, earlier.failure = none) ∧ fetch.failure = some cause ∧
      work.outcome = .error cause ∧ work.events = gateway.asked (before ++ [fetch])

section

variable {α β : Type} {gateway : Gateway}

/-- The first failure is where the fetches without a failure end. -/
theorem cut_at_failure {before : List Fetch} {fetch : Fetch} {cause : Fault}
    (fine : ∀ earlier ∈ before, earlier.failure = none) (failed : fetch.failure = some cause)
    (later : List Fetch) :
    (before ++ fetch :: later).takeWhile (·.failure.isNone) = before ∧
      (before ++ fetch :: later).dropWhile (·.failure.isNone) = fetch :: later := by
  have passed : ∀ earlier ∈ before, earlier.failure.isNone = true :=
    fun earlier member => by rw [fine earlier member]; rfl
  constructor
  · rw [List.takeWhile_append_of_pos passed]
    simp [failed]
  · rw [List.dropWhile_append_of_pos passed]
    simp [failed]

/-- Work that makes fetches ends at their first failure, and asks nothing after it. -/
theorem Makes.stops {fetches before later : List Fetch} {fetch : Fetch} {cause : Fault}
    {work : Trace Request Fault α} (makes : gateway.Makes fetches work)
    (split : fetches = before ++ fetch :: later)
    (fine : ∀ earlier ∈ before, earlier.failure = none) (failed : fetch.failure = some cause) :
    work.outcome = .error cause ∧ work.events = gateway.asked (before ++ [fetch]) := by
  rcases makes with ⟨allFine, -, -⟩ | ⟨others, failing, rest, fault, otherSplit, othersFine, broken,
    stopped, asks⟩
  · have impossible : fetch.failure = none := allFine fetch (by simp [split])
    simp [impossible] at failed
  · -- The list can be cut at its first failure in one way only.
    obtain ⟨passed, left⟩ := cut_at_failure fine failed later
    obtain ⟨othersPassed, othersLeft⟩ := cut_at_failure othersFine broken rest
    rw [← split, otherSplit] at passed left
    obtain rfl : others = before := othersPassed.symm.trans passed
    obtain ⟨rfl, -⟩ := List.cons.inj (othersLeft.symm.trans left)
    obtain rfl : fault = cause := Option.some.inj (broken.symm.trans failed)
    exact ⟨stopped, asks⟩

theorem makes_nothing (value : α) : gateway.Makes [] (pure value) := by
  refine .inl ⟨by simp, ⟨value, rfl⟩, ?_⟩
  unfold asked
  split <;> rfl

theorem makes_single {fetch : Fetch} {work : Trace Request Fault α}
    (asks : work.events = gateway.asked [fetch])
    (ends : (fetch.failure = none ∧ ∃ value, work.outcome = .ok value) ∨
      ∃ cause, fetch.failure = some cause ∧ work.outcome = .error cause) :
    gateway.Makes [fetch] work := by
  rcases ends with ⟨fine, given⟩ | ⟨cause, failed, ended⟩
  · exact .inl ⟨by simpa using fine, given, asks⟩
  · exact .inr ⟨[], fetch, [], cause, rfl, by simp, failed, ended, asks⟩

/-- A fetch and then the work that makes the rest: together they make all of them. -/
theorem Makes.bind {fetch : Fetch} {rest : List Fetch} {first : Trace Request Fault α}
    {next : α → Trace Request Fault β} (one : gateway.Makes [fetch] first)
    (others : ∀ value, gateway.Makes rest (next value)) :
    gateway.Makes (fetch :: rest) (first >>= next) := by
  rcases one with ⟨fine, ⟨value, ended⟩, asks⟩ | ⟨before, failing, later, cause, split, -, failed,
    ended, asks⟩
  · have fetched : fetch.failure = none := fine fetch (.head _)
    have events := Trace.bind_events_of_ok ended next
    have outcome := Trace.bind_outcome_of_ok ended next
    rcases others value with ⟨allFine, given, moreAsks⟩ | ⟨before, failing, later, cause, split,
      fineBefore, failed, stopped, moreAsks⟩
    · refine .inl ⟨?_, by rwa [outcome], ?_⟩
      · simpa [fetched] using allFine
      · rw [events, asks, moreAsks, ← asked_append]
        rfl
    · -- The first failure comes after the fetch that has been made.
      refine .inr ⟨fetch :: before, failing, later, cause, by rw [split]; rfl, ?_, failed,
        by rw [outcome, stopped], ?_⟩
      · simpa [fetched] using fineBefore
      · rw [events, asks, moreAsks, ← asked_append]
        rfl
  · -- A single fetch that fails is the one that was made.
    obtain ⟨rfl, rfl⟩ : before = [] ∧ fetch = failing := by
      cases before with
      | nil => exact ⟨rfl, (List.cons.inj split).1⟩
      | cons _ _ => simp at split
    refine .inr ⟨[], fetch, rest, cause, rfl, by simp, failed, ?_, ?_⟩
    · exact Trace.bind_outcome_of_error ended next
    · rw [Trace.bind_events_of_error ended next, asks]

theorem ask_events (request : Request) (answer : Answer α) (failure : Option Fault) :
    (gateway.ask request answer).events = gateway.asked [⟨request, failure⟩] := by
  unfold ask asked
  split <;> rfl

theorem ask_cases (gateway : Gateway) (request : Request) (answer : Answer α) :
    (gateway.configured = false ∧ (gateway.ask request answer).outcome = .error .unconfigured) ∨
      (gateway.configured = true ∧ ∃ reason, answer = .error reason ∧
        (gateway.ask request answer).outcome = .error (.fetchRefused reason)) ∨
      gateway.configured = true ∧ ∃ value, answer = .ok value ∧
        (gateway.ask request answer).outcome = .ok value := by
  unfold ask
  cases gateway.configured with
  | false => exact .inl ⟨rfl, rfl⟩
  | true =>
    cases answer with
    | error reason => exact .inr (.inl ⟨rfl, reason, rfl, rfl⟩)
    | ok value => exact .inr (.inr ⟨rfl, value, rfl, rfl⟩)

/-- A request whose answer needs no reading fails for want of credentials or by a refusal only. -/
theorem makes_ask (request : Request) (answer : Answer α) :
    gateway.Makes [⟨request, gateway.failure? answer fun _ => none⟩]
      (gateway.ask request answer) := by
  refine makes_single (ask_events request answer _) ?_
  rcases ask_cases gateway request answer with
    ⟨configured, ended⟩ | ⟨configured, reason, rfl, ended⟩ | ⟨configured, value, rfl, ended⟩
  · exact .inr ⟨_, by simp [failure?, configured], ended⟩
  · exact .inr ⟨_, by simp [failure?, configured], ended⟩
  · exact .inl ⟨by simp [failure?, configured], value, ended⟩

theorem listMetrics_eq (kind : MetricsKind) (answers : MetricsKind → Answer Value) :
    gateway.listMetrics MetricsKind.group MetricsKind.version kind.name answers =
      gateway.ask (.metrics kind MetricsKind.version gateway.timeout) (answers kind) >>=
        fun response => Trace.ofExcept (MetricsItem.ofResponse response) := by
  cases kind <;> rfl

/-- A fetch of metrics fails for want of credentials, by a refusal, or at the first fault in the
response. -/
theorem makes_listMetrics (kind : MetricsKind) (answers : MetricsKind → Answer Value) :
    gateway.Makes
      [⟨.metrics kind MetricsKind.version gateway.timeout,
        gateway.failure? (answers kind) MetricsItem.responseFault?⟩]
      (gateway.listMetrics MetricsKind.group MetricsKind.version kind.name answers) := by
  rw [listMetrics_eq]
  apply makes_single
  · rw [← ask_events _ (answers kind)]
    cases answered : (gateway.ask (.metrics kind MetricsKind.version gateway.timeout)
        (answers kind)).outcome with
    | error fault => exact Trace.bind_events_of_error answered _
    | ok response => rw [Trace.bind_events_of_ok answered, Trace.ofExcept_events, List.append_nil]
  · rcases ask_cases gateway (.metrics kind MetricsKind.version gateway.timeout)
      (answers kind) with
      ⟨configured, ended⟩ | ⟨configured, reason, refused, ended⟩ |
        ⟨configured, response, given, ended⟩
    · exact .inr ⟨_, by simp [failure?, configured], Trace.bind_outcome_of_error ended _⟩
    · exact .inr ⟨_, by simp [failure?, configured, refused],
        Trace.bind_outcome_of_error ended _⟩
    · -- Metrics that are given may still have a flaw, which is found when they are converted.
      have converted := MetricsItem.ofResponse_eq response
      rw [Trace.bind_outcome_of_ok ended, Trace.ofExcept_outcome, given]
      cases flaw : MetricsItem.responseFault? response with
      | some cause =>
        rw [flaw] at converted
        exact .inr ⟨cause, by simp [failure?, configured, flaw], converted⟩
      | none =>
        rw [flaw] at converted
        exact .inl ⟨by simp [failure?, configured, flaw], _, converted⟩

end

/-! ## Main results -/

/-- A snapshot makes the four fetches in order, up to the first that fails. -/
theorem makes_fetches (gateway : Gateway) (cluster : Cluster) :
    gateway.Makes (gateway.fetches cluster) (gateway.snapshot cluster) := by
  refine (makes_ask _ cluster.pods).bind fun pods => ?_
  refine (makes_ask _ cluster.nodes).bind fun nodes => ?_
  refine (makes_listMetrics .pods cluster.metrics).bind fun podMetrics => ?_
  refine (makes_listMetrics .nodes cluster.metrics).bind fun nodeMetrics => ?_
  exact makes_nothing _

theorem ask_outcome_ok_iff {α : Type} {gateway : Gateway} {request : Request} {answer : Answer α}
    {value : α} :
    (gateway.ask request answer).outcome = .ok value ↔
      gateway.configured = true ∧ answer = .ok value := by
  rcases ask_cases gateway request answer with
    ⟨configured, ended⟩ | ⟨configured, reason, rfl, ended⟩ | ⟨configured, other, rfl, ended⟩ <;>
  simp [configured, ended]

/-- The answer to a question for metrics can be read as items. -/
def Reads (answers : MetricsKind → Answer Value) (kind : MetricsKind) (items : List MetricsItem) :
    Prop :=
  ∃ response, answers kind = .ok response ∧ MetricsItem.ofResponse response = .ok items

/-- Metrics are given exactly when the gateway is configured and the answer can be read. -/
theorem listMetrics_outcome_ok_iff {gateway : Gateway} {kind : MetricsKind}
    {answers : MetricsKind → Answer Value} {items : List MetricsItem} :
    (gateway.listMetrics MetricsKind.group MetricsKind.version kind.name answers).outcome =
        .ok items ↔
      gateway.configured = true ∧ Reads answers kind items := by
  rw [listMetrics_eq, Trace.bind_outcome_ok_iff]
  simp only [ask_outcome_ok_iff, Trace.ofExcept_outcome, Reads]
  grind

/-- A snapshot is taken exactly when the gateway is configured and all four answers are given and
can be read. -/
theorem snapshot_ok_iff {gateway : Gateway} {cluster : Cluster} {snapshot : Snapshot} :
    (gateway.snapshot cluster).outcome = .ok snapshot ↔
      gateway.configured = true ∧ cluster.pods = .ok snapshot.pods ∧
        cluster.nodes = .ok snapshot.nodes ∧ Reads cluster.metrics .pods snapshot.podMetrics ∧
        Reads cluster.metrics .nodes snapshot.nodeMetrics := by
  obtain ⟨pods, nodes, podMetrics, nodeMetrics⟩ := snapshot
  simp only [Gateway.snapshot, Trace.bind_outcome_ok_iff, listPods, listNodes, ask_outcome_ok_iff,
    listMetrics_outcome_ok_iff, Trace.pure_outcome, Except.ok.injEq, Snapshot.mk.injEq]
  grind

/-- A snapshot that is taken has put all four questions. -/
theorem snapshot_events {gateway : Gateway} {cluster : Cluster} {snapshot : Snapshot}
    (fetched : (gateway.snapshot cluster).outcome = .ok snapshot) :
    (gateway.snapshot cluster).events = gateway.asked (gateway.fetches cluster) := by
  rcases makes_fetches gateway cluster with ⟨-, -, asks⟩ | ⟨_, _, _, _, -, -, -, failed, -⟩
  · exact asks
  · rw [fetched] at failed
    cases failed

end Gateway
end ClusterCensus
