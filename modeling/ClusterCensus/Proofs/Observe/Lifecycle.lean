import ClusterCensus.Proofs.Observe.Container
import Mathlib.Control.Monad.Basic

/-!
# The lives of a container are told consistently

A state may have several parts at once. Which of them counts is a matter of precedence, and the
current state and the last state have different ones. The last state is left out together with its
reason and times when it has no part, or when it would repeat the current stage. All of this is
settled by the two states and the moment of observation: the declaration of the container and its
usage have no say in it.

## Main result

`lives_are_consistent`: what a container that has been observed says of its lives.
-/
namespace ClusterCensus

/-! ### Precedence -/

/-- The part that describes a stage is present. -/
def ContainerState.has (state : ContainerState) : Stage → Bool
  | .running => state.running.isSome
  | .terminated => state.terminated.isSome
  | .waiting => state.waiting.isSome

/-- The stage of the first part that is present, in an order of precedence. -/
def firstPresent? (order : List Stage) (state : Option ContainerState) : Option Stage :=
  state.bind fun s => order.find? s.has

theorem Stage.name_inj {a b : Stage} : a.name = b.name ↔ a = b := by
  cases a <;> cases b <;> decide

theorem Stage.name_ne_empty (stage : Stage) : stage.name ≠ "" := by
  cases stage <;> decide

section CurrentStage

variable {state : Option ContainerState}

theorem currentStage_eq_running_iff :
    currentStage state = .running ↔ ∃ s ∈ state, s.running.isSome := by
  cases state with
  | none => simp [currentStage]
  | some s => simp [currentStage, apply_ite (· = Stage.running)]

theorem currentStage_eq_terminated_iff :
    currentStage state = .terminated ↔ ∃ s ∈ state, s.running = none ∧ s.terminated.isSome := by
  cases state with
  | none => simp [currentStage]
  | some s => simp [currentStage, apply_ite (· = Stage.terminated)]

theorem currentStage_eq_waiting_iff :
    currentStage state = .waiting ↔ ∀ s ∈ state, s.running = none ∧ s.terminated = none := by
  cases state with
  | none => simp [currentStage]
  | some s => simp [currentStage, apply_ite (· = Stage.waiting)]

end CurrentStage

theorem lastLife?_stage (state : ContainerState) :
    (lastLife? state).map (·.stage) = [.terminated, .running, .waiting].find? state.has := by
  obtain ⟨running, terminated, waiting⟩ := state
  cases terminated <;> cases running <;> cases waiting <;> rfl

/-- Only a finished life has a reason and an end. -/
theorem lastLife?_of_ended {state : ContainerState} {life : LastLife}
    (told : lastLife? state = some life) (ended : life.reason ≠ "" ∨ life.finished ≠ none) :
    life.stage = .terminated := by
  obtain ⟨running, terminated, waiting⟩ := state
  cases terminated with
  | some t => rw [← Option.some.inj told]
  | none =>
    cases running with
    | some r =>
      rw [← Option.some.inj told] at ended
      simp at ended
    | none =>
      cases waiting with
      | some w =>
        rw [← Option.some.inj told] at ended
        simp at ended
      | none => cases told

/-- The last life is that of the first part present, unless this repeats the current stage. -/
theorem distinctLastLife?_cases (current : Stage) (state : Option ContainerState) :
    (∃ life, distinctLastLife? current state = some life ∧ life.stage ≠ current ∧
        firstPresent? [.terminated, .running, .waiting] state = some life.stage ∧
        (life.reason ≠ "" ∨ life.finished ≠ none → life.stage = .terminated)) ∨
      distinctLastLife? current state = none ∧
        ∀ stage ∈ firstPresent? [.terminated, .running, .waiting] state, stage = current := by
  have present : (state.bind lastLife?).map (·.stage) =
      firstPresent? [.terminated, .running, .waiting] state := by
    cases state with
    | none => rfl
    | some s => exact lastLife?_stage s
  unfold distinctLastLife?
  rw [← present]
  cases told : state.bind lastLife? with
  | none => exact .inr ⟨rfl, by simp⟩
  | some life =>
    -- A life is left out as a whole, so its stage decides about all that is told of it.
    by_cases repeated : life.stage = current
    · exact .inr ⟨by simp [repeated], by simp [repeated]⟩
    · refine .inl ⟨life, by simp [repeated], repeated, rfl, ?_⟩
      obtain ⟨s, -, told⟩ := Option.bind_eq_some_iff.mp told
      exact lastLife?_of_ended told

/-! ### What is told -/

/-- What a record says of the current and the last life of a container. -/
structure Lives where
  state : String
  age : Option Int
  started : Option Int
  lastState : String
  lastReason : String
  lastStarted : Option Int
  lastFinished : Option Int

namespace Lives

/-- The part of a record that tells of the lives. -/
def ofFacts (facts : ContainerFacts) : Lives :=
  ⟨facts.state, facts.age, facts.started, facts.lastState, facts.lastReason, facts.lastStarted,
    facts.lastFinished⟩

/-- The lives as two states and a moment have them. -/
def ofStates (state last : Option ContainerState) (now : Moment) : Lives :=
  let since := runningSince state
  let previous := distinctLastLife? (currentStage state) last
  { state := (currentStage state).name
    age := some ((since.map fun start => start.millisBetween now).getD 0)
    started := some ((since.map (·.epochMillis)).getD 0)
    lastState := (previous.map (·.stage.name)).getD ""
    lastReason := (previous.map (·.reason)).getD ""
    lastStarted := previous.bind (·.started)
    lastFinished := previous.bind (·.finished) }

/-- The current life is that of the current state. -/
structure TellCurrent (lives : Lives) (state : Option ContainerState) : Prop where
  running : lives.state = "Running" ↔ ∃ s ∈ state, s.running.isSome
  terminated : lives.state = "Terminated" ↔ ∃ s ∈ state, s.running = none ∧ s.terminated.isSome
  waiting : lives.state = "Waiting" ↔ ∀ s ∈ state, s.running = none ∧ s.terminated = none
  since : lives.age ≠ some 0 ∨ lives.started ≠ some 0 →
    lives.state = "Running" ∧ ∃ s ∈ state, ∃ r ∈ s.running, r.startedAt.isSome

/-- The last life is that of the last state, told only if it differs from the current one. -/
structure TellLast (lives : Lives) (last : Option ContainerState) : Prop where
  stages : lives.lastState ∈ ["", "Running", "Terminated", "Waiting"]
  changed : lives.lastState ≠ lives.state
  told : ∀ stage ∈ firstPresent? [.terminated, .running, .waiting] last,
    stage.name ≠ lives.state → lives.lastState = stage.name
  silent : (∀ stage ∈ firstPresent? [.terminated, .running, .waiting] last,
      stage.name = lives.state) →
    lives.lastState = "" ∧ lives.lastReason = "" ∧ lives.lastStarted = none ∧
      lives.lastFinished = none
  ended : lives.lastReason ≠ "" ∨ lives.lastFinished ≠ none → lives.lastState = "Terminated"

variable (state last : Option ContainerState) (now : Moment)

/-- For the current state, running comes before terminated and terminated before waiting. -/
theorem ofStates_tellCurrent : (ofStates state last now).TellCurrent state := by
  have tells (stage : Stage) :
      (ofStates state last now).state = stage.name ↔ currentStage state = stage := Stage.name_inj
  refine ⟨(tells .running).trans currentStage_eq_running_iff,
    (tells .terminated).trans currentStage_eq_terminated_iff,
    (tells .waiting).trans currentStage_eq_waiting_iff, ?_⟩
  intro counted
  -- What is not zero was counted from a start, and only a running part has one.
  obtain ⟨start, since⟩ : ∃ start, runningSince state = some start := by
    cases known : runningSince state with
    | none => simp [ofStates, known] at counted
    | some start => exact ⟨start, rfl⟩
  obtain ⟨r, running, started⟩ := Option.bind_eq_some_iff.mp since
  obtain ⟨s, present, running⟩ := Option.bind_eq_some_iff.mp running
  refine ⟨(tells .running).mpr (currentStage_eq_running_iff.mpr ⟨s, present, ?_⟩),
    s, present, r, running, ?_⟩
  · simp [running]
  · simp [started]

/-- The last life is told, or nothing of it when its stage is the current one. -/
theorem ofStates_tellLast : (ofStates state last now).TellLast last := by
  rcases distinctLastLife?_cases (currentStage state) last with
    ⟨life, told, differs, first, ended⟩ | ⟨untold, repeated⟩
  · -- The stage told is the first present, and not the current one.
    have named : (ofStates state last now).lastState = life.stage.name := by
      simp [ofStates, told]
    refine ⟨?_, ?_, ?_, ?_, ?_⟩
    · rw [named]
      cases life.stage <;> decide
    · rw [named]
      exact fun same => differs (Stage.name_inj.mp same)
    · intro stage present _
      rw [named, Option.some.inj (first.symm.trans present)]
    · intro same
      exact absurd (Stage.name_inj.mp (same life.stage first)) differs
    · intro given
      rw [named, ended (by simpa [ofStates, told] using given)]
      rfl
  · -- Nothing is told, since the first stage present is the current one.
    have empty : (ofStates state last now).lastState = "" := by
      simp [ofStates, untold]
    refine ⟨?_, ?_, ?_, ?_, ?_⟩
    · rw [empty]
      decide
    · rw [empty]
      exact (Stage.name_ne_empty _).symm
    · intro stage present differs
      exact absurd (congrArg Stage.name (repeated stage present)) differs
    · intro _
      simp [ofStates, untold]
    · intro given
      simp [ofStates, untold] at given

end Lives

/-- Observing a container, its lives are told as its states have them. -/
theorem ContainerFacts.observe_lives {container : Container} {status : ContainerStatus}
    {state : Option ContainerState} {cpuUsage memoryUsage : String} {now : Moment}
    {facts : ContainerFacts}
    (observed : (observe container status state cpuUsage memoryUsage now).outcome = .ok facts) :
    Lives.ofFacts facts = Lives.ofStates state status.lastState now := by
  obtain ⟨amounts, -, rfl⟩ := observe_ok_iff.mp observed
  rfl

/-! ## Main result -/

/-- The current life follows the state, the last life the last state of the status, and a container
that is declared otherwise, with other usage, is told to have the same lives. -/
theorem lives_are_consistent {container : Container} {status : ContainerStatus}
    {state : Option ContainerState} {cpuUsage memoryUsage : String} {now : Moment}
    {facts : ContainerFacts}
    (observed : (ContainerFacts.observe container status state cpuUsage memoryUsage now).outcome =
      .ok facts) :
    (Lives.ofFacts facts).TellCurrent state ∧ (Lives.ofFacts facts).TellLast status.lastState ∧
      ∀ (container' : Container) (status' : ContainerStatus) (cpuUsage' memoryUsage' : String)
        (facts' : ContainerFacts), status'.lastState = status.lastState →
          (ContainerFacts.observe container' status' state cpuUsage' memoryUsage' now).outcome =
              .ok facts' →
            Lives.ofFacts facts' = Lives.ofFacts facts := by
  have lives := ContainerFacts.observe_lives observed
  rw [lives]
  refine ⟨Lives.ofStates_tellCurrent _ _ _, Lives.ofStates_tellLast _ _ _, ?_⟩
  intro container' status' cpuUsage' memoryUsage' facts' same observed'
  rw [ContainerFacts.observe_lives observed', same]

namespace Sample

/-- A container that runs again after it was killed; its last state has two parts. -/
def restarted : ContainerStatus where
  name := some "web"
  ready := some true
  restartCount := some 3
  state := some ⟨some ⟨some ⟨10000000, none⟩⟩, none, none⟩
  lastState := some ⟨some ⟨none⟩, some ⟨some "OOMKilled", some ⟨0, none⟩, some ⟨5000000, none⟩⟩, none⟩

/-- What is told of it a minute after its start. -/
def restartedFacts : ContainerFacts where
  container := "web"
  state := "Running"
  ready := true
  restarts := 3
  cpuUsage := 0
  memoryUsage := 0
  image := "shop"
  imageTag := "v2"
  age := some 60000
  started := some 10000
  lastState := "Terminated"
  lastReason := "OOMKilled"
  lastStarted := some 0
  lastFinished := some 5000

end Sample

/-- The container that was killed runs, and its last state is the finished life. -/
theorem lives_are_consistent_sample :
    (ContainerFacts.observe ⟨some "web", some "shop:v2", none⟩ Sample.restarted
        Sample.restarted.state "" "" ⟨70000000, none⟩).outcome = .ok Sample.restartedFacts ∧
      (Lives.ofFacts Sample.restartedFacts).TellCurrent Sample.restarted.state ∧
      (Lives.ofFacts Sample.restartedFacts).TellLast Sample.restarted.lastState := by
  have observed : (ContainerFacts.observe ⟨some "web", some "shop:v2", none⟩ Sample.restarted
      Sample.restarted.state "" "" ⟨70000000, none⟩).outcome = .ok Sample.restartedFacts := by
    decide +kernel
  obtain ⟨current, last, -⟩ := lives_are_consistent observed
  exact ⟨observed, current, last⟩

end ClusterCensus
