import ClusterCensus.Trace
import Mathlib.Algebra.GroupWithZero.Nat

/-!
# What a trace ends in and leaves behind

Inversion of sequences: a sequence ends in a value exactly when all its parts do, and its events
are those of the parts in order. Two principles follow for work over a list. `thread_induction`
carries an invariant that may speak of the items done so far; `Leaves` carries a property of all
events, also through faults.
-/
namespace ClusterCensus.Trace

variable {ω ω' ε α β σ : Type}

/-! ### Outcomes and events of sequences -/

@[simp]
theorem pure_outcome (value : α) : (pure value : Trace ω ε α).outcome = .ok value := rfl

@[simp]
theorem pure_events (value : α) : (pure value : Trace ω ε α).events = [] := rfl

@[simp]
theorem tell_events (event : ω) : (tell event : Trace ω ε Unit).events = [event] := rfl

@[simp]
theorem ofExcept_outcome (outcome : Except ε α) :
    (ofExcept outcome : Trace ω ε α).outcome = outcome := rfl

@[simp]
theorem ofExcept_events (outcome : Except ε α) : (ofExcept outcome : Trace ω ε α).events = [] := rfl

@[simp]
theorem fail_events (fault : ε) : (fail fault : Trace ω ε α).events = [] := rfl

/-- A sequence ends in a value exactly when both parts do. -/
theorem bind_outcome_ok_iff {first : Trace ω ε α} {next : α → Trace ω ε β} {result : β} :
    (first >>= next).outcome = .ok result ↔
      ∃ value, first.outcome = .ok value ∧ (next value).outcome = .ok result := by
  rw [bind_eq_andThen]
  cases ended : first.outcome with
  | error fault => simp [andThen_of_error ended]
  | ok value => simp [andThen_of_ok ended]

theorem bind_events_of_ok {first : Trace ω ε α} {value : α} (ended : first.outcome = .ok value)
    (next : α → Trace ω ε β) : (first >>= next).events = first.events ++ (next value).events := by
  rw [bind_eq_andThen, andThen_of_ok ended]

theorem bind_outcome_of_ok {first : Trace ω ε α} {value : α} (ended : first.outcome = .ok value)
    (next : α → Trace ω ε β) : (first >>= next).outcome = (next value).outcome := by
  rw [bind_eq_andThen, andThen_of_ok ended]

theorem bind_events_of_error {first : Trace ω ε α} {fault : ε}
    (ended : first.outcome = .error fault) (next : α → Trace ω ε β) :
    (first >>= next).events = first.events := by
  rw [bind_eq_andThen, andThen_of_error ended]

theorem bind_outcome_of_error {first : Trace ω ε α} {fault : ε}
    (ended : first.outcome = .error fault) (next : α → Trace ω ε β) :
    (first >>= next).outcome = .error fault := by
  rw [bind_eq_andThen, andThen_of_error ended]

theorem ofExcept_ok_bind (value : α) (next : α → Trace ω ε β) :
    (ofExcept (.ok value) >>= next) = next value := by
  rw [bind_eq_andThen, andThen_of_ok (ofExcept_outcome _), ofExcept_events, List.nil_append]

/-! ### Work that ends in a value -/

/-- The work ends in some value. -/
def Returns (work : Trace ω ε α) : Prop :=
  ∃ value, work.outcome = .ok value

theorem returns_pure (value : α) : Returns (pure value : Trace ω ε α) := ⟨value, rfl⟩

/-- Work in two steps returns when the first does and the second does with its value. -/
theorem returns_bind_iff {first : Trace ω ε α} {next : α → Trace ω ε β} :
    Returns (first >>= next) ↔ ∃ value, first.outcome = .ok value ∧ Returns (next value) := by
  constructor
  · rintro ⟨result, ended⟩
    obtain ⟨value, one, other⟩ := bind_outcome_ok_iff.mp ended
    exact ⟨value, one, result, other⟩
  · rintro ⟨value, one, result, other⟩
    exact ⟨result, bind_outcome_ok_iff.mpr ⟨value, one, other⟩⟩

theorem returns_bind_congr {γ : Type} {first : Trace ω ε α} {next : α → Trace ω ε β}
    {next' : α → Trace ω ε γ} (each : ∀ value, Returns (next value) ↔ Returns (next' value)) :
    Returns (first >>= next) ↔ Returns (first >>= next') := by
  simp only [returns_bind_iff, each]

/-- Where nothing that follows depends on the value, both parts return on their own. -/
theorem returns_bind_and_iff {first : Trace ω ε α} {next : α → Trace ω ε β} {rest : Prop}
    (each : ∀ value, Returns (next value) ↔ rest) :
    Returns (first >>= next) ↔ Returns first ∧ rest := by
  simp only [returns_bind_iff, each, exists_and_right]
  rfl

theorem returns_bind_pure_iff {first : Trace ω ε α} {result : α → β} :
    Returns (first >>= fun value => (pure (result value) : Trace ω ε β)) ↔ Returns first := by
  simp only [returns_bind_iff, iff_true_intro (returns_pure _), and_true]
  rfl

theorem Returns.bind {first : Trace ω ε α} {next : α → Trace ω ε β} (one : Returns first)
    (other : ∀ value, first.outcome = .ok value → Returns (next value)) :
    Returns (first >>= next) := by
  obtain ⟨value, ended⟩ := one
  exact returns_bind_iff.mpr ⟨value, ended, other value ended⟩

/-! ### Work over a list -/

theorem thread_congr {work other : σ → α → Trace ω ε σ} {items : List α}
    (same : ∀ item ∈ items, ∀ state, work state item = other state item) (start : σ) :
    thread work start items = thread other start items := by
  induction items generalizing start with
  | nil => rfl
  | cons item rest ih =>
    rw [List.forall_mem_cons] at same
    rw [thread, thread, same.1 start]
    congr 1
    funext next
    exact ih same.2 next

private theorem thread_induction_from {work : σ → α → Trace ω ε σ} {P : List α → σ → Prop}
    (step : ∀ done item state next, P done state → (work state item).outcome = .ok next →
      P (done ++ [item]) next) (items : List α) :
    ∀ {done : List α} {start last : σ}, P done start →
      (thread work start items).outcome = .ok last → P (done ++ items) last := by
  induction items with
  | nil =>
    intro done start last initial ended
    rw [thread, pure_outcome, Except.ok.injEq] at ended
    rw [List.append_nil, ← ended]
    exact initial
  | cons item rest ih =>
    -- The item moves over to those that are done, and the rest is worked on from there.
    intro done start last initial ended
    rw [thread] at ended
    obtain ⟨middle, first, onward⟩ := bind_outcome_ok_iff.mp ended
    have moved := ih (step done item start middle initial first) onward
    rwa [List.append_assoc, List.singleton_append] at moved

/-- What holds at the start and is kept by each piece of work holds at the end. The invariant may
speak of the items that have been worked on. -/
theorem thread_induction {work : σ → α → Trace ω ε σ} {P : List α → σ → Prop} {start last : σ}
    {items : List α} (initial : P [] start)
    (step : ∀ done item state next, P done state → (work state item).outcome = .ok next →
      P (done ++ [item]) next)
    (ended : (thread work start items).outcome = .ok last) : P items last :=
  thread_induction_from step items initial ended

/-- When each piece of work leaves a fixed number of events of some sort, the work over a list that
ends well leaves their sum. -/
theorem thread_countP {work : σ → α → Trace ω ε σ} {sort : ω → Bool} {weight : α → Nat}
    (each : ∀ state item next, (work state item).outcome = .ok next →
      (work state item).events.countP sort = weight item) {start last : σ} {items : List α}
    (ended : (thread work start items).outcome = .ok last) :
    (thread work start items).events.countP sort = (items.map weight).sum := by
  induction items generalizing start with
  | nil => rfl
  | cons item rest ih =>
    rw [thread] at ended ⊢
    obtain ⟨middle, first, onward⟩ := bind_outcome_ok_iff.mp ended
    rw [bind_events_of_ok first, List.countP_append, each _ _ _ first, ih onward, List.map_cons,
      List.sum_cons]

/-- When each piece of work ends in a value for some items only, whatever the state, the work over a
list ends in a value exactly for lists of such items. -/
theorem returns_thread_iff {work : σ → α → Trace ω ε σ} {fine : α → Prop}
    (each : ∀ state item, Returns (work state item) ↔ fine item) {start : σ} {items : List α} :
    Returns (thread work start items) ↔ ∀ item ∈ items, fine item := by
  induction items generalizing start with
  | nil => exact iff_of_true (returns_pure start) (by simp)
  | cons item rest ih =>
    rw [thread, returns_bind_iff, List.forall_mem_cons]
    constructor
    · rintro ⟨next, first, onward⟩
      exact ⟨(each start item).mp ⟨next, first⟩, ih.mp onward⟩
    · rintro ⟨one, others⟩
      obtain ⟨next, first⟩ := (each start item).mpr one
      exact ⟨next, first, ih.mpr others⟩

/-! ### Properties of all events -/

/-- Every event that the work leaves behind has the property, however the work ends. -/
def Leaves (property : ω → Prop) (work : Trace ω ε α) : Prop :=
  ∀ event ∈ work.events, property event

variable {property : ω → Prop}

theorem leaves_pure (value : α) : Leaves property (pure value : Trace ω ε α) := by
  simp [Leaves]

theorem leaves_ofExcept (outcome : Except ε α) :
    Leaves property (ofExcept outcome : Trace ω ε α) := by
  simp [Leaves]

theorem leaves_fail (fault : ε) : Leaves property (fail fault : Trace ω ε α) := by
  simp [Leaves]

theorem leaves_tell {event : ω} (has : property event) :
    Leaves property (tell event : Trace ω ε Unit) := by
  simpa [Leaves] using has

/-- What holds of the events of both steps holds of all events. -/
theorem Leaves.bind {first : Trace ω ε α} {next : α → Trace ω ε β} (one : Leaves property first)
    (other : ∀ value, Leaves property (next value)) : Leaves property (first >>= next) := by
  cases ended : first.outcome with
  | error fault =>
    -- Only the events of the first part are left.
    rw [Leaves, bind_events_of_error ended]
    exact one
  | ok value =>
    intro event member
    rw [bind_events_of_ok ended, List.mem_append] at member
    rcases member with member | member
    · exact one event member
    · exact other value event member

/-- What holds of the events of every turn holds of the events of the loop. -/
theorem Leaves.thread {work : σ → α → Trace ω ε σ}
    (each : ∀ state item, Leaves property (work state item)) (start : σ) (items : List α) :
    Leaves property (thread work start items) := by
  induction items generalizing start with
  | nil => exact leaves_pure start
  | cons item rest ih => exact (each start item).bind ih

theorem Leaves.countP_eq_zero {sort : ω → Bool} {work : Trace ω ε α}
    (none : Leaves (fun event => sort event = false) work) : work.events.countP sort = 0 :=
  List.countP_eq_zero.mpr fun event member => by simp [none event member]

theorem Leaves.mapEvents {rename : ω' → ω} {work : Trace ω' ε α}
    (each : Leaves (fun event => property (rename event)) work) :
    Leaves property (work.mapEvents rename) := by
  intro event member
  obtain ⟨source, inside, rfl⟩ := List.mem_map.mp member
  exact each source inside

end ClusterCensus.Trace
