/-!
# Traces

A piece of work leaves events behind and ends in a value or a fault. The events that came before a
fault stay, so what was noted or done up to it can still be told. Sequencing appends events and
stops at the first fault.
-/
namespace ClusterCensus

/-- Events in the order they happened, and how the work ended. -/
structure Trace (ω ε α : Type) where
  events : List ω
  outcome : Except ε α

namespace Trace

variable {ω ω' ε α β : Type}

/-- Leaves one event behind. -/
def tell (event : ω) : Trace ω ε Unit :=
  ⟨[event], .ok ()⟩

def fail (fault : ε) : Trace ω ε α :=
  ⟨[], .error fault⟩

/-- Ends as the given outcome, without events. -/
def ofExcept (outcome : Except ε α) : Trace ω ε α :=
  ⟨[], outcome⟩

/-- Goes on with the value, or stops at the fault. -/
def andThen (first : Trace ω ε α) (next : α → Trace ω ε β) : Trace ω ε β :=
  match first.outcome with
  | .error fault => ⟨first.events, .error fault⟩
  | .ok value =>
    let second := next value
    ⟨first.events ++ second.events, second.outcome⟩

instance : Monad (Trace ω ε) where
  pure value := ⟨[], .ok value⟩
  bind := andThen

/-! ### Sequencing -/

theorem bind_eq_andThen (first : Trace ω ε α) (next : α → Trace ω ε β) :
    first >>= next = first.andThen next := by
  rfl

theorem pure_eq (value : α) : (pure value : Trace ω ε α) = ⟨[], .ok value⟩ := by
  rfl

/-- After a value the work goes on, and the events of both parts stay. -/
theorem andThen_of_ok {first : Trace ω ε α} {value : α} (ended : first.outcome = .ok value)
    (next : α → Trace ω ε β) :
    first.andThen next = ⟨first.events ++ (next value).events, (next value).outcome⟩ := by
  simp only [andThen, ended]

/-- After a fault nothing more happens. -/
theorem andThen_of_error {first : Trace ω ε α} {fault : ε} (ended : first.outcome = .error fault)
    (next : α → Trace ω ε β) : first.andThen next = ⟨first.events, .error fault⟩ := by
  simp only [andThen, ended]

theorem pure_andThen (value : α) (next : α → Trace ω ε β) :
    (pure value : Trace ω ε α).andThen next = next value := by
  simp only [pure_eq, andThen, List.nil_append]

theorem andThen_assoc {γ : Type} (first : Trace ω ε α) (second : α → Trace ω ε β)
    (third : β → Trace ω ε γ) :
    (first.andThen second).andThen third = first.andThen fun value =>
      (second value).andThen third := by
  cases ended : first.outcome with
  | error fault => simp only [andThen, ended]
  | ok value =>
    cases middle : (second value).outcome with
    | error fault => simp only [andThen, ended, middle]
    | ok result => simp only [andThen, ended, middle, List.append_assoc]

def mapEvents (rename : ω → ω') (work : Trace ω ε α) : Trace ω' ε α :=
  ⟨work.events.map rename, work.outcome⟩

/-- Threads a state through a list, one piece of work for each item. -/
def thread {σ : Type} (work : σ → α → Trace ω ε σ) (start : σ) : List α → Trace ω ε σ
  | [] => pure start
  | item :: rest => do
    let next ← work start item
    thread work next rest

end Trace
end ClusterCensus
