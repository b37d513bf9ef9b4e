import ReactiveGraph.Outcome

namespace ReactiveGraph
namespace Outcome

/-!
# Activities in sequence

What an activity does is stated in one of five ways.  A relation between the
state before, the events and the state after describes it whether or not it
fails.  A postcondition on failures tells which errors there can be and where
they leave the state.  A property that grows with the items handled describes
what holds if nothing fails, and up to the item at which something does.  A
relation between two states is kept when the same activity is carried out in
both, with the same events and the same result.  And two activities come to
the same wherever an invariant holds.  Each kind of statement passes from the
parts of a sequence to the whole.
-/

variable {α S β γ X : Type}

/-- A relation between a state, the events that follow it and the state they
lead to, which holds of nothing at all and of one thing after another. -/
structure Composes (R : S → List (Event α) → S → Prop) : Prop where
  stay : ∀ state, R state [] state
  append : ∀ {first middle last : S} {front back : List (Event α)},
    R first front middle → R middle back last → R first (front ++ back) last

/-- The outcome of an activity started in `start` lies in the relation. -/
def Follows (R : S → List (Event α) → S → Prop) (start : S) (outcome : Outcome α S β) : Prop :=
  R start outcome.events outcome.state

theorem Composes.done {R : S → List (Event α) → S → Prop} (composes : Composes R)
    (state : S) (value : β) : Follows R state (done state value : Outcome α S β) :=
  composes.stay state

theorem Composes.fail {R : S → List (Event α) → S → Prop} (composes : Composes R)
    (state : S) (error : GraphError) : Follows R state (fail state error : Outcome α S β) :=
  composes.stay state

theorem Composes.andThen {R : S → List (Event α) → S → Prop} (composes : Composes R)
    {start : S} {first : Outcome α S β} {next : β → S → Outcome α S γ}
    (before : Follows R start first)
    (after : ∀ value, first.result = .ok value → Follows R first.state (next value first.state)) :
    Follows R start (first.andThen next) := by
  rcases first with ⟨state, events, result⟩
  cases result with
  | error error => exact before
  | ok value => exact composes.append before (after value rfl)

theorem Composes.each {R : S → List (Event α) → S → Prop} (composes : Composes R)
    {act : X → S → Outcome α S Unit} {items : List X}
    (one : ∀ item ∈ items, ∀ state, Follows R state (act item state)) (state : S) :
    Follows R state (each act items state) := by
  induction items generalizing state with
  | nil => exact composes.done state ()
  | cons item rest ih =>
      apply composes.andThen (one item List.mem_cons_self state)
      intro _ _
      exact ih (fun other later => one other (List.mem_cons_of_mem item later)) _

section Relations

variable {T : Type}

def On (part : T → S) (R : S → List (Event α) → S → Prop) (before : T) (log : List (Event α))
    (after : T) : Prop :=
  R (part before) log (part after)

theorem Composes.on {R : S → List (Event α) → S → Prop} (composes : Composes R) (part : T → S) :
    Composes (On part R) :=
  ⟨fun state => composes.stay (part state), composes.append⟩

def Keeps (part : S → T) (before : S) (_ : List (Event α)) (after : S) : Prop :=
  part after = part before

theorem composes_keeps (part : S → T) : Composes (α := α) (Keeps part) :=
  ⟨fun _ => rfl, fun before after => Eq.trans after before⟩

def Preserves (P : S → Prop) (before : S) (_ : List (Event α)) (after : S) : Prop :=
  P before → P after

theorem composes_preserves (P : S → Prop) : Composes (α := α) (Preserves P) :=
  ⟨fun _ holds => holds, fun before after holds => after (before holds)⟩

def Tells (told? : Event α → Option T) (allowed : T → Prop) (_ : S) (log : List (Event α))
    (_ : S) : Prop :=
  ∀ item ∈ log.filterMap told?, allowed item

theorem composes_tells (told? : Event α → Option T) (allowed : T → Prop) :
    Composes (S := S) (Tells told? allowed) := by
  refine ⟨fun _ _ member => (List.not_mem_nil member).elim, ?_⟩
  intro _ _ _ front back before after item member
  rw [List.filterMap_append] at member
  exact (List.mem_append.mp member).elim (before item) (after item)

end Relations

/-- Whenever the activity fails, error and state are as described. -/
def FailsOnly (E : S → GraphError → Prop) (outcome : Outcome α S β) : Prop :=
  ∀ error, outcome.result = .error error → E outcome.state error

theorem failsOnly_done (E : S → GraphError → Prop) (state : S) (value : β) :
    FailsOnly E (done state value : Outcome α S β) := by
  intro error failed
  cases failed

theorem failsOnly_fail {E : S → GraphError → Prop} {state : S} {error : GraphError}
    (expected : E state error) : FailsOnly E (fail state error : Outcome α S β) := by
  intro other failed
  cases failed
  exact expected

theorem FailsOnly.andThen {E : S → GraphError → Prop} {first : Outcome α S β}
    {next : β → S → Outcome α S γ} (before : FailsOnly E first)
    (after : ∀ value, first.result = .ok value → FailsOnly E (next value first.state)) :
    FailsOnly E (first.andThen next) := by
  rcases first with ⟨state, events, result⟩
  cases result with
  | error error =>
      intro other failed
      cases failed
      exact before error rfl
  | ok value => exact after value rfl

theorem failsOnly_each {E : S → GraphError → Prop} {act : X → S → Outcome α S Unit}
    {items : List X} (one : ∀ item ∈ items, ∀ state, FailsOnly E (act item state)) (state : S) :
    FailsOnly E (each act items state) := by
  induction items generalizing state with
  | nil => exact failsOnly_done E state ()
  | cons item rest ih =>
      apply FailsOnly.andThen (one item List.mem_cons_self state)
      intro _ _
      exact ih (fun other later => one other (List.mem_cons_of_mem item later)) _

theorem andThen_ok {first : Outcome α S β} {next : β → S → Outcome α S γ} {value : γ}
    (ok : (first.andThen next).result = .ok value) :
    ∃ middle, first.result = .ok middle ∧ (next middle first.state).result = .ok value ∧
      first.andThen next = (next middle first.state).behind first.events := by
  rcases first with ⟨state, events, result⟩
  cases result with
  | error error => cases ok
  | ok middle => exact ⟨middle, rfl, ok, rfl⟩

theorem andThen_error {first : Outcome α S β} {next : β → S → Outcome α S β} {error : GraphError}
    (failed : first.result = .error error) : first.andThen next = first := by
  rcases first with ⟨state, events, result⟩
  cases failed
  rfl

/-- What holds of no items, and goes on to hold as each further item is
handled without failure, holds of all items if none fails. -/
theorem each_ok {P : List X → S → List (Event α) → Prop} {act : X → S → Outcome α S Unit}
    {items : List X} {start : S} (none : P [] start [])
    (one : ∀ handled item rest state log, items = handled ++ item :: rest →
      P handled state log → (act item state).result = .ok () →
        P (handled ++ [item]) (act item state).state (log ++ (act item state).events))
    (ok : (each act items start).result = .ok ()) :
    P items (each act items start).state (each act items start).events := by
  suffices general : ∀ rest handled state log, items = handled ++ rest → P handled state log →
      (each act rest state).result = .ok () →
        P items (each act rest state).state (log ++ (each act rest state).events) by
    simpa only [List.nil_append] using general items [] start [] rfl none ok
  intro rest
  induction rest with
  | nil =>
      intro handled state log split before _
      rw [split, List.append_nil]
      simpa only [each, done, List.append_nil] using before
  | cons item rest ih =>
      intro handled state log split before ok
      rcases andThen_ok ok with ⟨_, first, second, whole⟩
      have after := ih (handled ++ [item]) (act item state).state
        (log ++ (act item state).events)
        (by rw [split, List.append_assoc, List.singleton_append])
        (one handled item rest state log split before first) second
      rw [each, whole]
      simpa only [behind, List.append_assoc] using after

/-- A sequence that fails has failed at one item, and up to that item what
held of no items has gone on to hold. -/
theorem each_error {P : List X → S → List (Event α) → Prop} {act : X → S → Outcome α S Unit}
    {items : List X} {start : S} {error : GraphError} (none : P [] start [])
    (one : ∀ handled item rest state log, items = handled ++ item :: rest →
      P handled state log → (act item state).result = .ok () →
        P (handled ++ [item]) (act item state).state (log ++ (act item state).events))
    (failed : (each act items start).result = .error error) :
    ∃ handled item rest state log, items = handled ++ item :: rest ∧ P handled state log ∧
      (act item state).result = .error error ∧
        each act items start = (act item state).behind log := by
  suffices general : ∀ rest handled state log, items = handled ++ rest → P handled state log →
      (each act rest state).result = .error error →
        ∃ handled item later reached before, items = handled ++ item :: later ∧
          P handled reached before ∧ (act item reached).result = .error error ∧
            (each act rest state).behind log = (act item reached).behind before by
    simpa only [behind, List.nil_append] using general items [] start [] rfl none failed
  intro rest
  induction rest with
  | nil =>
      intro handled state log _ _ failed
      cases failed
  | cons item rest ih =>
      intro handled state log split before failed
      rw [each] at failed ⊢
      cases first : (act item state).result with
      | error cause =>
          rw [andThen_error first] at failed ⊢
          exact ⟨handled, item, rest, state, log, split, before, failed, rfl⟩
      | ok =>
          have whole : ((act item state).andThen fun _ => each act rest) =
              (each act rest (act item state).state).behind (act item state).events := by
            rw [andThen, first]
          rw [whole] at failed ⊢
          have after := ih (handled ++ [item]) (act item state).state
            (log ++ (act item state).events)
            (by rw [split, List.append_assoc, List.singleton_append])
            (one handled item rest state log split before first) failed
          simpa only [behind, List.append_assoc] using after

/-! ## Side by side -/

/-- Two outcomes with the same events and the same result have led to states
in the relation. -/
structure Alike (R : S → S → Prop) (first second : Outcome α S β) : Prop where
  state : R first.state second.state
  events : first.events = second.events
  result : first.result = second.result

theorem alike_done {R : S → S → Prop} {first second : S} (related : R first second) (value : β) :
    Alike R (done first value : Outcome α S β) (done second value) :=
  ⟨related, rfl, rfl⟩

theorem alike_fail {R : S → S → Prop} {first second : S} (related : R first second)
    (error : GraphError) : Alike R (fail first error : Outcome α S β) (fail second error) :=
  ⟨related, rfl, rfl⟩

theorem Alike.behind {R : S → S → Prop} {first second : Outcome α S β}
    (alike : Alike R first second) (events : List (Event α)) :
    Alike R (first.behind events) (second.behind events) where
  state := alike.state
  events := congrArg (events ++ ·) alike.events
  result := alike.result

theorem Alike.andThen {R : S → S → Prop} {first second : Outcome α S β}
    {next other : β → S → Outcome α S γ} (before : Alike R first second)
    (after : ∀ value one two, R one two → Alike R (next value one) (other value two)) :
    Alike R (first.andThen next) (second.andThen other) := by
  rcases first with ⟨state, events, result⟩
  rcases second with ⟨otherState, otherEvents, otherResult⟩
  rcases before with ⟨related, rfl, rfl⟩
  cases result with
  | error error => exact ⟨related, rfl, rfl⟩
  | ok value => exact (after value state otherState related).behind events

theorem alike_each {R : S → S → Prop} {act : X → S → Outcome α S Unit}
    (one : ∀ item first second, R first second → Alike R (act item first) (act item second))
    (items : List X) {first second : S} (related : R first second) :
    Alike R (each act items first) (each act items second) := by
  induction items generalizing first second with
  | nil => exact alike_done related ()
  | cons item rest ih =>
      apply (one item first second related).andThen
      intro _ _ _ after
      exact ih after

/-- Activities that agree on the state that the first one is left in may
replace each other behind it. -/
theorem andThen_congr {first : Outcome α S β} {next other : β → S → Outcome α S γ}
    (same : ∀ value, next value first.state = other value first.state) :
    first.andThen next = first.andThen other := by
  rcases first with ⟨state, events, result⟩
  cases result with
  | error error => rfl
  | ok value => exact congrArg (behind · events) (same value)

/-- Activities that agree wherever an invariant holds come to the same for
all items, if the first one keeps the invariant. -/
theorem each_congr {P : S → Prop} {act other : X → S → Outcome α S Unit} {items : List X}
    (same : ∀ item ∈ items, ∀ state, P state → act item state = other item state)
    (keeps : ∀ item ∈ items, ∀ state, P state → P (act item state).state) {state : S}
    (start : P state) : each act items state = each other items state := by
  induction items generalizing state with
  | nil => rfl
  | cons item rest ih =>
      rw [each, each, ← same item List.mem_cons_self state start]
      apply andThen_congr
      intro _
      apply ih
      · exact fun later member => same later (List.mem_cons_of_mem item member)
      · exact fun later member => keeps later (List.mem_cons_of_mem item member)
      · exact keeps item List.mem_cons_self state start

end Outcome
end ReactiveGraph
