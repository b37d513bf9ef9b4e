import ReactiveGraph.Proofs.Feedback

namespace ReactiveGraph

/-!
# The limit of feedback

A graph counts the passes that lags have driven in a row.  What the count is
meant to be can be told from the history alone: which operations have run a
pass, which of these passes had an input, and when the lags were given up.
The graph keeps to that count at every point of its history, so that the lags
are given up exactly when the limit says so, and stay at rest until an input
comes.
-/

variable {α σ : Type}

/-- What an operation has come to as far as passes go: none was run, one was
run for an input or for the lags alone, or the lags were given up. -/
inductive Turn where
  | idle
  | driven
  | lagged
  | givenUp
  deriving DecidableEq

namespace Turn

def isPass : Turn → Bool
  | driven => true
  | lagged => true
  | _ => false

def resets : Turn → Bool
  | driven => true
  | givenUp => true
  | _ => false

/-- How many passes were run since the last one for an input, since the lags
were last given up, or since the start, whichever is latest. -/
def streak (turns : List Turn) : Nat :=
  (turns.reverse.takeWhile fun turn => !turn.resets).countP isPass

theorem streak_concat (turns : List Turn) (turn : Turn) :
    streak (turns ++ [turn]) =
      if turn.resets then 0 else streak turns + if turn.isPass then 1 else 0 := by
  rw [streak, List.reverse_append, List.reverse_singleton, List.singleton_append,
    List.takeWhile_cons]
  cases turn.resets with
  | true => rfl
  | false => exact List.countP_cons

end Turn

namespace Graph

/-- Whether the operation reports that lags have driven too many passes in a
row. -/
def exceeds : Operation α σ → Graph α σ → Bool
  | .step, graph =>
      match graph.step.result with
      | .error (.feedbackLimit _) => true
      | _ => false
  | _, _ => false

/-- What an operation comes to, told by the number of passes before and after
it, the inputs it takes and its result. -/
def turn (operation : Operation α σ) (graph : Graph α σ) : Turn :=
  if (perform operation graph).state.passCount = graph.passCount then
    if exceeds operation graph then .givenUp else .idle
  else if ((perform operation graph).events.filterMap Event.consumed?).isEmpty then .lagged
  else .driven

def turns : List (Operation α σ) → Graph α σ → List Turn
  | [], _ => []
  | operation :: rest, graph => turn operation graph :: turns rest (perform operation graph).state

/-- The count has become what the turn makes of it, and it has not come to
exceed the limit. -/
structure Counts (turn : Turn) (before after : Graph α σ) : Prop where
  config : after.config = before.config
  count : after.feedbackPasses =
    if turn.resets then 0 else before.feedbackPasses + if turn.isPass then 1 else 0
  bounded : before.feedbackPasses ≤ before.config.maxFeedbackPasses.toNat →
    after.feedbackPasses ≤ before.config.maxFeedbackPasses.toNat

theorem counts_idle {before after : Graph α σ} (config : after.config = before.config)
    (count : after.feedbackPasses = before.feedbackPasses) : Counts .idle before after where
  config := config
  count := count
  bounded within := by
    rw [count]
    exact within

theorem turn_quiet {operation : Operation α σ} (quiet : operation ≠ .step) (graph : Graph α σ) :
    turn operation graph = .idle := by
  have silent : exceeds operation graph = false := by
    cases operation with
    | step => exact absurd rfl quiet
    | _ => rfl
  rw [turn, if_pos (graph.perform_unevaluated quiet).passCount, silent, if_neg Bool.false_ne_true]

theorem turn_idle {graph : Graph α σ} (still : graph.step.state.passCount = graph.passCount)
    (within : ∀ passes, graph.step.result ≠ .error (.feedbackLimit passes)) :
    turn .step graph = .idle := by
  have silent : exceeds .step graph = false := by
    rw [exceeds]
    split
    next passes limited => exact absurd limited (within passes)
    next => rfl
  have same : (perform .step graph).state.passCount = graph.passCount := still
  rw [turn, if_pos same, silent, if_neg Bool.false_ne_true]

theorem turn_givenUp {graph : Graph α σ} {passes : Nat}
    (still : graph.step.state.passCount = graph.passCount)
    (limited : graph.step.result = .error (.feedbackLimit passes)) :
    turn .step graph = .givenUp := by
  have loud : exceeds .step graph = true := by rw [exceeds, limited]
  have same : (perform .step graph).state.passCount = graph.passCount := still
  rw [turn, if_pos same, loud, if_pos rfl]

theorem turn_pass {graph : Graph α σ} {input : Option (Input α)} {log : List (Event α)}
    (ran : graph.step.state.passCount = graph.passCount + 1)
    (events : graph.step.events = input.toList.map .consumed ++ log)
    (untaken : log.filterMap Event.consumed? = []) :
    turn .step graph = if input.isSome then .driven else .lagged := by
  have different : (perform .step graph).state.passCount ≠ graph.passCount := by
    intro same
    exact absurd (ran.symm.trans same) (Nat.succ_ne_self graph.passCount)
  have taken : (perform .step graph).events.filterMap Event.consumed? = input.toList := by
    have log : (perform .step graph).events = input.toList.map .consumed ++ log := events
    rw [log, List.filterMap_append, untaken, List.append_nil, List.filterMap_map]
    exact List.filterMap_some
  rw [turn, if_neg different, taken]
  cases input <;> rfl

/-- A step changes the count as it turns out. -/
theorem counts_step (graph : Graph α σ) : Counts (turn .step graph) graph graph.step.state := by
  rcases graph.step_cases with
    ⟨cause, _, same⟩ | ⟨closed, answer, ⟨_, _, same⟩ | ⟨_, _, _, same⟩ | ⟨allowed, same⟩⟩
  · rw [turn_idle (by rw [same]; rfl) (by rw [same]; rintro passes ⟨⟩), same]
    exact counts_idle rfl rfl
  · rcases close_frame answer with ⟨order, registry, rfl⟩
    rw [turn_idle (by rw [same]; rfl) (by rw [same]; rintro passes ⟨⟩), same]
    exact counts_idle rfl rfl
  · rcases close_frame answer with ⟨order, registry, rfl⟩
    rw [turn_givenUp (by rw [same]; rfl) (by rw [same]; rfl), same]
    exact ⟨rfl, rfl, fun _ => Nat.zero_le _⟩
  · rcases close_frame answer with ⟨order, registry, rfl⟩
    rw [turn_pass (by rw [same]; rfl) (by rw [same]) (consumed_nextPass _), same, rested]
    cases waiting : graph.queue.waiting with
    | nil => exact ⟨rfl, rfl, fun _ => (allowed waiting).2⟩
    | cons input rest => exact ⟨rfl, rfl, fun _ => Nat.zero_le _⟩

theorem counts_perform (operation : Operation α σ) (graph : Graph α σ) :
    Counts (turn operation graph) graph (perform operation graph).state := by
  by_cases stepping : operation = .step
  · subst stepping
    exact counts_step graph
  · have same := graph.perform_unevaluated stepping
    rw [turn_quiet stepping]
    exact counts_idle same.config same.feedbackPasses

/-- The graph has counted the passes of its history, within the limit. -/
structure Keeping (limit : Nat) (turns : List Turn) (graph : Graph α σ) : Prop where
  config : graph.config.maxFeedbackPasses.toNat = limit
  count : graph.feedbackPasses = Turn.streak turns
  bounded : graph.feedbackPasses ≤ limit

theorem Keeping.perform {limit : Nat} {turns : List Turn} {graph : Graph α σ}
    (keeping : Keeping limit turns graph) (operation : Operation α σ) :
    Keeping limit (turns ++ [turn operation graph]) (Graph.perform operation graph).state := by
  have counts := counts_perform operation graph
  rcases keeping with ⟨rfl, count, bounded⟩
  refine ⟨by rw [counts.config], ?_, counts.bounded bounded⟩
  rw [counts.count, Turn.streak_concat, count]

theorem Keeping.run {limit : Nat} {past : List Turn} {graph : Graph α σ}
    (keeping : Keeping limit past graph) (operations : List (Operation α σ)) :
    Keeping limit (past ++ turns operations graph) (Graph.run operations graph).state := by
  induction operations generalizing past graph with
  | nil =>
      rw [turns, List.append_nil]
      exact keeping
  | cons operation rest ih =>
      have after := ih (keeping.perform operation)
      rw [List.append_assoc, List.singleton_append] at after
      rw [turns, run_cons]
      exact after

/-! ## At rest -/

/-- Nothing is pending, and nothing will be until an input comes. -/
structure Resting (graph : Graph α σ) : Prop where
  closed : graph.isSealed = true
  unarmed : graph.armed = []
  empty : graph.queue.waiting = []

theorem isArmed_of_armed {live : Live α σ} (unarmed : live.armed = []) : live.isArmed = false := by
  rw [Live.isArmed, List.any_eq_false]
  intro slot member
  rw [List.filterMap_eq_nil_iff.mp unarmed slot member]
  exact Bool.false_ne_true

theorem armed_of_isArmed {live : Live α σ} (idle : live.isArmed = false) : live.armed = [] := by
  rw [Live.isArmed, List.any_eq_false] at idle
  apply List.filterMap_eq_nil_iff.mpr
  intro slot member
  exact Option.not_isSome_iff_eq_none.mp (idle slot member)

theorem Resting.lag_unarmed {graph : Graph α σ} (resting : graph.Resting) {detector : DetectorId}
    {lag : Lag α} (holds : graph.lag? detector = some lag) : lag.armed = none := by
  cases armed : lag.armed with
  | none => rfl
  | some value =>
      have delivers := Live.mem_armed.mpr ⟨detector, lag, value, holds, armed, rfl⟩
      rw [resting.unarmed] at delivers
      cases delivers

theorem Resting.hasPending {graph : Graph α σ} (resting : graph.Resting) :
    graph.hasPending = false := by
  rw [Graph.hasPending, InputQueue.isEmpty, resting.empty, isArmed_of_armed resting.unarmed]
  rfl

theorem Resting.step {graph : Graph α σ} (resting : graph.Resting) :
    graph.step = .done graph false := by
  rw [Graph.step, close_sealed resting.closed]
  exact stepSealed_idle resting.empty (isArmed_of_armed resting.unarmed)

/-- Whoever accepts no input leaves a graph at rest. -/
theorem Resting.perform {graph : Graph α σ} (resting : graph.Resting)
    {operation : Operation α σ}
    (nothing : (Graph.perform operation graph).events.filterMap Event.accepted? = []) :
    (Graph.perform operation graph).state.Resting := by
  rcases perform_sealed resting.closed operation with rfl | ⟨service, same⟩
  · have still : (Graph.perform .step graph).state = graph := by
      rw [Graph.perform, resting.step]
      rfl
    rw [still]
    exact resting
  · have accounts := graph.perform_accounts operation
    have fitting : InputQueue.Fitting graph.queue.capacity graph.queue.waiting := by
      rw [resting.empty]
      exact fun limit _ => Nat.zero_le limit
    have balance := (accounts.flows fitting).accounts
    rw [nothing, resting.empty] at balance
    have empty := (List.append_eq_nil_iff.mp balance.symm).2
    rw [same] at empty ⊢
    exact ⟨resting.closed, resting.unarmed, empty⟩

theorem Resting.run {graph : Graph α σ} (resting : graph.Resting)
    {operations : List (Operation α σ)}
    (nothing : (Graph.run operations graph).events.filterMap Event.accepted? = []) :
    (Graph.run operations graph).state.Resting := by
  induction operations generalizing graph with
  | nil => exact resting
  | cons operation rest ih =>
      rw [run_cons, Outcome.behind, List.filterMap_append] at nothing
      rcases List.append_eq_nil_iff.mp nothing with ⟨first, later⟩
      rw [run_cons]
      exact ih (resting.perform first) later

/-- What the limit means for a graph with the given history.  Below it, armed
lags drive a pass of their own.  It is reported when it has been reached and
lags would drive one more pass, and at no other time; then no lag is left with
a value to deliver, and nothing is pending, whatever happens, until an input
is accepted.  A step that finds nothing to do or fails to seal the graph does
not disturb the count. -/
structure Limited (limit : Nat) (turns : List Turn) (graph : Graph α σ) : Prop where
  bounded : Turn.streak turns ≤ limit
  drives : graph.isSealed = true → graph.queue.waiting = [] → graph.isArmed = true →
    Turn.streak turns < limit →
      turn .step graph = .lagged ∧
        ∃ passed, passed = Live.pass graph.registry graph.order none graph.poised ∧
          graph.step =
            ⟨graph.rested passed.state, passed.events, passed.result.map fun _ => true⟩
  stops_iff : ∀ passes, graph.step.result = .error (.feedbackLimit passes) ↔
    passes = limit ∧ graph.isSealed = true ∧ graph.queue.waiting = [] ∧ graph.isArmed = true ∧
      Turn.streak turns = limit
  rests : ∀ passes, graph.step.result = .error (.feedbackLimit passes) →
    (∀ detector lag, graph.step.state.lag? detector = some lag → lag.armed = none) ∧
      ∀ operations, (run operations graph.step.state).events.filterMap Event.accepted? = [] →
        (run operations graph.step.state).state.hasPending = false ∧
          (run operations graph.step.state).state.step.result = .ok false
  undisturbed : (graph.step.result = .ok false ∨
      ∃ cause, graph.step.result = .error (.wiring cause)) →
    Turn.streak (turns ++ [turn .step graph]) = Turn.streak turns

/-- Where the limit is reported, it was reached by a sealed graph in which
lags are all that could drive a pass. -/
theorem step_limited {graph : Graph α σ} (coherent : graph.Coherent) {passes : Nat}
    (limited : graph.step.result = .error (.feedbackLimit passes)) :
    passes = graph.config.maxFeedbackPasses.toNat ∧ graph.isSealed = true ∧
      graph.queue.waiting = [] ∧ graph.isArmed = true ∧ passes < graph.feedbackPasses + 1 ∧
        graph.step.state = graph.givenUp := by
  rcases step_error limited with
    ⟨cause, wrong, _, _⟩ | ⟨closed, answer, ⟨empty, armed, exhausted, same, givenUp⟩ | ⟨ended, _⟩⟩
  · cases wrong
  · rw [givenUp]
    cases same
    cases before : graph.isSealed with
    | true =>
        rw [close_sealed before] at answer
        cases answer
        exact ⟨rfl, rfl, empty, armed, exhausted, rfl⟩
    | false =>
        rcases close_frame answer with ⟨order, registry, rfl⟩
        have idle : graph.isArmed = false := isArmed_of_armed (coherent.unarmed before)
        exact absurd (idle.symm.trans armed) Bool.false_ne_true
  · exact absurd rfl ((nextPass_fails ended).1 passes)

theorem Keeping.drives {limit : Nat} {turns : List Turn} {graph : Graph α σ}
    (keeping : Keeping limit turns graph) (closed : graph.isSealed = true)
    (empty : graph.queue.waiting = []) (armed : graph.isArmed = true)
    (below : Turn.streak turns < limit) :
    turn .step graph = .lagged ∧
      ∃ passed, passed = Live.pass graph.registry graph.order none graph.poised ∧
        graph.step =
          ⟨graph.rested passed.state, passed.events, passed.result.map fun _ => true⟩ := by
  have allowed : graph.feedbackPasses + 1 ≤ graph.config.maxFeedbackPasses.toNat := by
    rw [keeping.count, keeping.config]
    exact below
  have passes : graph.step =
      ⟨graph.rested graph.nextPass.state, graph.nextPass.events,
        graph.nextPass.result.map fun _ => true⟩ := by
    rw [step, close_sealed closed]
    have passed := stepSealed_passes fun _ => ⟨armed, allowed⟩
    rw [empty] at passed
    exact passed
  have events : graph.step.events =
      (none : Option (Input α)).toList.map .consumed ++ graph.nextPass.events := by
    rw [passes]
    rfl
  refine ⟨turn_pass (by rw [passes]; rfl) events graph.consumed_nextPass,
    graph.nextPass, ?_, passes⟩
  rw [nextPass, empty]
  rfl

theorem Keeping.stops {limit : Nat} {turns : List Turn} {graph : Graph α σ}
    (keeping : Keeping limit turns graph) (closed : graph.isSealed = true)
    (empty : graph.queue.waiting = []) (armed : graph.isArmed = true)
    (reached : Turn.streak turns = limit) :
    graph.step.result = .error (.feedbackLimit limit) := by
  have exhausted : graph.config.maxFeedbackPasses.toNat < graph.feedbackPasses + 1 := by
    rw [keeping.count, keeping.config, reached]
    exact Nat.lt_succ_self limit
  have stepped : graph.step = graph.stepSealed := by rw [step, close_sealed closed]
  rw [stepped, stepSealed_givenUp empty armed exhausted, keeping.config]
  rfl

theorem turn_undisturbed {graph : Graph α σ}
    (nothing : graph.step.result = .ok false ∨
      ∃ cause, graph.step.result = .error (.wiring cause)) :
    turn .step graph = .idle := by
  have still : graph.step.state.passCount = graph.passCount := by
    by_contra counted
    rcases step_passed counted with ⟨closed, _, same⟩
    rw [same] at nothing
    cases ended : closed.nextPass.result with
    | ok =>
        rw [ended] at nothing
        rcases nothing with wrong | ⟨cause, wrong⟩ <;> cases wrong
    | error error =>
        rw [ended] at nothing
        rcases nothing with wrong | ⟨cause, wrong⟩
        · cases wrong
        · cases wrong
          exact absurd rfl ((nextPass_fails ended).2 cause)
  apply turn_idle still
  intro passes limited
  rw [limited] at nothing
  rcases nothing with wrong | ⟨cause, wrong⟩ <;> cases wrong

theorem feedback_limit_exact (config : Config) (operations : List (Operation α σ)) :
    Limited config.maxFeedbackPasses.toNat (turns operations (ofConfig config))
      (run operations (ofConfig config)).state := by
  have start : Keeping config.maxFeedbackPasses.toNat [] (ofConfig config : Graph α σ) :=
    ⟨rfl, rfl, Nat.zero_le _⟩
  have keeping := start.run operations
  rw [List.nil_append] at keeping
  have coherent : (run operations (ofConfig config)).state.Coherent :=
    Reachable.coherent ⟨config, operations, rfl⟩
  refine
    { bounded := by rw [← keeping.count]; exact keeping.bounded
      drives := keeping.drives, stops_iff := ?_, rests := ?_, undisturbed := ?_ }
  · intro passes
    constructor
    · intro limited
      rcases step_limited coherent limited with ⟨same, closed, empty, armed, exhausted, _⟩
      have bounded := keeping.bounded
      have count := keeping.count
      rw [keeping.config] at same
      exact ⟨same, closed, empty, armed, by omega⟩
    · rintro ⟨rfl, closed, empty, armed, reached⟩
      exact keeping.stops closed empty armed reached
  · intro passes limited
    rcases step_limited coherent limited with ⟨_, closed, empty, _, _, state⟩
    have unarmed := armed_givenUp (run operations (ofConfig config)).state
    rw [← state] at unarmed
    have resting : (run operations (ofConfig config)).state.step.state.Resting := by
      rw [state] at unarmed ⊢
      exact ⟨closed, unarmed, empty⟩
    constructor
    · exact fun _ _ => resting.lag_unarmed
    · intro later nothing
      have after := resting.run nothing
      refine ⟨after.hasPending, ?_⟩
      rw [after.step]
      rfl
  · intro nothing
    rw [turn_undisturbed nothing, Turn.streak_concat]
    rfl

/-- A loop through a lag goes round once, is cut off, and comes to rest. -/
example :
    turns [.add (.relay [.lagged (.plain "in")] [.plain "in"]), .addLag (.plain "in"),
        .push ⟨.plain "in", 3⟩, .step, .step, .step, .step]
      (ofConfig { maxFeedbackPasses := 1 } : Graph Nat Unit) =
        [.idle, .idle, .idle, .driven, .lagged, .givenUp, .idle] := by
  decide

end Graph
end ReactiveGraph
