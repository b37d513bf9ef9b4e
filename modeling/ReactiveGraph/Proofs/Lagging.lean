import ReactiveGraph.Proofs.Coherence

namespace ReactiveGraph

/-!
# Lags delay by one pass

A pass arms every lag with the new value of its source, and it disarms the
lags whose source has none.  The next pass opens with what the lags are armed
with.  If nothing else writes to the lagged topic, it shows in each pass what
the source has shown in the pass before.
-/

variable {α σ : Type}

namespace Live

/-- All lags are armed with what their sources have on the board. -/
def ArmedBy (board : Board α) (live : Live α σ) : Prop :=
  ∀ detector lag, live.lag? detector = some lag → lag.armed = board.new? lag.source

/-- Whatever a lag is armed with is what its source has on the board. -/
def FreshOn (board : Board α) (live : Live α σ) : Prop :=
  ∀ detector lag value, live.lag? detector = some lag → lag.armed = some value →
    board.new? lag.source = some value

theorem ArmedBy.freshOn {board : Board α} {live : Live α σ} (armedBy : live.ArmedBy board) :
    live.FreshOn board := by
  intro detector lag value holds armed
  rw [← armedBy detector lag holds]
  exact armed

theorem Midway.armedBy {registry : Registry} {walk : List Vertex} {live : Live α σ}
    (midway : Midway registry walk live) (isWalk : registry.IsWalk walk) :
    live.ArmedBy live.board := by
  intro detector lag holds
  rcases lag?_iff.mp holds with ⟨control, found, holds⟩
  have visited : .detector detector ∈ walk := by
    have bound : detector < live.controls.length := (List.getElem?_eq_some_iff.mp found).1
    rw [isWalk.detector_mem, ← midway.fits.count, shapes, List.length_map]
    exact bound
  rw [(midway.booked detector control found).armed lag holds, if_pos visited]

theorem getLast?_eq_of_forall {values : List α} {value? : Option α}
    (only : ∀ value ∈ values, value? = some value) (any : value?.isSome = true → values ≠ []) :
    values.getLast? = value? := by
  cases last : values.getLast? with
  | some value => exact (only value (List.mem_of_getLast? last)).symm
  | none =>
      cases given : value? with
      | none => rfl
      | some value =>
          rw [given] at any
          exact absurd (List.getLast?_eq_none_iff.mp last) (any rfl)

/-- Before the walk begins, a lagged topic has the value that its lags have
delivered, unless it is the input's. -/
theorem new?_opened {live : Live α σ} {board : Board α} (fresh : live.FreshOn board)
    {detector : DetectorId} {lag : Lag α} (holds : live.lag? detector = some lag)
    (armed : lag.armed = board.new? lag.source)
    {input : Option (Input α)} (other : ∀ given ∈ input, given.topic ≠ .lagged lag.source) :
    (live.opened input).board.new? (.lagged lag.source) = board.new? lag.source := by
  have fromInput :
      (input.toList.filterMap fun given => given.value? (.lagged lag.source)) = [] := by
    apply List.filterMap_eq_nil_iff.mpr
    intro given member
    exact if_neg (other given (Option.mem_toList.mp member))
  rw [opened, Board.new?_writeAll, List.filterMap_append, fromInput, List.append_nil,
    Board.new?_age, Option.or_none]
  apply getLast?_eq_of_forall
  · intro value member
    rcases List.mem_filterMap.mp member with ⟨given, delivered, here⟩
    rcases mem_armed.mp delivered with ⟨source, found, captured, holds, captures, rfl⟩
    rw [Input.value?] at here
    split at here
    next same =>
      cases here
      rw [← Payload.lagged.inj same]
      exact fresh source found captured holds captures
    next => cases here
  · intro new empty
    rcases Option.isSome_iff_exists.mp new with ⟨value, new⟩
    have delivered := mem_armed.mpr ⟨detector, lag, value, holds, armed.trans new, rfl⟩
    have member : value ∈ live.armed.filterMap fun given => given.value? (.lagged lag.source) :=
      List.mem_filterMap.mpr ⟨_, delivered, if_pos rfl⟩
    rw [empty] at member
    cases member

/-- The walk does not write to a topic that nobody publishes within a
pass. -/
theorem new?_walk {registry : Registry} {topic : Payload}
    (unfed : ∀ detector, ¬registry.isDeclared detector topic .immediate = true)
    (walk : List Vertex) (live : Live α σ) :
    (Outcome.each (visit registry) walk live).state.board.new? topic = live.board.new? topic := by
  refine (Outcome.composes_keeps fun live : Live α σ => live.board.new? topic).each ?_ live
  intro vertex _ other
  have kept : Outcome.Follows Kept other (visit registry vertex other) :=
    visit_kept registry vertex other
  have untouched : ∀ input ∈ (visit registry vertex other).events.filterMap Event.written?,
      input.topic ≠ topic := by
    intro input member same
    rcases visit_writes registry vertex other input member with ⟨detector, declared, _⟩
    exact unfed detector (same ▸ declared)
  exact (congrArg (Board.new? · topic) kept.board).trans (Board.new?_writeAll_of_ne untouched)

theorem new?_pass {registry : Registry} {order : VisitOrder} {live : Live α σ}
    (fits : registry.Fits live.shapes) {board : Board α} (armedBy : live.ArmedBy board)
    {detector : DetectorId} {lag : Lag α} (holds : live.lag? detector = some lag)
    (unfed : ∀ other, ¬registry.isDeclared other (.lagged lag.source) .immediate = true)
    {input : Option (Input α)} (other : ∀ given ∈ input, given.topic ≠ .lagged lag.source)
    (ok : (pass registry order input live).result = .ok ()) :
    (pass registry order input live).state.board.new? (.lagged lag.source) =
      board.new? lag.source := by
  rw [pass_opens order fits (hasTopic_of_ok fits ok)]
  have opening := new?_opened armedBy.freshOn holds (armedBy detector lag holds) other
  exact (new?_walk unfed order.walk (live.opened input)).trans opening

end Live

namespace Graph

theorem new?_step {graph : Graph α σ} (coherent : graph.Coherent) (closed : graph.isSealed = true)
    {board : Board α} (armedBy : graph.ArmedBy board) {detector : DetectorId} {lag : Lag α}
    (holds : graph.lag? detector = some lag)
    (unfed : ∀ publisher,
      ¬graph.registry.isDeclared publisher (.lagged lag.source) .immediate = true)
    (other : ∀ input, .consumed input ∈ graph.step.events → input.topic ≠ .lagged lag.source)
    (ran : graph.step.result = .ok true) :
    graph.step.state.board.new? (.lagged lag.source) = board.new? lag.source := by
  rcases step_true ran with ⟨same, answer, ok, state, events⟩
  rw [close_sealed closed] at answer
  cases answer
  rw [state]
  have fits : graph.registry.Fits graph.poised.shapes := coherent.fits
  have poisedBy : graph.poised.ArmedBy board := armedBy
  have given : ∀ input ∈ graph.queue.waiting.head?, input.topic ≠ .lagged lag.source := by
    intro input first
    apply other input
    rw [events]
    exact List.mem_append_left _ (List.mem_map_of_mem (Option.mem_toList.mpr first))
  exact Live.new?_pass fits poisedBy holds unfed given ok

/-- After a step that has run a pass, every lag is armed with the new value
of its source.  If the next step runs a pass too, and neither a detector nor
the input writes to the lagged topic, that value is what the topic shows. -/
theorem lag_delays_one_pass {graph : Graph α σ} (reachable : graph.Reachable)
    (ran : graph.step.result = .ok true) :
    (∀ detector lag, graph.step.state.lag? detector = some lag →
        lag.armed = graph.step.state.board.new? lag.source) ∧
      ∀ between middle, .step ∉ between → (run between graph.step.state).state = middle →
        middle.step.result = .ok true →
          ∀ detector lag, middle.lag? detector = some lag →
            (∀ publisher,
              ¬middle.registry.isDeclared publisher (.lagged lag.source) .immediate = true) →
            (∀ input, .consumed input ∈ middle.step.events → input.topic ≠ .lagged lag.source) →
              middle.step.state.board.new? (.lagged lag.source) =
                graph.step.state.board.new? lag.source := by
  have coherent : graph.step.state.Coherent := reachable.coherent.step
  have closed := isSealed_step ran
  have armedBy : graph.step.state.ArmedBy graph.step.state.board :=
    (reachable.coherent.step_settles ran).1.armedBy (coherent.isWalk closed)
  refine ⟨armedBy, ?_⟩
  intro between middle quiet reached ranAgain detector lag holds unfed other
  rcases run_sealed quiet closed with ⟨service, same⟩
  rw [reached] at same
  subst same
  exact new?_step (coherent.serve service) closed armedBy holds unfed other ranAgain

/-- A topic with its lag, and an input waiting. -/
def echo : Graph Nat Unit :=
  (run [.addLag (.plain "in"), .push ⟨.plain "in", 3⟩] (ofConfig {})).state

/-- The echo of the first value comes with the second. -/
theorem echo_delays_one_pass :
    echo.step.result = .ok true ∧
      (run [.push ⟨.plain "in", 4⟩] echo.step.state).state.step.result = .ok true ∧
      (run [.push ⟨.plain "in", 4⟩] echo.step.state).state.step.state.board.new?
          (.lagged (.plain "in")) =
        echo.step.state.board.new? (.plain "in") := by
  have reachable : echo.Reachable := ⟨_, _, rfl⟩
  refine ⟨rfl, rfl, ?_⟩
  refine (lag_delays_one_pass reachable rfl).2 [.push ⟨.plain "in", 4⟩] _ ?_ rfl rfl 0
    { source := .plain "in", armed := some 3 } rfl ?_ ?_
  · intro member
    cases List.mem_singleton.mp member
  · intro publisher declared
    rw [Registry.isDeclared_iff] at declared
    cases List.mem_singleton.mp declared
  · intro input member
    have log : (run [.push ⟨.plain "in", 4⟩] echo.step.state).state.step.events =
        [.consumed ⟨.plain "in", 4⟩, .wrote (.lagged (.plain "in")) 3, .wrote (.plain "in") 4,
          .evaluated 0 (.plain "in") 4, .completed 0] := rfl
    rw [log] at member
    have taken : input = ⟨.plain "in", 4⟩ := by simpa using member
    rw [taken]
    intro equal
    cases equal

end Graph
end ReactiveGraph
