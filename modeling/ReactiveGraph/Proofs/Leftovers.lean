import ReactiveGraph.Proofs.Fifo

namespace ReactiveGraph

/-!
# What an abandoned pass leaves behind

A pass that fails is abandoned where it stands.  It leaves topics with new
values, an outbox that was not emptied, detectors that have yet to complete
and lags that have captured a value without being armed with it.  None of
this makes a difference to any later pass: each reading of such a leftover
comes after the pass has cleared it or written over it.

Two states that differ in their leftovers only are therefore run side by
side.  They stay that way, with the same events and the same results.
-/

variable {α σ : Type}

/-- The resident without the value that a lag has captured but is not armed
with. -/
def Resident.bare : Resident α σ → Resident α σ
  | .custom behaviour state => .custom behaviour state
  | .lag inner => .lag { inner with latest := none }

/-- The slot without anything that a pass may have left in it. -/
def Slot.cleared (slot : Slot α σ) : Slot α σ :=
  { slot with pending := false, resident := slot.resident.bare }

/-- What matters of the slot in the middle of a pass: until a lag is handed a
value, what it has captured before does not. -/
def Slot.present (slot : Slot α σ) : Slot α σ :=
  { slot with resident := if slot.pending then slot.resident else slot.resident.bare }

namespace Resident

theorem bare_bare (resident : Resident α σ) : resident.bare.bare = resident.bare := by
  cases resident <;> rfl

/-- A value that is handed over replaces what was captured before. -/
theorem onValue_bare {first second : Resident α σ} (same : first.bare = second.bare)
    (detector : DetectorId) (topic : Payload) (value : α) :
    first.onValue detector topic value = second.onValue detector topic value := by
  have unseen : ∀ resident : Resident α σ,
      resident.bare.onValue detector topic value = resident.onValue detector topic value := by
    intro resident
    cases resident <;> rfl
  rw [← unseen first, same, unseen second]

end Resident

namespace Slot

theorem cleared_present (slot : Slot α σ) : slot.present.cleared = slot.cleared := by
  rcases slot with ⟨resident, subscriptions, pending⟩
  cases pending with
  | false => simp only [cleared, present, Bool.false_eq_true, if_false, Resident.bare_bare]
  | true => rfl

theorem cleared_cleared (slot : Slot α σ) : slot.cleared.cleared = slot.cleared := by
  rw [cleared, cleared, Resident.bare_bare]

theorem armed?_cleared (slot : Slot α σ) : slot.cleared.armed? = slot.armed? := by
  rcases slot with ⟨resident, subscriptions, pending⟩
  cases resident <;> rfl

theorem armed?_present (slot : Slot α σ) : slot.present.armed? = slot.armed? := by
  rw [← armed?_cleared, cleared_present, armed?_cleared]

theorem cleared_disarm (slot : Slot α σ) : slot.disarm.cleared = slot.cleared.disarm := by
  rcases slot with ⟨resident, subscriptions, pending⟩
  cases resident <;> rfl

theorem shared_of_present {one two : Slot α σ} (same : one.present = two.present) :
    one.subscriptions = two.subscriptions ∧ one.pending = two.pending ∧
      one.resident.bare = two.resident.bare ∧ (one.pending = true → one = two) := by
  have cleared := congrArg (Slot.resident ∘ Slot.cleared) same
  simp only [Function.comp_apply, cleared_present] at cleared
  rcases one with ⟨resident, table, pending⟩
  rcases two with ⟨other, otherTable, otherPending⟩
  rcases Slot.mk.inj same with ⟨residents, rfl, rfl⟩
  refine ⟨rfl, rfl, cleared, ?_⟩
  rintro rfl
  rw [if_pos rfl, if_pos rfl] at residents
  rw [show resident = other from residents]

theorem present_disarm (slot : Slot α σ) : slot.disarm.present = slot.present.disarm := by
  rcases slot with ⟨resident, subscriptions, pending⟩
  cases resident <;> cases pending <;> rfl

end Slot

namespace Live

/-! ## Side by side through a pass -/

/-- In the middle of a pass, the two states are the same in everything that
matters. -/
structure Abreast (first second : Live α σ) : Prop where
  around : first.toSurroundings = second.toSurroundings
  slots : first.slots.map Slot.present = second.slots.map Slot.present
  fresh : first.board.fresh = second.board.fresh
  news : ∀ topic, first.board.new? topic = second.board.new? topic

theorem Abreast.slot? {first second : Live α σ} (abreast : Abreast first second)
    (detector : DetectorId) :
    (first.slots[detector]? = none ∧ second.slots[detector]? = none) ∨
      ∃ one two, first.slots[detector]? = some one ∧ second.slots[detector]? = some two ∧
        one.present = two.present := by
  have same := congrArg (·[detector]?) abreast.slots
  simp only [List.getElem?_map] at same
  cases one : first.slots[detector]? with
  | none =>
      rw [one, Option.map_none, eq_comm, Option.map_eq_none_iff] at same
      exact Or.inl ⟨rfl, same⟩
  | some slot =>
      rw [one, Option.map_some, eq_comm, Option.map_eq_some_iff] at same
      rcases same with ⟨other, two, equal⟩
      exact Or.inr ⟨slot, other, rfl, two, equal.symm⟩

theorem Abreast.write {first second : Live α σ} (abreast : Abreast first second) (topic : Payload)
    (value : α) :
    Abreast { first with board := first.board.write topic value }
      { second with board := second.board.write topic value } where
  around := abreast.around
  slots := abreast.slots
  fresh := congrArg (topic :: ·) abreast.fresh
  news := by
    intro other
    rw [Board.new?_write, Board.new?_write, abreast.news]

theorem Abreast.around_set {first second : Live α σ} (abreast : Abreast first second)
    (around : Surroundings α) :
    Abreast { first with toSurroundings := around } { second with toSurroundings := around } :=
  ⟨rfl, abreast.slots, abreast.fresh, abreast.news⟩

theorem Abreast.slot_set {first second : Live α σ} (abreast : Abreast first second)
    (detector : DetectorId) {one two : Slot α σ} (same : one.present = two.present) :
    Abreast { first with slots := first.slots.set detector one }
      { second with slots := second.slots.set detector two } where
  around := abreast.around
  slots := by rw [List.map_set, List.map_set, abreast.slots, same]
  fresh := abreast.fresh
  news := abreast.news

theorem receive_abreast (registry : Registry) (input : Input α) (first second : Live α σ)
    (abreast : Abreast first second) :
    Outcome.Alike Abreast (receive registry input first) (receive registry input second) := by
  rw [receive, receive]
  split
  · exact ⟨abreast.write input.topic input.value, rfl, rfl⟩
  · exact Outcome.alike_fail abreast _

theorem releaseLag_abreast (registry : Registry) (id : DetectorId) (first second : Live α σ)
    (abreast : Abreast first second) :
    Outcome.Alike Abreast (releaseLag registry id first) (releaseLag registry id second) := by
  rw [releaseLag, releaseLag]
  rcases abreast.slot? id with ⟨one, two⟩ | ⟨one, two, here, there, same⟩
  · simp only [one, two]
    exact Outcome.alike_done abreast ()
  · have armed : one.armed? = two.armed? := by
      rw [← one.armed?_present, same, two.armed?_present]
    have disarmed : one.disarm.present = two.disarm.present := by
      rw [one.present_disarm, same, two.present_disarm]
    simp only [here, there, armed]
    cases two.armed? with
    | none => exact Outcome.alike_done abreast ()
    | some input => exact receive_abreast registry input _ _ (abreast.slot_set id disarmed)

theorem publish_abreast (registry : Registry) (detector : DetectorId) (input : Input α)
    (first second : Live α σ) (abreast : Abreast first second) :
    Outcome.Alike Abreast (publish registry detector input first)
      (publish registry detector input second) := by
  rw [publish, publish]
  split
  · exact receive_abreast registry input first second abreast
  · exact Outcome.alike_fail abreast _

theorem publishLater_abreast (registry : Registry) (detector : DetectorId) (input : Input α)
    (first second : Live α σ) (abreast : Abreast first second) :
    Outcome.Alike Abreast (publishLater registry detector input first)
      (publishLater registry detector input second) := by
  rw [publishLater, publishLater]
  split
  · rcases first with ⟨around, slots, board⟩
    rcases second with ⟨other, otherSlots, otherBoard⟩
    obtain rfl : around = other := abreast.around
    exact ⟨abreast.around_set _, rfl, rfl⟩
  · exact Outcome.alike_fail abreast _

theorem emptyOutbox_abreast (registry : Registry) (detector : DetectorId)
    {first second : Live α σ} (abreast : Abreast first second) :
    Outcome.Alike Abreast (emptyOutbox registry detector first)
      (emptyOutbox registry detector second) := by
  rcases first with ⟨around, slots, board⟩
  rcases second with ⟨other, otherSlots, otherBoard⟩
  obtain rfl : around = other := abreast.around
  rw [emptyOutbox, emptyOutbox]
  cases around.outbox.rejected with
  | cons topic rest => exact Outcome.alike_fail (abreast.around_set _) _
  | nil =>
      apply Outcome.Alike.andThen
      · exact Outcome.alike_each (publish_abreast registry detector) _ (abreast.around_set _)
      · intro _ one two after
        rw [after.around]
        exact Outcome.alike_each (publishLater_abreast registry detector) _ (after.around_set _)

/-- The same routine, run for slots that come to differ in nothing. -/
theorem call_abreast (registry : Registry) (detector : DetectorId) {first second : Live α σ}
    (abreast : Abreast first second) {one two : Slot α σ}
    (same : ∀ resident, ({ one with resident } : Slot α σ) = { two with resident })
    (routine : Routine α (Resident α σ)) :
    Outcome.Alike Abreast (call registry detector one routine first)
      (call registry detector two routine second) := by
  rcases first with ⟨around, slots, board⟩
  rcases second with ⟨other, otherSlots, otherBoard⟩
  obtain rfl : around = other := abreast.around
  have present : ∀ resident, ({ one with resident } : Slot α σ).present =
      ({ two with resident } : Slot α σ).present :=
    fun resident => congrArg Slot.present (same resident)
  rw [call, call]
  apply Outcome.Alike.behind
  apply emptyOutbox_abreast registry detector
  exact (abreast.slot_set detector (present _)).around_set _

theorem deliver_abreast (registry : Registry) (topic : Payload) (detector : DetectorId)
    (first second : Live α σ) (abreast : Abreast first second) :
    Outcome.Alike Abreast (deliver registry topic detector first)
      (deliver registry topic detector second) := by
  rw [deliver, deliver, abreast.news topic]
  rcases abreast.slot? detector with ⟨one, two⟩ | ⟨one, two, here, there, same⟩
  · simp only [one, two]
    exact Outcome.alike_done abreast ()
  · simp only [here, there]
    cases second.board.new? topic with
    | none => exact Outcome.alike_done abreast ()
    | some value =>
        rcases Slot.shared_of_present same with ⟨table, _, residents, _⟩
        simp only [table, Resident.onValue_bare residents]
        split
        · apply Outcome.Alike.behind
          apply call_abreast registry detector abreast
          intro resident
          rfl
        · exact Outcome.alike_done abreast ()

theorem complete_abreast (registry : Registry) (detector : DetectorId)
    {first second : Live α σ} (abreast : Abreast first second) :
    Outcome.Alike Abreast (complete registry detector first)
      (complete registry detector second) := by
  rw [complete, complete]
  rcases abreast.slot? detector with ⟨one, two⟩ | ⟨one, two, here, there, same⟩
  · simp only [one, two]
    exact Outcome.alike_done abreast ()
  · simp only [here, there]
    rcases Slot.shared_of_present same with ⟨_, pending, _, outstanding⟩
    cases handed : one.pending with
    | false =>
        rw [← pending, handed]
        exact Outcome.alike_done abreast ()
    | true =>
        -- only a lag that was handed a value in this pass gets to complete
        cases outstanding handed
        rw [handed]
        apply Outcome.Alike.behind
        exact call_abreast registry detector abreast (fun _ => rfl) _

theorem visit_abreast (registry : Registry) (vertex : Vertex) (first second : Live α σ)
    (abreast : Abreast first second) :
    Outcome.Alike Abreast (visit registry vertex first) (visit registry vertex second) := by
  cases vertex with
  | detector detector => exact complete_abreast registry detector abreast
  | topic topic =>
      rw [visit, visit, Board.isFresh, Board.isFresh, abreast.fresh]
      split
      · exact Outcome.alike_each (deliver_abreast registry topic) _ abreast
      · exact Outcome.alike_done abreast ()

/-! ## From pass to pass -/

/-- Between passes, the two states are the same but for leftovers. -/
structure SameAside (first second : Live α σ) : Prop where
  service : first.toService = second.toService
  slots : first.slots.map Slot.cleared = second.slots.map Slot.cleared

theorem SameAside.prepare {first second : Live α σ} (same : SameAside first second) :
    Abreast first.prepare second.prepare where
  around := by
    rw [Live.prepare, Live.prepare, same.service]
  slots := by
    rw [Live.prepare, Live.prepare, List.map_map, List.map_map]
    exact same.slots
  fresh := rfl
  news _ := rfl

theorem Abreast.sameAside {first second : Live α σ} (abreast : Abreast first second) :
    SameAside first second where
  service := by rw [abreast.around]
  slots := by
    have slots := congrArg (List.map Slot.cleared) abreast.slots
    simpa only [List.map_map, Function.comp_def, Slot.cleared_present] using slots

theorem pass_abreast (registry : Registry) (order : VisitOrder) (input : Option (Input α))
    {first second : Live α σ} (same : SameAside first second) :
    Outcome.Alike Abreast (pass registry order input first)
      (pass registry order input second) := by
  have count : first.slots.length = second.slots.length := by
    have lengths := congrArg List.length same.slots
    rwa [List.length_map, List.length_map] at lengths
  rw [pass, pass, count]
  apply (Outcome.alike_each (releaseLag_abreast registry) _ same.prepare).andThen
  intro _ _ _ released
  apply (Outcome.alike_each (receive_abreast registry) _ released).andThen
  intro _ _ _ received
  exact Outcome.alike_each (visit_abreast registry) _ received

theorem SameAside.isArmed {first second : Live α σ} (same : SameAside first second) :
    first.isArmed = second.isArmed := by
  have unseen : ∀ live : Live α σ,
      live.isArmed = (live.slots.map Slot.cleared).any fun slot => slot.armed?.isSome := by
    intro live
    rw [Live.isArmed, List.any_map]
    congr 1
    funext slot
    rw [Function.comp_apply, slot.armed?_cleared]
  rw [unseen first, unseen second, same.slots]

end Live

namespace Graph

/-- The two graphs are the same but for leftovers: the values of topics and
their marks as new, the outbox, calls that are outstanding and captured
values that no lag is armed with. -/
structure SameAside (first second : Graph α σ) : Prop
    extends Live.SameAside first.toLive second.toLive where
  config : first.config = second.config
  registry : first.registry = second.registry
  order : first.order = second.order
  feedbackPasses : first.feedbackPasses = second.feedbackPasses
  passCount : first.passCount = second.passCount

theorem SameAside.nextPass {first second : Graph α σ} (same : SameAside first second) :
    Outcome.Alike Live.Abreast first.nextPass second.nextPass := by
  have poised : Live.SameAside first.poised second.poised := by
    refine ⟨?_, same.slots⟩
    rw [Graph.poised, Graph.poised, same.service]
  have input : first.queue.waiting.head? = second.queue.waiting.head? := by rw [same.service]
  rw [Graph.nextPass, Graph.nextPass, same.registry, same.order, input]
  exact Live.pass_abreast _ _ _ poised

theorem SameAside.rested {first second : Graph α σ} (same : SameAside first second)
    {one two : Live α σ} (abreast : Live.Abreast one two) :
    SameAside (first.rested one) (second.rested two) where
  service := by
    rw [Graph.rested, Graph.rested, abreast.around]
  slots := abreast.sameAside.slots
  config := same.config
  registry := same.registry
  order := same.order
  feedbackPasses := by
    rw [Graph.rested, Graph.rested, same.service, same.feedbackPasses]
  passCount := congrArg (· + 1) same.passCount

theorem SameAside.givenUp {first second : Graph α σ} (same : SameAside first second) :
    SameAside first.givenUp second.givenUp where
  service := same.service
  slots := by
    have disarmed : ∀ graph : Graph α σ, graph.givenUp.slots.map Slot.cleared =
        (graph.slots.map Slot.cleared).map Slot.disarm := by
      intro graph
      rw [Graph.givenUp, List.map_map, List.map_map]
      congr 1
      funext slot
      exact slot.cleared_disarm
    rw [disarmed first, disarmed second, same.slots]
  config := same.config
  registry := same.registry
  order := same.order
  feedbackPasses := rfl
  passCount := same.passCount

/-- A step cannot tell two graphs apart, and if it runs a pass, neither can
anyone who looks for new values. -/
structure Unseen (first second : Graph α σ) : Prop where
  step : Outcome.Alike SameAside first.step second.step
  news : first.step.state.passCount ≠ first.passCount →
    ∀ topic, first.step.state.board.new? topic = second.step.state.board.new? topic

theorem SameAside.stepSealed {first second : Graph α σ} (same : SameAside first second) :
    Outcome.Alike SameAside first.stepSealed second.stepSealed ∧
      (first.stepSealed.state.passCount ≠ first.passCount → ∀ topic,
        first.stepSealed.state.board.new? topic = second.stepSealed.state.board.new? topic) := by
  have waiting : first.queue.waiting = second.queue.waiting := by rw [same.service]
  rcases first.stepSealed_cases with
    ⟨empty, idle, nothing⟩ | ⟨empty, armed, exhausted, givenUp⟩ | ⟨allowed, passes⟩
  · rw [nothing, stepSealed_idle (waiting ▸ empty) (same.isArmed ▸ idle)]
    exact ⟨Outcome.alike_done same false, fun ran => absurd rfl ran⟩
  · rw [same.config, same.feedbackPasses] at exhausted
    rw [givenUp, stepSealed_givenUp (waiting ▸ empty) (same.isArmed ▸ armed) exhausted, same.config]
    exact ⟨Outcome.alike_fail same.givenUp _, fun ran => absurd rfl ran⟩
  · rw [waiting, same.isArmed, same.config, same.feedbackPasses] at allowed
    have abreast := same.nextPass
    rw [passes, stepSealed_passes allowed, waiting, abreast.events, abreast.result]
    exact ⟨⟨same.rested abreast.state, rfl, rfl⟩, fun _ => abreast.state.news⟩

theorem SameAside.close {first second : Graph α σ} (same : SameAside first second) :
    (∃ error, first.close = .error error ∧ second.close = .error error) ∨
      ∃ one two, first.close = .ok one ∧ second.close = .ok two ∧ SameAside one two ∧
        one.passCount = first.passCount := by
  cases closed : first.isSealed with
  | true =>
      have other : second.isSealed = true := by
        rw [isSealed, ← same.registry]
        exact closed
      exact Or.inr ⟨first, second, close_sealed closed, close_sealed other, same, rfl⟩
  | false =>
      have other : second.isSealed = false := by
        rw [isSealed, ← same.registry]
        exact closed
      rw [Graph.close, Graph.close, closed, other, same.registry]
      cases VisitOrder.compute second.registry with
      | error error => exact Or.inl ⟨_, rfl, rfl⟩
      | ok order =>
          exact Or.inr ⟨_, _, rfl, rfl,
            ⟨same.toSameAside, same.config, rfl, rfl, same.feedbackPasses, same.passCount⟩, rfl⟩

theorem SameAside.unseen {first second : Graph α σ} (same : SameAside first second) :
    Unseen first second := by
  rcases same.close with ⟨error, one, two⟩ | ⟨one, two, answer, other, closed, passes⟩
  · have fails : first.step = .fail first (.wiring error) := by rw [Graph.step, one]
    have otherFails : second.step = .fail second (.wiring error) := by rw [Graph.step, two]
    refine ⟨?_, ?_⟩
    · rw [fails, otherFails]
      exact Outcome.alike_fail same _
    · rw [fails]
      exact fun ran => absurd rfl ran
  · have steps : first.step = one.stepSealed := by rw [Graph.step, answer]
    have otherSteps : second.step = two.stepSealed := by rw [Graph.step, other]
    rcases closed.stepSealed with ⟨alike, news⟩
    refine ⟨?_, ?_⟩
    · rw [steps, otherSteps]
      exact alike
    · rw [steps, otherSteps, ← passes]
      exact news

theorem SameAside.serve {first second : Graph α σ} (same : SameAside first second)
    (service : Service α) :
    SameAside { first with toService := service } { second with toService := service } :=
  ⟨⟨rfl, same.slots⟩, same.config, same.registry, same.order, same.feedbackPasses, same.passCount⟩

theorem SameAside.rewire {first second : Graph α σ} (same : SameAside first second)
    (registry : Registry) : SameAside { first with registry } { second with registry } :=
  ⟨same.toSameAside, same.config, rfl, same.order, same.feedbackPasses, same.passCount⟩

theorem SameAside.join {first second : Graph α σ} (same : SameAside first second)
    (registry : Registry) (slot : Slot α σ) :
    SameAside { first with registry, slots := first.slots ++ [slot] }
      { second with registry, slots := second.slots ++ [slot] } where
  service := same.service
  slots := by rw [List.map_append, List.map_append, same.slots]
  config := same.config
  registry := rfl
  order := same.order
  feedbackPasses := same.feedbackPasses
  passCount := same.passCount

theorem SameAside.install {first second : Graph α σ} (same : SameAside first second)
    (typeName : String) (wiring : DetectorId → Wiring) (resident : Resident α σ) :
    SameAside (first.install typeName wiring resident).1
      (second.install typeName wiring resident).1 := by
  rw [Graph.install, Graph.install, same.registry]
  cases second.registry.addDetector (shortName typeName) with
  | error error => exact same
  | ok entered =>
      dsimp only
      cases ((wiring entered.1).run entered.1 entered.2 []).result with
      | error error => exact same.rewire _
      | ok => exact same.join _ _

/-- Whatever is done to two graphs that differ in leftovers only, it has the
same effects, and they go on differing in leftovers only. -/
theorem perform_sameAside (operation : Operation α σ) (first second : Graph α σ)
    (same : SameAside first second) :
    Outcome.Alike SameAside (perform operation first) (perform operation second) := by
  cases operation with
  | add detector => exact Outcome.alike_done (same.install _ _ _) ()
  | addLag source => exact Outcome.alike_done (same.install _ _ _) ()
  | resolve topic =>
      rw [perform, perform, resolve, resolve, same.registry]
      exact Outcome.alike_done (same.rewire _) ()
  | close =>
      rw [perform, perform]
      rcases same.close with ⟨error, one, two⟩ | ⟨one, two, answer, other, closed, _⟩
      · rw [one, two]
        exact Outcome.alike_done same ()
      · rw [answer, other]
        exact Outcome.alike_done closed ()
  | push input =>
      rw [perform, perform, push, push, same.registry]
      split
      · rw [submit, submit, same.service]
        exact ⟨same.serve _, rfl, rfl⟩
      · exact ⟨same, rfl, rfl⟩
  | submit input =>
      rw [perform, perform, submit, submit, same.service]
      exact ⟨same.serve _, rfl, rfl⟩
  | fire now =>
      rw [perform, perform, fire, fire, same.service]
      exact ⟨same.serve _, rfl, rfl⟩
  | schedule input delay =>
      rw [perform, perform, Graph.schedule, Graph.schedule, same.service]
      exact Outcome.alike_done (same.serve _) ()
  | scheduleEvery input period =>
      rw [perform, perform, Graph.scheduleEvery, Graph.scheduleEvery, same.service]
      exact Outcome.alike_done (same.serve _) ()
  | cancel handle =>
      rw [perform, perform, Graph.cancel, Graph.cancel, same.service]
      exact Outcome.alike_done (same.serve _) ()
  | step =>
      have alike := same.unseen.step
      exact ⟨alike.state, alike.events, rfl⟩

/-- Graphs that differ in leftovers only cannot be told apart by any history
that goes on from them: it has the same events and leads to graphs that
differ in leftovers only, in which a step does the same and, if it runs a
pass, leaves the same new values. -/
theorem leftovers_unseen {first second : Graph α σ} (same : SameAside first second)
    (operations : List (Operation α σ)) :
    (run operations first).events = (run operations second).events ∧
      SameAside (run operations first).state (run operations second).state ∧
        Unseen (run operations first).state (run operations second).state := by
  have alike : Outcome.Alike SameAside (run operations first) (run operations second) :=
    Outcome.alike_each perform_sameAside operations same
  exact ⟨alike.events, alike.state, alike.state.unseen⟩

def tidied (graph : Graph α σ) : Graph α σ :=
  { graph with outbox := {}, board := {}, slots := graph.slots.map Slot.cleared }

theorem sameAside_tidied (graph : Graph α σ) : SameAside graph graph.tidied where
  service := rfl
  slots := by
    rw [tidied, List.map_map]
    congr 1
    funext slot
    exact slot.cleared_cleared.symm
  config := rfl
  registry := rfl
  order := rfl
  feedbackPasses := rfl
  passCount := rfl

/-- A lag and a detector that publishes a topic it never declared.  The pass
for the first input was abandoned after the lag had captured the value. -/
def stumbled : Graph Nat Unit :=
  let stray : Detector Nat Unit :=
    { typeName := "Stray"
      wiring := fun _ => .ofList [⟨.subscribe, .plain "in", false⟩]
      behaviour :=
        { onValue := fun _ _ value _ => .publish (.plain "out") value (.done ())
          onComplete := fun _ _ => .done () }
      state := () }
  (run [.addLag (.plain "in"), .add stray, .resolve (.plain "out"), .push ⟨.plain "in", 3⟩, .step]
    (ofConfig {})).state

/-- The next pass does not show that there was one before it. -/
theorem stumbled_unseen :
    stumbled.slots.map Slot.pending = [true, true] ∧
      stumbled.firstLag? (.plain "in") = some ⟨.plain "in", some 3, none⟩ ∧
        stumbled.board.new? (.plain "in") = some 3 ∧
          SameAside stumbled stumbled.tidied ∧
            (run [.push ⟨.plain "out", 5⟩] stumbled).events =
                (run [.push ⟨.plain "out", 5⟩] stumbled.tidied).events ∧
              SameAside (run [.push ⟨.plain "out", 5⟩] stumbled).state
                  (run [.push ⟨.plain "out", 5⟩] stumbled.tidied).state ∧
                Unseen (run [.push ⟨.plain "out", 5⟩] stumbled).state
                  (run [.push ⟨.plain "out", 5⟩] stumbled.tidied).state :=
  ⟨rfl, rfl, rfl, sameAside_tidied stumbled, leftovers_unseen (sameAside_tidied stumbled) _⟩

end Graph
end ReactiveGraph
