import ReactiveGraph.Proofs.Publishing

namespace ReactiveGraph

/-!
# Emptying an outbox

When a detector's call has ended, its values take effect one by one: those
for the current pass first, in the order in which they were published, then
those for later passes.  Each of them is checked when its turn comes, and the
first one that offends stops the rest.  What came before it stays in effect.
A timeout without a declared edge stops everything.
-/

variable {α σ : Type}

namespace Outbox

/-- A value in an outbox: for the current pass, or for a later one. -/
inductive Item (α : Type) where
  | now (input : Input α)
  | later (input : Input α)

namespace Item

def now? : Item α → Option (Input α)
  | now input => some input
  | later _ => none

def later? : Item α → Option (Input α)
  | now _ => none
  | later input => some input

end Item

/-- The values of an outbox, in the order in which their turn comes. -/
def items (outbox : Outbox α) : List (Item α) :=
  outbox.published.map .now ++ outbox.later.map .later

/-- What is wrong with a value whose turn comes when those before it have
taken effect: the detector has no edge to the topic that allows for it, or
the value is meant for the queue and the queue is full by then. -/
inductive Offends (registry : Registry) (detector : DetectorId) (queue : InputQueue α)
    (before : List (Item α)) : Item α → GraphError → Prop where
  | unpublished {input : Input α}
      (undeclared : (detector, Timing.immediate) ∉ registry.publishers input.topic) :
      Offends registry detector queue before (.now input)
        (.undeclaredPublish (registry.detectorName detector) input.topic.name)
  | unpostponed {input : Input α}
      (undeclared : (detector, Timing.delayed) ∉ registry.publishers input.topic) :
      Offends registry detector queue before (.later input)
        (.undeclaredPublish (registry.detectorName detector) input.topic.name)
  | crowded {input : Input α} {limit : Nat}
      (declared : (detector, Timing.delayed) ∈ registry.publishers input.topic)
      (bounded : queue.capacity = some limit)
      (full : limit ≤ (queue.waiting ++ before.filterMap Item.later?).length) :
      Offends registry detector queue before (.later input) (.inputQueueFull limit)

def Clear (registry : Registry) (detector : DetectorId) (queue : InputQueue α)
    (items : List (Item α)) : Prop :=
  ∀ before item after, items = before ++ item :: after →
    ∀ error, ¬Offends registry detector queue before item error

theorem clear_nil (registry : Registry) (detector : DetectorId) (queue : InputQueue α) :
    Clear registry detector queue [] := by
  intro before item after split
  simp at split

theorem Clear.concat {registry : Registry} {detector : DetectorId} {queue : InputQueue α}
    {items : List (Item α)} (clear : Clear registry detector queue items) {item : Item α}
    (harmless : ∀ error, ¬Offends registry detector queue items item error) :
    Clear registry detector queue (items ++ [item]) := by
  intro before other after split
  rcases List.eq_nil_or_concat after with rfl | ⟨middle, last, rfl⟩
  · rcases List.append_inj' split rfl with ⟨rfl, same⟩
    rw [← List.singleton_inj.mp same]
    exact harmless
  · rw [List.concat_eq_append, ← List.cons_append, ← List.append_assoc] at split
    exact clear before other middle (List.append_inj' split rfl).1

/-- The values take effect up to `front`.  Then they are at an end, or comes
one that offends, and the result tells which. -/
structure Stops (registry : Registry) (detector : DetectorId) (queue : InputQueue α)
    (items front : List (Item α)) (result : Except GraphError Unit) : Prop where
  clear : Clear registry detector queue front
  ends : items = front ∧ result = .ok () ∨
    ∃ item rest error, items = front ++ item :: rest ∧
      Offends registry detector queue front item error ∧ result = .error error

theorem Stops.ok_iff {registry : Registry} {detector : DetectorId} {queue : InputQueue α}
    {items front : List (Item α)} {result : Except GraphError Unit}
    (stops : Stops registry detector queue items front result) :
    result = .ok () ↔ Clear registry detector queue items := by
  rcases stops.ends with ⟨rfl, same⟩ | ⟨item, rest, error, split, offends, same⟩
  · exact ⟨fun _ => stops.clear, fun _ => same⟩
  · constructor
    · intro ok
      cases same.symm.trans ok
    · intro clear
      exact absurd offends (clear front item rest split error)

end Outbox

open Outbox

namespace Live

def taking (live : Live α σ) (items : List (Item α)) : Live α σ :=
  { live with
    board := live.board.writeAll (items.filterMap Item.now?)
    queue := { live.queue with waiting := live.queue.waiting ++ items.filterMap Item.later? } }

theorem taking_nil (live : Live α σ) : live.taking [] = live := by
  rw [taking, List.filterMap_nil, List.filterMap_nil, List.append_nil]
  rfl

theorem taking_now (live : Live α σ) (items : List (Item α)) (input : Input α) :
    live.taking (items ++ [.now input]) =
      { live.taking items with
        board := (live.taking items).board.write input.topic input.value } := by
  have now : [Item.now input].filterMap Item.now? = [input] := rfl
  have later : [Item.now input].filterMap Item.later? = [] := rfl
  rw [taking, List.filterMap_append, List.filterMap_append, now, later, Board.writeAll_append,
    List.append_nil]
  rfl

theorem taking_later (live : Live α σ) (items : List (Item α)) (input : Input α) :
    live.taking (items ++ [.later input]) =
      { live.taking items with
        queue := { (live.taking items).queue with
          waiting := (live.taking items).queue.waiting ++ [input] } } := by
  have now : [Item.later input].filterMap Item.now? = [] := rfl
  have later : [Item.later input].filterMap Item.later? = [input] := rfl
  rw [taking, List.filterMap_append, List.filterMap_append, now, later, List.append_nil,
    ← List.append_assoc]
  rfl

def apply (registry : Registry) (detector : DetectorId) :
    Item α → Live α σ → Outcome α (Live α σ) Unit
  | .now input => publish registry detector input
  | .later input => publishLater registry detector input

variable {registry : Registry} {detector : DetectorId}

/-- A value takes effect unless it offends, and then nothing happens. -/
theorem apply_cases (live : Live α σ) (before : List (Item α)) (item : Item α) :
    ((∀ error, ¬Offends registry detector live.queue before item error) ∧
        (apply registry detector item (live.taking before)).result = .ok () ∧
        (apply registry detector item (live.taking before)).state =
          live.taking (before ++ [item])) ∨
      ∃ error, Offends registry detector live.queue before item error ∧
        apply registry detector item (live.taking before) = .fail (live.taking before) error := by
  cases item with
  | now input =>
      by_cases declared : registry.isDeclared detector input.topic .immediate = true
      · refine Or.inl ⟨?_, ?_⟩
        · rintro _ ⟨undeclared⟩
          exact undeclared (Registry.isDeclared_iff.mp declared)
        · rw [apply, publish_eq declared, taking_now]
          exact ⟨rfl, rfl⟩
      · have undeclared := mt Registry.isDeclared_iff.mpr declared
        exact Or.inr ⟨_, .unpublished undeclared, publish_undeclared declared _⟩
  | later input =>
      by_cases declared : registry.isDeclared detector input.topic .delayed = true
      · have member := Registry.isDeclared_iff.mp declared
        rw [apply, publishLater, if_pos declared, Service.submit]
        rcases (live.taking before).queue.submit_cases input with
          ⟨room, same⟩ | ⟨limit, bounded, full, same⟩
        · rw [same, taking_later]
          refine Or.inl ⟨?_, rfl, rfl⟩
          intro error offends
          cases offends with
          | unpostponed undeclared => exact undeclared member
          | crowded _ bounded full => exact Nat.not_le_of_lt (room _ bounded) full
        · rw [same]
          exact Or.inr ⟨_, .crowded member bounded full, rfl⟩
      · rw [apply, publishLater, if_neg declared]
        exact Or.inr ⟨_, .unpostponed (mt Registry.isDeclared_iff.mpr declared), rfl⟩

/-- Where some values have taken effect, further ones do, up to the first that
offends. -/
theorem each_apply (live : Live α σ) {before : List (Item α)}
    (clear : Clear registry detector live.queue before) (items : List (Item α)) :
    ∃ front, Stops registry detector live.queue (before ++ items) (before ++ front)
        (Outcome.each (apply registry detector) items (live.taking before)).result ∧
      (Outcome.each (apply registry detector) items (live.taking before)).state =
        live.taking (before ++ front) := by
  induction items generalizing before with
  | nil =>
      refine ⟨[], ⟨?_, Or.inl ⟨rfl, rfl⟩⟩, ?_⟩
      · rw [List.append_nil]
        exact clear
      · rw [List.append_nil]
        rfl
  | cons item rest ih =>
      rw [Outcome.each]
      rcases apply_cases live before item with ⟨harmless, ok, state⟩ | ⟨error, offends, same⟩
      · rcases ih (clear.concat harmless) with ⟨front, stops, reached⟩
        rw [Outcome.andThen, ok, state]
        simp only [List.append_assoc, List.singleton_append] at stops reached
        exact ⟨item :: front, stops, reached⟩
      · rw [same, Outcome.andThen_fail]
        refine ⟨[], ⟨?_, Or.inr ⟨item, rest, error, ?_, ?_, rfl⟩⟩, ?_⟩
        · rw [List.append_nil]
          exact clear
        · rw [List.append_nil]
        · rw [List.append_nil]
          exact offends
        · rw [List.append_nil]
          rfl

/-! ## The whole outbox -/

theorem each_published (inputs : List (Input α)) (live : Live α σ) :
    Outcome.each (apply registry detector) (inputs.map .now) live =
      Outcome.each (publish registry detector) inputs live := by
  induction inputs generalizing live with
  | nil => rfl
  | cons input rest ih => exact Outcome.andThen_congr fun _ => ih _

theorem each_postponed (inputs : List (Input α)) (live : Live α σ) :
    Outcome.each (apply registry detector) (inputs.map .later) live =
      Outcome.each (publishLater registry detector) inputs live := by
  induction inputs generalizing live with
  | nil => rfl
  | cons input rest ih => exact Outcome.andThen_congr fun _ => ih _

/-- If nothing was rejected, the values take effect in turn, and of the outbox
there is no more to say. -/
theorem emptyOutbox_takes (registry : Registry) (detector : DetectorId) {live : Live α σ}
    (granted : live.outbox.rejected = []) :
    ∃ front outbox,
      Stops registry detector live.queue live.outbox.items front
        (emptyOutbox registry detector live).result ∧
      (emptyOutbox registry detector live).state = { live.taking front with outbox } := by
  rcases each_apply { live with outbox := { live.outbox with published := [] } }
    (clear_nil registry detector live.queue) (live.outbox.published.map .now) with
    ⟨front, stops, reached⟩
  rw [taking_nil, each_published] at stops reached
  rw [List.nil_append] at reached
  simp only [List.nil_append] at stops
  have empties : emptyOutbox registry detector live =
      (Outcome.each (publish registry detector) live.outbox.published
        { live with outbox := { live.outbox with published := [] } }).andThen
          fun _ live => Outcome.each (publishLater registry detector) live.outbox.later
            { live with outbox := { live.outbox with later := [] } } := by
    rw [emptyOutbox, granted]
  rw [empties]
  rcases stops.ends with ⟨whole, ok⟩ | ⟨item, rest, error, split, offends, failed⟩
  · rcases each_apply { live with outbox := { live.outbox with published := [], later := [] } }
      stops.clear (live.outbox.later.map .later) with ⟨more, ends, arrived⟩
    rw [each_postponed] at ends arrived
    refine ⟨front ++ more, { live.outbox with published := [], later := [] }, ?_, ?_⟩
    · rw [Outcome.andThen, ok, reached]
      rw [← whole] at ends
      rw [← whole]
      exact ends
    · rw [Outcome.andThen, ok, reached]
      exact arrived
  · rw [Outcome.andThen_error failed]
    refine ⟨front, { live.outbox with published := [] }, ⟨stops.clear, Or.inr ?_⟩, reached⟩
    refine ⟨item, rest ++ live.outbox.later.map .later, error, ?_, offends, failed⟩
    rw [items, split, List.append_assoc, List.cons_append]

/-- What emptying the outbox of a detector comes to.  A timeout that was
scheduled without a declared edge is reported, the first one if there are
several, and no value takes effect.  Otherwise the values before the first one
that offends do, and they alone: a topic has the last one that is meant for
it, and the queue gains the others in order.  It succeeds, and leaves nothing
in the outbox, if no value offends, and only then. -/
structure Empties (registry : Registry) (detector : DetectorId) (live : Live α σ)
    (outcome : Outcome α (Live α σ) Unit) : Prop where
  rejected : ∀ topic rest, live.outbox.rejected = topic :: rest →
    outcome.result =
        .error (.undeclaredPublish (registry.detectorName detector) topic.name) ∧
      outcome.state.board = live.board ∧ outcome.state.queue = live.queue ∧
        outcome.events = []
  applied : live.outbox.rejected = [] → ∃ front,
    Stops registry detector live.queue live.outbox.items front outcome.result ∧
      (∀ topic,
        outcome.state.board.new? topic =
            (Input.valuesFor topic (front.filterMap Item.now?)).getLast?.or
              (live.board.new? topic) ∧
          outcome.state.board.current? topic =
            (Input.valuesFor topic (front.filterMap Item.now?)).getLast?.or
              (live.board.current? topic)) ∧
      outcome.state.queue =
        { live.queue with waiting := live.queue.waiting ++ front.filterMap Item.later? }
  ok_iff : live.outbox.rejected = [] →
    (outcome.result = .ok () ∧ outcome.state.outbox = {} ↔
      Clear registry detector live.queue live.outbox.items)
  slots : outcome.state.slots = live.slots
  timers : outcome.state.timers = live.timers

/-- Whatever a detector has put into its outbox, it is checked value by value
as it takes effect. -/
theorem outbox_checked (registry : Registry) (detector : DetectorId) (live : Live α σ) :
    Empties registry detector live (emptyOutbox registry detector live) := by
  cases rejected : live.outbox.rejected with
  | cons topic rest =>
      have fails : emptyOutbox registry detector live =
          .fail { live with outbox := { live.outbox with rejected := [] } }
            (Live.undeclared registry detector topic) := by
        rw [emptyOutbox, rejected]
      have some : live.outbox.rejected ≠ [] := by
        rw [rejected]
        exact List.cons_ne_nil topic rest
      rw [fails]
      refine ⟨?_, fun none => absurd none some, fun none => absurd none some, rfl, rfl⟩
      intro other others same
      cases rejected.symm.trans same
      exact ⟨rfl, rfl, rfl, rfl⟩
  | nil =>
      rcases emptyOutbox_takes registry detector rejected with ⟨front, outbox, stops, state⟩
      have emptied := (emptyOutbox_published registry detector live).2
      refine ⟨?_, fun _ => ⟨front, stops, ?_, ?_⟩, fun _ => ?_, ?_, ?_⟩
      · intro topic rest same
        cases rejected.symm.trans same
      · intro topic
        rw [state]
        exact ⟨Board.new?_writeAll live.board _ topic, Board.current?_writeAll live.board _ topic⟩
      · rw [state]
        rfl
      · rw [← stops.ok_iff]
        exact ⟨fun ok => ok.1, fun ok => ⟨ok, emptied ok⟩⟩
      · rw [state]
        rfl
      · rw [state]
        rfl

/-- The queue has room for the first of two values, and keeps it when the
second is refused. -/
example :
    let graph : Graph Nat Unit :=
      (Graph.run [.addLag (.plain "in")] (Graph.ofConfig { maxPendingInputs := some 1 })).state
    let later : List (Input Nat) := [⟨.lagged (.plain "in"), 3⟩, ⟨.lagged (.plain "in"), 4⟩]
    let outcome := emptyOutbox graph.registry 0 { graph.toLive with outbox := { later } }
    outcome.result = .error (.inputQueueFull 1) ∧
      outcome.state.queue.waiting = [⟨.lagged (.plain "in"), 3⟩] :=
  ⟨rfl, rfl⟩

end Live
end ReactiveGraph
