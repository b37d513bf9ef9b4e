import ReactiveGraph.Proofs.Delivery
import ReactiveGraph.Proofs.Order

namespace ReactiveGraph
namespace Live

/-!
# One walk settles a pass

A pass visits every vertex once, yet detectors write to topics all along the
walk.  It is enough because of the order: whoever writes to a topic is
visited before it, and so are the topics whose subscribers write to it.  When
a topic is visited its new value is final, and when a detector is visited it
has been handed all that it is going to be handed.
-/

variable {α σ : Type} {registry : Registry} {walk visited rest : List Vertex} {vertex : Vertex}

/-- Nothing that a visit brings about is written to a topic visited before,
nor to the topic that is being visited. -/
theorem visit_settled (sound : registry.Sound) (isWalk : registry.IsWalk walk)
    (split : walk = visited ++ vertex :: rest) (live : Live α σ) {topic : Payload}
    (passed : .topic topic ∈ visited ++ [vertex]) :
    (visit registry vertex live).state.board.new? topic = live.board.new? topic := by
  have kept : Outcome.Follows Kept live (visit registry vertex live) :=
    visit_kept registry vertex live
  rw [kept.board, Board.new?_writeAll_of_ne]
  intro input member equal
  rcases visit_writes registry vertex live input member with ⟨writer, declared, origin⟩
  have written : (.detector writer, .topic topic) ∈ registry.edges :=
    Registry.edge_of_publisher sound (equal ▸ declared)
  rcases origin with rfl | ⟨source, rfl, subscribed⟩
  · exact isWalk.later sound split written passed
  · have handed := Registry.edge_of_subscriber sound subscribed
    exact isWalk.beyond sound split handed written passed

/-- What the bookkeeping of a detector says when the given vertices have been
visited: a call is outstanding if a visited topic had something for it, and a
lag is armed once it has been visited itself. -/
structure Booked (registry : Registry) (board : Board α) (visited : List Vertex)
    (detector : DetectorId) (control : Control α) : Prop where
  pending : control.pending = true ↔
    .detector detector ∉ visited ∧ ∃ topic, .topic topic ∈ visited ∧
      detector ∈ registry.subscribers topic ∧ (board.new? topic).isSome = true
  captured : control.pending = true → ∀ lag, control.lag? = some lag →
    lag.latest = board.new? lag.source
  armed : ∀ lag, control.lag? = some lag →
    lag.armed = if .detector detector ∈ visited then board.new? lag.source else none

/-- The state of a pass whose walk has come to a certain point. -/
structure Midway (registry : Registry) (visited : List Vertex) (live : Live α σ) : Prop where
  fits : registry.Fits live.shapes
  settled : live.board.Sound
  booked : ∀ detector control, live.controls[detector]? = some control →
    Booked registry live.board visited detector control

/-- When the walk begins no call is outstanding and no lag is armed. -/
theorem midway_opened {live : Live α σ} (fits : registry.Fits live.shapes)
    (input : Option (Input α)) : Midway registry [] (live.opened input) where
  fits := by
    rw [shapes_opened]
    exact fits
  settled := (Board.sound_age live.board).writeAll _
  booked := by
    intro detector control found
    rw [controls_opened, List.getElem?_map] at found
    rcases Option.map_eq_some_iff.mp found with ⟨before, _, rfl⟩
    refine ⟨?_, ?_, ?_⟩
    · constructor
      · intro pending
        cases pending
      · rintro ⟨_, topic, reached, _⟩
        cases reached
    · intro pending
      cases pending
    · intro lag holds
      rcases Option.map_eq_some_iff.mp holds with ⟨source, _, rfl⟩
      rw [if_neg (List.not_mem_nil)]
      rfl

/-- If the detector is a lag, its source is the one topic it subscribes to. -/
def OnlySource (registry : Registry) (detector : DetectorId) (control : Control α) : Prop :=
  ∀ lag, control.lag? = some lag → ∀ topic,
    detector ∈ registry.subscribers topic ↔ topic = lag.source

theorem onlySource {live : Live α σ} (fits : registry.Fits live.shapes) {detector : DetectorId}
    {control : Control α} (found : live.controls[detector]? = some control) :
    OnlySource registry detector control :=
  fun _ holds => fits.subscribed_lag (shapes_of_lag found holds)

theorem source_visited (sound : registry.Sound) (isWalk : registry.IsWalk walk)
    (split : walk = visited ++ rest) {topic : Payload} {detector : DetectorId}
    (subscribed : detector ∈ registry.subscribers topic) (reached : .detector detector ∈ visited) :
    .topic topic ∈ visited :=
  isWalk.closed visited rest split _ _ (Registry.edge_of_subscriber sound subscribed) reached

/-- A visit that has nothing to do with a detector leaves what is said of
it. -/
theorem Booked.elsewhere (sound : registry.Sound) (isWalk : registry.IsWalk walk)
    (split : walk = visited ++ vertex :: rest) {before after : Board α}
    (settled : ∀ topic, .topic topic ∈ visited ++ [vertex] → after.new? topic = before.new? topic)
    {detector : DetectorId} {control : Control α}
    (subscribed : OnlySource registry detector control)
    (other : vertex ≠ .detector detector)
    (idle : ∀ topic, vertex = .topic topic → detector ∈ registry.subscribers topic →
      before.new? topic = none)
    (booked : Booked registry before visited detector control) :
    Booked registry after (visited ++ [vertex]) detector control := by
  have reached : .detector detector ∈ visited ++ [vertex] ↔ .detector detector ∈ visited := by
    rw [List.mem_append, List.mem_singleton]
    exact or_iff_left fun equal => other equal.symm
  refine ⟨?_, ?_, ?_⟩
  · rw [booked.pending, reached]
    apply and_congr_right
    intro _
    constructor
    · rintro ⟨topic, passed, listens, new⟩
      have passed := List.mem_append_left [vertex] passed
      exact ⟨topic, passed, listens, by rw [settled topic passed]; exact new⟩
    · rintro ⟨topic, passed, listens, new⟩
      rw [settled topic passed] at new
      rcases List.mem_append.mp passed with before | last
      · exact ⟨topic, before, listens, new⟩
      · rw [idle topic (List.mem_singleton.mp last).symm listens] at new
        cases new
  · intro pending lag holds
    rcases (booked.pending.mp pending).2 with ⟨topic, passed, listens, _⟩
    rw [(subscribed lag holds topic).mp listens] at passed
    rw [settled lag.source (List.mem_append_left [vertex] passed)]
    exact booked.captured pending lag holds
  · intro lag holds
    rw [booked.armed lag holds]
    by_cases visitedBefore : .detector detector ∈ visited
    · have listens := (subscribed lag holds lag.source).mpr rfl
      have passed := source_visited sound isWalk split listens visitedBefore
      rw [if_pos visitedBefore, if_pos (reached.mpr visitedBefore),
        settled lag.source (List.mem_append_left [vertex] passed)]
    · rw [if_neg visitedBefore, if_neg fun again => visitedBefore (reached.mp again)]

/-- A subscriber of the topic being visited owes a completion, and if it is a
lag it has captured the topic's new value. -/
theorem Booked.handed (sound : registry.Sound) (isWalk : registry.IsWalk walk)
    {topic : Payload} (split : walk = visited ++ .topic topic :: rest) {before after : Board α}
    (settled : after.new? topic = before.new? topic) {detector : DetectorId} {control : Control α}
    (subscribed : OnlySource registry detector control)
    (listens : detector ∈ registry.subscribers topic) {value : α}
    (new : before.new? topic = some value)
    (booked : Booked registry before visited detector control) :
    Booked registry after (visited ++ [.topic topic]) detector (control.handed value) := by
  have unvisited : .detector detector ∉ visited ++ [.topic topic] :=
    isWalk.later sound split (Registry.edge_of_subscriber sound listens)
  have afterwards : after.new? topic = some value := settled.trans new
  refine ⟨?_, ?_, ?_⟩
  · constructor
    · intro _
      refine ⟨unvisited, topic, List.mem_append_right visited List.mem_cons_self, listens, ?_⟩
      rw [afterwards]
      rfl
    · intro _
      rfl
  · intro _ lag holds
    rcases Option.map_eq_some_iff.mp holds with ⟨source, was, rfl⟩
    have here : topic = source.source := (subscribed source was topic).mp listens
    rw [Lag.capture, ← here, afterwards]
  · intro lag holds
    rcases Option.map_eq_some_iff.mp holds with ⟨source, was, rfl⟩
    have unarmed := booked.armed source was
    rw [if_neg fun early => unvisited (List.mem_append_left _ early)] at unarmed
    rw [if_neg unvisited]
    exact unarmed

theorem armed_arm {lag : Lag α} (unarmed : lag.armed = none) : lag.arm.armed = lag.latest := by
  rw [Lag.arm]
  cases lag.latest with
  | none => exact unarmed
  | some value => rfl

/-- The detector being visited owes nothing any more, and if it is a lag it
is armed with the new value of its source. -/
theorem Booked.completed (sound : registry.Sound) (isWalk : registry.IsWalk walk)
    {detector : DetectorId} (split : walk = visited ++ .detector detector :: rest)
    {before after : Board α}
    (settled : ∀ topic, .topic topic ∈ visited → after.new? topic = before.new? topic)
    {control : Control α}
    (subscribed : OnlySource registry detector control)
    (booked : Booked registry before visited detector control) :
    Booked registry after (visited ++ [.detector detector]) detector
      (if control.pending then control.completed else control) := by
  have unvisited := isWalk.not_mem_visited split
  have reached : .detector detector ∈ visited ++ [.detector detector] :=
    List.mem_append_right visited List.mem_cons_self
  have passed : ∀ lag, control.lag? = some lag →
      .topic lag.source ∈ visited ∧ detector ∈ registry.subscribers lag.source := by
    intro lag holds
    have listens := (subscribed lag holds lag.source).mpr rfl
    exact ⟨isWalk.earlier sound split (Registry.edge_of_subscriber sound listens), listens⟩
  have quiet : (if control.pending then control.completed else control).pending = false := by
    cases pending : control.pending with
    | false => exact pending
    | true => rfl
  refine ⟨?_, ?_, ?_⟩
  · rw [quiet]
    exact iff_of_false Bool.false_ne_true fun both => both.1 reached
  · rw [quiet]
    intro pending
    cases pending
  · intro lag holds
    rw [if_pos reached]
    cases pending : control.pending with
    | false =>
        rw [pending] at holds
        have unarmed := booked.armed lag holds
        rw [if_neg unvisited] at unarmed
        rcases passed lag holds with ⟨sourcePassed, listens⟩
        rw [settled lag.source sourcePassed, unarmed]
        cases new : before.new? lag.source with
        | none => rfl
        | some value =>
            have owes := booked.pending.mpr
              ⟨unvisited, lag.source, sourcePassed, listens, by rw [new]; rfl⟩
            rw [pending] at owes
            cases owes
    | true =>
        rw [pending] at holds
        rcases Option.map_eq_some_iff.mp holds with ⟨noted, was, rfl⟩
        have unarmed := booked.armed noted was
        rw [if_neg unvisited] at unarmed
        rw [armed_arm unarmed, Control.source_arm, settled noted.source (passed noted was).1]
        exact booked.captured pending noted was

/-! ## The whole walk -/

theorem due_settled (sound : registry.Sound) (isWalk : registry.IsWalk walk)
    (split : walk = visited ++ rest) {before after : Board α} (beforeSound : before.Sound)
    (afterSound : after.Sound)
    (settled : ∀ topic, .topic topic ∈ visited → after.new? topic = before.new? topic) :
    visited.flatMap (registry.due after) = visited.flatMap (registry.due before) := by
  apply List.flatMap_congr
  intro vertex reached
  cases vertex with
  | topic topic => rw [Registry.due, Registry.due, settled topic reached]
  | detector detector =>
      have same : registry.hears after detector = registry.hears before detector := by
        rw [Bool.eq_iff_iff, Registry.hears_iff sound afterSound,
          Registry.hears_iff sound beforeSound]
        apply exists_congr
        intro topic
        apply and_congr_right
        intro listens
        rw [settled topic (source_visited sound isWalk split listens reached)]
      rw [Registry.due, Registry.due, same]

theorem Midway.visit_kept {live : Live α σ} (midway : Midway registry visited live)
    (vertex : Vertex) : registry.Fits (visit registry vertex live).state.shapes ∧
      (visit registry vertex live).state.board.Sound := by
  have kept : Outcome.Follows Kept live (Live.visit registry vertex live) :=
    Live.visit_kept registry vertex live
  rw [kept.shapes, kept.board]
  exact ⟨midway.fits, midway.settled.writeAll _⟩

/-- Visiting a topic keeps up the bookkeeping of its subscribers and of
everyone else, and hands its value out. -/
theorem Midway.visit_topic (sound : registry.Sound) (isWalk : registry.IsWalk walk)
    {topic : Payload} (split : walk = visited ++ .topic topic :: rest) {live : Live α σ}
    (midway : Midway registry visited live)
    (ok : (visit registry (.topic topic) live).result = .ok ()) :
    Midway registry (visited ++ [.topic topic]) (visit registry (.topic topic) live).state ∧
      (visit registry (.topic topic) live).events.filter Event.isCall =
        registry.due (visit registry (.topic topic) live).state.board (.topic topic) := by
  have settled : ∀ passed, .topic passed ∈ visited ++ [.topic topic] →
      (visit registry (.topic topic) live).state.board.new? passed = live.board.new? passed :=
    fun _ passed => visit_settled sound isWalk split live passed
  have here := settled topic (List.mem_append_right visited List.mem_cons_self)
  rcases midway.visit_kept (.topic topic) with ⟨afterFits, afterSound⟩
  rcases Live.visit_topic sound midway.fits midway.settled ok with ⟨controls, calls⟩
  refine ⟨⟨afterFits, afterSound, ?_⟩, ?_⟩
  · intro detector control found
    rw [controls] at found
    rcases Option.map_eq_some_iff.mp found with ⟨before, was, rfl⟩
    have booked := midway.booked detector before was
    have subscribed := onlySource midway.fits was
    have other : Vertex.topic topic ≠ .detector detector := by
      intro equal
      cases equal
    by_cases listens : detector ∈ registry.subscribers topic
    · rw [if_pos listens]
      cases new : live.board.new? topic with
      | none =>
          refine booked.elsewhere sound isWalk split settled subscribed other ?_
          intro source same _
          rw [← Vertex.topic.inj same, new]
      | some value => exact booked.handed sound isWalk split here subscribed listens new
    · rw [if_neg listens]
      refine booked.elsewhere sound isWalk split settled subscribed other ?_
      intro source same again
      exact absurd (Vertex.topic.inj same ▸ again) listens
  · rw [calls, Registry.due, Registry.due, here]

/-- A detector owes a completion when it is visited, just if it subscribes to
a topic with a new value. -/
theorem Midway.owes (sound : registry.Sound) (isWalk : registry.IsWalk walk)
    {detector : DetectorId} (split : walk = visited ++ .detector detector :: rest)
    {live : Live α σ} (midway : Midway registry visited live) {control : Control α}
    (found : live.controls[detector]? = some control) {after : Board α} (afterSound : after.Sound)
    (settled : ∀ topic, .topic topic ∈ visited → after.new? topic = live.board.new? topic) :
    control.pending = registry.hears after detector := by
  rw [Bool.eq_iff_iff, (midway.booked detector control found).pending,
    Registry.hears_iff sound afterSound]
  constructor
  · rintro ⟨_, topic, passed, listens, new⟩
    exact ⟨topic, listens, by rw [settled topic passed]; exact new⟩
  · rintro ⟨topic, listens, new⟩
    have passed := isWalk.earlier sound split (Registry.edge_of_subscriber sound listens)
    rw [settled topic passed] at new
    exact ⟨isWalk.not_mem_visited split, topic, passed, listens, new⟩

/-- Visiting a detector keeps up its bookkeeping and that of everyone else,
and completes it if it owes that. -/
theorem Midway.visit_detector (sound : registry.Sound) (isWalk : registry.IsWalk walk)
    {detector : DetectorId} (split : walk = visited ++ .detector detector :: rest)
    {live : Live α σ} (midway : Midway registry visited live) :
    Midway registry (visited ++ [.detector detector])
        (visit registry (.detector detector) live).state ∧
      (visit registry (.detector detector) live).events.filter Event.isCall =
        registry.due (visit registry (.detector detector) live).state.board
          (.detector detector) := by
  have settled : ∀ topic, .topic topic ∈ visited ++ [.detector detector] →
      (visit registry (.detector detector) live).state.board.new? topic = live.board.new? topic :=
    fun _ passed => visit_settled sound isWalk split live passed
  have earlier : ∀ topic, .topic topic ∈ visited →
      (visit registry (.detector detector) live).state.board.new? topic = live.board.new? topic :=
    fun topic passed => settled topic (List.mem_append_left _ passed)
  have known : detector < live.controls.length := by
    have onWalk : .detector detector ∈ walk := by
      rw [split]
      exact List.mem_append_right visited List.mem_cons_self
    have known := isWalk.detector_mem.mp onWalk
    rw [← midway.fits.count, shapes, List.length_map] at known
    exact known
  have found := List.getElem?_eq_getElem known
  rcases midway.visit_kept (.detector detector) with ⟨afterFits, afterSound⟩
  rcases Live.visit_detector registry found with ⟨controls, calls⟩
  refine ⟨⟨afterFits, afterSound, ?_⟩, ?_⟩
  · intro other control foundAfter
    rw [controls] at foundAfter
    rcases Option.map_eq_some_iff.mp foundAfter with ⟨before, was, rfl⟩
    have booked := midway.booked other before was
    have subscribed := onlySource midway.fits was
    by_cases here : other = detector
    · subst here
      simp only [true_and]
      exact booked.completed sound isWalk split earlier subscribed
    · simp only [here, false_and, if_false]
      refine booked.elsewhere sound isWalk split settled subscribed ?_ ?_
      · intro equal
        exact here (Vertex.detector.inj equal).symm
      · intro topic equal
        cases equal
  · rw [calls, Registry.due, midway.owes sound isWalk split found afterSound earlier]

theorem Midway.visit (sound : registry.Sound) (isWalk : registry.IsWalk walk)
    (split : walk = visited ++ vertex :: rest) {live : Live α σ}
    (midway : Midway registry visited live)
    (ok : (Live.visit registry vertex live).result = .ok ()) :
    Midway registry (visited ++ [vertex]) (Live.visit registry vertex live).state ∧
      (Live.visit registry vertex live).events.filter Event.isCall =
        registry.due (Live.visit registry vertex live).state.board vertex := by
  cases vertex with
  | topic topic => exact midway.visit_topic sound isWalk split ok
  | detector detector => exact midway.visit_detector sound isWalk split

/-- The walk has come to a certain point, and the calls made on the way are
those that the visited vertices stand for. -/
structure Walked (registry : Registry) (visited : List Vertex) (live : Live α σ)
    (log : List (Event α)) : Prop where
  midway : Midway registry visited live
  calls : log.filter Event.isCall = visited.flatMap (registry.due live.board)

theorem Midway.due_visit (sound : registry.Sound) (isWalk : registry.IsWalk walk)
    (split : walk = visited ++ vertex :: rest) {live : Live α σ}
    (midway : Midway registry visited live) :
    visited.flatMap (registry.due (Live.visit registry vertex live).state.board) =
      visited.flatMap (registry.due live.board) := by
  refine due_settled sound isWalk split midway.settled (midway.visit_kept vertex).2 ?_
  intro topic passed
  exact visit_settled sound isWalk split live (List.mem_append_left [vertex] passed)

theorem Walked.concat (sound : registry.Sound) (isWalk : registry.IsWalk walk)
    (split : walk = visited ++ vertex :: rest) {live : Live α σ} {log : List (Event α)}
    (walked : Walked registry visited live log)
    (next : Midway registry (visited ++ [vertex]) (Live.visit registry vertex live).state ∧
      (Live.visit registry vertex live).events.filter Event.isCall =
        registry.due (Live.visit registry vertex live).state.board vertex) :
    Walked registry (visited ++ [vertex]) (Live.visit registry vertex live).state
      (log ++ (Live.visit registry vertex live).events) where
  midway := next.1
  calls := by
    rw [List.filter_append, walked.calls, next.2, List.flatMap_append,
      walked.midway.due_visit sound isWalk split, List.flatMap_singleton]

theorem Walked.visit (sound : registry.Sound) (isWalk : registry.IsWalk walk)
    (split : walk = visited ++ vertex :: rest) {live : Live α σ} {log : List (Event α)}
    (walked : Walked registry visited live log)
    (ok : (Live.visit registry vertex live).result = .ok ()) :
    Walked registry (visited ++ [vertex]) (Live.visit registry vertex live).state
      (log ++ (Live.visit registry vertex live).events) :=
  walked.concat sound isWalk split (walked.midway.visit sound isWalk split ok)

theorem walked_opened {live : Live α σ} (fits : registry.Fits live.shapes)
    (input : Option (Input α)) : Walked registry [] (live.opened input) [] :=
  ⟨midway_opened fits input, rfl⟩

/-- A pass that succeeds has made exactly the calls that its final board asks
for, vertex by vertex, and has booked every detector. -/
theorem pass_settles (sound : registry.Sound) {order : VisitOrder}
    (isWalk : registry.IsWalk order.walk) {live : Live α σ} (fits : registry.Fits live.shapes)
    {input : Option (Input α)} (ok : (pass registry order input live).result = .ok ()) :
    Midway registry order.walk (pass registry order input live).state ∧
      (pass registry order input live).events.filter Event.isCall =
        order.walk.flatMap (registry.due (pass registry order input live).state.board) := by
  have opens := pass_opens order fits (hasTopic_of_ok fits ok)
  rw [opens] at ok ⊢
  -- Once the walk is through, all vertices have been visited.
  have walked : Walked registry order.walk
      (Outcome.each (visit registry) order.walk (live.opened input)).state
      (Outcome.each (visit registry) order.walk (live.opened input)).events :=
    Outcome.each_ok (walked_opened fits input)
      (fun _ _ _ _ _ split before visitOk => before.visit sound isWalk split visitOk) ok
  refine ⟨walked.midway, ?_⟩
  have silent := Log.calls_map (fun given : Input α => .wrote given.topic given.value)
    (fun _ => rfl) (live.armed ++ input.toList)
  simp only [Outcome.behind, List.filter_append, silent, List.nil_append]
  exact walked.calls

end Live
end ReactiveGraph
