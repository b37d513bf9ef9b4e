import ReactiveGraph.Proofs.Coherence

namespace ReactiveGraph

/-!
# Sequence numbers

Topics and detectors draw their numbers from one counter.  A topic may be
numbered long before anyone subscribes to it, but never after: whoever
subscribes to it does so before the next detector is entered.  So a topic
comes before every detector that was entered later than one of its
subscribers, whatever else was registered or taken back in between.
-/

namespace Registry

def sequences (registry : Registry) : List Nat :=
  registry.topics.map TopicRecord.sequence ++ registry.detectors.map DetectorRecord.sequence

/-- No number was drawn twice, those of the detectors rise, none has been
reached by the counter, and no topic comes behind a detector later than one
of its subscribers. -/
structure Numbered (registry : Registry) : Prop where
  distinct : registry.sequences.Nodup
  rising : (registry.detectors.map DetectorRecord.sequence).Pairwise (· < ·)
  detectors_drawn : ∀ record ∈ registry.detectors, record.sequence < registry.nextSequence
  topics_drawn : ∀ entry ∈ registry.topics, entry.sequence < registry.nextSequence
  timely : ∀ entry ∈ registry.topics, ∀ subscriber ∈ entry.subscribers, ∀ later record,
    subscriber < later → registry.detectors[later]? = some record →
      entry.sequence < record.sequence

theorem numbered_empty : Numbered {} where
  distinct := List.nodup_nil
  rising := List.Pairwise.nil
  detectors_drawn := by intro _ member; cases member
  topics_drawn := by intro _ member; cases member
  timely := by intro _ member; cases member

theorem Numbered.drawn {registry : Registry} (numbered : registry.Numbered) {number : Nat}
    (member : number ∈ registry.sequences) : number < registry.nextSequence := by
  rcases List.mem_append.mp member with topic | detector
  · rcases List.mem_map.mp topic with ⟨entry, known, rfl⟩
    exact numbered.topics_drawn entry known
  · rcases List.mem_map.mp detector with ⟨record, known, rfl⟩
    exact numbered.detectors_drawn record known

theorem Numbered.fresh {registry : Registry} (numbered : registry.Numbered) :
    registry.nextSequence ∉ registry.sequences :=
  fun member => Nat.lt_irrefl _ (numbered.drawn member)

/-- Of two detectors the later one has the higher number. -/
theorem Numbered.sequence_lt {registry : Registry} (numbered : registry.Numbered)
    {first second : DetectorId} {earlier later : DetectorRecord} (before : first < second)
    (found : registry.detectors[first]? = some earlier)
    (foundLater : registry.detectors[second]? = some later) :
    earlier.sequence < later.sequence := by
  rcases List.getElem?_eq_some_iff.mp found with ⟨bound, rfl⟩
  rcases List.getElem?_eq_some_iff.mp foundLater with ⟨boundLater, rfl⟩
  have rising := List.pairwise_iff_getElem.mp numbered.rising first second (by simpa using bound)
    (by simpa using boundLater) before
  simpa using rising

section

variable {registry : Registry}

theorem Numbered.addDetector {after : Registry} (numbered : registry.Numbered) {name : String}
    {detector : DetectorId} (added : registry.addDetector name = .ok (detector, after)) :
    after.Numbered := by
  rw [Registry.addDetector] at added
  split at added
  next => cases added
  next =>
    cases added
    refine ⟨?_, ?_, ?_, ?_, ?_⟩
    · rw [sequences, List.map_append, ← List.append_assoc]
      exact List.nodup_append_comm.mp (List.nodup_cons.mpr ⟨numbered.fresh, numbered.distinct⟩)
    · rw [List.map_append, List.pairwise_append]
      refine ⟨numbered.rising, List.pairwise_singleton _ _, ?_⟩
      intro sequence member last same
      rw [List.mem_singleton.mp same]
      rcases List.mem_map.mp member with ⟨record, known, rfl⟩
      exact numbered.detectors_drawn record known
    · intro record member
      rcases List.mem_append.mp member with before | last
      · exact Nat.lt_succ_of_lt (numbered.detectors_drawn record before)
      · rw [List.mem_singleton.mp last]
        exact Nat.lt_succ_self _
    · intro entry member
      exact Nat.lt_succ_of_lt (numbered.topics_drawn entry member)
    · intro entry member subscriber subscribes later record after found
      rcases Nat.lt_or_ge later registry.detectors.length with known | beyond
      · rw [List.getElem?_append_left known] at found
        exact numbered.timely entry member subscriber subscribes later record after found
      · -- The new detector has the number that no topic has reached.
        rw [List.getElem?_append_right beyond] at found
        have new : record = ⟨name, registry.nextSequence⟩ :=
          List.mem_singleton.mp (List.mem_of_getElem? found)
        rw [new]
        exact numbered.topics_drawn entry member

theorem Numbered.ensureTopic (numbered : registry.Numbered) (topic : Payload) :
    (registry.ensureTopic topic).1.Numbered := by
  cases closed : registry.sealed with
  | true =>
      rw [ensureTopic_sealed closed]
      exact numbered
  | false =>
      rcases ensureTopic_open closed topic with ⟨id, _, blanks, same, _, _, blank⟩
      have new : ∀ entry ∈ blanks, entry.sequence < registry.nextSequence + blanks.length ∧
          entry.subscribers = [] := by
        intro entry member
        rcases blank with rfl | ⟨_, rfl⟩
        · cases member
        · rw [List.mem_singleton.mp member]
          exact ⟨Nat.lt_succ_self _, rfl⟩
      rw [same]
      refine ⟨?_, numbered.rising, ?_, ?_, ?_⟩
      · rcases blank with rfl | ⟨_, rfl⟩
        · simpa [sequences] using numbered.distinct
        · simpa [sequences, List.nodup_middle] using And.intro numbered.fresh numbered.distinct
      · intro record member
        exact Nat.lt_add_right _ (numbered.detectors_drawn record member)
      · intro entry member
        rcases List.mem_append.mp member with before | added
        · exact Nat.lt_add_right _ (numbered.topics_drawn entry before)
        · exact (new entry added).1
      · intro entry member subscriber subscribes
        rcases List.mem_append.mp member with before | added
        · exact numbered.timely entry before subscriber subscribes
        · rw [(new entry added).2] at subscribes
          cases subscribes

theorem sequence_connect (topic : Payload) (detector : DetectorId) (request : EdgeRequest)
    (entry : TopicRecord) :
    (connect topic detector request entry).sequence = entry.sequence := by
  rw [connect]
  split
  · cases request <;> rfl
  · rfl

/-- Nobody but the detector becomes a subscriber by its edge. -/
theorem subscriber_of_connect {topic : Payload} {detector subscriber : DetectorId}
    {request : EdgeRequest} {entry : TopicRecord}
    (subscribes : subscriber ∈ (connect topic detector request entry).subscribers) :
    subscriber ∈ entry.subscribers ∨ subscriber = detector := by
  rw [connect] at subscribes
  split at subscribes
  · cases request with
    | publisher timing => exact Or.inl subscribes
    | subscriber => simpa [withEdge] using subscribes
  · exact Or.inl subscribes

/-- The latest detector may connect to any topic, as no detector is later. -/
theorem Numbered.addEdge (numbered : registry.Numbered) (sound : registry.Sound)
    {detector : DetectorId} (latest : registry.detectors.length = detector + 1) (topic : Payload)
    (request : EdgeRequest) : (registry.addEdge detector topic request).1.Numbered := by
  cases closed : registry.sealed with
  | true =>
      rw [addEdge_sealed closed]
      exact numbered
  | false =>
      have larger := numbered.ensureTopic topic
      rcases addEdge_open sound.distinct closed detector topic request with
        ⟨_, _, ⟨_, _, same⟩ | ⟨_, _, _, same⟩⟩
      · rw [same]
        exact larger
      · rw [same]
        refine ⟨?_, larger.rising, larger.detectors_drawn, ?_, ?_⟩
        · have kept : TopicRecord.sequence ∘ connect topic detector request =
              TopicRecord.sequence := by
            funext entry
            exact sequence_connect topic detector request entry
          simpa [sequences, kept] using larger.distinct
        · intro changed member
          rcases List.mem_map.mp member with ⟨entry, source, rfl⟩
          rw [sequence_connect]
          exact larger.topics_drawn entry source
        · intro changed member subscriber subscribes later record after found
          rcases List.mem_map.mp member with ⟨entry, source, rfl⟩
          rw [sequence_connect]
          rcases subscriber_of_connect subscribes with before | rfl
          · exact larger.timely entry source subscriber before later record after found
          · have bound := (List.getElem?_eq_some_iff.mp found).1
            rw [(registry.ensureTopic_frame topic).1, latest] at bound
            exact absurd after (Nat.not_lt.mpr (Nat.lt_succ_iff.mp bound))

theorem Numbered.takeBack (numbered : registry.Numbered) (detector : DetectorId) :
    (registry.takeBack detector).Numbered := by
  have fewer : (registry.takeBack detector).detectors.IsPrefix registry.detectors := by
    rw [Registry.takeBack]
    split
    · exact List.dropLast_prefix _
    · exact List.prefix_refl _
  refine ⟨?_, ?_, ?_, ?_, ?_⟩
  · have kept : TopicRecord.sequence ∘ withoutEdges detector = TopicRecord.sequence := rfl
    rw [sequences, Registry.takeBack, List.map_map, kept]
    exact numbered.distinct.sublist
      ((fewer.sublist.map DetectorRecord.sequence).append_left _)
  · exact numbered.rising.sublist (fewer.sublist.map DetectorRecord.sequence)
  · intro record member
    exact numbered.detectors_drawn record (fewer.subset member)
  · intro changed member
    rcases List.mem_map.mp member with ⟨entry, source, rfl⟩
    exact numbered.topics_drawn entry source
  · intro changed member subscriber subscribes later record after found
    rcases List.mem_map.mp member with ⟨entry, source, rfl⟩
    have known : registry.detectors[later]? = some record := by
      rcases fewer with ⟨rest, same⟩
      rw [← same, List.getElem?_append_left (List.getElem?_eq_some_iff.mp found).1]
      exact found
    exact numbered.timely entry source subscriber (List.mem_of_mem_filter subscribes) later record
      after known

theorem Numbered.close (numbered : registry.Numbered) : registry.close.Numbered :=
  ⟨numbered.distinct, numbered.rising, numbered.detectors_drawn, numbered.topics_drawn,
    numbered.timely⟩

/-- However the latest detector goes about its declarations, the numbering is
kept. -/
theorem Numbered.run (wiring : Wiring) {registry : Registry} (numbered : registry.Numbered)
    (sound : registry.Sound) {detector : DetectorId}
    (latest : registry.detectors.length = detector + 1) (table : List Payload) :
    (wiring.run detector registry table).registry.Numbered := by
  induction wiring generalizing registry table with
  | finish result => exact numbered
  | declare capability topic next ih =>
      have known : detector < registry.detectors.length := by
        rw [latest]
        exact Nat.lt_succ_self _
      have afterNumbered := numbered.addEdge sound latest topic capability.request
      have afterSound := sound.addEdge known topic capability.request
      have gained := Gained.addEdge sound.distinct detector topic capability.request
      have afterLatest := latest
      rw [← gained.detectors] at afterLatest
      rw [Wiring.run]
      rcases answer : registry.addEdge detector topic capability.request with ⟨after, error | id⟩
      all_goals
        rw [answer] at afterNumbered afterSound afterLatest
        exact ih _ afterNumbered afterSound afterLatest _

end

end Registry

namespace Graph

variable {α σ : Type}

theorem numbered_install {graph : Graph α σ} (coherent : graph.Coherent)
    (numbered : graph.registry.Numbered) (typeName : String) (wiring : DetectorId → Wiring)
    (resident : Resident α σ) :
    (graph.install typeName wiring resident).1.registry.Numbered := by
  rw [install]
  cases added : graph.registry.addDetector (shortName typeName) with
  | error error => exact numbered
  | ok entered =>
      rcases entered with ⟨detector, entered⟩
      rcases coherent.registry.addDetector added with ⟨sound, _, _, _, count, _⟩
      have wired := (numbered.addDetector added).run (wiring detector) sound count []
      dsimp only
      cases ((wiring detector).run detector entered []).result with
      | error error => exact wired.takeBack detector
      | ok => exact wired

theorem Reachable.numbered {graph : Graph α σ} (reachable : graph.Reachable) :
    graph.registry.Numbered := by
  have both : graph.Coherent ∧ graph.registry.Numbered := by
    apply reachable.invariant (P := fun graph => graph.Coherent ∧ graph.registry.Numbered)
    · intro config
      exact ⟨coherent_ofConfig config, Registry.numbered_empty⟩
    · intro operation graph holds
      refine ⟨holds.1.perform operation, registry_perform holds.2 ?_ ?_ holds.2.close operation⟩
      · exact fun _ _ _ => numbered_install holds.1 holds.2 _ _ _
      · exact fun topic => holds.2.ensureTopic topic
  exact both.2

end Graph
end ReactiveGraph
