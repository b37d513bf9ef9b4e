import ReactiveGraph.Config.Format
import ReactiveGraph.Proofs.Records
import ReactiveGraph.Proofs.Strictness

namespace ReactiveGraph

/-!
# Configurations laid over the defaults

A document sets what it names and leaves the rest at the defaults.  It may be
spelled in any way, name the settings in any order, and hold anything else
under other names.  Only what it sets twice makes it unreadable.
-/

namespace Config

/-- A value for one of the fields. -/
inductive Setting where
  | name (label : String)
  | maxPendingInputs (bound : Option UInt64)
  | maxFeedbackPasses (passes : UInt64)

namespace Setting

def field : Setting → String
  | name _ => "name"
  | maxPendingInputs _ => "max_pending_inputs"
  | maxFeedbackPasses _ => "max_feedback_passes"

def override (config : Config) : Setting → Config
  | name label => { config with name := label }
  | maxPendingInputs bound => { config with maxPendingInputs := bound }
  | maxFeedbackPasses passes => { config with maxFeedbackPasses := passes }

/-- The value that gives the setting.  A word of 64 bits has one spelling
without sign, fraction and exponent. -/
inductive GivenBy : Setting → Json → Prop where
  | name {label : String} {letters : List Json.Letter}
      (spelled : Json.HasText letters label.toList) : GivenBy (.name label) (.string letters)
  | unbounded : GivenBy (.maxPendingInputs none) .null
  | bound (bound : UInt64) : GivenBy (.maxPendingInputs (some bound)) (.ofNat bound.toNat)
  | passes (passes : UInt64) : GivenBy (.maxFeedbackPasses passes) (.ofNat passes.toNat)

theorem field_mem (setting : Setting) : setting.field ∈ fieldNames := by
  cases setting <;> simp [field, fieldNames]

end Setting

/-- The members give the settings, one behind the other, and may hold anything
under names of no field. -/
inductive Gives : List (List Json.Letter × Json) → List Setting → Prop where
  | nil : Gives [] []
  | setting {setting : Setting} {key : List Json.Letter} {value : Json}
      {members : List (List Json.Letter × Json)} {settings : List Setting}
      (named : Json.HasText key setting.field.toList) (given : setting.GivenBy value)
      (others : Gives members settings) : Gives ((key, value) :: members) (setting :: settings)
  | foreign {name : String} {key : List Json.Letter} (named : Json.HasText key name.toList)
      (unknown : name ∉ fieldNames) (value : Json)
      {members : List (List Json.Letter × Json)} {settings : List Setting}
      (others : Gives members settings) : Gives ((key, value) :: members) settings

/-- Lay the fields among the members over a configuration. -/
def overlay (config : Config) (members : List (String × Json)) : Option Config := do
  return {
    name := ← setting? Json.text? config.name (members.lookup "name")
    maxPendingInputs :=
      ← setting? bound? config.maxPendingInputs (members.lookup "max_pending_inputs")
    maxFeedbackPasses :=
      ← setting? word? config.maxFeedbackPasses (members.lookup "max_feedback_passes") }

theorem ofJson?_object {members : List (List Json.Letter × Json)} {named : List (String × Json)}
    (keyed : Json.named? members = some named)
    (once : ∀ name ∈ fieldNames, (named.map Prod.fst).count name ≤ 1) :
    ofJson? (.object members) = overlay {} named := by
  rw [ofJson?, Json.fields?_object keyed once]
  rfl

theorem overlay_foreign (config : Config) {name : String} (unknown : name ∉ fieldNames)
    (value : Json) (members : List (String × Json)) :
    config.overlay ((name, value) :: members) = config.overlay members := by
  have skipped : ∀ field ∈ fieldNames,
      List.lookup field ((name, value) :: members) = List.lookup field members := by
    intro field known
    have different : field ≠ name := fun same => unknown (same ▸ known)
    rw [List.lookup_cons, beq_eq_false_iff_ne.mpr different]
  rw [overlay, overlay, skipped "name" (by decide), skipped "max_pending_inputs" (by decide),
    skipped "max_feedback_passes" (by decide)]

theorem word?_ofNat (word : UInt64) : word? (.ofNat word.toNat) = some word := by
  rw [word?, Json.nat?_ofNat word.toNat_lt, Option.map_some, UInt64.ofNat_toNat]

/-- A setting replaces what was there, and nothing else. -/
theorem overlay_setting (config : Config) {setting : Setting} {value : Json}
    (given : setting.GivenBy value) {members : List (String × Json)}
    (absent : List.lookup setting.field members = none) :
    config.overlay ((setting.field, value) :: members) =
      (setting.override config).overlay members := by
  have here : List.lookup setting.field ((setting.field, value) :: members) = some value :=
    List.lookup_cons_self
  have elsewhere : ∀ field ≠ setting.field,
      List.lookup field ((setting.field, value) :: members) = List.lookup field members := by
    intro field different
    rw [List.lookup_cons, beq_eq_false_iff_ne.mpr different]
  cases given with
  | @name label letters spelled =>
      have read : setting? Json.text? config.name (some (.string letters)) = some label := by
        rw [setting?, Json.text?_string spelled]
      rw [Setting.field] at here elsewhere absent ⊢
      rw [overlay, overlay, here, absent, elsewhere "max_pending_inputs" (by decide),
        elsewhere "max_feedback_passes" (by decide), read]
      rfl
  | unbounded =>
      rw [Setting.field] at here elsewhere absent ⊢
      rw [overlay, overlay, here, absent, elsewhere "name" (by decide),
        elsewhere "max_feedback_passes" (by decide)]
      rfl
  | bound bound =>
      have read : setting? bound? config.maxPendingInputs (some (.ofNat bound.toNat)) =
          some (some bound) := congrArg (Option.map some) (word?_ofNat bound)
      rw [Setting.field] at here elsewhere absent ⊢
      rw [overlay, overlay, here, absent, elsewhere "name" (by decide),
        elsewhere "max_feedback_passes" (by decide), read]
      rfl
  | passes passes =>
      have read : setting? word? config.maxFeedbackPasses (some (.ofNat passes.toNat)) =
          some passes := word?_ofNat passes
      rw [Setting.field] at here elsewhere absent ⊢
      rw [overlay, overlay, here, absent, elsewhere "name" (by decide),
        elsewhere "max_pending_inputs" (by decide), read]
      rfl

theorem Gives.keyed {members : List (List Json.Letter × Json)} {settings : List Setting}
    (gives : Gives members settings) : ∃ named, Json.named? members = some named := by
  induction gives with
  | nil => exact ⟨[], rfl⟩
  | setting named _ _ ih =>
      rcases ih with ⟨others, keyed⟩
      exact ⟨_, by rw [Json.named?_cons_of_hasText named, keyed, Option.map_some]⟩
  | foreign named _ _ _ ih =>
      rcases ih with ⟨others, keyed⟩
      exact ⟨_, by rw [Json.named?_cons_of_hasText named, keyed, Option.map_some]⟩

theorem Gives.count {members : List (List Json.Letter × Json)} {settings : List Setting}
    (gives : Gives members settings) {named : List (String × Json)}
    (keyed : Json.named? members = some named) {name : String} (known : name ∈ fieldNames) :
    (named.map Prod.fst).count name = (settings.map Setting.field).count name := by
  induction gives generalizing named with
  | nil =>
      cases keyed
      rfl
  | setting spelled _ _ ih =>
      rcases Json.of_named?_cons spelled keyed with ⟨others, later, rfl⟩
      rw [List.map_cons, List.map_cons, List.count_cons, List.count_cons, ih later]
  | @foreign other _ spelled unknown _ _ _ _ ih =>
      rcases Json.of_named?_cons spelled keyed with ⟨others, later, rfl⟩
      have different : other ≠ name := fun same => unknown (same ▸ known)
      rw [List.map_cons, List.count_cons_of_ne different, ih later]

theorem Gives.overlay {members : List (List Json.Letter × Json)} {settings : List Setting}
    (gives : Gives members settings) {named : List (String × Json)}
    (keyed : Json.named? members = some named) (distinct : (settings.map Setting.field).Nodup)
    (config : Config) :
    config.overlay named = some (settings.foldl Setting.override config) := by
  induction gives generalizing named config with
  | nil =>
      cases keyed
      rfl
  | @setting setting _ value _ _ spelled given gives ih =>
      rcases Json.of_named?_cons spelled keyed with ⟨others, later, rfl⟩
      rcases List.nodup_cons.mp distinct with ⟨fresh, distinct⟩
      -- no later member could override the setting
      have absent : List.lookup setting.field others = none := by
        have none : (others.map Prod.fst).count setting.field = 0 := by
          rw [gives.count later setting.field_mem]
          exact List.count_eq_zero.mpr fresh
        rw [List.lookup_eq_none_iff]
        intro member present
        have other : member.1 ≠ setting.field := fun same =>
          List.count_eq_zero.mp none (same ▸ List.mem_map_of_mem present)
        exact bne_iff_ne.mpr other.symm
      rw [overlay_setting config given absent, ih later distinct, List.foldl_cons]
  | @foreign name _ spelled unknown value _ _ _ ih =>
      rcases Json.of_named?_cons spelled keyed with ⟨others, later, rfl⟩
      rw [overlay_foreign config unknown value others, ih later distinct]

/-! ## Documents -/

def settings (config : Config) : List Setting :=
  [.name config.name, .maxPendingInputs config.maxPendingInputs,
    .maxFeedbackPasses config.maxFeedbackPasses]

/-- How documents are read as configurations, and which are refused for a
reason.  In whatever way an object is spelled, the settings that it gives
override the defaults, as long as they are of different fields.  A field that
occurs twice makes a document unreadable, and so does a mistake in its
spelling.  What is written is read back. -/
structure Overlays (reason : String → String) (read : String → Except GraphError Config) :
    Prop where
  overridden : ∀ {text : String} {members : List (List Json.Letter × Json)}
    {settings : List Setting}, Json.Padded (.object members) text.toList →
      Gives members settings → (settings.map Setting.field).Nodup →
        read text = .ok (settings.foldl Setting.override {})
  repeated : ∀ {text : String} (front middle back : List (List Json.Letter × Json))
    {name : String} {first second : List Json.Letter} {value other : Json},
    Json.Padded (.object (front ++ (first, value) :: (middle ++ (second, other) :: back)))
      text.toList → name ∈ fieldNames → Json.HasText first name.toList →
        Json.HasText second name.toList → read text = .error (.serialization (reason text))
  malformed : ∀ {text : String}, (∀ json, ¬Json.Padded json text.toList) →
    read text = .error (.serialization (reason text))
  written : ∀ config : Config, read config.render = .ok config

theorem writable (config : Config) : Json.Writable config.toJson := by
  have bound : Json.Writable
      (config.maxPendingInputs.elim .null fun bound => .ofNat bound.toNat) := by
    cases config.maxPendingInputs with
    | none => exact Json.writable_null
    | some bound => exact Json.writable_ofNat bound.toNat
  refine .record (List.forall_mem_cons.mpr ⟨Json.writable_ofText _, ?_⟩)
  exact List.forall_mem_cons.mpr ⟨bound, List.forall_mem_singleton.mpr (Json.writable_ofNat _)⟩

theorem gives_settings (config : Config) :
    Gives ([("name", .ofText config.name),
      ("max_pending_inputs", config.maxPendingInputs.elim .null fun bound => .ofNat bound.toNat),
      ("max_feedback_passes", .ofNat config.maxFeedbackPasses.toNat)].map Json.lettered)
        config.settings := by
  have name : (Setting.name config.name).GivenBy (.ofText config.name) :=
    .name (Json.hasText_chars config.name.toList)
  have bound : (Setting.maxPendingInputs config.maxPendingInputs).GivenBy
      (config.maxPendingInputs.elim .null fun bound => .ofNat bound.toNat) := by
    cases config.maxPendingInputs with
    | none => exact .unbounded
    | some bound => exact .bound bound
  have passes : (Setting.maxFeedbackPasses config.maxFeedbackPasses).GivenBy
      (.ofNat config.maxFeedbackPasses.toNat) := .passes _
  exact .setting (Json.hasText_chars _) name (.setting (Json.hasText_chars _) bound
    (.setting (Json.hasText_chars _) passes .nil))

theorem parse_overlay (reason : String → String) {text : String}
    {members : List (List Json.Letter × Json)} {settings : List Setting}
    (spelled : Json.Padded (.object members) text.toList) (gives : Gives members settings)
    (distinct : (settings.map Setting.field).Nodup) :
    parse reason text = .ok (settings.foldl Setting.override {}) := by
  rcases gives.keyed with ⟨named, keyed⟩
  have once : ∀ name ∈ fieldNames, (named.map Prod.fst).count name ≤ 1 := by
    intro name known
    rw [gives.count keyed known]
    exact List.nodup_iff_count_le_one.mp distinct name
  refine Json.decode_of_padded reason spelled ?_
  rw [ofJson?_object keyed once]
  exact gives.overlay keyed distinct {}

theorem overlays_parse (reason : String → String) : Overlays reason (parse reason) where
  overridden := parse_overlay reason
  repeated := by
    intro text front middle back name first second value other spelled known isFirst isSecond
    have twice : 1 < (front ++ (first, value) :: (middle ++ (second, other) :: back)).countP
        fun member => Json.textOf? member.1 = some name.toList := by
      have one := Json.textOf?_of_hasText isFirst
      have two := Json.textOf?_of_hasText isSecond
      simp only [List.countP_append, List.countP_cons, one, two, decide_true, if_true]
      omega
    refine Json.decode_of_none reason spelled ?_
    rw [ofJson?, Json.fields?_repeated known twice]
    rfl
  malformed := Json.decode_of_unspelled reason ofJson?
  written := by
    intro config
    have spelled : Json.Padded config.toJson config.render.toList := by
      rw [render, String.toList_ofList]
      exact config.writable.compact.unpadded
    have distinct : fieldNames.Nodup := by
      decide
    exact parse_overlay reason spelled config.gives_settings distinct

/-- A document may escape its keys, hold what it likes under other names and
break lines where it likes, but it may not name a field twice. -/
theorem label_overlays :
    let reason : String → String :=
      fun _ => "invalid type: null, expected a string at line 1 column 12"
    let bounded := ({} : Config).withMaxPendingInputs 0
    parse reason "\x7b \"\\u006eame\" : \"lag\",\n\"x\":[ \x7b \x7d ]\x7d\n" =
        .ok (({} : Config).named "lag") ∧
      parse reason "\x7b\"name\":null,\"\\u006eame\":0\x7d" =
        .error (.serialization "invalid type: null, expected a string at line 1 column 12") ∧
      parse reason bounded.render = .ok bounded := by
  intro reason bounded
  have overlays := overlays_parse reason
  have space : Json.Blank [' '] := by
    decide
  have line : Json.Blank ['\n'] := by
    decide
  have zero : Json.IsHex '0' 0 := Or.inl rfl
  have six : Json.IsHex '6' 6 := Or.inl rfl
  have fourteen : Json.IsHex 'e' 14 := Or.inl rfl
  have name := Json.spellsLetters_text "name".toList
  have escaped := Json.SpellsLetters.cons (.unit ⟨zero, zero, six, fourteen⟩ (.char 'n' rfl))
    (Json.spellsLetters_text "ame".toList)
  have label := Json.Padded.intro space (.string (Json.spellsLetters_text "lag".toList))
    Json.blank_nil
  have items := Json.SpellsItems.last (.intro space (.emptyObject space) space)
  have members := Json.SpellsMembers.more (.intro space escaped space label)
    (.last (.intro line (Json.spellsLetters_text ['x']) Json.blank_nil
      (Json.Spells.array items).unpadded))
  have twice := Json.SpellsMembers.more
    (.intro Json.blank_nil name Json.blank_nil Json.Spells.null.unpadded)
    (.last (.intro Json.blank_nil escaped Json.blank_nil (Json.spells_ofNat 0).unpadded))
  have field := Json.hasText_chars "name".toList
  have gives : Gives ([("name", .ofText "lag"), ("x", .array [.object []])].map Json.lettered)
      [.name "lag"] :=
    .setting field (.name (Json.hasText_chars _))
      (.foreign (Json.hasText_chars "x".toList) (by decide) _ .nil)
  refine ⟨?_, ?_, overlays.written bounded⟩
  · exact overlays.overridden (.intro Json.blank_nil (.object members) line) gives (by decide)
  · exact overlays.repeated [] [] [] (Json.Spells.object twice).unpadded List.mem_cons_self
      field field

end Config
end ReactiveGraph
