import Mathlib
import StrategyHost.Proofs.Config.Reconnect
import StrategyHost.Proofs.Json.Members
import StrategyHost.Text.Utf8

/-!
# Which configurations are accepted

What the members of a configuration give, record by record, said without the functions that read
them. A document is accepted exactly if its members describe a configuration whose queue has room
and whose delays are in order, with what stands for absent members put in one by one.
-/

namespace StrategyHost.Config

open StrategyHost.Json (Alike Gives IsNatural IsObject IsText Layout Once OrNull Record Value named)
open StrategyHost.Journal (Entry)

/-- What the members of a module record say. -/
structure Module.Describes (members : List (String × Value)) (part : Module) : Prop where
  once : Once layout.names members
  name : Gives members "module_name" (OrNull IsText) (some none) part.name?
  logPath : Gives members "log_path" (OrNull IsText) (some none) part.logPath?

/-- What the members of a bus record say. -/
structure BusSettings.Describes (members : List (String × Value)) (settings : BusSettings) :
    Prop where
  once : Once layout.names members
  url : Gives members "url" IsText (some "redis://127.0.0.1:6379") settings.url
  channelPrefix : Gives members "md_channel_prefix" IsText (some "") settings.channelPrefix

/-- What the members of a reconnect record say. -/
structure Reconnect.Describes (members : List (String × Value)) (reconnect : Reconnect) :
    Prop where
  once : Once layout.names members
  initial : Gives members "initial_ms" (IsNatural UInt64.size) (some 100) reconnect.initial
  longest : Gives members "max_ms" (IsNatural UInt64.size) (some 30000) reconnect.longest
  attempts : Gives members "max_retries" (IsNatural UInt32.size) (some 10) reconnect.attempts

/-- What the members of a configuration say. Only the contract file has to be there. -/
structure Describes (members : List (String × Value)) (config : Config) : Prop where
  once : Once layout.names members
  module : Gives members "module" (OrNull (IsObject Module.Describes)) (some none) config.module?
  strategyId : Gives members "strategy_id" IsText (some "") config.strategyId
  contractsFile : Gives members "contracts_file" IsText none config.contractsFile
  bus : Gives members "bus" (IsObject BusSettings.Describes) (some .usual) config.bus
  queueSize : Gives members "outbound_queue_size" (IsNatural UInt64.size) (some 1024)
    config.queueSize
  reconnect : Gives members "reconnect" (IsObject Reconnect.Describes) (some .usual)
    config.reconnect
  core : Gives members "cpu_affinity" (OrNull (IsNatural UInt64.size)) (some none) config.core?

/-- The record of an object in which no known name is repeated. -/
theorem exists_holds {names : List String} {members : List (String × Value)}
    (once : Once names members) : ∃ record : Record, record.Holds names members :=
  ⟨⟨members.filter fun member => names.contains member.1⟩, once, rfl⟩

section

variable {value : Value} (noArray : ∀ items, value ≠ .array items)

include noArray

/-- A module record is read if its members describe it. -/
theorem Module.ofJson?_eq_some_iff {part : Module} :
    ofJson? value = some part ↔ IsObject Describes value part := by
  simp only [ofJson?, bind, pure, Option.bind_eq_some_iff, Option.some.injEq,
    Record.ofValue?_eq_some_iff noArray]
  constructor
  · rintro ⟨record, ⟨members, rfl, holds⟩, name?, name, logPath?, logPath, rfl⟩
    exact .members members {
      once := holds.once
      name := (holds.optional_text (by decide)).mp name
      logPath := (holds.optional_text (by decide)).mp logPath }
  · rintro ⟨members, once, name, logPath⟩
    obtain ⟨record, holds⟩ := exists_holds once
    refine ⟨record, ⟨members, rfl, holds⟩, part.name?, ?_, part.logPath?, ?_, rfl⟩
    · exact (holds.optional_text (by decide)).mpr name
    · exact (holds.optional_text (by decide)).mpr logPath

/-- A bus record is read if its members describe it. -/
theorem BusSettings.ofJson?_eq_some_iff {settings : BusSettings} :
    ofJson? value = some settings ↔ IsObject Describes value settings := by
  simp only [ofJson?, bind, pure, Option.bind_eq_some_iff, Option.some.injEq,
    Record.ofValue?_eq_some_iff noArray]
  constructor
  · rintro ⟨record, ⟨members, rfl, holds⟩, url, givenUrl, channelPrefix, givenPrefix, rfl⟩
    exact .members members {
      once := holds.once
      url := (holds.defaulted_text (by decide)).mp givenUrl
      channelPrefix := (holds.defaulted_text (by decide)).mp givenPrefix }
  · rintro ⟨members, once, url, channelPrefix⟩
    obtain ⟨record, holds⟩ := exists_holds once
    refine ⟨record, ⟨members, rfl, holds⟩, settings.url, ?_, settings.channelPrefix, ?_, rfl⟩
    · exact (holds.defaulted_text (by decide)).mpr url
    · exact (holds.defaulted_text (by decide)).mpr channelPrefix

/-- A reconnect record is read if its members describe it. -/
theorem Reconnect.ofJson?_eq_some_iff {reconnect : Reconnect} :
    ofJson? value = some reconnect ↔ IsObject Describes value reconnect := by
  simp only [ofJson?, bind, pure, Option.bind_eq_some_iff, Option.some.injEq,
    Record.ofValue?_eq_some_iff noArray]
  constructor
  · rintro ⟨record, ⟨members, rfl, holds⟩, initial, first, longest, second, attempts, third, rfl⟩
    exact .members members {
      once := holds.once
      initial := (holds.defaulted_natural (by decide)).mp first
      longest := (holds.defaulted_natural (by decide)).mp second
      attempts := (holds.defaulted_natural (by decide)).mp third }
  · rintro ⟨members, once, initial, longest, attempts⟩
    obtain ⟨record, holds⟩ := exists_holds once
    refine ⟨record, ⟨members, rfl, holds⟩, reconnect.initial, ?_, reconnect.longest, ?_,
      reconnect.attempts, ?_, rfl⟩
    · exact (holds.defaulted_natural (by decide)).mpr initial
    · exact (holds.defaulted_natural (by decide)).mpr longest
    · exact (holds.defaulted_natural (by decide)).mpr attempts

end

/-- Whether none of the members that are records of their own is an array. -/
def HasNoArrays (raw : List (Option String × Value)) : Prop :=
  ∀ name ∈ ["module", "bus", "reconnect"], ∀ items, (some name, .array items) ∉ raw

/-- Inner records are read from members of the object only, and these are no arrays. -/
theorem HasNoArrays.ne_array {members : List (String × Value)}
    (noArrays : HasNoArrays (named members)) {name : String}
    (isInner : name ∈ ["module", "bus", "reconnect"]) {value : Value}
    (member : (name, value) ∈ members) (items : List Value) : value ≠ .array items := by
  rintro rfl
  exact noArrays name isInner items (Json.mem_named.mpr member)

section

variable {record : Record} {members : List (String × Value)}
  (noArrays : HasNoArrays (named members)) (holds : record.Holds layout.names members)

include noArrays holds

theorem module_eq_some_iff {part? : Option Module} :
    record.optional "module" Module.ofJson? = some part? ↔
      Gives members "module" (OrNull (IsObject Module.Describes)) (some none) part? :=
  holds.optional_eq_some_iff (by decide) fun _ _ member =>
    Module.ofJson?_eq_some_iff (noArrays.ne_array (by decide) member)

theorem bus_eq_some_iff {settings : BusSettings} :
    record.defaulted "bus" .usual BusSettings.ofJson? = some settings ↔
      Gives members "bus" (IsObject BusSettings.Describes) (some .usual) settings :=
  holds.defaulted_eq_some_iff (by decide) fun _ _ member =>
    BusSettings.ofJson?_eq_some_iff (noArrays.ne_array (by decide) member)

theorem reconnect_eq_some_iff {reconnect : Reconnect} :
    record.defaulted "reconnect" .usual Reconnect.ofJson? = some reconnect ↔
      Gives members "reconnect" (IsObject Reconnect.Describes) (some .usual) reconnect :=
  holds.defaulted_eq_some_iff (by decide) fun _ _ member =>
    Reconnect.ofJson?_eq_some_iff (noArrays.ne_array (by decide) member)

end

/-- A configuration is read from an object if its members describe it. -/
theorem ofJson?_eq_some_iff {raw : List (Option String × Value)} (noArrays : HasNoArrays raw)
    {config : Config} :
    ofJson? (.object raw) = some config ↔
      ∃ members, raw = named members ∧ Describes members config := by
  simp only [ofJson?, bind, pure, Option.bind_eq_some_iff, Option.some.injEq, Record.ofValue?,
    Record.ofMembers?_eq_some_iff]
  constructor
  · rintro ⟨record, ⟨members, rfl, holds⟩, part?, first, strategyId, second, contractsFile, third,
      bus, fourth, queueSize, fifth, reconnect, sixth, core?, seventh, rfl⟩
    exact ⟨members, rfl, {
      once := holds.once
      module := (module_eq_some_iff noArrays holds).mp first
      strategyId := (holds.defaulted_text (by decide)).mp second
      contractsFile := (holds.required_text (by decide)).mp third
      bus := (bus_eq_some_iff noArrays holds).mp fourth
      queueSize := (holds.defaulted_natural (by decide)).mp fifth
      reconnect := (reconnect_eq_some_iff noArrays holds).mp sixth
      core := (holds.optional_natural (by decide)).mp seventh }⟩
  · rintro ⟨members, rfl, described⟩
    obtain ⟨record, holds⟩ := exists_holds described.once
    refine ⟨record, ⟨members, rfl, holds⟩, config.module?, ?_, config.strategyId, ?_,
      config.contractsFile, ?_, config.bus, ?_, config.queueSize, ?_, config.reconnect, ?_,
      config.core?, ?_, rfl⟩
    · exact (module_eq_some_iff noArrays holds).mpr described.module
    · exact (holds.defaulted_text (by decide)).mpr described.strategyId
    · exact (holds.required_text (by decide)).mpr described.contractsFile
    · exact (bus_eq_some_iff noArrays holds).mpr described.bus
    · exact (holds.defaulted_natural (by decide)).mpr described.queueSize
    · exact (reconnect_eq_some_iff noArrays holds).mpr described.reconnect
    · exact (holds.optional_natural (by decide)).mpr described.core

/-- The members that are records of their own, and what these know. -/
def innerLayouts : List (String × Layout) :=
  [("module", Module.layout), ("bus", BusSettings.layout), ("reconnect", Reconnect.layout)]

section

variable {members other : List (String × Value)}

theorem Module.Describes.of_alike {part : Module} (alike : Alike layout.names members other)
    (described : Describes members part) : Describes other part where
  once := alike.once described.once
  name := alike.gives (by decide) described.name
  logPath := alike.gives (by decide) described.logPath

theorem BusSettings.Describes.of_alike {settings : BusSettings}
    (alike : Alike layout.names members other) (described : Describes members settings) :
    Describes other settings where
  once := alike.once described.once
  url := alike.gives (by decide) described.url
  channelPrefix := alike.gives (by decide) described.channelPrefix

theorem Reconnect.Describes.of_alike {reconnect : Reconnect}
    (alike : Alike layout.names members other) (described : Describes members reconnect) :
    Describes other reconnect where
  once := alike.once described.once
  initial := alike.gives (by decide) described.initial
  longest := alike.gives (by decide) described.longest
  attempts := alike.gives (by decide) described.attempts

theorem Describes.of_alike {config : Config} (alike : Alike layout.names members other)
    (described : Describes members config) : Describes other config where
  once := alike.once described.once
  module := alike.gives (by decide) described.module
  strategyId := alike.gives (by decide) described.strategyId
  contractsFile := alike.gives (by decide) described.contractsFile
  bus := alike.gives (by decide) described.bus
  queueSize := alike.gives (by decide) described.queueSize
  reconnect := alike.gives (by decide) described.reconnect
  core := alike.gives (by decide) described.core

end

/-- Whether two members are the same, or are inner records that are alike. -/
inductive SameMember : String × Value -> String × Value -> Prop where
  | same (member : String × Value) : SameMember member member
  | inner {name : String} {layout : Layout} {members other : List (String × Value)}
      (isInner : (name, layout) ∈ innerLayouts) (alike : Alike layout.names members other) :
      SameMember (name, .object (named members)) (name, .object (named other))

/-- Whether two objects are the same to whoever reads a configuration: apart from members that are
not known, in the object and in its inner records, one is the other in some order. -/
def SameSettings (members other : List (String × Value)) : Prop :=
  ∃ between, Alike layout.names members between ∧ List.Forall₂ SameMember between other

theorem SameMember.symm {member other : String × Value} (same : SameMember member other) :
    SameMember other member := by
  cases same with
  | same => exact .same member
  | inner isInner alike => exact .inner isInner alike.symm

theorem same_symm {members other : List (String × Value)}
    (same : List.Forall₂ SameMember members other) : List.Forall₂ SameMember other members :=
  (List.Forall₂.imp (fun _ _ => SameMember.symm) same).flip

section

variable {members other : List (String × Value)} (same : List.Forall₂ SameMember members other)

include same

theorem names_of_same : members.map Prod.fst = other.map Prod.fst := by
  induction same with
  | nil => rfl
  | cons first _ inductionHypothesis =>
    rw [List.map_cons, List.map_cons, inductionHypothesis]
    cases first <;> rfl

theorem exists_of_same {name : String} {value : Value} (member : (name, value) ∈ members) :
    ∃ instead, (name, instead) ∈ other ∧ SameMember (name, value) (name, instead) := by
  induction same with
  | nil => simp at member
  | @cons first second _ _ alike _ inductionHypothesis =>
    rcases List.mem_cons.mp member with rfl | later
    · have name_eq : second.1 = name := by cases alike <;> rfl
      obtain ⟨_, instead⟩ := second
      obtain rfl := name_eq
      exact ⟨instead, List.mem_cons_self, alike⟩
    · obtain ⟨instead, there, alike⟩ := inductionHypothesis later
      exact ⟨instead, List.mem_cons_of_mem _ there, alike⟩

/-- What a member gives is the same, if it makes no difference which of two alike objects stands
there. -/
theorem gives_of_same {α : Type} {name : String} {reads : Value -> α -> Prop} {absent? : Option α}
    {result : α} (gives : Gives members name reads absent? result)
    (keeps : ∀ layout, (name, layout) ∈ innerLayouts -> ∀ inner instead,
      Alike layout.names inner instead -> reads (.object (named inner)) result ->
        reads (.object (named instead)) result) :
    Gives other name reads absent? result := by
  refine gives.congr (fun value member read => ?_) (by rw [names_of_same same]; exact id)
  obtain ⟨instead, there, alike⟩ := exists_of_same same member
  refine ⟨instead, there, ?_⟩
  cases alike with
  | same => exact read
  | inner isInner alike => exact keeps _ isInner _ _ alike read

/-- What an inner record gives is the same, if it is described alike by members that are alike. -/
theorem gives_record_of_same {α : Type} {name : String} {layout : Layout}
    {describes : List (String × Value) -> α -> Prop} {absent? : Option α} {result : α}
    (gives : Gives members name (IsObject describes) absent? result)
    (only : ∀ other, (name, other) ∈ innerLayouts -> other = layout)
    (of_alike : ∀ {inner instead}, Alike layout.names inner instead ->
      describes inner result -> describes instead result) :
    Gives other name (IsObject describes) absent? result := by
  refine gives_of_same same gives fun layout' isInner inner instead alike isObject => ?_
  obtain rfl := only layout' isInner
  exact isObject.imp (of_alike alike)

theorem Describes.of_same {config : Config} (described : Describes members config) :
    Describes other config where
  once := by
    unfold Once
    rw [← names_of_same same]
    exact described.once
  module := by
    refine gives_of_same same described.module ?_
    rintro layout isInner inner instead alike read
    obtain rfl : layout = Module.layout := by simpa [innerLayouts] using isInner
    exact read.imp (by simp) (by simp) fun _ isObject => isObject.imp (.of_alike alike)
  strategyId := gives_of_same same described.strategyId (by simp [innerLayouts])
  contractsFile := gives_of_same same described.contractsFile (by simp [innerLayouts])
  bus := gives_record_of_same same described.bus (by simp [innerLayouts]) .of_alike
  queueSize := gives_of_same same described.queueSize (by simp [innerLayouts])
  reconnect := gives_record_of_same same described.reconnect (by simp [innerLayouts]) .of_alike
  core := gives_of_same same described.core (by simp [innerLayouts])

end

namespace SameSettings

variable {members other : List (String × Value)}

/-- The same settings are described. -/
theorem describes_iff (same : SameSettings members other) {config : Config} :
    Describes members config ↔ Describes other config := by
  obtain ⟨between, alike, same⟩ := same
  exact ⟨fun described => (described.of_alike alike).of_same same,
    fun described => (described.of_same (same_symm same)).of_alike alike.symm⟩

/-- Where there was no array there is none. -/
theorem hasNoArrays (same : SameSettings members other) (noArrays : HasNoArrays (named members)) :
    HasNoArrays (named other) := by
  obtain ⟨between, alike, same⟩ := same
  rintro name isInner items there
  obtain ⟨instead, member, sameMember⟩ :=
    exists_of_same (same_symm same) (Json.mem_named.mp there)
  have known : ∀ inner ∈ ["module", "bus", "reconnect"], inner ∈ layout.names := by decide
  cases sameMember with
  | same =>
    exact noArrays name isInner items (Json.mem_named.mpr (
      (alike.mem_iff (known name isInner) _).mpr member))

end SameSettings

/-- Why an object is refused that is to be a configuration. -/
inductive Refuses (raw : List (Option String × Value)) : Fault -> Prop where
  | malformed (undescribed : ∀ members config, raw = named members -> ¬Describes members config) :
      Refuses raw .malformed
  | faulty {members : List (String × Value)} {config : Config} {fault : Fault}
      (same : raw = named members) (described : Describes members config)
      (faulty : Faulty config fault) : Refuses raw fault

/-- What can be relied on about a document that is an object with these members. -/
structure Acceptance (document : String) (raw : List (Option String × Value)) : Prop where
  /-- Every member is as it is given, or else as it usually is. -/
  accepted : ∀ config, (parse document).result = .ok config ↔
    (∃ members, raw = named members ∧ Describes members config) ∧ Usable config
  refused : ∀ fault, (parse document).result = .error fault ↔ Refuses raw fault
  /-- Neither the order of members nor what is not known makes a difference. -/
  sameSettings : ∀ members other document', raw = named members -> SameSettings members other ->
    Json.parse? document' = some (.object (named other)) -> parse document' = parse document
  /-- An identifier of more bytes than fit on the wire is warned of. -/
  truncation : ∀ config, (parse document).result = .ok config -> (parse document).entries =
    if 16 < (Text.Utf8.encode config.strategyId).length then
      [.identifierTruncated config.strategyId]
    else []
  silence : ∀ fault, (parse document).result = .error fault -> (parse document).entries = []

/-- A document that is an object is read from its members, and then checked. -/
theorem parse_of_object {document : String} {raw : List (Option String × Value)}
    (parsed : Json.parse? document = some (.object raw)) :
    parse document =
      match ofJson? (.object raw) with
      | none => ⟨.error .malformed, []⟩
      | some config => config.check := by
  rw [parse, parsed]
  rfl

/-- An object is accepted as a configuration exactly if its members describe a usable one. -/
theorem acceptance_of_object {document : String} {raw : List (Option String × Value)}
    (parsed : Json.parse? document = some (.object raw)) (noArrays : HasNoArrays raw) :
    Acceptance document raw := by
  have described (config : Config) : ofJson? (.object raw) = some config ↔ _ :=
    ofJson?_eq_some_iff noArrays
  constructor
  · intro config
    rw [← described, parse_of_object parsed]
    cases read : ofJson? (.object raw) with
    | none => simp
    | some found =>
      rw [result_check_eq_ok_iff, Option.some.injEq]
      exact and_congr_right fun same => by rw [same]
  · intro fault
    rw [parse_of_object parsed]
    cases read : ofJson? (.object raw) with
    | none =>
      have undescribed (members : List (String × Value)) (config : Config)
          (same : raw = named members) : ¬Describes members config := fun describes => by
        simp [read] at described
        exact described config members same describes
      constructor
      · intro fails
        obtain rfl := Except.error.inj fails
        exact .malformed undescribed
      · rintro (_ | ⟨same, describes, _⟩)
        · rfl
        · exact absurd describes (undescribed _ _ same)
    | some config =>
      obtain ⟨members, same, describes⟩ := (described config).mp read
      rw [result_check_eq_error_iff]
      constructor
      · exact .faulty same describes
      · rintro (undescribed | ⟨same, describes, faulty⟩)
        · exact absurd describes (undescribed members config same)
        · have found := (described _).mpr ⟨_, same, describes⟩
          rw [read, Option.some.injEq] at found
          rwa [found]
  · rintro members other document' rfl same parsed'
    have reads : ofJson? (.object (named other)) = ofJson? (.object (named members)) := by
      refine Option.ext fun config => ?_
      rw [described, ofJson?_eq_some_iff (same.hasNoArrays noArrays)]
      constructor
      · rintro ⟨_, isNamed, describes⟩
        obtain rfl := Json.named_injective isNamed
        exact ⟨members, rfl, same.describes_iff.mpr describes⟩
      · rintro ⟨_, isNamed, describes⟩
        obtain rfl := Json.named_injective isNamed
        exact ⟨other, rfl, same.describes_iff.mp describes⟩
    rw [parse_of_object parsed, parse_of_object parsed', reads]
  · intro config accepted
    rw [parse_of_object parsed] at accepted ⊢
    cases read : ofJson? (.object raw) with
    | none => simp [read] at accepted
    | some found =>
      simp only [read] at accepted ⊢
      obtain ⟨rfl, _⟩ := result_check_eq_ok_iff.mp accepted
      exact entries_check_of_ok accepted
  · intro fault refused
    rw [parse_of_object parsed] at refused ⊢
    cases read : ofJson? (.object raw) with
    | none => rfl
    | some found =>
      simp only [read] at refused ⊢
      exact entries_check_of_error refused

/-- Members that give the first delay alone, and a long identifier. -/
def delayMembers (digits : List Nat) : List (String × Value) :=
  [("reconnect", .object (named [("initial_ms", .number ⟨false, digits, [], none⟩)])),
    ("strategy_id", .text (some "ééééééééé")), ("contracts_file", .text (some "c"))]

/-- What a first delay describes: the greatest delay is the usual one. -/
theorem describes_initial {digits : List Nat} (below : Binary64.ofDigits digits < UInt64.size) :
    Describes (delayMembers digits)
      ⟨none, "ééééééééé", "c", .usual, 1024, ⟨Binary64.ofDigits digits, 30000, 10⟩, none⟩
    where
  once := by
    change ∀ name ∈ layout.names, ["reconnect", "strategy_id", "contracts_file"].count name <= 1
    decide
  module := .absent (by simp [delayMembers]) rfl
  strategyId := .given _ (by simp [delayMembers]) (.content _)
  contractsFile := .given _ (by simp [delayMembers]) (.content _)
  bus := .absent (by simp [delayMembers]) rfl
  queueSize := .absent (by simp [delayMembers]) rfl
  reconnect := .given _ List.mem_cons_self (.members _ {
    once := by
      change ∀ name ∈ Reconnect.layout.names, ["initial_ms"].count name <= 1
      decide
    initial := .given _ List.mem_cons_self (.digits digits below)
    longest := .absent (by simp) rfl
    attempts := .absent (by simp) rfl })
  core := .absent (by simp [delayMembers]) rfl

set_option maxRecDepth 2000 in
/-- Forty seconds to begin with are refused because at most thirty are waited when nothing else is
said. Thirty are accepted, and the identifier is warned of. -/
theorem acceptance_of_object_initial :
    let document (initial : String) := "\x7b\"reconnect\":\x7b\"initial_ms\":" ++ initial ++
      "\x7d,\"strategy_id\":\"ééééééééé\",\"contracts_file\":\"c\"\x7d"
    (parse (document "40000")).result = .error (.delays 40000 30000) ∧
      (parse (document "30000")).result = .ok ⟨none, "ééééééééé", "c", .usual, 1024,
        ⟨30000, 30000, 10⟩, none⟩ ∧
      (parse (document "30000")).entries = [.identifierTruncated "ééééééééé"] := by
  intro document
  have forty : Json.parse? (document "40000") =
      some (.object (named (delayMembers [4, 0, 0, 0, 0]))) := by
    cbv
  have thirty : Json.parse? (document "30000") =
      some (.object (named (delayMembers [3, 0, 0, 0, 0]))) := by
    cbv
  have noArrays (digits : List Nat) : HasNoArrays (named (delayMembers digits)) := by
    simp [HasNoArrays, named, delayMembers]
  have accepted : (parse (document "30000")).result = .ok _ :=
    ((acceptance_of_object thirty (noArrays _)).accepted _).mpr
      ⟨⟨_, rfl, describes_initial (by decide)⟩, by decide, by decide, by decide⟩
  refine ⟨?_, accepted, ?_⟩
  · refine ((acceptance_of_object forty (noArrays _)).refused _).mpr ?_
    exact .faulty rfl (describes_initial (by decide)) (.delays (by decide) (.inr (by decide)))
  · exact ((acceptance_of_object thirty (noArrays _)).truncation _ accepted).trans
      (if_pos (by decide +kernel))

end StrategyHost.Config
