import MeshBridge.Mqtt.Bridge
import MeshBridge.Proofs.Mqtt.Topics
/-!
The topics on which commands come in. They are the base, one level that is read as an address, and
`set`, whatever the base is (`device_eq_ok_iff`). The two texts of a device lead to two of them, no
topic is for two devices, and the bridge listens to none of the topics on which it speaks.
-/

set_option autoImplicit false
set_option relaxedAutoImplicit false

namespace MeshBridge

namespace Topic

variable {base topic level : String} {d e : Eui64}

/-! ### Beginnings and ends -/

theorem dropLeading_eq_some_iff {lead text rest : List Char} :
    dropLeading lead text = some rest ↔ text = lead ++ rest := by
  fun_induction dropLeading lead text with
  | case1 text => simp [eq_comm]
  | case2 => simp
  | case3 lead c text ih => simp [ih]
  | case4 c lead d text hne => simp [Ne.symm hne]

theorem dropTrailing_eq_some_iff {trail text rest : List Char} :
    dropTrailing trail text = some rest ↔ text = rest ++ trail := by
  unfold dropTrailing
  rw [Option.map_eq_some_iff]
  constructor
  · rintro ⟨back, hback, rfl⟩
    have htext := congrArg List.reverse (dropLeading_eq_some_iff.1 hback)
    simpa using htext
  · rintro rfl
    exact ⟨rest.reverse, dropLeading_eq_some_iff.2 (by simp), rest.reverse_reverse⟩

/-- Of a base only slashes are missing, and none of them is left at its end. -/
theorem trimmed_append (base : String) :
    (∃ n, base.toList = (trimmed base).toList ++ List.replicate n '/') ∧
      (trimmed base).toList.getLast? ≠ some '/' := by
  have htrimmed : (trimmed base).toList = (base.toList.reverse.dropWhile (· = '/')).reverse :=
    String.toList_ofList
  rw [htrimmed]
  constructor
  · refine ⟨(base.toList.reverse.takeWhile (· = '/')).length, ?_⟩
    have hslashes : base.toList.reverse.takeWhile (· = '/') =
        List.replicate (base.toList.reverse.takeWhile (· = '/')).length '/' := by
      refine List.eq_replicate_iff.2 ⟨rfl, fun c hc ↦ ?_⟩
      simpa using List.all_eq_true.1 List.all_takeWhile c hc
    rw [← List.reverse_replicate, ← hslashes, ← List.reverse_append,
      List.takeWhile_append_dropWhile, List.reverse_reverse]
  · have hlast := List.head?_dropWhile_not (· = '/') base.toList.reverse
    rw [List.getLast?_reverse]
    intro hslash
    rw [hslash] at hlast
    simp at hlast

/-! ### Command topics -/

/-- The topic of commands below a base for what is named by a level. -/
def command (base level : String) : String := below base (level ++ "/set")

theorem toList_command (base level : String) :
    (command base level).toList = base.toList ++ '/' :: (level.toList ++ "/set".toList) := by
  rw [command, toList_below, String.toList_append]

theorem command_inj (base : String) {first second : String} :
    command base first = command base second ↔ first = second := by
  refine ⟨fun hsame ↦ ?_, congrArg _⟩
  have htexts := congrArg String.toList ((below_inj base).1 hsame)
  rw [String.toList_append, String.toList_append] at htexts
  exact String.toList_inj.1 (List.append_cancel_right htexts)

theorem deviceLevel?_eq_some_iff {level : List Char} :
    deviceLevel? base topic = some level ↔
      topic = command base (String.ofList level) ∧ '/' ∉ level := by
  rw [← String.toList_inj, toList_command, String.toList_ofList]
  unfold deviceLevel?
  simp only [Option.bind_eq_bind, Option.bind_eq_some_iff, dropLeading_eq_some_iff,
    dropTrailing_eq_some_iff, List.contains_iff_mem]
  constructor
  · rintro ⟨_, htopic, _, rfl, found, rfl, hfound⟩
    split_ifs at hfound with hslash
    cases hfound
    exact ⟨htopic, hslash⟩
  · rintro ⟨htopic, hslash⟩
    exact ⟨_, htopic, _, rfl, level, rfl, if_neg hslash⟩

/-- The fault of a topic that is none of commands. -/
def noCommand (topic : String) : Fault := .invalidArgument ("not a set topic: " ++ topic)

theorem device_eq_ok_iff :
    device base topic = .ok d ↔
      ∃ level, topic = command base level ∧ '/' ∉ level.toList ∧ Eui64.parse level = .ok d := by
  unfold device
  constructor
  · intro h
    split at h
    · next level hlevel =>
      obtain ⟨htopic, hslash⟩ := deviceLevel?_eq_some_iff.1 hlevel
      exact ⟨String.ofList level, htopic, by rwa [String.toList_ofList], h⟩
    · cases h
  · rintro ⟨level, htopic, hslash, hread⟩
    have hlevel : deviceLevel? base topic = some level.toList :=
      deviceLevel?_eq_some_iff.2 ⟨by rwa [String.ofList_toList], hslash⟩
    rw [hlevel]
    simpa only [String.ofList_toList] using hread

/-- A topic that does not end as command topics do is refused by name. -/
theorem device_of_getLast? {last : Char} (h : topic.toList.getLast? = some last)
    (hlast : last ≠ 't') : device base topic = .error (noCommand topic) := by
  have hnone : deviceLevel? base topic = none := by
    rw [Option.eq_none_iff_forall_ne_some]
    intro level hlevel
    obtain ⟨rfl, -⟩ := deviceLevel?_eq_some_iff.1 hlevel
    rw [command, getLast?_below base _ rfl] at h
    exact hlast (Option.some.inj h).symm
  rw [device, hnone]
  rfl

end Topic

/-! ### Topics of the bridge -/

namespace MqttBridge

variable {ρ σ : Type}

/-- A message that the bridge sends: one that tells of an event, or the one with all devices. -/
def Sends (ρ σ : Type) (b : MqttBridge) (m : MqttMessage) : Prop :=
  (∃ (c : Coordinator ρ σ) (e : Event), b.message? c e = some m) ∨
    ∃ c : Coordinator ρ σ, m = b.devicesMessage c

theorem topic_of_message? {b : MqttBridge} {c : Coordinator ρ σ} {e : Event} {m : MqttMessage}
    (h : b.message? c e = some m) :
    (∃ d, m.topic = Topic.availability b.baseTopic d) ∨
      (∃ d capability, m.topic = Topic.capabilityState b.baseTopic d capability) ∨
        m.topic = Topic.bridgeState b.baseTopic := by
  cases e with
  | deviceJoined d address =>
    cases h
    exact .inl ⟨d, rfl⟩
  | deviceLeft d =>
    cases h
    exact .inl ⟨d, rfl⟩
  | attributeChanged d endpoint cluster attr v =>
    simp only [message?, Option.bind_eq_bind, Option.bind_eq_some_iff] at h
    obtain ⟨capability, -, _, -, _, -, hm⟩ := h
    cases hm
    exact .inr (.inl ⟨d, capability.name, rfl⟩)
  | stackUp panId channel =>
    cases h
    exact .inr (.inr rfl)
  | stackDown reason =>
    cases h
    exact .inr (.inr rfl)
  | commandConfirmed | commandFailed | commandTimeout => cases h

/-- No message that the bridge sends would be a command. -/
theorem Sends.device_eq_error {b : MqttBridge} {m : MqttMessage} (h : Sends ρ σ b m) :
    Topic.device b.baseTopic m.topic = .error (Topic.noCommand m.topic) := by
  rcases h with ⟨c, e, hm⟩ | ⟨c, rfl⟩
  · rcases topic_of_message? hm with ⟨d, htopic⟩ | ⟨d, capability, htopic⟩ | htopic
    · exact Topic.device_of_getLast? (htopic ▸ Topic.getLast?_availability _ d) (by decide)
    · exact Topic.device_of_getLast? (htopic ▸ Topic.getLast?_capabilityState _ d capability)
        (by decide)
    · exact Topic.device_of_getLast? (htopic ▸ Topic.getLast?_bridgeState _) (by decide)
  · exact Topic.device_of_getLast? (Topic.getLast?_bridgeDevices _) (by decide)

/-- What a bridge takes for a command, and what it does not. -/
structure Commanding (ρ σ : Type) (b : MqttBridge) : Prop where
  takes : ∀ topic d, Topic.device b.baseTopic topic = .ok d ↔
    ∃ level, topic = b.baseTopic ++ "/" ++ (level ++ "/set") ∧ '/' ∉ level.toList ∧
      Eui64.parse level = .ok d
  takes_hex : ∀ d : Eui64, Topic.device b.baseTopic (Topic.command b.baseTopic d.hex) = .ok d
  takes_text : ∀ d : Eui64,
    Topic.device b.baseTopic (Topic.command b.baseTopic (toString d)) = .ok d
  /-- Whatever texts of two devices stand in one topic, the devices are the same. -/
  apart : ∀ {level other : String} {d e : Eui64}, Eui64.parse level = .ok d →
    Eui64.parse other = .ok e →
      Topic.command b.baseTopic level = Topic.command b.baseTopic other → d = e
  /-- What the bridge sends is refused when it comes back, by whatever payload. -/
  refuses_sent : ∀ m, Sends ρ σ b m → ∀ (c : Coordinator ρ σ) payload,
    b.plan c m.topic payload = .error (.invalidArgument ("not a set topic: " ++ m.topic))

/-- Below every base, which is any text without the slashes at its end, a bridge takes for commands
exactly the topics that are made of the base, a text of a device on a level of its own, and
`set`. -/
theorem commanding (ρ σ : Type) :
    (∀ config : MqttConfig, (∃ n, config.baseTopic.toList =
        (new config).baseTopic.toList ++ List.replicate n '/') ∧
      (new config).baseTopic.toList.getLast? ≠ some '/') ∧
    ∀ b : MqttBridge, Commanding ρ σ b := by
  refine ⟨fun config ↦ Topic.trimmed_append config.baseTopic, fun b ↦ ?_⟩
  have htakes {level : String} {d : Eui64} (hread : Eui64.parse level = .ok d) :
      Topic.device b.baseTopic (Topic.command b.baseTopic level) = .ok d :=
    Topic.device_eq_ok_iff.2 ⟨level, rfl, Eui64.slash_notMem_of_parse hread, hread⟩
  constructor
  · exact fun topic d ↦ Topic.device_eq_ok_iff
  · exact fun d ↦ htakes d.parse_hex
  · exact fun d ↦ htakes d.parse_toString
  · intro level other d e hlevel hother hsame
    obtain rfl := (Topic.command_inj b.baseTopic).1 hsame
    rw [hlevel] at hother
    exact Except.ok.inj hother
  · intro m hm c payload
    rw [plan, hm.device_eq_error]
    rfl

/-- The slash before `set` does not stand for the one behind the base as well. -/
example :
    Topic.device "home" "home/set" = .error (.invalidArgument "not a set topic: home/set") := by
  decide

end MqttBridge

end MeshBridge
