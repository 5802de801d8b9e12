/-
**What the opening packet conveys.** The settings of a configuration travel to the broker in the
packet that opens a session.

* `ConnectPacket.Conveys` — a packet has the client id, the clean-session flag, the user name and the
  password of a configuration.
* `ConnectOptions.packet_keepAlive_iff` — a keep-alive arrives as its low sixteen bits.
* `Options.packet_exact_iff` — **the packet has everything that is configured, and the configured
  keep-alive exactly if that fits into sixteen bits**; `keepAlive_cut` — one that does not fit.
-/

import MessageBus.Proofs.Mqtt.Credentials

namespace MessageBus

theorem Duration.wholeSeconds_seconds (n : Nat) : (Duration.seconds n).wholeSeconds = n :=
  Nat.mul_div_cancel n (by decide)

namespace Mqtt

open MessageBus.Options

variable {freshId : String} {config : BusConfig} {options : Options} {files : FileReader}
  {connect : ConnectOptions}

/-- A packet has the client id, the clean-session flag, the user name and the password of a
configuration: a user name exactly if one is configured, and without a password the empty one. -/
structure ConnectPacket.Conveys (freshId : String) (config : BusConfig) (packet : ConnectPacket) :
    Prop where
  clientId : (textRule "ClientId" ("cim-" ++ freshId)).Takes config.options packet.clientId
  cleanSession : (flagRule "CleanSession" true).Takes config.options packet.cleanSession
  login : packet.login = (get? config.options "Username").map fun name =>
    (name, (get? config.options "Password").getD "")

/-- **A keep-alive arrives as its low sixteen bits**, and so as it is exactly if it fits. -/
theorem ConnectOptions.packet_keepAlive_iff {seconds : Nat}
    (same : connect.keepAlive = .seconds seconds) :
    connect.packet.keepAlive.toNat = seconds % UInt16.size ∧
      (connect.packet.keepAlive.toNat = seconds ↔ seconds < UInt16.size) := by
  have cut : connect.packet.keepAlive.toNat = seconds % UInt16.size := by
    rw [packet, same, Duration.wholeSeconds_seconds]
    exact UInt16.toNat_ofNat'
  rw [cut]
  exact ⟨rfl, Nat.mod_eq_iff_lt (by decide)⟩

namespace Options

/-- A keep-alive is a number of seconds, at least five and in a word of 64 bits. -/
theorem exists_seconds_of_takes {map : OptionMap} {keepAlive : Duration}
    (takes : keepAliveRule.Takes map keepAlive) :
    ∃ n, keepAlive = .seconds n ∧ 5 ≤ n ∧ n < UInt64.size := by
  cases found : get? map "KeepAlive" with
  | none => exact ⟨60, (keepAliveRule.takes_of_get?_none found).mp takes, by decide, by decide⟩
  | some value =>
    obtain ⟨n, -, least, bounded, same⟩ := (keepAliveRule.takes_of_get?_some found).mp takes
    exact ⟨n, same, least, bounded⟩

/-- Where all configured files can be read, there is a connection. -/
theorem IsSecured.exists_toConnect (secured : IsSecured config options)
    (readable : Readable files config.options) :
    ∃ connect, options.toConnect files = .ok connect := by
  by_cases complete : IsComplete options.tls
  · obtain ⟨connect, made, -⟩ := (secured.usesOrRefuses complete files).used readable
    exact ⟨connect, made⟩
  · exact ⟨_, secured.toConnect_of_incomplete complete files⟩

/-- **The opening packet has everything that is configured, and the configured keep-alive exactly if
that fits into sixteen bits.** A keep-alive is accepted from five seconds on, and up to the end of a
word of 64 bits; what does not fit is cut off. There is a packet for every accepted configuration of
which all files can be read. -/
theorem packet_exact_iff (accepted : ofConfig freshId config = .ok options) :
    ∃ seconds, keepAliveRule.Takes config.options (.seconds seconds) ∧
      5 ≤ seconds ∧ seconds < UInt64.size ∧
      (∀ files, Readable files config.options → ∃ connect, options.toConnect files = .ok connect) ∧
      ∀ files connect, options.toConnect files = .ok connect →
        connect.packet.Conveys freshId config ∧ connect.keepAlive = .seconds seconds ∧
        connect.packet.keepAlive.toNat = seconds % UInt16.size ∧
        (connect.packet.keepAlive.toNat = seconds ↔ seconds < UInt16.size) := by
  have taken := takenFrom_of_ofConfig accepted
  have keepAlive := keepAliveOption_takes_iff.mp taken.keepAlive
  obtain ⟨seconds, same, least, bounded⟩ := exists_seconds_of_takes keepAlive
  refine ⟨seconds, same ▸ keepAlive, least, bounded,
    fun files => (isSecured_of_ofConfig accepted).exists_toConnect, fun files connect made => ?_⟩
  obtain ⟨transport, -, rfl⟩ := toConnect_eq_ok_iff.mp made
  have handed : (options.opening transport).keepAlive = .seconds seconds := same
  refine ⟨⟨textRule_takes_iff.mp taken.clientId, flagRule_takes_iff.mp taken.cleanSession, ?_⟩,
    handed, ConnectOptions.packet_keepAlive_iff handed⟩
  rw [taken.username, taken.password]
  rfl

/-- A configuration with a keep-alive, and a user without a password. -/
def timed (keepAlive : String) : BusConfig :=
  { broker := { protocol := "tcp", host := "h", port := 1883 }
    busType := typeMqtt
    options := [("KeepAlive", keepAlive), ("username", " u "), ("CleanSession", "False")] }

/-- The largest keep-alive that fits arrives as it is, with the user and without a password. -/
theorem packet_exact_iff_largest :
    ∃ options, ofConfig "1" (timed "65535") = .ok options ∧
      ∃ connect, options.toConnect (fun _ => missing) = .ok connect ∧
        connect.packet.keepAlive.toNat = 65535 ∧ connect.packet.cleanSession = false ∧
          connect.packet.clientId = "cim-1" ∧ connect.packet.login = some ("u", "") := by
  have accepted : ∃ options, ofConfig "1" (timed "65535") = .ok options ∧
      options.keepAlive = .seconds 65535 := ⟨_, rfl, rfl⟩
  obtain ⟨options, accepted, configured⟩ := accepted
  obtain ⟨seconds, -, -, -, connected, conveyed⟩ := packet_exact_iff accepted
  have readable : Readable (fun _ => missing) (timed "65535").options := by
    intro key listed path named
    simp only [fileKeys, List.mem_cons, List.not_mem_nil, or_false] at listed
    obtain rfl | rfl | rfl := listed
    all_goals cases named
  obtain ⟨connect, made⟩ := connected _ readable
  obtain ⟨⟨clientId, cleanSession, login⟩, handed, -, kept⟩ := conveyed _ connect made
  refine ⟨options, accepted, connect, made, ?_, ?_, clientId, login⟩
  · obtain ⟨transport, -, rfl⟩ := toConnect_eq_ok_iff.mp made
    obtain rfl : 65535 = seconds :=
      Function.LeftInverse.injective Duration.wholeSeconds_seconds (configured.symm.trans handed)
    exact kept.mpr (by decide)
  · cases flag : connect.packet.cleanSession with
    | false => rfl
    | true => rw [flag] at cleanSession; cases cleanSession

/-- A keep-alive that needs one bit more is accepted, and arrives as none at all. -/
theorem keepAlive_cut :
    ∃ options, ofConfig "1" (timed "65536") = .ok options ∧
      keepAliveRule.Takes (timed "65536").options (.seconds 65536) ∧
      (options.toConnect fun _ => missing).map (·.packet.keepAlive.toNat) = .ok 0 := by
  have accepted : ∃ options, ofConfig "1" (timed "65536") = .ok options ∧
      options.keepAlive = .seconds 65536 ∧
      (options.toConnect fun _ => missing).map (·.packet.keepAlive.toNat) = .ok 0 :=
    ⟨_, rfl, rfl, rfl⟩
  obtain ⟨options, accepted, configured, cut⟩ := accepted
  have takes := keepAliveOption_takes_iff.mp (takenFrom_of_ofConfig accepted).keepAlive
  exact ⟨options, accepted, configured ▸ takes, cut⟩

end Options

end Mqtt

end MessageBus
