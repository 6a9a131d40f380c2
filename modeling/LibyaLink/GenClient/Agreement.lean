import LibyaLink.GenClient.Config
import LibyaLink.Go.Net

/-! The two configurations `gen-client` prints, read as one connection each: the native
client splits `server` with `net.SplitHostPort`, so they agree exactly when the server holds
no `:`, `[` or `]`, which rules out every IPv6 literal. -/

namespace LibyaLink.GenClient

open LibyaLink.Go

/-- The connection a client configuration describes. -/
structure Connection where
  host : String
  port : String
  password : String
  insecure : Bool
  sni : String
  obfsPassword : Option String
  upMbps : Int
  downMbps : Int
deriving DecidableEq, Repr

/-- The Mbps number a Hysteria 2 bandwidth string of the form "10 mbps" denotes. -/
def bandwidthMbps (s : String) : Option Nat :=
  let digits := s.data.takeWhile decimalDigits.contains
  if digits ≠ [] ∧ s.data.drop digits.length = " mbps".data then some (digitsValue digits) else none

def SingBoxOutbound.connection (outbound : SingBoxOutbound) : Connection :=
  ⟨outbound.server, toString outbound.serverPort, outbound.password, outbound.tls.insecure,
    outbound.tls.serverName, outbound.obfs.map (·.password), outbound.upMbps, outbound.downMbps⟩

/-- The connection a native client reads from its configuration, if it can read one. -/
def Hysteria2ClientConfig.connection? (config : Hysteria2ClientConfig) : Option Connection :=
  match splitHostPort config.server, config.bandwidth with
  | .ok (host, port), some bandwidth =>
    match bandwidthMbps bandwidth.up, bandwidthMbps bandwidth.down with
    | some up, some down =>
      some ⟨host, port, config.auth, config.tls.insecure, config.tls.sni,
        config.obfs.map (·.salamanderPassword), up, down⟩
    | _, _ => none
  | _, _ => none

/-- Both presets scan to the Mbps numbers their strings denote. -/
theorem parseBandwidthToMbps_presets {key : String} {preset : BandwidthPreset}
    (found : bandwidthPresets.lookup key = some preset) :
    bandwidthMbps preset.up = some (parseBandwidthToMbps preset).1.toNat ∧
      bandwidthMbps preset.down = some (parseBandwidthToMbps preset).2.toNat ∧
      0 ≤ (parseBandwidthToMbps preset).1 ∧ 0 ≤ (parseBandwidthToMbps preset).2 := by
  simp only [bandwidthPresets, List.lookup] at found
  split at found
  · cases found; decide
  · split at found
    · cases found; decide
    · cases found

/-- The text `%d` prints for an `int` holds none of the host:port delimiters. -/
theorem toString_int_noDelimiters (port : Int) : NoDelimiters (toString port).data := by
  have plain : ∀ c ∈ '-' :: decimalDigits, c ≠ ':' ∧ c ≠ '[' ∧ c ≠ ']' := by decide
  have sign (c) (m : c ∈ (toString port).data) : c ∈ '-' :: decimalDigits :=
    (toString_int_chars port c m).elim (· ▸ List.mem_cons_self _ _) (List.mem_cons_of_mem _)
  exact ⟨fun m => (plain _ (sign _ m)).1 rfl, fun m => (plain _ (sign _ m)).2.1 rfl,
    fun m => (plain _ (sign _ m)).2.2 rfl⟩

theorem runGenClient_ok (flags : Flags) {preset : BandwidthPreset}
    (found : bandwidthPresets.lookup flags.preset = some preset) :
    runGenClient flags = .ok (singBoxConfig (hy2Outbound flags preset), nativeConfig flags preset) := by
  simp [runGenClient, found]

theorem nativeConfig_server (flags : Flags) (preset : BandwidthPreset) :
    (nativeConfig flags preset).server.data = flags.server.data ++ ':' :: (toString flags.port).data := by
  unfold nativeConfig
  split_ifs <;> simp [String.data_append]

@[simp] theorem nativeConfig_auth (flags : Flags) (preset : BandwidthPreset) :
    (nativeConfig flags preset).auth = flags.auth := by
  unfold nativeConfig; split_ifs <;> rfl

@[simp] theorem nativeConfig_tls (flags : Flags) (preset : BandwidthPreset) :
    (nativeConfig flags preset).tls = ⟨clientSNI flags, flags.insecure⟩ := by
  unfold nativeConfig; split_ifs <;> rfl

@[simp] theorem nativeConfig_bandwidth (flags : Flags) (preset : BandwidthPreset) :
    (nativeConfig flags preset).bandwidth = some ⟨preset.up, preset.down⟩ := by
  unfold nativeConfig; split_ifs <;> rfl

@[simp] theorem nativeConfig_obfs (flags : Flags) (preset : BandwidthPreset) :
    (nativeConfig flags preset).obfs =
      if flags.obfs ≠ "" then some ⟨"salamander", flags.obfs⟩ else none := by
  unfold nativeConfig; split_ifs <;> rfl

/-- A native configuration that reads as a connection splits its server into that
connection's host and port. -/
theorem connection?_server {config : Hysteria2ClientConfig} {connection : Connection}
    (read : config.connection? = some connection) :
    splitHostPort config.server = .ok (connection.host, connection.port) := by
  unfold Hysteria2ClientConfig.connection? at read
  split at read
  · rename_i host port bandwidth split found
    split at read
    · cases read
      exact split
    · cases read
  · cases read

/-- For a known preset the native configuration reads back as exactly the connection of the
sing-box outbound if and only if the server holds no host:port delimiter. -/
theorem nativeConfig_connection_iff (flags : Flags) {preset : BandwidthPreset}
    (found : bandwidthPresets.lookup flags.preset = some preset) :
    (nativeConfig flags preset).connection? = some (hy2Outbound flags preset).connection ↔
      NoDelimiters flags.server.data := by
  have port := toString_int_noDelimiters flags.port
  have server : (nativeConfig flags preset).server =
      ⟨flags.server.data ++ ':' :: (toString flags.port).data⟩ :=
    String.ext (nativeConfig_server flags preset)
  refine ⟨fun read => ?_, fun plain => ?_⟩
  · have split := connection?_server read
    rw [server] at split
    exact noDelimiters_of_splitHostPort split
  · obtain ⟨up, down, upSign, downSign⟩ := parseBandwidthToMbps_presets found
    have split := splitHostPort_join _ _ plain port
    simp only [Hysteria2ClientConfig.connection?, server, split, nativeConfig_bandwidth, up, down]
    simp only [SingBoxOutbound.connection, hy2Outbound, Int.toNat_of_nonneg upSign,
      Int.toNat_of_nonneg downSign, Option.some.injEq, Connection.mk.injEq]
    by_cases obfs : flags.obfs = "" <;> simp [obfs]

/-- For every preset `runGenClient` accepts, the two configurations it prints describe the same
connection exactly when the server holds no host:port delimiter. -/
theorem runGenClient_same_connection (flags : Flags) {preset : BandwidthPreset}
    (found : bandwidthPresets.lookup flags.preset = some preset) :
    ∃ outbound native, runGenClient flags = .ok (singBoxConfig outbound, native) ∧
      (native.connection? = some outbound.connection ↔ NoDelimiters flags.server.data) :=
  ⟨_, _, runGenClient_ok flags found, nativeConfig_connection_iff flags found⟩

theorem runGenClient_same_connection_fiber :
    bandwidthPresets.lookup "fiber" = some ⟨"20 mbps", "100 mbps"⟩ ∧
      ∃ outbound native,
        runGenClient { server := "vpn.example.ly", auth := "mypassword", preset := "fiber" } =
          .ok (singBoxConfig outbound, native) ∧
        (native.connection? = some outbound.connection ↔ NoDelimiters "vpn.example.ly".data) :=
  ⟨rfl, runGenClient_same_connection { server := "vpn.example.ly", auth := "mypassword", preset := "fiber" } rfl⟩

/-- `gen-client --server 2001:db8::1 --auth mypassword`. -/
def ipv6Flags : Flags := { server := "2001:db8::1", auth := "mypassword" }

/-- With an IPv6 literal the native server field does not split as host:port, while the
outbound names the host and the port apart. -/
theorem runGenClient_ipv6 :
    runGenClient ipv6Flags =
        .ok (singBoxConfig (hy2Outbound ipv6Flags ⟨"1 mbps", "10 mbps"⟩),
          nativeConfig ipv6Flags ⟨"1 mbps", "10 mbps"⟩) ∧
      (nativeConfig ipv6Flags ⟨"1 mbps", "10 mbps"⟩).server = "2001:db8::1:443" ∧
      splitHostPort "2001:db8::1:443" = .error ⟨"too many colons in address", "2001:db8::1:443"⟩ ∧
      (hy2Outbound ipv6Flags ⟨"1 mbps", "10 mbps"⟩).server = "2001:db8::1" ∧
      (hy2Outbound ipv6Flags ⟨"1 mbps", "10 mbps"⟩).serverPort = 443 :=
  ⟨rfl, by decide, rfl, rfl, rfl⟩

end LibyaLink.GenClient
