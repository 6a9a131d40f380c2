import LibyaLink.GenClient.Agreement
import LibyaLink.Go.JsonRead

/-! The two JSON texts `gen-client` prints, as `Marshal` writes the structs through their
`json` tags, and as a client decodes them back, taking the zero value for an absent key. -/

namespace LibyaLink.GenClient

open LibyaLink.Go

/-- An `omitempty` field: left out when its value is the zero value. -/
def omitEmpty (key : String) (empty : Bool) (v : JSON) : List (String × JSON) :=
  if empty then [] else [(key, v)]

/-- A pointer field with `omitempty`: left out when nil. -/
def omitNil (key : String) (toJSON : α → JSON) : Option α → List (String × JSON)
  | none => []
  | some x => [(key, toJSON x)]

def SingBoxTLS.toJSON (tls : SingBoxTLS) : JSON :=
  .object ([("enabled", .bool tls.enabled), ("insecure", .bool tls.insecure)] ++
    omitEmpty "server_name" (tls.serverName == "") (.string tls.serverName))

def SingBoxObfs.toJSON (obfs : SingBoxObfs) : JSON :=
  .object [("type", .string obfs.type), ("password", .string obfs.password)]

def SingBoxOutbound.toJSON (o : SingBoxOutbound) : JSON :=
  .object ([("type", .string o.type), ("tag", .string o.tag), ("server", .string o.server),
      ("server_port", .number o.serverPort), ("password", .string o.password),
      ("tls", o.tls.toJSON)] ++
    omitNil "obfs" SingBoxObfs.toJSON o.obfs ++
    omitEmpty "up_mbps" (o.upMbps == 0) (.number o.upMbps) ++
    omitEmpty "down_mbps" (o.downMbps == 0) (.number o.downMbps))

/-- An entry of `Outbounds`. A `map[string]string` is written with its keys in sorted order. -/
def SingBoxOutboundEntry.toJSON : SingBoxOutboundEntry → JSON
  | .hysteria2 outbound => outbound.toJSON
  | .map fields =>
    .object ((fields.insertionSort fun a b => a.1.data ≤ b.1.data).map fun (k, v) => (k, .string v))

def SingBoxDNSServer.toJSON (server : SingBoxDNSServer) : JSON :=
  .object [("tag", .string server.tag), ("address", .string server.address)]

def SingBoxInbound.toJSON (inbound : SingBoxInbound) : JSON :=
  .object [("type", .string inbound.type), ("tag", .string inbound.tag),
    ("listen", .string inbound.listen), ("listen_port", .number inbound.port)]

/-- `Rules` is nil in every configuration `gen-client` builds, so `omitempty` drops it. -/
def SingBoxRoute.toJSON (route : SingBoxRoute) : JSON :=
  .object [("auto_detect_interface", .bool route.autoDetectInterface),
    ("final", .string route.finalTag)]

def SingBoxConfig.toJSON (config : SingBoxConfig) : JSON :=
  .object [("log", .object [("level", .string config.logLevel)]),
    ("dns", .object [("servers", .array (config.dnsServers.map SingBoxDNSServer.toJSON))]),
    ("inbounds", .array (config.inbounds.map SingBoxInbound.toJSON)),
    ("outbounds", .array (config.outbounds.map SingBoxOutboundEntry.toJSON)),
    ("route", config.route.toJSON)]

def Hysteria2ClientTLS.toJSON (tls : Hysteria2ClientTLS) : JSON :=
  .object (omitEmpty "sni" (tls.sni == "") (.string tls.sni) ++
    [("insecure", .bool tls.insecure)])

def Hysteria2ClientBW.toJSON (bandwidth : Hysteria2ClientBW) : JSON :=
  .object [("up", .string bandwidth.up), ("down", .string bandwidth.down)]

def Hysteria2ClientObfs.toJSON (obfs : Hysteria2ClientObfs) : JSON :=
  .object [("type", .string obfs.type),
    ("salamander", .object [("password", .string obfs.salamanderPassword)])]

/-- `hysteria2ClientSocks5` and `hysteria2ClientHTTP`: a listen address. -/
def listenJSON (listen : String) : JSON := .object [("listen", .string listen)]

def Hysteria2ClientConfig.toJSON (config : Hysteria2ClientConfig) : JSON :=
  .object ([("server", .string config.server), ("auth", .string config.auth),
      ("tls", config.tls.toJSON)] ++
    omitNil "bandwidth" Hysteria2ClientBW.toJSON config.bandwidth ++
    omitNil "obfs" Hysteria2ClientObfs.toJSON config.obfs ++
    omitNil "socks5" listenJSON config.socks5Listen ++
    omitNil "http" listenJSON config.httpListen)

/-- `singBoxJSON` of `runGenClient`. -/
def singBoxJSON (flags : Flags) (preset : BandwidthPreset) : String :=
  marshalIndent (singBoxConfig (hy2Outbound flags preset)).toJSON "" "  "

/-- `nativeJSON` of `runGenClient`. -/
def nativeJSON (flags : Flags) (preset : BandwidthPreset) : String :=
  marshalIndent (nativeConfig flags preset).toJSON "" "  "

/-- A string field as a client decodes it: `""` when the key is absent. -/
def stringField (fields : List (String × JSON)) (key : String) : Option String :=
  match fields.lookup key with
  | none => some ""
  | some (.string s) => some s
  | some _ => none

def intField (fields : List (String × JSON)) (key : String) : Option Int :=
  match fields.lookup key with
  | none => some 0
  | some (.number n) => some n
  | some _ => none

def boolField (fields : List (String × JSON)) (key : String) : Option Bool :=
  match fields.lookup key with
  | none => some false
  | some (.bool b) => some b
  | some _ => none

/-- A struct or pointer field: `none` when the key is absent or null. -/
def objectField (fields : List (String × JSON)) (key : String) (read : JSON → Option α) :
    Option (Option α) :=
  match fields.lookup key with
  | none => some none
  | some j => if j.isNull then some none else (read j).map some

def SingBoxTLS.ofJSON? : JSON → Option SingBoxTLS
  | .object fs => do
    let enabled ← boolField fs "enabled"
    let insecure ← boolField fs "insecure"
    let serverName ← stringField fs "server_name"
    pure ⟨enabled, insecure, serverName⟩
  | _ => none

def SingBoxObfs.ofJSON? : JSON → Option SingBoxObfs
  | .object fs => do
    let type ← stringField fs "type"
    let password ← stringField fs "password"
    pure ⟨type, password⟩
  | _ => none

def SingBoxOutbound.ofJSON? : JSON → Option SingBoxOutbound
  | .object fs => do
    let type ← stringField fs "type"
    let tag ← stringField fs "tag"
    let server ← stringField fs "server"
    let serverPort ← intField fs "server_port"
    let password ← stringField fs "password"
    let tls ← objectField fs "tls" SingBoxTLS.ofJSON?
    let obfs ← objectField fs "obfs" SingBoxObfs.ofJSON?
    let upMbps ← intField fs "up_mbps"
    let downMbps ← intField fs "down_mbps"
    pure ⟨type, tag, server, serverPort, password, tls.getD ⟨false, false, ""⟩, obfs, upMbps,
      downMbps⟩
  | _ => none

/-- The `tag` of an outbound entry. -/
def entryTag? : JSON → Option String
  | .object fs => (stringField fs "tag")
  | _ => none

/-- The outbound sing-box routes all traffic to: the entry of `outbounds` whose tag is the
route's `final`. -/
def finalOutbound? : JSON → Option SingBoxOutbound
  | .object fs =>
    match fs.lookup "route", fs.lookup "outbounds" with
    | some (.object route), some (.array outbounds) => do
      let final ← stringField route "final"
      let entry ← outbounds.find? fun entry => entryTag? entry == some final
      SingBoxOutbound.ofJSON? entry
    | _, _ => none
  | _ => none

def Hysteria2ClientTLS.ofJSON? : JSON → Option Hysteria2ClientTLS
  | .object fs => do
    let sni ← stringField fs "sni"
    let insecure ← boolField fs "insecure"
    pure ⟨sni, insecure⟩
  | _ => none

def Hysteria2ClientBW.ofJSON? : JSON → Option Hysteria2ClientBW
  | .object fs => do
    let up ← stringField fs "up"
    let down ← stringField fs "down"
    pure ⟨up, down⟩
  | _ => none

def Hysteria2ClientObfs.ofJSON? : JSON → Option Hysteria2ClientObfs
  | .object fs => do
    let type ← stringField fs "type"
    let salamander ← objectField fs "salamander" fun
      | .object salamander => stringField salamander "password"
      | _ => none
    pure ⟨type, salamander.getD ""⟩
  | _ => none

def listenOfJSON? : JSON → Option String
  | .object fs => stringField fs "listen"
  | _ => none

def Hysteria2ClientConfig.ofJSON? : JSON → Option Hysteria2ClientConfig
  | .object fs => do
    let server ← stringField fs "server"
    let auth ← stringField fs "auth"
    let tls ← objectField fs "tls" Hysteria2ClientTLS.ofJSON?
    let bandwidth ← objectField fs "bandwidth" Hysteria2ClientBW.ofJSON?
    let obfs ← objectField fs "obfs" Hysteria2ClientObfs.ofJSON?
    let socks5Listen ← objectField fs "socks5" listenOfJSON?
    let httpListen ← objectField fs "http" listenOfJSON?
    pure ⟨server, auth, tls.getD ⟨"", false⟩, bandwidth, obfs, socks5Listen, httpListen⟩
  | _ => none

@[simp] theorem SingBoxTLS.toJSON_isNull (tls : SingBoxTLS) : tls.toJSON.isNull = false := rfl

@[simp] theorem SingBoxObfs.toJSON_isNull (obfs : SingBoxObfs) : obfs.toJSON.isNull = false := rfl

@[simp] theorem Hysteria2ClientTLS.toJSON_isNull (tls : Hysteria2ClientTLS) :
    tls.toJSON.isNull = false := rfl

theorem SingBoxTLS.ofJSON?_toJSON (tls : SingBoxTLS) : SingBoxTLS.ofJSON? tls.toJSON = some tls := by
  obtain ⟨enabled, insecure, serverName⟩ := tls
  by_cases empty : serverName = "" <;>
    simp [SingBoxTLS.toJSON, SingBoxTLS.ofJSON?, omitEmpty, empty, boolField, stringField,
      List.lookup]

theorem SingBoxObfs.ofJSON?_toJSON (obfs : SingBoxObfs) :
    SingBoxObfs.ofJSON? obfs.toJSON = some obfs := by
  simp [SingBoxObfs.toJSON, SingBoxObfs.ofJSON?, stringField, List.lookup]

theorem SingBoxOutbound.ofJSON?_toJSON (o : SingBoxOutbound) :
    SingBoxOutbound.ofJSON? o.toJSON = some o := by
  obtain ⟨type, tag, server, serverPort, password, tls, obfs, up, down⟩ := o
  cases obfs <;> by_cases upZero : up = 0 <;> by_cases downZero : down = 0 <;>
    simp [SingBoxOutbound.toJSON, SingBoxOutbound.ofJSON?, omitEmpty, omitNil, upZero, downZero,
      stringField, intField, objectField, List.lookup, SingBoxTLS.ofJSON?_toJSON,
      SingBoxObfs.ofJSON?_toJSON]

theorem Hysteria2ClientTLS.ofJSON?_toJSON (tls : Hysteria2ClientTLS) :
    Hysteria2ClientTLS.ofJSON? tls.toJSON = some tls := by
  obtain ⟨sni, insecure⟩ := tls
  by_cases empty : sni = "" <;>
    simp [Hysteria2ClientTLS.toJSON, Hysteria2ClientTLS.ofJSON?, omitEmpty, empty, boolField,
      stringField, List.lookup]

theorem Hysteria2ClientConfig.ofJSON?_toJSON (config : Hysteria2ClientConfig) :
    Hysteria2ClientConfig.ofJSON? config.toJSON = some config := by
  obtain ⟨server, auth, tls, bandwidth, obfs, socks5, http⟩ := config
  cases bandwidth <;> cases obfs <;> cases socks5 <;> cases http <;>
    simp [Hysteria2ClientConfig.toJSON, Hysteria2ClientConfig.ofJSON?, omitNil, stringField,
      objectField, List.lookup, Hysteria2ClientTLS.ofJSON?_toJSON, Hysteria2ClientBW.toJSON,
      Hysteria2ClientBW.ofJSON?, Hysteria2ClientObfs.toJSON, Hysteria2ClientObfs.ofJSON?,
      listenJSON, listenOfJSON?]

theorem entryTag?_toJSON (o : SingBoxOutbound) : entryTag? o.toJSON = some o.tag := by
  simp [entryTag?, SingBoxOutbound.toJSON, stringField, List.lookup]

/-- The route's `final` tag names the Hysteria 2 outbound, the first entry of `outbounds`. -/
theorem finalOutbound?_singBoxConfig {o : SingBoxOutbound} (tagged : o.tag = "libyalink-proxy") :
    finalOutbound? (singBoxConfig o).toJSON = some o := by
  simp [finalOutbound?, SingBoxConfig.toJSON, singBoxConfig, SingBoxRoute.toJSON, List.lookup,
    stringField, SingBoxOutboundEntry.toJSON, List.find?, entryTag?_toJSON, tagged,
    SingBoxOutbound.ofJSON?_toJSON]

/-- The indent `gen-client` passes to `MarshalIndent`, with its empty margin, is whitespace. -/
theorem genClient_indent_blank : ∀ c ∈ ("" : String).data ++ ("  " : String).data, isJsonSpace c = true := by
  decide

/-- A client reads back from the two printed texts exactly what `runGenClient` built, and the
two describe one connection exactly when the server holds no host:port delimiter. -/
theorem runGenClient_printed (flags : Flags) {preset : BandwidthPreset}
    (found : bandwidthPresets.lookup flags.preset = some preset) :
    ∃ outbound native, runGenClient flags = .ok (singBoxConfig outbound, native) ∧
      (JSON.read (singBoxJSON flags preset)).bind finalOutbound? = some outbound ∧
      (JSON.read (nativeJSON flags preset)).bind Hysteria2ClientConfig.ofJSON? = some native ∧
      (native.connection? = some outbound.connection ↔ NoDelimiters flags.server.data) := by
  refine ⟨_, _, runGenClient_ok flags found, ?_, ?_, nativeConfig_connection_iff flags found⟩
  · rw [singBoxJSON, marshalIndent_eq, JSON.read_layout _ genClient_indent_blank,
      Option.some_bind, finalOutbound?_singBoxConfig rfl]
  · rw [nativeJSON, marshalIndent_eq, JSON.read_layout _ genClient_indent_blank,
      Option.some_bind, Hysteria2ClientConfig.ofJSON?_toJSON]

/-- `gen-client --server vpn.example.ly --preset fiber` with a password and an obfuscation text
that `Marshal` has to escape: a quote, `<`, `&`, a backslash and U+2028. -/
def escapingFlags : Flags :=
  { server := "vpn.example.ly", auth := "p\"<&\\", obfs := "x\u2028", preset := "fiber" }

theorem runGenClient_printed_escapes :
    bandwidthPresets.lookup escapingFlags.preset = some ⟨"20 mbps", "100 mbps"⟩ ∧
      ∃ outbound native, runGenClient escapingFlags = .ok (singBoxConfig outbound, native) ∧
        (JSON.read (singBoxJSON escapingFlags ⟨"20 mbps", "100 mbps"⟩)).bind finalOutbound? =
          some outbound ∧
        (JSON.read (nativeJSON escapingFlags ⟨"20 mbps", "100 mbps"⟩)).bind
            Hysteria2ClientConfig.ofJSON? = some native ∧
        (native.connection? = some outbound.connection ↔ NoDelimiters escapingFlags.server.data) :=
  ⟨rfl, runGenClient_printed escapingFlags rfl⟩

end LibyaLink.GenClient
