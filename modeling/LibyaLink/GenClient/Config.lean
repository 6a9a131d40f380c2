import LibyaLink.Go.Fmt

/-! `libyalink gen-client`: from its flags it builds a sing-box configuration around one
Hysteria 2 outbound, and a native Hysteria 2 client configuration, for the same server. -/

namespace LibyaLink.GenClient

open LibyaLink.Go

/-- The flags `runGenClient` reads, with the defaults `initGenClientFlags` registers. -/
structure Flags where
  server : String := ""
  port : Int := 443
  auth : String := ""
  insecure : Bool := true
  sni : String := ""
  obfs : String := ""
  preset : String := "4g"

structure BandwidthPreset where
  up : String
  down : String
deriving DecidableEq, Repr

def bandwidthPresets : List (String × BandwidthPreset) :=
  [("4g", ⟨"1 mbps", "10 mbps"⟩), ("fiber", ⟨"20 mbps", "100 mbps"⟩)]

structure SingBoxTLS where
  enabled : Bool
  insecure : Bool
  serverName : String
deriving DecidableEq, Repr

structure SingBoxObfs where
  type : String
  password : String
deriving DecidableEq, Repr

structure SingBoxOutbound where
  type : String
  tag : String
  server : String
  serverPort : Int
  password : String
  tls : SingBoxTLS
  obfs : Option SingBoxObfs
  upMbps : Int
  downMbps : Int
deriving DecidableEq, Repr

structure SingBoxDNSServer where
  tag : String
  address : String
deriving DecidableEq, Repr

structure SingBoxInbound where
  type : String
  tag : String
  listen : String
  port : Int
deriving DecidableEq, Repr

/-- An entry of `Outbounds`: the Hysteria 2 outbound, or a plain string map. -/
inductive SingBoxOutboundEntry
  | hysteria2 (outbound : SingBoxOutbound)
  | map (fields : List (String × String))
deriving DecidableEq, Repr

structure SingBoxRoute where
  autoDetectInterface : Bool
  finalTag : String
deriving DecidableEq, Repr

structure SingBoxConfig where
  logLevel : String
  dnsServers : List SingBoxDNSServer
  inbounds : List SingBoxInbound
  outbounds : List SingBoxOutboundEntry
  route : SingBoxRoute
deriving DecidableEq, Repr

structure Hysteria2ClientTLS where
  sni : String
  insecure : Bool
deriving DecidableEq, Repr

structure Hysteria2ClientBW where
  up : String
  down : String
deriving DecidableEq, Repr

structure Hysteria2ClientObfs where
  type : String
  salamanderPassword : String
deriving DecidableEq, Repr

structure Hysteria2ClientConfig where
  server : String
  auth : String
  tls : Hysteria2ClientTLS
  bandwidth : Option Hysteria2ClientBW
  obfs : Option Hysteria2ClientObfs
  socks5Listen : Option String
  httpListen : Option String
deriving DecidableEq, Repr

/-- Each bandwidth string scanned with `%d`; a string that does not scan gives 0. -/
def parseBandwidthToMbps (preset : BandwidthPreset) : Int × Int :=
  ((sscanfInt preset.up).getD 0, (sscanfInt preset.down).getD 0)

/-- The sing-box configuration around the Hysteria 2 outbound. -/
def singBoxConfig (hy2Outbound : SingBoxOutbound) : SingBoxConfig where
  logLevel := "info"
  dnsServers := [⟨"google", "tls://8.8.8.8"⟩]
  inbounds :=
    [⟨"tun", "tun-in", "0.0.0.0", 0⟩, ⟨"socks", "socks-in", "127.0.0.1", 2080⟩,
      ⟨"http", "http-in", "127.0.0.1", 2081⟩]
  outbounds := [.hysteria2 hy2Outbound, .map [("type", "direct"), ("tag", "direct")]]
  route := ⟨true, "libyalink-proxy"⟩

/-- The SNI both configurations carry: the server itself when none is given and
verification is skipped. -/
def clientSNI (flags : Flags) : String :=
  if flags.sni = "" ∧ flags.insecure then flags.server else flags.sni

/-- `hy2Outbound` of `runGenClient`. -/
def hy2Outbound (flags : Flags) (preset : BandwidthPreset) : SingBoxOutbound :=
  let (upMbps, downMbps) := parseBandwidthToMbps preset
  { type := "hysteria2", tag := "libyalink-proxy", server := flags.server,
    serverPort := flags.port, password := flags.auth, tls := ⟨true, flags.insecure, clientSNI flags⟩,
    obfs := if flags.obfs ≠ "" then some ⟨"salamander", flags.obfs⟩ else none,
    upMbps := upMbps, downMbps := downMbps }

/-- `nativeConfig` of `runGenClient`, its obfuscation section added when a password is given. -/
def nativeConfig (flags : Flags) (preset : BandwidthPreset) : Hysteria2ClientConfig :=
  let config : Hysteria2ClientConfig :=
    { server := s!"{flags.server}:{flags.port}", auth := flags.auth,
      tls := ⟨clientSNI flags, flags.insecure⟩, bandwidth := some ⟨preset.up, preset.down⟩,
      obfs := none, socks5Listen := some "127.0.0.1:1080", httpListen := some "127.0.0.1:8080" }
  if flags.obfs ≠ "" then { config with obfs := some ⟨"salamander", flags.obfs⟩ } else config

/-- `runGenClient`: the two configurations it prints, or the message it exits 1 with for an
unknown preset. -/
def runGenClient (flags : Flags) : Except String (SingBoxConfig × Hysteria2ClientConfig) :=
  match bandwidthPresets.lookup flags.preset with
  | none => .error s!"Error: unknown preset '{flags.preset}'. Use '4g' or 'fiber'."
  | some preset => .ok (singBoxConfig (hy2Outbound flags preset), nativeConfig flags preset)

end LibyaLink.GenClient
