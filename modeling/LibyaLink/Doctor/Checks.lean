import LibyaLink.Doctor.Basic
import LibyaLink.Go.Fmt

/-! The six checks of `libyalink doctor` and the two helpers they share, as `doctor.go`
writes them. Each reads its part of the environment and returns zero or more results. -/

namespace LibyaLink.Doctor

open LibyaLink.Go

def checkConfigReadable (config : ConfigSource) : List CheckResult :=
  match config.readInConfig with
  | some err => [⟨"Config File", .fail, "Cannot read config file: " ++ err⟩]
  | none => [⟨"Config File", .ok, "Config loaded from: " ++ config.configFileUsed⟩]

/-- Skipped when `viper` resolved no configuration file. -/
def checkTLSACMEConflict (config : ConfigSource) : List CheckResult :=
  if config.configFileUsed = "" then []
  else
    let hasTLS := config.isSet "tls"
    let hasACME := config.isSet "acme"
    if hasTLS && hasACME then
      [⟨"TLS/ACME", .fail, "Both 'tls' and 'acme' are set. You must use one or the other, not both."⟩]
    else if !hasTLS && !hasACME then
      [⟨"TLS/ACME", .fail,
        "Neither 'tls' nor 'acme' is configured. One is required for the server to start."⟩]
    else if hasTLS then [⟨"TLS/ACME", .ok, "TLS mode: using local certificate files."⟩]
    else [⟨"TLS/ACME", .ok, "ACME mode: using automatic certificate provisioning."⟩]

def checkFileReadable (fs : FileSystem) (name path : String) : CheckResult :=
  match fs.stat path with
  | .error (.notExist _) => ⟨name, .fail, "File not found: " ++ path⟩
  | .error (.permission _) => ⟨name, .fail, "Permission denied on " ++ path⟩
  | .error (.other err) => ⟨name, .fail, s!"Error accessing {path}: {err}"⟩
  | .ok size =>
    match fs.openFile path with
    | some err => ⟨name, .fail, s!"Cannot open {path}: {err}"⟩
    | none =>
      if size = 0 then ⟨name, .fail, "File is empty: " ++ path⟩
      else ⟨name, .ok, s!"Readable ({size} bytes): {path}"⟩

/-- The block of `checkTLSFiles` for one path: an empty path fails; any other goes to
`checkFileReadable`, and both arms of the source's status test append its result. -/
def appendTLSFile (fs : FileSystem) (name emptyMessage path : String)
    (results : List CheckResult) : List CheckResult :=
  if path = "" then results ++ [⟨name, .fail, emptyMessage⟩]
  else
    let r := checkFileReadable fs name path
    if r.status.glyph ≠ checkOK then results ++ [r] else results ++ [r]

/-- The pair block of `checkTLSFiles`: what `tls.LoadX509KeyPair` says of the two paths. -/
def tlsPairResult (env : Env) (certPath keyPath : String) : CheckResult :=
  match env.loadX509KeyPair certPath keyPath with
  | some err => ⟨"TLS Pair", .fail, s!"Certificate/Key pair is invalid: {err}"⟩
  | none => ⟨"TLS Pair", .ok, "Certificate and key pair loaded successfully."⟩

/-- A no-op in ACME mode. The pair is loaded whenever both paths are nonempty. -/
def checkTLSFiles (env : Env) : List CheckResult :=
  if !env.config.isSet "tls" then []
  else
    let certPath := env.config.getString "tls.cert"
    let keyPath := env.config.getString "tls.key"
    let results := appendTLSFile env.fs "TLS Cert" "tls.cert path is empty." certPath []
    let results := appendTLSFile env.fs "TLS Key" "tls.key path is empty." keyPath results
    if certPath ≠ "" ∧ keyPath ≠ "" then results ++ [tlsPairResult env certPath keyPath]
    else results

/-- The configured listen address, or the server's default when none is set. -/
def listenAddress (defaultListenAddr : String) (config : ConfigSource) : String :=
  if config.getString "listen" = "" then defaultListenAddr else config.getString "listen"

/-- The bind error is classified by the text it carries. -/
def checkPortAvailability (defaultListenAddr : String) (env : Env) : List CheckResult :=
  let listenAddr := listenAddress defaultListenAddr env.config
  match env.net.resolveUDPAddr listenAddr with
  | some err => [⟨"UDP Port", .fail, s!"Invalid listen address '{listenAddr}': {err}"⟩]
  | none =>
    match env.net.listenUDP listenAddr with
    | none => [⟨"UDP Port", .ok, s!"UDP {listenAddr} is available."⟩]
    | some errStr =>
      if stringsContains errStr "address already in use" ||
          stringsContains errStr "Only one usage of each socket address" then
        [⟨"UDP Port", .fail, s!"Port {listenAddr} is already in use! Another process (Apache/Nginx/Hysteria?) is binding it."⟩]
      else if stringsContains errStr "permission denied" ||
          stringsContains errStr "bind: permission denied" then
        [⟨"UDP Port", .fail, s!"Permission denied binding to {listenAddr}. Use a port > 1024 or run with elevated privileges."⟩]
      else [⟨"UDP Port", .fail, s!"Cannot bind UDP {listenAddr}: {errStr}"⟩]

/-- A value that does not scan leaves `val` at zero. -/
def checkBufferValue (name valStr : String) (recommended : Int) : CheckResult :=
  let val := (sscanfInt valStr).getD 0
  if val ≥ recommended then ⟨name, .ok, s!"{val} bytes (>= {recommended} recommended). Good!"⟩
  else
    ⟨name, .warn, s!"{val} bytes (< {recommended} recommended). Run the tuning script for full speed. See docs/libya_tuning.md"⟩

/-- The block of `checkUDPBuffers` for one sysctl file: a result only if the file reads. -/
def sysctlBufferResult (fs : FileSystem) (name path : String) : List CheckResult :=
  match fs.readFile path with
  | some contents => [checkBufferValue name (trimSpace contents) 8388608]
  | none => []

def checkUDPBuffers (env : Env) : List CheckResult :=
  if env.goos ≠ "linux" then
    [⟨"UDP Buffers", .warn, s!"Buffer check only runs on Linux (current OS: {env.goos}). See docs/libya_tuning.md"⟩]
  else
    let results := sysctlBufferResult env.fs "UDP rmem_max" "/proc/sys/net/core/rmem_max"
    let results := results ++ sysctlBufferResult env.fs "UDP wmem_max" "/proc/sys/net/core/wmem_max"
    if results.length = 0 then
      results ++ [⟨"UDP Buffers", .warn,
        "Could not read sysctl buffer values. Run 'sysctl net.core.rmem_max' manually."⟩]
    else results

/-- `len(pw)` counts the password's UTF-8 bytes. Unknown types pass. -/
def checkAuthConfig (unicodeToLower : Char → Char) (config : ConfigSource) : List CheckResult :=
  let authType := config.getString "auth.type"
  if authType = "" then [⟨"Auth", .fail, "No auth.type configured. Server requires authentication."⟩]
  else
    match stringsToLower unicodeToLower authType with
    | "password" =>
      let pw := config.getString "auth.password"
      if pw = "" then [⟨"Auth", .fail, "auth.type is 'password' but auth.password is empty."⟩]
      else if pw.utf8ByteSize < 8 then
        [⟨"Auth", .warn, "auth.password is very short (< 8 chars). Consider using a stronger password."⟩]
      else [⟨"Auth", .ok, "Password authentication configured."⟩]
    | "userpass" =>
      let up := config.getStringMapString "auth.userpass"
      if up.size = 0 then
        [⟨"Auth", .fail, "auth.type is 'userpass' but no user:password entries found."⟩]
      else [⟨"Auth", .ok, s!"User/pass authentication configured ({up.size} users)."⟩]
    | "http" | "https" =>
      let url := config.getString "auth.http.url"
      if url = "" then [⟨"Auth", .fail, "auth.type is 'http' but auth.http.url is empty."⟩]
      else [⟨"Auth", .ok, s!"HTTP authentication configured: {url}"⟩]
    | _ => [⟨"Auth", .ok, s!"Authentication type: {authType}"⟩]

/-- The results of `runDoctor`, in the order it appends the six checks'. -/
def doctorChecks (defaultListenAddr : String) (unicodeToLower : Char → Char) (env : Env) :
    List CheckResult :=
  checkConfigReadable env.config ++ checkTLSACMEConflict env.config ++ checkTLSFiles env ++
    checkPortAvailability defaultListenAddr env ++ checkUDPBuffers env ++
    checkAuthConfig unicodeToLower env.config

end LibyaLink.Doctor
