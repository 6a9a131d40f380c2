import LibyaLink.Doctor.Report

/-! What the checks return when no configuration could be loaded, and a whole run on a broken
host: both `tls` and `acme`, no certificate, the port taken and no authentication. -/

namespace LibyaLink.Doctor

open LibyaLink.Go

/-- A listen address no UDP socket binds to is one FAIL, whatever the bind error says. -/
theorem checkPortAvailability_fail {defaultListenAddr : String} {env : Env}
    (taken : env.net.listenUDP (listenAddress defaultListenAddr env.config) ≠ none) :
    (checkPortAvailability defaultListenAddr env).map (·.status) = [.fail] := by
  obtain ⟨err, bound⟩ := Option.ne_none_iff_exists'.mp taken
  cases resolved : env.net.resolveUDPAddr (listenAddress defaultListenAddr env.config) with
  | some _ => simp [checkPortAvailability, resolved]
  | none =>
    simp only [checkPortAvailability, resolved, bound]
    split_ifs <;> rfl

/-- A value that scans passes exactly when it reaches the recommendation. -/
theorem checkBufferValue_ok_iff {name valStr : String} {recommended val : Int}
    (scanned : sscanfInt valStr = some val) :
    (checkBufferValue name valStr recommended).status = .ok ↔ recommended ≤ val := by
  simp only [checkBufferValue, scanned, Option.getD_some]
  split_ifs <;> simp <;> omega

/-- The one result `appendTLSFile` adds for a path. -/
def tlsFileResult (fs : FileSystem) (name emptyMessage path : String) : CheckResult :=
  if path = "" then ⟨name, .fail, emptyMessage⟩ else checkFileReadable fs name path

theorem appendTLSFile_eq (fs : FileSystem) (name emptyMessage path : String)
    (results : List CheckResult) :
    appendTLSFile fs name emptyMessage path results =
      results ++ [tlsFileResult fs name emptyMessage path] := by
  unfold appendTLSFile tlsFileResult
  split_ifs <;> simp

/-- In static-certificate mode the check returns the certificate's result, the key's, and
the pair's whenever both paths are nonempty. -/
theorem checkTLSFiles_tls (env : Env) (tls : env.config.isSet "tls" = true) :
    checkTLSFiles env =
      [tlsFileResult env.fs "TLS Cert" "tls.cert path is empty." (env.config.getString "tls.cert"),
        tlsFileResult env.fs "TLS Key" "tls.key path is empty." (env.config.getString "tls.key")] ++
      if env.config.getString "tls.cert" ≠ "" ∧ env.config.getString "tls.key" ≠ "" then
        [tlsPairResult env (env.config.getString "tls.cert") (env.config.getString "tls.key")]
      else [] := by
  simp only [checkTLSFiles, tls, Bool.not_true, Bool.false_eq_true, if_false, appendTLSFile_eq,
    List.nil_append, List.singleton_append]
  split_ifs <;> simp

/-- The host the setup script prepares, after its certificate file was removed: the key is
readable, the certificate is missing, so loading the pair fails on it. -/
def missingCertEnv : Env where
  config :=
    { readInConfig := none
      configFileUsed := "/etc/libyalink/config.yaml"
      isSet := fun key => key = "tls" || key = "tls.cert" || key = "tls.key"
      getString := fun key =>
        if key = "tls.cert" then "/etc/libyalink/cert.pem"
        else if key = "tls.key" then "/etc/libyalink/key.pem" else ""
      getStringMapString := fun _ => StringMap.empty }
  fs :=
    { stat := fun path =>
        if path = "/etc/libyalink/key.pem" then .ok 241
        else .error (.notExist s!"stat {path}: no such file or directory")
      openFile := fun path =>
        if path = "/etc/libyalink/key.pem" then none else some s!"open {path}: no such file or directory"
      readFile := fun _ => none }
  net := { resolveUDPAddr := fun _ => none, listenUDP := fun _ => none }
  loadX509KeyPair := fun cert _ =>
    if cert = "/etc/libyalink/cert.pem" then some "open /etc/libyalink/cert.pem: no such file or directory"
    else none
  goos := "linux"

/-- A missing certificate next to a readable key: the pair is loaded and reported anyway. -/
theorem checkTLSFiles_missing_cert :
    checkTLSFiles missingCertEnv =
      [⟨"TLS Cert", .fail, "File not found: /etc/libyalink/cert.pem"⟩,
        ⟨"TLS Key", .ok, "Readable (241 bytes): /etc/libyalink/key.pem"⟩,
        ⟨"TLS Pair", .fail,
          "Certificate/Key pair is invalid: open /etc/libyalink/cert.pem: no such file or directory"⟩] := by
  decide

/-- A configuration whose only authentication keys are a type and a password. -/
def passwordConfig (authType pw : String) : ConfigSource where
  readInConfig := none
  configFileUsed := "/etc/libyalink/config.yaml"
  isSet := fun key => key = "auth" || key = "auth.type" || key = "auth.password"
  getString := fun key => if key = "auth.type" then authType else if key = "auth.password" then pw else ""
  getStringMapString := fun _ => StringMap.empty

/-- A five-letter Arabic password is ten UTF-8 bytes long, and passes as strong enough. -/
theorem checkAuthConfig_arabic_password :
    ("ليبيا" : String).length = 5 ∧
      checkAuthConfig Char.toLower (passwordConfig "password" "ليبيا") =
        [⟨"Auth", .ok, "Password authentication configured."⟩] := by
  decide

theorem checkConfigReadable_unloaded {config : ConfigSource} (unloaded : config.Unloaded) :
    (checkConfigReadable config).map (·.status) = [.fail] := by
  obtain ⟨err, failed⟩ := Option.isSome_iff_exists.mp unloaded.1
  simp [checkConfigReadable, failed]

theorem checkTLSFiles_unloaded {env : Env} (unloaded : env.config.Unloaded) :
    checkTLSFiles env = [] := by
  simp [checkTLSFiles, unloaded.2.1]

theorem checkTLSACMEConflict_unresolved {config : ConfigSource} (unresolved : config.configFileUsed = "") :
    checkTLSACMEConflict config = [] := by
  simp [checkTLSACMEConflict, unresolved]

/-- The authentication check has no configuration gate: without keys it reports a FAIL. -/
theorem checkAuthConfig_unloaded (unicodeToLower : Char → Char) {config : ConfigSource}
    (unloaded : config.Unloaded) :
    checkAuthConfig unicodeToLower config =
      [⟨"Auth", .fail, "No auth.type configured. Server requires authentication."⟩] := by
  simp [checkAuthConfig, unloaded.2.2.1]

/-- With no configuration loaded and no key, the Config File and Auth checks fail once each and
the TLS file check is silent; with no file path, so is the TLS/ACME check. -/
theorem doctorChecks_unloaded (defaultListenAddr : String) (unicodeToLower : Char → Char)
    (env : Env) (unloaded : env.config.Unloaded) :
    (checkConfigReadable env.config).map (·.status) = [.fail] ∧
      checkTLSFiles env = [] ∧
      checkAuthConfig unicodeToLower env.config =
        [⟨"Auth", .fail, "No auth.type configured. Server requires authentication."⟩] ∧
      (env.config.configFileUsed = "" →
        checkTLSACMEConflict env.config = [] ∧
        doctorChecks defaultListenAddr unicodeToLower env =
          checkConfigReadable env.config ++ checkPortAvailability defaultListenAddr env ++
            checkUDPBuffers env ++
            [⟨"Auth", .fail, "No auth.type configured. Server requires authentication."⟩]) := by
  refine ⟨checkConfigReadable_unloaded unloaded, checkTLSFiles_unloaded unloaded,
    checkAuthConfig_unloaded unicodeToLower unloaded, fun unresolved => ⟨?_, ?_⟩⟩
  · exact checkTLSACMEConflict_unresolved unresolved
  · simp [doctorChecks, checkTLSACMEConflict_unresolved unresolved, checkTLSFiles_unloaded unloaded,
      checkAuthConfig_unloaded unicodeToLower unloaded]

/-- A fresh host with no configuration file on the search path: loading fails, no key is
set, no file exists, the port binds, and the kernel keeps its default buffer ceilings. -/
def unloadedEnv : Env where
  config :=
    { readInConfig := some "Config File \"config\" Not Found in \"[/etc/libyalink]\""
      configFileUsed := ""
      isSet := fun _ => false
      getString := fun _ => ""
      getStringMapString := fun _ => StringMap.empty }
  fs :=
    { stat := fun path => .error (.notExist s!"stat {path}: no such file or directory")
      openFile := fun path => some s!"open {path}: no such file or directory"
      readFile := fun path =>
        if path = "/proc/sys/net/core/rmem_max" || path = "/proc/sys/net/core/wmem_max" then
          some "212992\n"
        else none }
  net := { resolveUDPAddr := fun _ => none, listenUDP := fun _ => none }
  loadX509KeyPair := fun cert _ => some s!"open {cert}: no such file or directory"
  goos := "linux"

theorem unloadedEnv_unloaded : unloadedEnv.config.Unloaded :=
  ⟨rfl, fun _ => rfl, fun _ => rfl, fun _ => rfl⟩

theorem doctorChecks_unloadedEnv :
    unloadedEnv.config.Unloaded ∧
      ((checkConfigReadable unloadedEnv.config).map (·.status) = [.fail] ∧
        checkTLSFiles unloadedEnv = [] ∧
        checkAuthConfig Char.toLower unloadedEnv.config =
          [⟨"Auth", .fail, "No auth.type configured. Server requires authentication."⟩] ∧
        (unloadedEnv.config.configFileUsed = "" →
          checkTLSACMEConflict unloadedEnv.config = [] ∧
          doctorChecks ":443" Char.toLower unloadedEnv =
            checkConfigReadable unloadedEnv.config ++ checkPortAvailability ":443" unloadedEnv ++
              checkUDPBuffers unloadedEnv ++
              [⟨"Auth", .fail, "No auth.type configured. Server requires authentication."⟩])) :=
  ⟨unloadedEnv_unloaded, doctorChecks_unloaded ":443" Char.toLower unloadedEnv unloadedEnv_unloaded⟩

/-- Without any configuration the authentication check still returns a result. -/
theorem checkAuthConfig_unloadedEnv :
    unloadedEnv.config.Unloaded ∧ checkAuthConfig Char.toLower unloadedEnv.config ≠ [] :=
  ⟨unloadedEnv_unloaded, by decide⟩

theorem tlsFileResult_fail_of_notExist {fs : FileSystem} {name emptyMessage path text : String}
    (missing : fs.stat path = .error (.notExist text)) :
    (tlsFileResult fs name emptyMessage path).status = .fail := by
  unfold tlsFileResult
  split_ifs
  · rfl
  · simp [checkFileReadable, missing]

/-- With `tls` and `acme` both set, no certificate file, the port taken and no `auth.type`, a run
counts at least four FAILs and prints the broken verdict. -/
theorem runDoctor_broken_scenario (defaultListenAddr : String) (unicodeToLower : Char → Char)
    (env : Env) (resolved : env.config.configFileUsed ≠ "")
    (tls : env.config.isSet "tls" = true) (acme : env.config.isSet "acme" = true)
    (missing : ∃ text, env.fs.stat (env.config.getString "tls.cert") = .error (.notExist text))
    (taken : env.net.listenUDP (listenAddress defaultListenAddr env.config) ≠ none)
    (noAuth : env.config.getString "auth.type" = "") :
    let tally := doctorLoop (doctorChecks defaultListenAddr unicodeToLower env)
    4 ≤ tally.failCount ∧
      verdictLine tally.failCount tally.warnCount =
        Verdict.broken.line tally.failCount tally.warnCount := by
  obtain ⟨text, missing⟩ := missing
  have fails : ∀ results : List CheckResult, (∃ r ∈ results, r.status = .fail) →
      1 ≤ results.countP (·.status = .fail) :=
    fun results ⟨r, member, fail⟩ => List.countP_pos_iff.mpr ⟨r, member, by simpa using fail⟩
  have acmeFail : 1 ≤ (checkTLSACMEConflict env.config).countP (·.status = .fail) := by
    simp [checkTLSACMEConflict, resolved, tls, acme]
  have certFail := fails (checkTLSFiles env)
    ⟨tlsFileResult env.fs "TLS Cert" "tls.cert path is empty." (env.config.getString "tls.cert"),
      by rw [checkTLSFiles_tls env tls]; simp, tlsFileResult_fail_of_notExist missing⟩
  have portFail := fails (checkPortAvailability defaultListenAddr env)
    (List.mem_map.mp (by simp [checkPortAvailability_fail taken]))
  have authFail : 1 ≤ (checkAuthConfig unicodeToLower env.config).countP (·.status = .fail) := by
    simp [checkAuthConfig, noAuth]
  have four : 4 ≤ (doctorChecks defaultListenAddr unicodeToLower env).countP (·.status = .fail) := by
    simp only [doctorChecks, List.countP_append]
    omega
  simp only [doctorLoop_eq]
  exact ⟨four, (verdictLine_broken _ _).mpr (by omega)⟩

/-- The scenario's host: both `tls` and `acme` configured, the certificate gone, the port held
by another process, and no authentication configured. -/
def brokenEnv : Env where
  config :=
    { readInConfig := none
      configFileUsed := "/etc/libyalink/config.yaml"
      isSet := fun key => key = "tls" || key = "acme" || key = "tls.cert" || key = "tls.key"
      getString := fun key =>
        if key = "tls.cert" then "/etc/libyalink/cert.pem"
        else if key = "tls.key" then "/etc/libyalink/key.pem" else ""
      getStringMapString := fun _ => StringMap.empty }
  fs := missingCertEnv.fs
  net :=
    { resolveUDPAddr := fun _ => none
      listenUDP := fun addr => some s!"listen udp {addr}: bind: address already in use" }
  loadX509KeyPair := missingCertEnv.loadX509KeyPair
  goos := "linux"

theorem runDoctor_broken_scenario_brokenEnv :
    brokenEnv.config.configFileUsed ≠ "" ∧ brokenEnv.config.isSet "tls" = true ∧
      brokenEnv.config.isSet "acme" = true ∧
      (∃ text, brokenEnv.fs.stat (brokenEnv.config.getString "tls.cert") = .error (.notExist text)) ∧
      brokenEnv.net.listenUDP (listenAddress ":443" brokenEnv.config) ≠ none ∧
      brokenEnv.config.getString "auth.type" = "" ∧
      (let tally := doctorLoop (doctorChecks ":443" Char.toLower brokenEnv);
        4 ≤ tally.failCount ∧
          verdictLine tally.failCount tally.warnCount =
            Verdict.broken.line tally.failCount tally.warnCount) := by
  have missing : ∃ text, brokenEnv.fs.stat (brokenEnv.config.getString "tls.cert") =
      .error (.notExist text) := ⟨_, rfl⟩
  have taken : brokenEnv.net.listenUDP (listenAddress ":443" brokenEnv.config) ≠ none := by
    simp [brokenEnv]
  exact ⟨by decide, rfl, rfl, missing, taken, rfl,
    runDoctor_broken_scenario ":443" Char.toLower brokenEnv (by decide) rfl rfl missing taken rfl⟩


/-- A run with FAILs still ends with success: here five of them, on the broken host. -/
theorem doctorRun_fail_exit_success :
    (doctorLoop (doctorChecks ":443" Char.toLower brokenEnv)).failCount = 5 ∧
      (runDoctor ":443" Char.toLower brokenEnv).exit = .success :=
  ⟨by decide, rfl⟩

end LibyaLink.Doctor
