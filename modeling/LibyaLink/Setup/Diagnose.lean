import LibyaLink.Setup.Rerun
import LibyaLink.Setup.Access
import LibyaLink.Go.Yaml
import LibyaLink.Doctor.CheckLaws

/-! `libyalink doctor -c /etc/libyalink/config.yaml`, as the setup script's last lines
suggest it, on the host a setup run leaves, run as an account that reads the configuration
through `viper` and opens the TLS files. -/

namespace LibyaLink.Setup

open LibyaLink.Go LibyaLink.Doctor

/-- What `viper` holds after `ReadInConfig` of `configFile` from what reading it gave: a
failed read keeps its error and no key; `none` outside the YAML the model reads. -/
def viperConfig (configFile : String) (read : Except String String) : Option ConfigSource :=
  match read with
  | .error err => some ⟨some err, configFile, fun _ => false, fun _ => "", fun _ => .empty⟩
  | .ok text => (yamlRead text).map fun doc =>
    ⟨none, configFile, doc.isSet, doc.getString,
      fun key => ⟨doc.getStringMapString key, doc.getStringMapString_nodup key⟩⟩

/-- What `libyalink doctor -c configFile`, run as `caller`, sees on the host. The network,
the TLS loader and the platform are left as they are given. -/
def doctorEnv (h : Host) (caller : Caller) (configFile : String) (net : Network)
    (loadX509KeyPair : String → String → Option String) (goos : String) : Option Env :=
  (viperConfig configFile (h.tree.readFile caller configFile)).map fun config =>
    ⟨config, hostFileSystem h caller, net, loadX509KeyPair, goos⟩

/-- The keys of the configuration as `viper` stores them, under their paths. -/
def configEntries (authPass : String) : List (List String × YamlValue) :=
  [(["listen"], .text ":443"), (["tls"], .nested), (["tls", "cert"], .text "/etc/libyalink/cert.pem"),
    (["tls", "key"], .text "/etc/libyalink/key.pem"), (["auth"], .nested),
    (["auth", "type"], .text "password"), (["auth", "password"], .text authPass),
    (["masquerade"], .nested), (["masquerade", "type"], .text "string"),
    (["masquerade", "content"], .text "404 Not Found"), (["masquerade", "statuscode"], .text "404")]

/-- The password is base64: no quote, backslash or line break to break the YAML. -/
theorem Draw.authPass_chars (draw : Draw) :
    ∀ c ∈ draw.authPass.data, isYamlChar c ∧ c ≠ '"' ∧ c ≠ '\\' ∧ c ≠ '\n' := by
  have plain : ∀ c ∈ base64Alphabet ++ ['='], isYamlChar c ∧ c ≠ '"' ∧ c ≠ '\\' ∧ c ≠ '\n' := by
    decide
  intro c member
  exact plain c (List.mem_append.mpr ((base64_chars _ c member).imp id List.mem_singleton.mpr))

theorem Draw.generated_yaml (draw : Draw) : ∀ c ∈ draw.generated.data, isYamlChar c ∧ c ≠ '\n' := by
  have plain : ∀ c ∈ "0123456789-:TZ".data, isYamlChar c ∧ c ≠ '\n' := by decide
  exact fun c member => plain c (draw.generated_chars c member)

theorem length_le_utf8Len : ∀ cs : List Char, cs.length ≤ String.utf8Len cs
  | [] => le_refl 0
  | c :: cs => by
    have := length_le_utf8Len cs
    have := c.utf8Size_pos
    simp only [List.length_cons, String.utf8Len_cons]
    omega

/-- The password has 32 bytes: not empty, and not under the doctor's 8. -/
theorem Draw.authPass_size (draw : Draw) : 32 ≤ draw.authPass.utf8ByteSize := by
  have chars : (base64 draw.randomBytes).length = 32 := by
    rw [length_base64, draw.randomBytes_length]
  calc 32 = (base64 draw.randomBytes).length := chars.symm
    _ ≤ String.utf8Len (base64 draw.randomBytes) := length_le_utf8Len _
    _ = draw.authPass.utf8ByteSize := rfl

theorem yamlLine_password (p : List Char) (plain : ∀ c ∈ p, isYamlChar c ∧ c ≠ '"' ∧ c ≠ '\\') :
    yamlLine ([' ', ' ', 'p', 'a', 's', 's', 'w', 'o', 'r', 'd', ':', ' ', '"'] ++ p ++ ['"']) =
      some (some ⟨2, "password", .text ⟨p⟩⟩) := by
  have chars : ∀ c ∈ p, isYamlChar c = true := fun c m => (plain c m).1
  have value := yamlValue_quoted fun c m => (plain c m).2
  simp only [List.cons_append] at value
  simp +decide [yamlLine, value]
  exact chars

/-- The configuration a run writes reads back, with the password the run printed. -/
theorem yamlRead_configYaml (draw : Draw) :
    (yamlRead (configYaml draw.authPass draw.generated)).map (·.entries) =
      some (configEntries draw.authPass) := by
  have pass := draw.authPass_chars
  have time := draw.generated_yaml
  have comment : yamlLine ("# Generated: " ++ draw.generated).data = some none := by
    rw [String.data_append]
    refine yamlLine_comment (" Generated: ".data ++ draw.generated.data) ?_
    simp only [List.mem_append]
    rintro c (m | m)
    · revert c; decide
    · exact (time c m).1
  have password : yamlLine ("  password: \"" ++ draw.authPass ++ "\"").data =
      some (some ⟨2, "password", .text draw.authPass⟩) := by
    rw [String.data_append, String.data_append]
    exact yamlLine_password draw.authPass.data fun c m => ⟨(pass c m).1, (pass c m).2.1, (pass c m).2.2.1⟩
  rw [yamlRead, configYaml, splitLines_heredoc]
  · simp only [List.map_cons, List.map_nil, lexLines, comment, password, Option.some_bind]
    rfl
  · simp only [List.mem_cons, List.not_mem_nil, or_false]
    rintro line (rfl | rfl | rfl | rfl | rfl | rfl | rfl | rfl | rfl | rfl | rfl | rfl | rfl | rfl |
      rfl | rfl | rfl | rfl | rfl | rfl | rfl | rfl | rfl | rfl)
    all_goals first | decide | skip
    · simp only [String.data_append, List.mem_append, not_or]
      exact ⟨by decide, fun m => (time _ m).2 rfl⟩
    · simp only [String.data_append, List.mem_append, not_or]
      exact ⟨⟨by decide, fun m => (pass _ m).2.2.2 rfl⟩, by decide⟩

/-- What `viper` answers the doctor from the configuration's keys. -/
theorem configEntries_view {doc : YamlDoc} {authPass : String} (entries : doc.entries = configEntries authPass) :
    doc.isSet "tls" = true ∧ doc.isSet "acme" = false ∧
      doc.getString "tls.cert" = "/etc/libyalink/cert.pem" ∧
      doc.getString "tls.key" = "/etc/libyalink/key.pem" ∧ doc.getString "listen" = ":443" ∧
      doc.getString "auth.type" = "password" ∧ doc.getString "auth.password" = authPass := by
  obtain ⟨_, _⟩ := doc
  subst entries
  exact ⟨rfl, rfl, rfl, rfl, rfl, rfl, rfl⟩

/-- What `viper` holds after reading the configuration a first run writes. -/
structure ScriptConfig (config : ConfigSource) (authPass : String) : Prop where
  loaded : config.readInConfig = none
  file : config.configFileUsed = configPath
  tls : config.isSet "tls" = true
  acme : config.isSet "acme" = false
  cert : config.getString "tls.cert" = "/etc/libyalink/cert.pem"
  key : config.getString "tls.key" = "/etc/libyalink/key.pem"
  listen : config.getString "listen" = ":443"
  authType : config.getString "auth.type" = "password"
  password : config.getString "auth.password" = authPass

theorem viperConfig_configYaml (draw : Draw) :
    ∃ config, viperConfig configPath (.ok (configYaml draw.authPass draw.generated)) = some config ∧
      ScriptConfig config draw.authPass := by
  obtain ⟨doc, read, entries⟩ := Option.map_eq_some'.mp (yamlRead_configYaml draw)
  obtain ⟨tls, acme, cert, key, listen, authType, password⟩ := configEntries_view entries
  exact ⟨⟨none, configPath, doc.isSet, doc.getString,
      fun key => ⟨doc.getStringMapString key, doc.getStringMapString_nodup key⟩⟩,
    by simp [viperConfig, read], rfl, rfl, tls, acme, cert, key, listen, authType, password⟩

theorem ScriptConfig.checkConfigReadable_ok {config : ConfigSource} {authPass : String}
    (sc : ScriptConfig config authPass) :
    checkConfigReadable config = [⟨"Config File", .ok, "Config loaded from: /etc/libyalink/config.yaml"⟩] := by
  simp only [checkConfigReadable, sc.loaded, sc.file]
  rfl

theorem ScriptConfig.checkTLSACMEConflict_ok {config : ConfigSource} {authPass : String}
    (sc : ScriptConfig config authPass) :
    checkTLSACMEConflict config = [⟨"TLS/ACME", .ok, "TLS mode: using local certificate files."⟩] := by
  simp [checkTLSACMEConflict, sc.tls, sc.acme, sc.file, configPath, configDir]

theorem ScriptConfig.listenAddress_eq {config : ConfigSource} {authPass : String}
    (sc : ScriptConfig config authPass) (defaultListenAddr : String) :
    listenAddress defaultListenAddr config = ":443" := by
  simp [listenAddress, sc.listen]

/-- The drawn password is long enough for the doctor. -/
theorem ScriptConfig.checkAuthConfig_ok {config : ConfigSource} {draw : Draw}
    (sc : ScriptConfig config draw.authPass) (unicodeToLower : Char → Char) :
    checkAuthConfig unicodeToLower config = [⟨"Auth", .ok, "Password authentication configured."⟩] := by
  have size := draw.authPass_size
  have nonempty : draw.authPass ≠ "" := fun empty => absurd (empty ▸ size) (by decide)
  simp [checkAuthConfig, sc.authType, sc.password, nonempty, stringsToLower,
    show ¬ draw.authPass.utf8ByteSize < 8 by omega]

/-- Root, the service account, and the members of its group. -/
def Caller.Admitted : Caller → Prop
  | .root => True
  | .user name groups => name = serviceUser ∨ serviceUser ∈ groups

/-- The service's node grants an admitted caller what its owner and group bits both grant. -/
theorem serviceMeta_permits {caller : Caller} (admitted : caller.Admitted) {mode : Nat}
    {access : Access} (owner : mode.testBit (6 + access.bit)) (group : mode.testBit (3 + access.bit)) :
    (serviceMeta mode).permits caller access := by
  cases caller with
  | root => rfl
  | user name groups =>
    simp only [Meta.permits, serviceMeta]
    split_ifs with isOwner inGroup
    · exact owner
    · exact group
    · rcases admitted with same | member
      · exact absurd same.symm isOwner
      · exact absurd member inGroup

/-- A umask that leaves the owner's and the group's read bits leaves them on a new file. -/
theorem underUmask_readable {umask : Nat} (keepsRead : umask &&& 0o440 = 0) :
    (underUmask umask 0o666).testBit 8 ∧ (underUmask umask 0o666).testBit 5 := by
  have owner := congrArg (·.testBit 8) keepsRead
  have group := congrArg (·.testBit 5) keepsRead
  simp only [Nat.testBit_land, Nat.zero_testBit] at owner group
  simp_all +decide [underUmask, Nat.testBit_land, Nat.testBit_xor]

/-- A member of the service's group other than the service account gets the group's bits. -/
theorem serviceMeta_permits_member {name : String} {groups : List String}
    (member : name ≠ serviceUser ∧ serviceUser ∈ groups) (mode : Nat) (access : Access) :
    (serviceMeta mode).permits (.user name groups) access = mode.testBit (3 + access.bit) := by
  simp only [Meta.permits, serviceMeta, if_neg (Ne.symm member.1), if_pos member.2]

/-- A umask with the group's read bit (`0040`) set clears it on a new file. -/
theorem underUmask_groupDenied {umask : Nat} (clears : umask.testBit 5) :
    (underUmask umask 0o666).testBit 5 = false := by
  simp +decide [underUmask, Nat.testBit_land, Nat.testBit_xor, clears]

/-- Any other account gets the others' bits. -/
theorem serviceMeta_permits_other {name : String} {groups : List String}
    (outside : name ≠ serviceUser ∧ serviceUser ∉ groups) (mode : Nat) (access : Access) :
    (serviceMeta mode).permits (.user name groups) access = mode.testBit access.bit := by
  have notOwner : serviceUser ≠ name := Ne.symm outside.1
  simp only [Meta.permits, serviceMeta, if_neg notOwner, if_neg outside.2, Nat.zero_add]

theorem Tree.passes_congr {t t' : Tree} {caller : Caller} {dir : String} (same : t'.get dir = t.get dir) :
    t'.passes caller dir = t.passes caller dir := by
  simp only [Tree.passes, same]

theorem ancestors_configDir : ∀ path ∈ [certPath, keyPath, configPath],
    ancestors path = ["/etc", configDir] ∧ trimSlashes path = path := by
  decide

/-- A path that names something under the configuration directory passes `/etc`, then the
directory itself. -/
theorem ancestors_under_configDir (file : String) (named : ∃ c ∈ file.data, c ≠ '/') :
    ancestors (configDir ++ "/" ++ file) =
      ["/etc"] ++ configDir :: ancestorsFrom "/etc/libyalink/".data (dropTrailingSlashes file.data) := by
  have trimmed : dropTrailingSlashes (configDir ++ "/" ++ file).data =
      "/etc/libyalink/".data ++ dropTrailingSlashes file.data :=
    dropTrailingSlashes_append "/etc/libyalink/".data named
  unfold ancestors trimSlashes
  rw [trimmed]
  show ancestorsFrom [] ("/etc/libyalink/".data ++ _) = _
  rw [ancestorsFrom_append]
  rfl

theorem Tree.passes_of_not_file {t : Tree} (caller : Caller) {dir : String}
    (notFile : t.isFile dir = false) : t.passes caller dir = none ∨ t.passes caller dir = some .acces := by
  unfold Tree.passes
  cases found : t.get dir with
  | none => exact .inl rfl
  | some n =>
    cases n with
    | dir m => by_cases allowed : m.permits caller .search <;> simp [allowed]
    | file c m => simp [Tree.isFile, found] at notFile

/-- The files steps 3 and 4 make, under `umask`, on a host that has neither a certificate
nor a configuration. -/
structure FirstFiles (draw : Draw) (umask : Nat) (h : Host) : Prop where
  cert : h.tree.get certPath = some (.file draw.certificate (serviceMeta (underUmask umask 0o666)))
  key : h.tree.get keyPath = some (.file draw.privateKey (serviceMeta 0o640))
  config : h.tree.get configPath =
    some (.file (configYaml draw.authPass draw.generated) (serviceMeta 0o640))

theorem firstFiles_paths :
    ∀ q ∈ [certPath, keyPath, configPath], q ≠ sysctlConfPath ∧ q ∉ [unitPath, unitInDir] := by
  decide

theorem FirstFiles.keep {draw : Draw} {umask : Nat} {h h' : Host} (files : FirstFiles draw umask h)
    (same : ∀ q ∈ [certPath, keyPath, configPath], h'.tree.get q = h.tree.get q) :
    FirstFiles draw umask h' :=
  ⟨(same _ (by simp)).trans files.cert, (same _ (by simp)).trans files.key,
    (same _ (by simp)).trans files.config⟩

/-- A run that completes on a host with neither a certificate nor a configuration leaves
the key pair it drew and the configuration with the password it printed. -/
theorem setupLibyalink_first {docsDir : String} {draw : Draw} {h : Host}
    (completed : (setupLibyalink 0 docsDir draw h).stop = none)
    (noCert : h.tree.isFile certPath = false) (noConfig : h.tree.isFile configPath = false) :
    FirstFiles draw h.umask (setupLibyalink 0 docsDir draw h).host := by
  let Absent := fun h' : Host =>
    h'.tree.isFile certPath = false ∧ h'.tree.isFile configPath = false ∧ h'.umask = h.umask
  let Keys := fun h' : Host =>
    h'.tree.get certPath = some (.file draw.certificate (serviceMeta (underUmask h.umask 0o666))) ∧
      h'.tree.get keyPath = some (.file draw.privateKey (serviceMeta 0o640)) ∧
      h'.tree.isFile configPath = false
  have user : ∀ h', Absent h' → Absent (createUser h').host := by
    intro h' absent
    obtain ⟨_, eq, -⟩ := createUser_shape h'
    rwa [eq]
  have dir : ∀ h', Absent h' → Absent (setupConfigDir h').host := by
    intro h' ⟨cert, config, umask⟩
    obtain ⟨t, eq, keeps⟩ := setupConfigDir_treeStep h'
    rw [eq]
    exact ⟨by rw [Tree.isFile_congr (keeps _ (by decide))]; exact cert,
      by rw [Tree.isFile_congr (keeps _ (by decide))]; exact config, umask⟩
  have cert : ∀ h', (generateCertificate draw h').stop = none → Absent h' →
      Keys (generateCertificate draw h').host := by
    intro h' ok ⟨absent, config, umask⟩
    obtain ⟨t, eq, keeps⟩ := generateCertificate_treeStep draw h'
    obtain ⟨certNew, keyNew⟩ := generateCertificate_new absent ok
    refine ⟨umask ▸ certNew, keyNew, ?_⟩
    rw [eq, Tree.isFile_congr (keeps _ (by decide))]
    exact config
  have config : ∀ h', (createDefaultConfig draw h').stop = none → Keys h' →
      FirstFiles draw h.umask (createDefaultConfig draw h').host := by
    intro h' ok ⟨certKept, keyKept, absent⟩
    obtain ⟨t, eq, keeps⟩ := createDefaultConfig_treeStep draw h'
    refine ⟨?_, ?_, createDefaultConfig_new absent ok⟩
    · rw [eq, ← certKept]; exact keeps _ (by decide)
    · rw [eq, ← keyKept]; exact keeps _ (by decide)
  have tuning : ∀ h', FirstFiles draw h.umask h' → FirstFiles draw h.umask (applyNetworkTuning h').host := by
    intro h' files
    obtain ⟨t, k, eq, keeps⟩ := applyNetworkTuning_host h'
    exact files.keep fun q member => by
      rw [eq]; exact keeps q (firstFiles_paths q member).1
  have service : ∀ h', FirstFiles draw h.umask h' →
      FirstFiles draw h.umask (installService docsDir h').host := by
    intro h' files
    obtain ⟨t, eq, keeps⟩ := installService_treeStep docsDir h'
    exact files.keep fun q member => by
      rw [eq]; exact keeps q (firstFiles_paths q member).2
  have firewall : ∀ h', FirstFiles draw h.umask h' → FirstFiles draw h.umask (openFirewall h').host := by
    intro h' files
    obtain ⟨_, eq, -⟩ := openFirewall_shape h'
    exact files.keep fun q _ => by rw [eq]
  obtain ⟨_, _, _, _, _, _, ⟨-, rfl⟩, ⟨-, rfl⟩, ⟨c₃, rfl⟩, ⟨c₄, rfl⟩, ⟨-, rfl⟩, ⟨-, rfl⟩, -, host, -⟩ :=
    setupLibyalink_stages completed
  rw [host]
  exact firewall _ <| service _ <| tuning _ <| config _ c₄ <| cert _ c₃ <| dir _ <|
    user h ⟨noCert, noConfig, rfl⟩

/-- A file the caller reaches but may not read fails `checkFileReadable` at the open. -/
theorem checkFileReadable_denied {h : Host} {caller : Caller} {path content : String} {m : Meta}
    (name : String) (resolved : h.tree.resolve caller path = .ok (.file content m))
    (denied : m.permits caller .read = false) :
    checkFileReadable (hostFileSystem h caller) name path =
      ⟨name, .fail, "Cannot open " ++ path ++ ": " ++ pathError "open" path .acces⟩ := by
  simp [checkFileReadable, hostFileSystem, Tree.stat, Tree.openRead, resolved, denied, Node.meta]

/-- A readable, nonempty file passes `checkFileReadable`. -/
theorem checkFileReadable_host {h : Host} {caller : Caller} {path content : String} {m : Meta}
    (name : String) (resolved : h.tree.resolve caller path = .ok (.file content m))
    (readable : m.permits caller .read) (nonempty : content ≠ "") :
    checkFileReadable (hostFileSystem h caller) name path =
      ⟨name, .ok, "Readable (" ++ toString content.utf8ByteSize ++ " bytes): " ++ path⟩ := by
  have size : content.utf8ByteSize ≠ 0 := fun zero =>
    nonempty (String.ext (String.utf8Len_eq_zero.mp zero))
  simp [checkFileReadable, hostFileSystem, Tree.stat, Tree.openRead, resolved, readable, Node.size,
    Node.meta, size]

/-- After a completed run, an admitted caller that may pass `/etc` reaches the files the
script writes in the configuration directory. -/
theorem resolve_after_setup {docsDir : String} {draw : Draw} {h : Host}
    (completed : (setupLibyalink 0 docsDir draw h).stop = none) {caller : Caller}
    (admitted : caller.Admitted) (etc : h.tree.passes caller "/etc" = none) :
    ∀ path ∈ [certPath, keyPath, configPath], ∀ {n : Node},
      (setupLibyalink 0 docsDir draw h).host.tree.get path = some n →
      (setupLibyalink 0 docsDir draw h).host.tree.resolve caller path = .ok n := by
  have dir : (setupLibyalink 0 docsDir draw h).host.tree.get configDir = some (.dir (serviceMeta 0o750)) :=
    (installed_of_completed completed).ready.1.1.1.1.2
  intro path member n found
  refine Tree.resolve_of_passes (fun d within => ?_) (ancestors_configDir path member).2 found
  rw [(ancestors_configDir path member).1, List.mem_pair] at within
  rcases within with rfl | rfl
  · rw [Tree.passes_congr (setupLibyalink_get_of_not_touched 0 docsDir draw h (by decide))]
    exact etc
  · simp only [Tree.passes, dir]
    rw [if_pos (serviceMeta_permits admitted (by decide) (by decide))]

section FirstSetup

variable {docsDir : String} {draw : Draw} {h : Host} {caller : Caller}

/-- After a first setup, the doctor run by an admitted caller loads the configuration the
script wrote. -/
theorem doctorEnv_after_first_setup (completed : (setupLibyalink 0 docsDir draw h).stop = none)
    (noCert : h.tree.isFile certPath = false) (noConfig : h.tree.isFile configPath = false)
    (admitted : caller.Admitted) (etc : h.tree.passes caller "/etc" = none) (net : Network)
    (loadX509KeyPair : String → String → Option String) (goos : String) :
    ∃ config, ScriptConfig config draw.authPass ∧
      doctorEnv (setupLibyalink 0 docsDir draw h).host caller configPath net loadX509KeyPair goos =
        some ⟨config, hostFileSystem (setupLibyalink 0 docsDir draw h).host caller, net,
          loadX509KeyPair, goos⟩ := by
  have files := setupLibyalink_first completed noCert noConfig
  have read : (setupLibyalink 0 docsDir draw h).host.tree.readFile caller configPath =
      .ok (configYaml draw.authPass draw.generated) := by
    simp [Tree.readFile, Tree.openRead_of_resolve
      (resolve_after_setup completed admitted etc _ (by simp) files.config)
      (serviceMeta_permits admitted (by decide) (by decide))]
  obtain ⟨config, viper, sc⟩ := viperConfig_configYaml draw
  exact ⟨config, sc, by simp [doctorEnv, read, viper]⟩

/-- ... and finds the key readable and nonempty; the certificate's result turns on the mode the
umask gave it, and the pair's on the loader. -/
theorem checkTLSFiles_after_first_setup (completed : (setupLibyalink 0 docsDir draw h).stop = none)
    (noCert : h.tree.isFile certPath = false) (noConfig : h.tree.isFile configPath = false)
    (admitted : caller.Admitted) (etc : h.tree.passes caller "/etc" = none) {config : ConfigSource}
    (sc : ScriptConfig config draw.authPass) (net : Network)
    (loadX509KeyPair : String → String → Option String) (goos : String) :
    checkTLSFiles ⟨config, hostFileSystem (setupLibyalink 0 docsDir draw h).host caller, net,
        loadX509KeyPair, goos⟩ =
      [checkFileReadable (hostFileSystem (setupLibyalink 0 docsDir draw h).host caller) "TLS Cert"
          "/etc/libyalink/cert.pem",
        ⟨"TLS Key", .ok, "Readable (" ++ toString draw.privateKey.utf8ByteSize ++ " bytes): " ++
          "/etc/libyalink/key.pem"⟩,
        tlsPairResult ⟨config, hostFileSystem (setupLibyalink 0 docsDir draw h).host caller, net,
          loadX509KeyPair, goos⟩ "/etc/libyalink/cert.pem" "/etc/libyalink/key.pem"] := by
  have files := setupLibyalink_first completed noCert noConfig
  rw [checkTLSFiles_tls _ sc.tls]
  have keyResult := checkFileReadable_host (h := (setupLibyalink 0 docsDir draw h).host) "TLS Key"
    (resolve_after_setup completed admitted etc _ (by simp) files.key)
    (serviceMeta_permits admitted (by decide) (by decide)) draw.privateKey_ne
  simp only [sc.cert, sc.key, tlsFileResult]
  simp [certPath, keyPath, configDir] at keyResult
  simp [keyResult]

/-- ... and the certificate passes when the umask left read to its owner and group. -/
theorem checkCert_after_first_setup (completed : (setupLibyalink 0 docsDir draw h).stop = none)
    (noCert : h.tree.isFile certPath = false) (noConfig : h.tree.isFile configPath = false)
    (keepsRead : h.umask &&& 0o440 = 0) (admitted : caller.Admitted)
    (etc : h.tree.passes caller "/etc" = none) :
    checkFileReadable (hostFileSystem (setupLibyalink 0 docsDir draw h).host caller) "TLS Cert"
        "/etc/libyalink/cert.pem" =
      ⟨"TLS Cert", .ok, "Readable (" ++ toString draw.certificate.utf8ByteSize ++ " bytes): " ++
        "/etc/libyalink/cert.pem"⟩ :=
  checkFileReadable_host "TLS Cert"
    (resolve_after_setup completed admitted etc _ (by decide) (setupLibyalink_first completed noCert noConfig).cert)
    (serviceMeta_permits admitted (underUmask_readable keepsRead).1 (underUmask_readable keepsRead).2)
    draw.certificate_ne

/-- ... but fails for a member of the service's group when the umask cleared the group's read
bit: the script never gives `cert.pem` a mode of its own. -/
theorem checkCert_after_first_setup_denied (completed : (setupLibyalink 0 docsDir draw h).stop = none)
    (noCert : h.tree.isFile certPath = false) (noConfig : h.tree.isFile configPath = false)
    (clearsGroupRead : h.umask.testBit 5) {name : String} {groups : List String}
    (member : name ≠ serviceUser ∧ serviceUser ∈ groups)
    (etc : h.tree.passes (.user name groups) "/etc" = none) :
    checkFileReadable (hostFileSystem (setupLibyalink 0 docsDir draw h).host (.user name groups)) "TLS Cert"
        "/etc/libyalink/cert.pem" =
      ⟨"TLS Cert", .fail, "Cannot open /etc/libyalink/cert.pem: open /etc/libyalink/cert.pem: permission denied"⟩ := by
  have admitted : (Caller.user name groups).Admitted := .inr member.2
  refine (checkFileReadable_denied "TLS Cert" (resolve_after_setup completed admitted etc _ (by decide)
    (setupLibyalink_first completed noCert noConfig).cert)
    (by rw [serviceMeta_permits_member member]; exact underUmask_groupDenied clearsGroupRead)).trans ?_
  rfl

end FirstSetup

/-- After a first setup under a umask that leaves read to owner and group, every check of
the configuration, the TLS files and the authentication passes for an admitted caller. -/
theorem doctor_after_first_setup (docsDir : String) (draw : Draw) (h : Host)
    (completed : (setupLibyalink 0 docsDir draw h).stop = none)
    (noCert : h.tree.isFile certPath = false) (noConfig : h.tree.isFile configPath = false)
    (keepsRead : h.umask &&& 0o440 = 0) (caller : Caller) (admitted : caller.Admitted) (etc : h.tree.passes caller "/etc" = none)
    (net : Network) (loadX509KeyPair : String → String → Option String) (goos : String)
    (defaultListenAddr : String) (unicodeToLower : Char → Char) :
    ∃ env, doctorEnv (setupLibyalink 0 docsDir draw h).host caller configPath net loadX509KeyPair goos =
        some env ∧
      env.config.getString "auth.password" = draw.authPass ∧
      listenAddress defaultListenAddr env.config = ":443" ∧
      checkConfigReadable env.config =
        [⟨"Config File", .ok, "Config loaded from: /etc/libyalink/config.yaml"⟩] ∧
      checkTLSACMEConflict env.config = [⟨"TLS/ACME", .ok, "TLS mode: using local certificate files."⟩] ∧
      checkTLSFiles env =
        [⟨"TLS Cert", .ok, "Readable (" ++ toString draw.certificate.utf8ByteSize ++ " bytes): " ++
            "/etc/libyalink/cert.pem"⟩,
          ⟨"TLS Key", .ok, "Readable (" ++ toString draw.privateKey.utf8ByteSize ++ " bytes): " ++
            "/etc/libyalink/key.pem"⟩,
          tlsPairResult env "/etc/libyalink/cert.pem" "/etc/libyalink/key.pem"] ∧
      checkAuthConfig unicodeToLower env.config = [⟨"Auth", .ok, "Password authentication configured."⟩] := by
  obtain ⟨config, sc, env⟩ := doctorEnv_after_first_setup completed noCert noConfig admitted etc net
    loadX509KeyPair goos
  exact ⟨_, env, sc.password, sc.listenAddress_eq defaultListenAddr, sc.checkConfigReadable_ok,
    sc.checkTLSACMEConflict_ok,
    by rw [checkTLSFiles_after_first_setup completed noCert noConfig admitted etc sc net loadX509KeyPair goos,
      checkCert_after_first_setup completed noCert noConfig keepsRead admitted etc],
    sc.checkAuthConfig_ok unicodeToLower⟩

theorem doctor_after_first_setup_service :
    (setupLibyalink 0 "/opt/libyalink/docs" (exampleDraw 200) ubuntuHost).stop = none ∧
      ubuntuHost.tree.isFile certPath = false ∧ ubuntuHost.tree.isFile configPath = false ∧
      ubuntuHost.umask &&& 0o440 = 0 ∧ (Caller.user serviceUser [serviceUser]).Admitted ∧
      ubuntuHost.tree.passes (.user serviceUser [serviceUser]) "/etc" = none ∧
      ∃ env, doctorEnv (setupLibyalink 0 "/opt/libyalink/docs" (exampleDraw 200) ubuntuHost).host
          (.user serviceUser [serviceUser]) configPath ⟨fun _ => none, fun _ => none⟩ (fun _ _ => none)
          "linux" = some env ∧
        env.config.getString "auth.password" = (exampleDraw 200).authPass ∧
        listenAddress ":443" env.config = ":443" ∧
        checkConfigReadable env.config =
          [⟨"Config File", .ok, "Config loaded from: /etc/libyalink/config.yaml"⟩] ∧
        checkTLSACMEConflict env.config =
          [⟨"TLS/ACME", .ok, "TLS mode: using local certificate files."⟩] ∧
        checkTLSFiles env =
          [⟨"TLS Cert", .ok, "Readable (" ++ toString (exampleDraw 200).certificate.utf8ByteSize ++
              " bytes): " ++ "/etc/libyalink/cert.pem"⟩,
            ⟨"TLS Key", .ok, "Readable (" ++ toString (exampleDraw 200).privateKey.utf8ByteSize ++
              " bytes): " ++ "/etc/libyalink/key.pem"⟩,
            tlsPairResult env "/etc/libyalink/cert.pem" "/etc/libyalink/key.pem"] ∧
        checkAuthConfig id env.config = [⟨"Auth", .ok, "Password authentication configured."⟩] :=
  ⟨ubuntuHost_completed, rfl, rfl, rfl, .inl rfl, rfl,
    doctor_after_first_setup "/opt/libyalink/docs" (exampleDraw 200) ubuntuHost ubuntuHost_completed rfl rfl rfl
      (.user serviceUser [serviceUser]) (.inl rfl) rfl ⟨fun _ => none, fun _ => none⟩ (fun _ _ => none)
      "linux" ":443" id⟩

/-- Under a umask that clears the group's read bit, a member of the service's group running the
doctor after a first setup fails TLS Cert, though the key, which the script chmods, passes. -/
theorem doctor_cert_denied_to_group (docsDir : String) (draw : Draw) (h : Host)
    (completed : (setupLibyalink 0 docsDir draw h).stop = none)
    (noCert : h.tree.isFile certPath = false) (noConfig : h.tree.isFile configPath = false)
    (clearsGroupRead : h.umask.testBit 5) (name : String) (groups : List String)
    (member : name ≠ serviceUser ∧ serviceUser ∈ groups)
    (etc : h.tree.passes (.user name groups) "/etc" = none)
    (net : Network) (loadX509KeyPair : String → String → Option String) (goos : String) :
    ∃ env, doctorEnv (setupLibyalink 0 docsDir draw h).host (.user name groups) configPath net
        loadX509KeyPair goos = some env ∧
      checkTLSFiles env =
        [⟨"TLS Cert", .fail,
            "Cannot open /etc/libyalink/cert.pem: open /etc/libyalink/cert.pem: permission denied"⟩,
          ⟨"TLS Key", .ok, "Readable (" ++ toString draw.privateKey.utf8ByteSize ++ " bytes): " ++
            "/etc/libyalink/key.pem"⟩,
          tlsPairResult env "/etc/libyalink/cert.pem" "/etc/libyalink/key.pem"] := by
  have admitted : (Caller.user name groups).Admitted := .inr member.2
  obtain ⟨config, sc, env⟩ := doctorEnv_after_first_setup completed noCert noConfig admitted etc net
    loadX509KeyPair goos
  refine ⟨_, env, ?_⟩
  rw [checkTLSFiles_after_first_setup completed noCert noConfig admitted etc sc,
    checkCert_after_first_setup_denied completed noCert noConfig clearsGroupRead member etc]

/-- The example host, run as `sudo` runs it for a user whose umask is `077`. -/
def ubuntuHostPrivate : Host := { ubuntuHost with umask := 0o077 }

theorem doctor_cert_denied_to_group_ops :
    (setupLibyalink 0 "/opt/libyalink/docs" (exampleDraw 200) ubuntuHostPrivate).stop = none ∧
      ubuntuHostPrivate.tree.isFile certPath = false ∧ ubuntuHostPrivate.tree.isFile configPath = false ∧
      ubuntuHostPrivate.umask.testBit 5 ∧ ("ops" ≠ serviceUser ∧ serviceUser ∈ ["ops", serviceUser]) ∧
      ubuntuHostPrivate.tree.passes (.user "ops" ["ops", serviceUser]) "/etc" = none ∧
      ∃ env, doctorEnv (setupLibyalink 0 "/opt/libyalink/docs" (exampleDraw 200) ubuntuHostPrivate).host
          (.user "ops" ["ops", serviceUser]) configPath ⟨fun _ => none, fun _ => none⟩ (fun _ _ => none)
          "linux" = some env ∧
        checkTLSFiles env =
          [⟨"TLS Cert", .fail,
              "Cannot open /etc/libyalink/cert.pem: open /etc/libyalink/cert.pem: permission denied"⟩,
            ⟨"TLS Key", .ok, "Readable (" ++ toString (exampleDraw 200).privateKey.utf8ByteSize ++
              " bytes): " ++ "/etc/libyalink/key.pem"⟩,
            tlsPairResult env "/etc/libyalink/cert.pem" "/etc/libyalink/key.pem"] :=
  ⟨rfl, rfl, rfl, by decide, by decide, rfl,
    doctor_cert_denied_to_group "/opt/libyalink/docs" (exampleDraw 200) ubuntuHostPrivate rfl rfl rfl
      (by decide) "ops" ["ops", serviceUser] (by decide) rfl ⟨fun _ => none, fun _ => none⟩ (fun _ _ => none)
      "linux"⟩

/-- After a completed run, any other account is stopped at the configuration directory on
the way to anything under it, whatever the files there. -/
theorem resolve_outsider_after_setup {docsDir : String} {draw : Draw} {h : Host}
    (completed : (setupLibyalink 0 docsDir draw h).stop = none) (etc : h.tree.isFile "/etc" = false)
    {name : String} {groups : List String} (outside : name ≠ serviceUser ∧ serviceUser ∉ groups)
    {file : String} (named : ∃ c ∈ file.data, c ≠ '/') :
    (setupLibyalink 0 docsDir draw h).host.tree.resolve (.user name groups) (configDir ++ "/" ++ file) =
      .error .acces := by
  have dir : (setupLibyalink 0 docsDir draw h).host.tree.get configDir = some (.dir (serviceMeta 0o750)) :=
    (installed_of_completed completed).ready.1.1.1.1.2
  have refused : (setupLibyalink 0 docsDir draw h).host.tree.passes (.user name groups) configDir =
      some .acces := by
    simp only [Tree.passes, dir, serviceMeta_permits_other outside]
    rfl
  have etcKept : (setupLibyalink 0 docsDir draw h).host.tree.isFile "/etc" = false := by
    rw [Tree.isFile_congr (setupLibyalink_get_of_not_touched 0 docsDir draw h (by decide))]
    exact etc
  rcases Tree.passes_of_not_file (.user name groups) etcKept with through | closed
  · exact Tree.resolve_of_stopped (ancestors_under_configDir file named) (by simpa using through) refused
  · exact Tree.resolve_of_stopped (show ancestors (configDir ++ "/" ++ file) =
        [] ++ "/etc" :: configDir :: ancestorsFrom "/etc/libyalink/".data (dropTrailingSlashes file.data) from
          ancestors_under_configDir file named) (by simp) closed

/-- Any other account running the doctor as the script's last lines suggest is refused the
configuration, so three checks fail and no TLS file is looked at. -/
theorem doctor_after_setup_other (docsDir : String) (draw : Draw) (h : Host)
    (completed : (setupLibyalink 0 docsDir draw h).stop = none) (etc : h.tree.isFile "/etc" = false)
    (name : String) (groups : List String) (outside : name ≠ serviceUser ∧ serviceUser ∉ groups)
    (net : Network) (loadX509KeyPair : String → String → Option String) (goos : String)
    (unicodeToLower : Char → Char) :
    "       libyalink doctor -c /etc/libyalink/config.yaml" ∈ (setupLibyalink 0 docsDir draw h).output ∧
      ∃ env, doctorEnv (setupLibyalink 0 docsDir draw h).host (.user name groups) configPath net
          loadX509KeyPair goos = some env ∧
        checkConfigReadable env.config =
          [⟨"Config File", .fail,
            "Cannot read config file: open /etc/libyalink/config.yaml: permission denied"⟩] ∧
        checkTLSACMEConflict env.config =
          [⟨"TLS/ACME", .fail,
            "Neither 'tls' nor 'acme' is configured. One is required for the server to start."⟩] ∧
        checkTLSFiles env = [] ∧
        checkAuthConfig unicodeToLower env.config =
          [⟨"Auth", .fail, "No auth.type configured. Server requires authentication."⟩] := by
  obtain ⟨_, _, _, _, _, _, -, -, -, -, -, -, -, -, output⟩ := setupLibyalink_stages completed
  refine ⟨by rw [output]; simp [nextSteps], ?_⟩
  have resolved : (setupLibyalink 0 docsDir draw h).host.tree.resolve (.user name groups) configPath =
      .error .acces :=
    resolve_outsider_after_setup completed etc outside (show ∃ c ∈ "config.yaml".data, c ≠ '/' by decide)
  have read : (setupLibyalink 0 docsDir draw h).host.tree.readFile (.user name groups) configPath =
      .error "open /etc/libyalink/config.yaml: permission denied" := by
    simp only [Tree.readFile, Tree.openRead, resolved,
      show pathError "open" configPath .acces = "open /etc/libyalink/config.yaml: permission denied" by decide]
  refine ⟨⟨⟨some "open /etc/libyalink/config.yaml: permission denied", configPath, fun _ => false,
      fun _ => "", fun _ => .empty⟩, hostFileSystem (setupLibyalink 0 docsDir draw h).host (.user name groups),
    net, loadX509KeyPair, goos⟩, by simp [doctorEnv, read, viperConfig], rfl, rfl, rfl, rfl⟩

theorem doctor_after_setup_other_ubuntu :
    (setupLibyalink 0 "/opt/libyalink/docs" (exampleDraw 200) ubuntuHost).stop = none ∧
      ubuntuHost.tree.isFile "/etc" = false ∧ ("ubuntu" ≠ serviceUser ∧ serviceUser ∉ ["ubuntu", "sudo"]) ∧
      "       libyalink doctor -c /etc/libyalink/config.yaml" ∈
        (setupLibyalink 0 "/opt/libyalink/docs" (exampleDraw 200) ubuntuHost).output ∧
      ∃ env, doctorEnv (setupLibyalink 0 "/opt/libyalink/docs" (exampleDraw 200) ubuntuHost).host
          (.user "ubuntu" ["ubuntu", "sudo"]) configPath ⟨fun _ => none, fun _ => none⟩ (fun _ _ => none)
          "linux" = some env ∧
        checkConfigReadable env.config =
          [⟨"Config File", .fail,
            "Cannot read config file: open /etc/libyalink/config.yaml: permission denied"⟩] ∧
        checkTLSACMEConflict env.config =
          [⟨"TLS/ACME", .fail,
            "Neither 'tls' nor 'acme' is configured. One is required for the server to start."⟩] ∧
        checkTLSFiles env = [] ∧
        checkAuthConfig id env.config =
          [⟨"Auth", .fail, "No auth.type configured. Server requires authentication."⟩] :=
  ⟨ubuntuHost_completed, rfl, by decide,
    doctor_after_setup_other "/opt/libyalink/docs" (exampleDraw 200) ubuntuHost ubuntuHost_completed rfl "ubuntu"
      ["ubuntu", "sudo"] (by decide) ⟨fun _ => none, fun _ => none⟩ (fun _ _ => none) "linux" id⟩


end LibyaLink.Setup
