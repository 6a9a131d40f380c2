import LibyaLink.Setup.Frame

/-! Running the setup script again. A completed run leaves the host `Installed`, and from an
installed host every step is a no-op. -/

namespace LibyaLink.Setup

open LibyaLink.Go

theorem cpTarget_unit (t : Tree) {src : String} (named : baseName src = "libyalink.service") :
    t.cpTarget src unitPath = unitPath ∨ t.cpTarget src unitPath = unitInDir := by
  rcases t.cpTarget_cases src unitPath with same | same
  · exact .inl same
  · exact .inr (by rw [same, named, unitInDir, String.append_assoc]; rfl)

theorem unit_targets_parent {T : String} (target : T = unitPath ∨ T = unitInDir) : dirName T ≠ T := by
  rcases target with rfl | rfl <;> decide

theorem tmpUnit_ne_target {T : String} (target : T = unitPath ∨ T = unitInDir) : tmpUnit ≠ T := by
  rcases target with rfl | rfl <;> decide

/-- What a copy onto the unit leaves reads as a file. -/
theorem isFile_after_cp {t t' : Tree} {src : String} {umask : Nat} (ran : t.cp src unitPath umask = some t') :
    t'.isFile (t.cpTarget src unitPath) := by
  obtain ⟨_, _, _, _, written⟩ := Tree.cp_eq_write ran
  obtain ⟨m, file⟩ := Tree.write_file written
  simp [Tree.isFile, file]

/-- A copy whose source is where the previous copy landed is a copy onto itself, and fails. -/
theorem cp_onto_itself {t t' : Tree} {src src' : String} {umask : Nat} (ran : t.cp src unitPath umask = some t')
    (named : baseName src' = baseName src) (landed : src' = t.cpTarget src unitPath) :
    t'.cp src' unitPath umask = none := by
  obtain ⟨_, _, _, _, written⟩ := Tree.cp_eq_write ran
  obtain ⟨m, file⟩ := Tree.write_file written
  rw [← landed] at file
  simp [Tree.cp, file, Tree.cpTarget_after_cp ran src' named, ← landed]

/-- Step 6 run again on what it left fails or changes nothing: the file it copied or wrote is
there, or the copy's source is now the unit itself. -/
theorem unitInstall_again {docsDir : String} {umask : Nat} {t t' : Tree}
    (ran : (unitInstall docsDir umask t).2 = some t') :
    (unitInstall docsDir umask t').2 = none ∨ (unitInstall docsDir umask t').2 = some t' := by
  have docsNamed := baseName_docsUnit docsDir
  unfold unitInstall at ran
  split_ifs at ran with docs tmp
  · obtain ⟨_, _, _, distinct, written⟩ := Tree.cp_eq_write ran
    have kept := Tree.get_of_write written (Ne.symm distinct)
    have docs' : t'.isFile (docsDir ++ "/libyalink.service") := by rwa [Tree.isFile_congr kept]
    right
    simp only [unitInstall, docs', if_true]
    exact Tree.cp_again ran kept (unit_targets_parent (cpTarget_unit t docsNamed))
  · have target := cpTarget_unit t (show baseName tmpUnit = "libyalink.service" by decide)
    obtain ⟨_, _, _, _, written⟩ := Tree.cp_eq_write ran
    by_cases landed : docsDir ++ "/libyalink.service" = t.cpTarget tmpUnit unitPath
    · have docs' : t'.isFile (docsDir ++ "/libyalink.service") := landed ▸ isFile_after_cp ran
      left
      simp only [unitInstall, docs', if_true]
      exact cp_onto_itself ran (by rw [docsNamed]; decide) landed
    · have keptDocs := Tree.get_of_write written landed
      have keptTmp := Tree.get_of_write written (tmpUnit_ne_target target)
      have docs' : ¬t'.isFile (docsDir ++ "/libyalink.service") := by rwa [Tree.isFile_congr keptDocs]
      have tmp' : t'.isFile tmpUnit := by rwa [Tree.isFile_congr keptTmp]
      right
      simp only [unitInstall, docs', tmp', if_false, if_true]
      exact Tree.cp_again ran keptTmp (unit_targets_parent target)
  · obtain ⟨m, file⟩ := Tree.write_file ran
    by_cases landed : docsDir ++ "/libyalink.service" = unitPath
    · have docs' : t'.isFile (docsDir ++ "/libyalink.service") := by simp [Tree.isFile, landed, file]
      left
      simp only [unitInstall, docs', if_true]
      have notDir : ∀ dm, t'.get unitPath ≠ some (.dir dm) := fun dm found => by
        rw [file] at found; cases found
      simp [Tree.cp, landed, file, Tree.cpTarget_of_not_dir notDir]
    · have keptDocs := Tree.get_of_write ran landed
      have keptTmp := Tree.get_of_write ran (show tmpUnit ≠ unitPath by decide)
      have docs' : ¬t'.isFile (docsDir ++ "/libyalink.service") := by rwa [Tree.isFile_congr keptDocs]
      have tmp' : ¬t'.isFile tmpUnit := by rwa [Tree.isFile_congr keptTmp]
      right
      simp only [unitInstall, docs', tmp', if_false]
      obtain ⟨pm, dir⟩ := Tree.write_parent ran
      exact Tree.write_of_get _ ⟨pm, (Tree.get_of_write ran (by decide)).trans dir⟩ file

theorem unitInstall_set {docsDir : String} {umask : Nat} {t t' : Tree}
    (ran : (unitInstall docsDir umask t).2 = some t') :
    ∃ q, (q = unitPath ∨ q = unitInDir) ∧ ∃ n, t' = t.set q n := by
  unfold unitInstall at ran
  split_ifs at ran
  · obtain ⟨_, _, _, _, written⟩ := Tree.cp_eq_write ran
    exact ⟨_, cpTarget_unit t (baseName_docsUnit docsDir), Tree.write_eq_set written⟩
  · obtain ⟨_, _, _, _, written⟩ := Tree.cp_eq_write ran
    exact ⟨_, cpTarget_unit t (show baseName tmpUnit = "libyalink.service" by decide),
      Tree.write_eq_set written⟩
  · exact ⟨_, .inl rfl, Tree.write_eq_set ran⟩

/-- The service account is there. -/
def AccountReady (h : Host) : Prop := serviceUser ∈ h.accounts

/-- ... and the configuration directory is the service's, mode `750`. -/
def DirReady (h : Host) : Prop :=
  AccountReady h ∧ h.tree.get configDir = some (.dir ⟨serviceUser, serviceUser, 0o750⟩)

/-- ... and the certificate is a file. -/
def CertReady (h : Host) : Prop := DirReady h ∧ h.tree.isFile certPath

/-- ... and the configuration is a file. -/
def FilesReady (h : Host) : Prop := CertReady h ∧ h.tree.isFile configPath

/-- ... and the tuning file is in place, and the kernel holds what `sysctl --system` applies. -/
def Tuned (h : Host) : Prop :=
  FilesReady h ∧ (∃ m, h.tree.get sysctlConfPath = some (.file sysctlConf m)) ∧
    (∃ m, h.tree.get "/etc/sysctl.d" = some (.dir m)) ∧ sysctlSystem h.tree h.kernel = (h.kernel, false)

/-- ... and installing the unit again changes nothing. -/
def ServiceReady (docsDir : String) (h : Host) : Prop :=
  Tuned h ∧ (installService docsDir h).host = h

/-- What a completed run leaves: everything the script's tests and commands read is as the
run made it. -/
structure Installed (docsDir : String) (h : Host) : Prop where
  ready : ServiceReady docsDir h
  firewall : ufwGuard h → "443/udp" ∈ h.ufwRules

/-- The facts up to the files, on a host with the same accounts and the same nodes at the
four paths they read. -/
theorem FilesReady.keep {h h' : Host} (ready : FilesReady h) (accounts : h'.accounts = h.accounts)
    (kept : ∀ q ∈ [configDir, certPath, configPath], h'.tree.get q = h.tree.get q) : FilesReady h' :=
  ⟨⟨⟨by unfold AccountReady; rw [accounts]; exact ready.1.1.1,
        by rw [kept configDir (by simp)]; exact ready.1.1.2⟩,
      by rw [Tree.isFile_congr (kept certPath (by simp))]; exact ready.1.2⟩,
    by rw [Tree.isFile_congr (kept configPath (by simp))]; exact ready.2⟩

theorem setMeta_isFile {t t' : Tree} {path : String} {change : Meta → Meta}
    (ran : t.setMeta path change = some t') (q : String) : t'.isFile q = t.isFile q := by
  obtain ⟨n, found, changed⟩ := Tree.setMeta_get ran
  by_cases same : q = path
  · subst same; cases n <;> simp [Tree.isFile, found, changed, Node.withMeta]
  · exact Tree.isFile_congr (Tree.get_of_setMeta ran same)

theorem chownService_isFile {path : String} {h h' : Host} (ran : chownService path h = some h')
    (q : String) : h'.tree.isFile q = h.tree.isFile q := by
  unfold chownService at ran
  split_ifs at ran
  obtain ⟨t, changed, rfl⟩ := onTree_eq ran
  exact setMeta_isFile changed q

theorem chmod_isFile {mode : Nat} {path : String} {h h' : Host} (ran : chmod mode path h = some h')
    (q : String) : h'.tree.isFile q = h.tree.isFile q := by
  obtain ⟨t, changed, rfl⟩ := onTree_eq ran
  exact setMeta_isFile changed q

theorem write_isFile {path content : String} {mode : Nat} {h h' : Host}
    (ran : Host.write path content mode h = some h') : h'.tree.isFile path := by
  obtain ⟨t, changed, rfl⟩ := onTree_eq ran
  obtain ⟨m, file⟩ := Tree.write_file changed
  simp [Tree.isFile, file]

/-- What `chown libyalink:libyalink` and `chmod mode` leave on a node. -/
def serviceMeta (mode : Nat) : Meta := ⟨serviceUser, serviceUser, mode⟩

/-- Step 3 on a host without a certificate: a new key pair, the service's, the key `0640`
and the certificate with the bits of `0666` the umask leaves. -/
theorem generateCertificate_new {draw : Draw} {h : Host} (absent : h.tree.isFile certPath = false)
    (ok : (generateCertificate draw h).stop = none) :
    (generateCertificate draw h).host.tree.get certPath =
        some (.file draw.certificate (serviceMeta (underUmask h.umask 0o666))) ∧
      (generateCertificate draw h).host.tree.get keyPath = some (.file draw.privateKey (serviceMeta 0o640)) := by
  unfold generateCertificate at ok ⊢
  rw [if_neg (by simp [absent])] at ok ⊢
  obtain ⟨done, host⟩ := step_ok ok
  obtain ⟨h₁, cmdKey, done, host₁⟩ := commands_cons_ok done
  obtain ⟨h₂, cmdCert, done, host₂⟩ := commands_cons_ok done
  obtain ⟨h₃, cmdOwn, done, host₃⟩ := commands_cons_ok done
  obtain ⟨h₄, cmdMode, -, host₄⟩ := commands_cons_ok done
  obtain ⟨hm, ownCert, ownKey⟩ := Option.bind_eq_some.mp cmdOwn
  rw [host, host₁, host₂, host₃, host₄]
  unfold chownService at ownCert ownKey
  split_ifs at ownCert ownKey
  obtain ⟨t₁, wroteKey, rfl⟩ := onTree_eq cmdKey
  obtain ⟨t₂, wroteCert, rfl⟩ := onTree_eq cmdCert
  obtain ⟨t₃, ownedCert, rfl⟩ := onTree_eq ownCert
  obtain ⟨t₄, ownedKey, rfl⟩ := onTree_eq ownKey
  obtain ⟨t₅, moded, rfl⟩ := onTree_eq cmdMode
  have stillAbsent : t₁.isFile certPath = false := by
    rwa [Tree.isFile_congr (Tree.get_of_write wroteKey (by decide))]
  obtain ⟨m, key₁⟩ := Tree.write_file wroteKey
  have cert₃ := Tree.setMeta_file (Tree.write_new stillAbsent wroteCert) ownedCert
  have key₄ := Tree.setMeta_file ((Tree.get_of_setMeta ownedCert (by decide)).trans
    ((Tree.get_of_write wroteCert (by decide)).trans key₁)) ownedKey
  exact ⟨(Tree.get_of_setMeta moded (by decide)).trans ((Tree.get_of_setMeta ownedKey (by decide)).trans cert₃),
    Tree.setMeta_file key₄ moded⟩

/-- Step 4 on a host without a configuration: the configuration with the drawn password, the
service's, readable by its group only. -/
theorem createDefaultConfig_new {draw : Draw} {h : Host} (absent : h.tree.isFile configPath = false)
    (ok : (createDefaultConfig draw h).stop = none) :
    (createDefaultConfig draw h).host.tree.get configPath =
      some (.file (configYaml draw.authPass draw.generated) (serviceMeta 0o640)) := by
  unfold createDefaultConfig at ok ⊢
  rw [if_neg (by simp [absent])] at ok ⊢
  obtain ⟨done, host⟩ := step_ok ok
  obtain ⟨h₁, cmdWrite, done, host₁⟩ := commands_cons_ok done
  obtain ⟨h₂, cmdOwn, done, host₂⟩ := commands_cons_ok done
  obtain ⟨h₃, cmdMode, -, host₃⟩ := commands_cons_ok done
  rw [host, host₁, host₂, host₃]
  unfold chownService at cmdOwn
  split_ifs at cmdOwn
  obtain ⟨t₁, written, rfl⟩ := onTree_eq cmdWrite
  obtain ⟨t₂, owned, rfl⟩ := onTree_eq cmdOwn
  obtain ⟨t₃, moded, rfl⟩ := onTree_eq cmdMode
  exact Tree.setMeta_file (Tree.setMeta_file (Tree.write_new absent written) owned) moded

/-- Step 1 always leaves the account. -/
theorem createUser_stage (h : Host) : AccountReady (createUser h).host := by
  obtain ⟨_, eq, -, present⟩ := createUser_shape h
  rw [AccountReady, eq]; exact present

theorem setupConfigDir_stage (h : Host) (ok : (setupConfigDir h).stop = none)
    (account : AccountReady h) : DirReady (setupConfigDir h).host := by
  obtain ⟨t, eq, -⟩ := setupConfigDir_treeStep h
  refine ⟨by rw [AccountReady, eq]; exact account, ?_⟩
  obtain ⟨done, host⟩ := step_ok ok
  obtain ⟨h₁, cmdMake, done, host₁⟩ := commands_cons_ok done
  obtain ⟨h₂, cmdOwn, done, host₂⟩ := commands_cons_ok done
  obtain ⟨h₃, cmdMode, -, host₃⟩ := commands_cons_ok done
  have final : (setupConfigDir h).host = h₃ := host.trans (host₁.trans (host₂.trans host₃))
  unfold chownService at cmdOwn
  split_ifs at cmdOwn
  obtain ⟨t₁, made, rfl⟩ := onTree_eq cmdMake
  obtain ⟨t₂, owned, rfl⟩ := onTree_eq cmdOwn
  obtain ⟨t₃, moded, rfl⟩ := onTree_eq cmdMode
  obtain ⟨m, dir⟩ := Tree.mkdirP_dir made
  obtain ⟨n₂, found₂, changed₂⟩ := Tree.setMeta_get owned
  obtain ⟨n₃, found₃, changed₃⟩ := Tree.setMeta_get moded
  rw [dir] at found₂; cases found₂
  rw [changed₂] at found₃; cases found₃
  rw [final]
  exact changed₃

theorem generateCertificate_stage (draw : Draw) (h : Host)
    (ok : (generateCertificate draw h).stop = none) (ready : DirReady h) :
    CertReady (generateCertificate draw h).host := by
  obtain ⟨t, eq, keeps⟩ := generateCertificate_treeStep draw h
  refine ⟨⟨by rw [eq]; exact ready.1, by rw [eq, keeps _ (by decide)]; exact ready.2⟩, ?_⟩
  unfold generateCertificate at ok ⊢
  split_ifs at ok ⊢ with present
  · exact present
  obtain ⟨done, host⟩ := step_ok ok
  obtain ⟨h₁, -, done, host₁⟩ := commands_cons_ok done
  obtain ⟨h₂, cmdCert, done, host₂⟩ := commands_cons_ok done
  obtain ⟨h₃, cmdOwn, done, host₃⟩ := commands_cons_ok done
  obtain ⟨h₄, cmdMode, -, host₄⟩ := commands_cons_ok done
  obtain ⟨hm, ownCert, ownKey⟩ := Option.bind_eq_some.mp cmdOwn
  rw [host, host₁, host₂, host₃, host₄]
  show h₄.tree.isFile certPath
  rw [chmod_isFile cmdMode, chownService_isFile ownKey, chownService_isFile ownCert]
  exact write_isFile cmdCert

theorem createDefaultConfig_stage (draw : Draw) (h : Host)
    (ok : (createDefaultConfig draw h).stop = none) (ready : CertReady h) :
    FilesReady (createDefaultConfig draw h).host := by
  obtain ⟨t, eq, keeps⟩ := createDefaultConfig_treeStep draw h
  refine ⟨⟨⟨by rw [eq]; exact ready.1.1, by rw [eq, keeps _ (by decide)]; exact ready.1.2⟩,
    by rw [eq, Tree.isFile_congr (keeps _ (by decide))]; exact ready.2⟩, ?_⟩
  unfold createDefaultConfig at ok ⊢
  split_ifs at ok ⊢ with present
  · exact present
  obtain ⟨done, host⟩ := step_ok ok
  obtain ⟨h₁, cmdWrite, done, host₁⟩ := commands_cons_ok done
  obtain ⟨h₂, cmdOwn, done, host₂⟩ := commands_cons_ok done
  obtain ⟨h₃, cmdMode, -, host₃⟩ := commands_cons_ok done
  rw [host, host₁, host₂, host₃]
  show h₃.tree.isFile configPath
  rw [chmod_isFile cmdMode, chownService_isFile cmdOwn]
  exact write_isFile cmdWrite

/-- `sysctl --system` applied once more to what it left sets nothing new and fails as little. -/
theorem sysctlSystem_again (t : Tree) (k : Kernel) (passed : (sysctlSystem t k).2 = false) :
    sysctlSystem t (sysctlSystem t k).1 = ((sysctlSystem t k).1, false) := by
  unfold sysctlSystem at *
  rw [applySettings_idem, ← passed]

theorem applyNetworkTuning_stage (h : Host) (ok : (applyNetworkTuning h).stop = none)
    (ready : FilesReady h) : Tuned (applyNetworkTuning h).host := by
  unfold applyNetworkTuning at ok ⊢
  cases written : h.tree.write sysctlConfPath sysctlConf (h.created 0o666) with
  | none => simp [written] at ok
  | some t =>
  simp only [written] at ok ⊢
  split_ifs at ok ⊢ with failed
  have passed : (sysctlSystem t h.kernel).2 = false := by simpa using failed
  obtain ⟨m, file⟩ := Tree.write_file written
  obtain ⟨pm, dir⟩ := Tree.write_parent written
  refine ⟨ready.keep rfl fun q member => Tree.get_of_write written ?_, ⟨m, file⟩,
    ⟨pm, (Tree.get_of_write written (by decide)).trans dir⟩, ?_⟩
  · simp only [List.mem_cons, List.mem_singleton, List.not_mem_nil, or_false] at member
    rcases member with rfl | rfl | rfl <;> decide
  · dsimp only
    exact sysctlSystem_again t h.kernel passed

theorem installService_stage (docsDir : String) (h : Host) (ok : (installService docsDir h).stop = none)
    (ready : Tuned h) : ServiceReady docsDir (installService docsDir h).host := by
  unfold installService at ok ⊢
  cases ran : (unitInstall docsDir h.umask h.tree).2 with
  | none => simp [ran] at ok
  | some t' =>
  simp only [ran]
  obtain ⟨q, target, n, rfl⟩ := unitInstall_set ran
  have far : dirName q ∉ sysctlDirs ∧ q ≠ "/etc/sysctl.conf" := by rcases target with rfl | rfl <;> decide
  have off : configDir ≠ q ∧ certPath ≠ q ∧ configPath ≠ q ∧ sysctlConfPath ≠ q ∧ "/etc/sysctl.d" ≠ q := by
    rcases target with rfl | rfl <;> decide
  obtain ⟨files, ⟨m, tuning⟩, ⟨dm, dir⟩, kernel⟩ := ready
  refine ⟨⟨files.keep rfl ?_, ⟨m, by simp [off.2.2.2.1, tuning]⟩, ⟨dm, by simp [off.2.2.2.2, dir]⟩,
    (sysctlSystem_set h.tree h.kernel n far.1 far.2).trans kernel⟩, ?_⟩
  · simp [off.1, off.2.1, off.2.2.1]
  · unfold installService
    dsimp only
    rcases unitInstall_again ran with again | again <;> simp only [again]

theorem installService_ufwRules (docsDir : String) (h : Host) (rules : List String) :
    (installService docsDir { h with ufwRules := rules }).host =
      { (installService docsDir h).host with ufwRules := rules } := by
  unfold installService; dsimp only; cases (unitInstall docsDir h.umask h.tree).2 <;> rfl

theorem openFirewall_stage (docsDir : String) (h : Host) (ready : ServiceReady docsDir h) :
    Installed docsDir (openFirewall h).host := by
  obtain ⟨rules, eq, -, opened⟩ := openFirewall_shape h
  rw [eq]
  exact ⟨⟨ready.1, by rw [installService_ufwRules, ready.2]⟩, opened⟩

/-- A run that completes leaves the host installed. -/
theorem installed_of_completed {docsDir : String} {draw : Draw} {h : Host}
    (completed : (setupLibyalink 0 docsDir draw h).stop = none) :
    Installed docsDir (setupLibyalink 0 docsDir draw h).host := by
  obtain ⟨_, _, _, _, _, _, ⟨-, rfl⟩, ⟨c₂, rfl⟩, ⟨c₃, rfl⟩, ⟨c₄, rfl⟩, ⟨c₅, rfl⟩, ⟨c₆, rfl⟩, -, host, -⟩ :=
    setupLibyalink_stages completed
  rw [host]
  exact openFirewall_stage docsDir _ <| installService_stage docsDir _ c₆ <|
    applyNetworkTuning_stage _ c₅ <| createDefaultConfig_stage draw _ c₄ <|
    generateCertificate_stage draw _ c₃ <| setupConfigDir_stage _ c₂ <| createUser_stage h

/-- `ufw status | grep -q "active"` also matches `Status: inactive`: the guard holds exactly
when ufw is installed. -/
theorem ufwGuard_eq (h : Host) : ufwGuard h = h.ufwInstalled := by
  unfold ufwGuard Host.ufwStatus
  split_ifs <;> simp [show stringsContains "Status: active" "active" = true by decide,
    show stringsContains "Status: inactive" "active" = true by decide]

/-- The firewall step adds the rule for UDP 443 exactly when ufw is installed and the rule is
not there yet. -/
theorem openFirewall_ufwRules (h : Host) :
    (openFirewall h).host.ufwRules =
      if h.ufwInstalled ∧ "443/udp" ∉ h.ufwRules then h.ufwRules ++ ["443/udp"] else h.ufwRules := by
  unfold openFirewall Host.ufwAllow
  rw [ufwGuard_eq]
  split_ifs <;> simp_all

/-- A completed run adds the rule for UDP 443 exactly when ufw is installed and the rule is
not there yet, active or not, though the script's comment says "if UFW is active". -/
theorem setupLibyalink_ufwRules (docsDir : String) (draw : Draw) (h : Host)
    (completed : (setupLibyalink 0 docsDir draw h).stop = none) :
    (setupLibyalink 0 docsDir draw h).host.ufwRules =
      if h.ufwInstalled ∧ "443/udp" ∉ h.ufwRules then h.ufwRules ++ ["443/udp"] else h.ufwRules := by
  let Same := fun h' : Host => h'.ufwRules = h.ufwRules ∧ h'.ufwInstalled = h.ufwInstalled
  have tree : ∀ {paths : List String} {s : Host → Run}, TreeStep paths s → ∀ h', Same h' → Same (s h').host :=
    fun step h' same => by obtain ⟨_, eq, -⟩ := step h'; rw [eq]; exact same
  have user : ∀ h', Same h' → Same (createUser h').host := fun h' same => by
    obtain ⟨_, eq, -⟩ := createUser_shape h'; rw [eq]; exact same
  have tuning : ∀ h', Same h' → Same (applyNetworkTuning h').host := fun h' same => by
    obtain ⟨_, _, eq, -⟩ := applyNetworkTuning_host h'; rw [eq]; exact same
  obtain ⟨_, _, _, _, _, _, ⟨-, rfl⟩, ⟨-, rfl⟩, ⟨-, rfl⟩, ⟨-, rfl⟩, ⟨-, rfl⟩, ⟨-, rfl⟩, -, host, -⟩ :=
    setupLibyalink_stages completed
  obtain ⟨rules, installed⟩ := tree (installService_treeStep docsDir) _ <| tuning _ <|
    tree (createDefaultConfig_treeStep draw) _ <| tree (generateCertificate_treeStep draw) _ <|
    tree setupConfigDir_treeStep _ <| user h ⟨rfl, rfl⟩
  rw [host, openFirewall_ufwRules, rules, installed]

theorem setupLibyalink_ufwRules_ubuntu :
    (setupLibyalink 0 "/opt/libyalink/docs" (exampleDraw 200) ubuntuHost).stop = none ∧
      (setupLibyalink 0 "/opt/libyalink/docs" (exampleDraw 200) ubuntuHost).host.ufwRules =
        if ubuntuHost.ufwInstalled ∧ "443/udp" ∉ ubuntuHost.ufwRules then
          ubuntuHost.ufwRules ++ ["443/udp"] else ubuntuHost.ufwRules :=
  ⟨ubuntuHost_completed, setupLibyalink_ufwRules "/opt/libyalink/docs" (exampleDraw 200) ubuntuHost ubuntuHost_completed⟩

end LibyaLink.Setup
