import LibyaLink.Setup.Script

/-! What each step of the setup script changes, and so what a whole run never touches: seven
paths of the file tree, the service account, the kernel's parameters and one firewall rule.
A `config.yaml` or a `cert.pem` that is there before a run is never written. -/

namespace LibyaLink.Setup

/-- Where `cp` puts the unit when `/etc/systemd/system/libyalink.service` is a directory. -/
def unitInDir : String := unitPath ++ "/libyalink.service"

/-- The paths a run of the script may change. -/
def touched : List String :=
  [configDir, keyPath, certPath, configPath, sysctlConfPath, unitPath, unitInDir]

theorem baseName_slash (dir name : String) (plain : '/' ∉ name.data) :
    baseName (dir ++ "/" ++ name) = name := by
  have all : ∀ c ∈ name.data.reverse, decide (c ≠ '/') = true := by
    intro c member
    have : c ∈ name.data := List.mem_reverse.mp member
    simpa using fun (same : c = '/') => plain (same ▸ this)
  have reversed : (dir ++ "/" ++ name).data.reverse = name.data.reverse ++ '/' :: dir.data.reverse := by
    simp [String.data_append]
  unfold baseName
  rw [reversed, List.takeWhile_append_of_pos all, List.takeWhile_cons_of_neg (by simp),
    List.append_nil, List.reverse_reverse]

theorem baseName_docsUnit (docsDir : String) :
    baseName (docsDir ++ "/libyalink.service") = "libyalink.service" :=
  by simpa only [String.append_assoc] using baseName_slash docsDir "libyalink.service" (by decide)

theorem onTree_eq {change : Tree → Option Tree} {h h' : Host} (ran : h.onTree change = some h') :
    ∃ t, change h.tree = some t ∧ h' = { h with tree := t } := by
  obtain ⟨t, changed, rfl⟩ := Option.map_eq_some'.mp ran
  exact ⟨t, changed, rfl⟩

/-- A command on the tree keeps the rest of the host, and every node off `paths`. -/
def TreeCommand (paths : List String) (command : Host → Option Host) : Prop :=
  ∀ h h', command h = some h' → ∃ t, h' = { h with tree := t } ∧ ∀ q ∉ paths, t.get q = h.tree.get q

theorem treeCommand_onTree {paths : List String} {change : Host → Tree → Option Tree}
    (keeps : ∀ h t', change h h.tree = some t' → ∀ q ∉ paths, t'.get q = h.tree.get q) :
    TreeCommand paths fun h => h.onTree (change h) := by
  intro h h' ran
  obtain ⟨t, changed, rfl⟩ := onTree_eq ran
  exact ⟨t, rfl, keeps _ _ changed⟩

theorem treeCommand_setMeta {paths : List String} {path : String} (mem : path ∈ paths)
    (change : Meta → Meta) : TreeCommand paths (Host.onTree (·.setMeta path change)) :=
  treeCommand_onTree fun _ _ ran _ other => Tree.get_of_setMeta ran fun same => other (same ▸ mem)

theorem treeCommand_chownService {paths : List String} {path : String} (mem : path ∈ paths) :
    TreeCommand paths (chownService path) := by
  intro h h' ran
  unfold chownService at ran
  split_ifs at ran
  exact treeCommand_setMeta mem _ h h' ran

theorem treeCommand_write {paths : List String} {path : String} (mem : path ∈ paths)
    (content : String) (mode : Nat) : TreeCommand paths (Host.write path content mode) :=
  treeCommand_onTree fun _ _ ran _ other => Tree.get_of_write ran fun same => other (same ▸ mem)

theorem TreeCommand.bind {paths : List String} {c c' : Host → Option Host}
    (first : TreeCommand paths c) (second : TreeCommand paths c') :
    TreeCommand paths fun h => c h >>= c' := by
  intro h h' ran
  obtain ⟨h₁, ran₁, ran₂⟩ := Option.bind_eq_some.mp ran
  obtain ⟨t₁, rfl, keeps₁⟩ := first h h₁ ran₁
  obtain ⟨t₂, rfl, keeps₂⟩ := second _ h' ran₂
  exact ⟨t₂, rfl, fun q other => (keeps₂ q other).trans (keeps₁ q other)⟩

/-- A step made of tree commands keeps the rest of the host and the nodes off its paths. -/
theorem step_treeCommands {paths : List String} {before after : List String}
    {cmds : List (String × (Host → Option Host))} (each : ∀ c ∈ cmds, TreeCommand paths c.2)
    (h : Host) : ∃ t, (step before cmds after h).host = { h with tree := t } ∧
      ∀ q ∉ paths, t.get q = h.tree.get q := by
  have nodes : ∀ q ∉ paths, ∀ c ∈ cmds, ∀ h h', c.2 h = some h' → h'.tree.get q = h.tree.get q :=
    fun q other c member h h' ran => by obtain ⟨t, rfl, keeps⟩ := each c member h h' ran; exact keeps q other
  refine ⟨(step before cmds after h).host.tree, ?_, fun q other =>
    step_preserves (fun h => h.tree.get q) before cmds after h (nodes q other)⟩
  have same := step_preserves (fun h' => { h' with tree := h.tree }) before cmds after h
    fun c member h₁ h₂ ran => by
      obtain ⟨t, rfl, -⟩ := each c member h₁ h₂ ran; rfl
  exact congrArg (fun h' : Host => { h' with tree := (step before cmds after h).host.tree }) same

/-- A step that changes the tree at `paths` and nothing else of the host. -/
def TreeStep (paths : List String) (s : Host → Run) : Prop :=
  ∀ h, ∃ t, (s h).host = { h with tree := t } ∧ ∀ q ∉ paths, t.get q = h.tree.get q

/-- Step 1 changes the accounts only, by adding `libyalink` when it is missing. -/
theorem createUser_shape (h : Host) :
    ∃ accounts, (createUser h).host = { h with accounts } ∧
      (∀ a ∈ accounts, a ∈ h.accounts ∨ a = serviceUser) ∧ serviceUser ∈ accounts := by
  unfold createUser
  split_ifs with present
  · exact ⟨h.accounts, rfl, fun a m => .inl m, present⟩
  · exact ⟨h.accounts ++ [serviceUser], rfl, fun a m => by simpa using m, by simp⟩

theorem setupConfigDir_treeStep : TreeStep [configDir] setupConfigDir := by
  apply step_treeCommands
  simp only [List.mem_cons, List.mem_singleton, List.not_mem_nil, or_false, forall_eq_or_imp, forall_eq]
  exact ⟨treeCommand_onTree fun _ _ ran q other => Tree.get_of_mkdirP ran (by simpa using other),
    treeCommand_chownService (by simp), treeCommand_setMeta (by simp) _⟩

theorem generateCertificate_treeStep (draw : Draw) :
    TreeStep [keyPath, certPath] (generateCertificate draw) := by
  intro h
  unfold generateCertificate
  split_ifs
  · exact ⟨h.tree, rfl, fun _ _ => rfl⟩
  · apply step_treeCommands
    simp only [List.mem_cons, List.mem_singleton, List.not_mem_nil, or_false, forall_eq_or_imp, forall_eq]
    have key : keyPath ∈ [keyPath, certPath] := by simp
    have cert : certPath ∈ [keyPath, certPath] := by simp
    exact ⟨treeCommand_write key _ _, treeCommand_write cert _ _,
      (treeCommand_chownService cert).bind (treeCommand_chownService key), treeCommand_setMeta key _⟩

theorem createDefaultConfig_treeStep (draw : Draw) : TreeStep [configPath] (createDefaultConfig draw) := by
  intro h
  unfold createDefaultConfig
  split_ifs
  · exact ⟨h.tree, rfl, fun _ _ => rfl⟩
  · apply step_treeCommands
    simp only [List.mem_cons, List.mem_singleton, List.not_mem_nil, or_false, forall_eq_or_imp, forall_eq]
    exact ⟨treeCommand_write (by simp) _ _, treeCommand_chownService (by simp), treeCommand_setMeta (by simp) _⟩

/-- Step 5 writes one file and sets the kernel's parameters. -/
theorem applyNetworkTuning_host (h : Host) :
    ∃ t k, (applyNetworkTuning h).host = { h with tree := t, kernel := k } ∧
      ∀ q ≠ sysctlConfPath, t.get q = h.tree.get q := by
  unfold applyNetworkTuning
  split
  · exact ⟨h.tree, h.kernel, rfl, fun _ _ => rfl⟩
  · rename_i t written
    refine ⟨t, (sysctlSystem t h.kernel).1, by split_ifs <;> rfl, fun q other => Tree.get_of_write written other⟩

/-- Wherever the unit comes from, it lands at the unit's path, or inside it when that is a
directory. -/
theorem unitInstall_get {docsDir : String} {umask : Nat} {t t' : Tree}
    (ran : (unitInstall docsDir umask t).2 = some t')
    {q : String} (other : q ∉ [unitPath, unitInDir]) : t'.get q = t.get q := by
  have landing : ∀ src, baseName src = "libyalink.service" → t.cp src unitPath umask = some t' →
      t'.get q = t.get q := by
    intro src named ran
    apply Tree.get_of_cp ran
    rcases t.cpTarget_cases src unitPath with same | same <;> rw [same]
    · exact fun eq => other (by simp [eq])
    · exact fun eq => other (by simp [eq, named, unitInDir, String.append_assoc])
  unfold unitInstall at ran
  split_ifs at ran
  · exact landing _ (baseName_docsUnit docsDir) ran
  · exact landing _ (by decide) ran
  · exact Tree.get_of_write ran fun eq => other (by simp [eq])

theorem installService_treeStep (docsDir : String) :
    TreeStep [unitPath, unitInDir] (installService docsDir) := by
  intro h
  unfold installService
  split
  · exact ⟨h.tree, rfl, fun _ _ => rfl⟩
  · exact ⟨_, rfl, fun q other => unitInstall_get ‹_› other⟩

/-- The firewall step changes the rules only, by adding `443/udp` when its guard holds. -/
theorem openFirewall_shape (h : Host) :
    ∃ rules, (openFirewall h).host = { h with ufwRules := rules } ∧
      (∀ r ∈ rules, r ∈ h.ufwRules ∨ r = "443/udp") ∧ (ufwGuard h → "443/udp" ∈ rules) := by
  unfold openFirewall Host.ufwAllow
  split_ifs with guard present
  · exact ⟨h.ufwRules, rfl, fun r m => .inl m, fun _ => present⟩
  · exact ⟨h.ufwRules ++ ["443/udp"], rfl, fun r m => by simpa using m, fun _ => by simp⟩
  · exact ⟨h.ufwRules, rfl, fun r m => .inl m, fun held => absurd held guard⟩

theorem TreeStep.keeps {paths : List String} {s : Host → Run} (treeStep : TreeStep paths s)
    {h₀ : Host} {q : String} (other : q ∉ paths) :
    ∀ h, h.tree.get q = h₀.tree.get q → (s h).host.tree.get q = h₀.tree.get q := by
  intro h kept
  obtain ⟨t, eq, keeps⟩ := treeStep h
  rw [eq, ← kept]
  exact keeps q other

/-- A run leaves every node off its seven paths as it was. -/
theorem setupLibyalink_get_of_not_touched (euid : Nat) (docsDir : String) (draw : Draw) (h : Host)
    {q : String} (other : q ∉ touched) :
    (setupLibyalink euid docsDir draw h).host.tree.get q = h.tree.get q := by
  have off : ∀ paths : List String, paths ⊆ touched → q ∉ paths := fun _ sub m => other (sub m)
  apply setupLibyalink_keeps (P := fun h' => h'.tree.get q = h.tree.get q) euid docsDir draw rfl
  · intro h' kept; obtain ⟨_, eq, -⟩ := createUser_shape h'; rwa [eq]
  · exact setupConfigDir_treeStep.keeps (off _ (by simp [touched]))
  · exact (generateCertificate_treeStep draw).keeps (off _ (by simp [touched]))
  · exact (createDefaultConfig_treeStep draw).keeps (off _ (by simp [touched]))
  · intro h' kept
    obtain ⟨t, k, eq, keeps⟩ := applyNetworkTuning_host h'
    rw [eq, ← kept]
    exact keeps q fun same => other (by simp [same, touched])
  · exact (installService_treeStep docsDir).keeps (off _ (by simp [touched]))
  · intro h' kept; obtain ⟨_, eq, -⟩ := openFirewall_shape h'; rwa [eq]

theorem Tree.isFile_congr {t t' : Tree} {path : String} (same : t'.get path = t.get path) :
    t'.isFile path = t.isFile path := by
  simp only [Tree.isFile, same]

/-- The steps other than step 5 keep the nodes off their paths; step 5 keeps those other than
its tuning file. -/
theorem setupLibyalink_keeps_node {P : Host → Prop} (euid : Nat) (docsDir : String) (draw : Draw)
    {h : Host} (start : P h) (nodes : List String) (kept : ∀ h h', (∀ q ∈ nodes, h'.tree.get q = h.tree.get q) → P h → P h')
    (far : ∀ q ∈ nodes, q ∉ [configDir, sysctlConfPath, unitPath, unitInDir])
    (cert : ∀ h, P h → P (generateCertificate draw h).host)
    (config : ∀ h, P h → P (createDefaultConfig draw h).host) :
    P (setupLibyalink euid docsDir draw h).host := by
  have treeStep : ∀ {paths : List String} {s : Host → Run}, TreeStep paths s →
      (∀ q ∈ nodes, q ∉ paths) → ∀ h, P h → P (s h).host := by
    intro paths s step off h' held
    obtain ⟨t, eq, keeps⟩ := step h'
    exact kept h' _ (fun q m => by rw [eq]; exact keeps q (off q m)) held
  apply setupLibyalink_keeps euid docsDir draw start
  · intro h' held; obtain ⟨_, eq, -⟩ := createUser_shape h'
    exact kept h' _ (fun q _ => by rw [eq]) held
  · exact treeStep setupConfigDir_treeStep fun q m same =>
      far q m (List.mem_cons.mpr (.inl (List.mem_singleton.mp same)))
  · exact cert
  · exact config
  · intro h' held
    obtain ⟨t, k, eq, keeps⟩ := applyNetworkTuning_host h'
    exact kept h' _ (fun q m => by rw [eq]; exact keeps q fun same => far q m (by simp [same])) held
  · exact treeStep (installService_treeStep docsDir) fun q m same =>
      far q m (List.mem_cons_of_mem _ (List.mem_cons_of_mem _ same))
  · intro h' held; obtain ⟨_, eq, -⟩ := openFirewall_shape h'
    exact kept h' _ (fun q _ => by rw [eq]) held

/-- A run leaves a `config.yaml` already there as it is, and a `cert.pem` already there with
`key.pem`, whatever that holds: only the certificate is tested. -/
theorem setupLibyalink_keeps_existing (euid : Nat) (docsDir : String) (draw : Draw) (h : Host) :
    (h.tree.isFile configPath →
      (setupLibyalink euid docsDir draw h).host.tree.get configPath = h.tree.get configPath) ∧
    (h.tree.isFile certPath →
      (setupLibyalink euid docsDir draw h).host.tree.get certPath = h.tree.get certPath ∧
        (setupLibyalink euid docsDir draw h).host.tree.get keyPath = h.tree.get keyPath) := by
  constructor
  · intro present
    apply setupLibyalink_keeps_node (P := fun h' => h'.tree.get configPath = h.tree.get configPath)
      euid docsDir draw rfl [configPath] (fun h₁ h₂ same held => (same _ (by simp)).trans held)
      (by simp [configPath, configDir, sysctlConfPath, unitPath, unitInDir])
    · intro h' held
      obtain ⟨t, eq, keeps⟩ := generateCertificate_treeStep draw h'
      rw [eq, keeps _ (by simp [configPath, keyPath, certPath, configDir]), held]
    · intro h' held
      have file : h'.tree.isFile configPath := by rwa [Tree.isFile_congr held]
      simp [createDefaultConfig, file, held]
  · intro present
    apply setupLibyalink_keeps_node (P := fun h' => h'.tree.get certPath = h.tree.get certPath ∧
        h'.tree.get keyPath = h.tree.get keyPath)
      euid docsDir draw ⟨rfl, rfl⟩ [certPath, keyPath]
      (fun h₁ h₂ same held => ⟨(same _ (by simp)).trans held.1, (same _ (by simp)).trans held.2⟩)
      (by simp [certPath, keyPath, configDir, sysctlConfPath, unitPath, unitInDir])
    · intro h' held
      have file : h'.tree.isFile certPath := by rwa [Tree.isFile_congr held.1]
      simp [generateCertificate, file, held]
    · intro h' held
      obtain ⟨t, eq, keeps⟩ := createDefaultConfig_treeStep draw h'
      rw [eq, keeps _ (by simp [configPath, keyPath, certPath, configDir]),
        keeps _ (by simp [configPath, keyPath, certPath, configDir])]
      exact held

/-- The example host with a certificate and a configuration of an earlier installation in
`/etc/libyalink`, and no key. -/
def configuredHost : Host :=
  { ubuntuHost with
    tree := ⟨[("/etc", .dir (rootMeta 0o755)), ("/etc/libyalink", .dir (rootMeta 0o700)),
      ("/etc/libyalink/cert.pem", .file "-----BEGIN CERTIFICATE-----" (rootMeta 0o644)),
      ("/etc/libyalink/config.yaml", .file "listen: :8443\n" (rootMeta 0o600))], by decide⟩ }

theorem setupLibyalink_keeps_existing_configured :
    configuredHost.tree.isFile configPath ∧ configuredHost.tree.isFile certPath ∧
      (setupLibyalink 0 "/opt/libyalink/docs" (exampleDraw 7) configuredHost).host.tree.get configPath =
        configuredHost.tree.get configPath ∧
      (setupLibyalink 0 "/opt/libyalink/docs" (exampleDraw 7) configuredHost).host.tree.get certPath =
        configuredHost.tree.get certPath ∧
      (setupLibyalink 0 "/opt/libyalink/docs" (exampleDraw 7) configuredHost).host.tree.get keyPath =
        configuredHost.tree.get keyPath :=
  ⟨rfl, rfl, (setupLibyalink_keeps_existing 0 "/opt/libyalink/docs" (exampleDraw 7) configuredHost).1 rfl,
    (setupLibyalink_keeps_existing 0 "/opt/libyalink/docs" (exampleDraw 7) configuredHost).2 rfl⟩

end LibyaLink.Setup
