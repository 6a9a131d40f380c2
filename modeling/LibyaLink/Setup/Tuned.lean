import LibyaLink.Setup.Rerun
import LibyaLink.Setup.Access
import LibyaLink.Tuner.Agreement

/-! The kernel a setup run leaves, as `/proc/sys` shows it to the doctor: the two buffer
ceilings hold the script's 16 MiB unless another configuration file sets them too. -/

namespace LibyaLink.Setup

open LibyaLink.Go LibyaLink.Doctor LibyaLink.Tuner

/-- The two ceilings the doctor reads. -/
def bufferKeys : List String := ["net.core.rmem_max", "net.core.wmem_max"]

/-- No configuration file of `sysctl --system` but the script's own sets a buffer ceiling. -/
def Tree.BuffersLeftAlone (t : Tree) : Prop :=
  ∀ e ∈ t.nodes, e.1 ≠ sysctlConfPath → dirName e.1 ∈ sysctlDirs ∨ e.1 = "/etc/sysctl.conf" →
    ∀ s ∈ settings ((t.content? e.1).getD ""), s.1 ∉ bufferKeys

theorem Tree.mem_nodes_of_get {t : Tree} {path : String} {n : Node} (found : t.get path = some n) :
    (path, n) ∈ t.nodes := by
  obtain ⟨nodes, _⟩ := t
  unfold Tree.get at found
  induction nodes with
  | nil => simp [List.lookup] at found
  | cons e rest ih =>
    obtain ⟨k, v⟩ := e
    by_cases here : path = k
    · subst here
      rw [lookup_cons_self, Option.some.injEq] at found
      simp [found]
    · rw [lookup_cons_of_ne _ _ here] at found
      exact List.mem_cons_of_mem _ (ih (List.nodup_cons.mp ‹_›).2 found)

/-- The value a run of settings leaves, when every setting of the key gives the same value
and the kernel takes it. -/
theorem Kernel.lastTaken_of_all (k : Kernel) {key v : String} {ss : List (String × String)}
    (present : (key, v) ∈ ss) (only : ∀ s ∈ ss, s.1 = key → s.2 = v) (has : k.has key)
    (accepts : k.accepts key v) : k.lastTaken key ss = some v := by
  unfold Kernel.lastTaken
  cases found : ss.reverse.find? (fun s => s.1 = key ∧ k.has key ∧ k.accepts key s.2) with
  | none =>
    have := List.find?_eq_none.mp found (key, v) (List.mem_reverse.mpr present)
    simp [has, accepts] at this
  | some s =>
    have taken := List.find?_some found
    simp only [decide_eq_true_eq] at taken
    simp [only s (List.mem_reverse.mp (List.mem_of_find?_eq_some found)) taken.1]

theorem mem_found_of_mem (t : Tree) {e : String × String} :
    ∀ (dirs : List String) (found : List (String × String)), e ∈ found →
      e ∈ dirs.foldl (fun found dir =>
        found ++ (confFiles t dir).filter fun e => e.1 ∉ found.map Prod.fst) found
  | [], _, member => member
  | _ :: dirs, _, member => mem_found_of_mem t dirs _ (List.mem_append_left _ member)

/-- The script's tuning file is one that `sysctl --system` applies. -/
theorem sysctlConfPath_mem_sysctlFiles {t : Tree} {content : String} {m : Meta}
    (file : t.get sysctlConfPath = some (.file content m)) : sysctlConfPath ∈ sysctlFiles t := by
  have named : (confFiles t "/etc/sysctl.d").filter (fun e => e.1 ∉ ([] : List (String × String)).map Prod.fst) =
      confFiles t "/etc/sysctl.d" := List.filter_eq_self.mpr fun _ _ => by simp
  have own : ("99-libyalink.conf", sysctlConfPath) ∈ confFiles t "/etc/sysctl.d" :=
    List.mem_filterMap.mpr ⟨_, t.mem_nodes_of_get file, by
      rw [if_pos (show dirName sysctlConfPath = "/etc/sysctl.d" ∧
        ".conf".data <:+ (baseName sysctlConfPath).data by decide)]
      rfl⟩
  unfold sysctlFiles
  refine List.mem_append_left _
    (List.mem_map.mpr ⟨("99-libyalink.conf", sysctlConfPath), (List.perm_insertionSort _ _).mem_iff.mpr ?_, rfl⟩)
  rw [sysctlDirs, List.foldl_cons, List.nil_append, named]
  exact mem_found_of_mem t _ _ own

theorem touched_far_from_sysctl :
    ∀ q ∈ touched, q ≠ sysctlConfPath → dirName q ∉ sysctlDirs ∧ q ≠ "/etc/sysctl.conf" := by
  decide

/-- Step 5 leaves the kernel as it was, or as `sysctl --system` leaves it. -/
theorem applyNetworkTuning_kernel (h : Host) :
    (applyNetworkTuning h).host.kernel = h.kernel ∨
      ∃ t, (applyNetworkTuning h).host.kernel = (sysctlSystem t h.kernel).1 := by
  unfold applyNetworkTuning
  split
  · exact .inl rfl
  · rename_i t _
    exact .inr ⟨t, by split_ifs <;> dsimp only⟩

/-- A run changes which parameters the kernel has no more than `sysctl --system` does: not
at all. -/
theorem setupLibyalink_has (euid : Nat) (docsDir : String) (draw : Draw) (h : Host) (key : String) :
    (setupLibyalink euid docsDir draw h).host.kernel.has key = h.kernel.has key := by
  have tree : ∀ {paths : List String} {s : Host → Run}, TreeStep paths s →
      ∀ h', h'.kernel.has key = h.kernel.has key → (s h').host.kernel.has key = h.kernel.has key :=
    fun step h' held => by obtain ⟨_, eq, -⟩ := step h'; rw [eq]; exact held
  apply setupLibyalink_keeps (P := fun h' => h'.kernel.has key = h.kernel.has key) euid docsDir draw rfl
  · intro h' held; obtain ⟨_, eq, -⟩ := createUser_shape h'; rw [eq]; exact held
  · exact tree setupConfigDir_treeStep
  · exact tree (generateCertificate_treeStep draw)
  · exact tree (createDefaultConfig_treeStep draw)
  · intro h' held
    rcases applyNetworkTuning_kernel h' with same | ⟨t, applied⟩
    · rw [same]; exact held
    · rw [applied, sysctlSystem, applySettings_has]; exact held
  · exact tree (installService_treeStep docsDir)
  · intro h' held; obtain ⟨_, eq, -⟩ := openFirewall_shape h'; rw [eq]; exact held

/-- After a completed run, on a kernel that has the two ceilings and a host where no other
configuration file sets them, both hold the script's 16 MiB. -/
theorem setupLibyalink_buffers {docsDir : String} {draw : Draw} {h : Host}
    (completed : (setupLibyalink 0 docsDir draw h).stop = none)
    (has : ∀ key ∈ bufferKeys, h.kernel.has key) (alone : h.tree.BuffersLeftAlone) :
    ∀ key ∈ bufferKeys, (setupLibyalink 0 docsDir draw h).host.kernel.params key = some "16777216" := by
  obtain ⟨-, ⟨m, conf⟩, -, fixed⟩ := (installed_of_completed completed).ready.1
  intro key member
  have kernel := congrArg (fun r : Kernel × Bool => r.1.params key) fixed
  have passed := congrArg Prod.snd fixed
  simp only [sysctlSystem] at kernel passed
  rw [applySettings_params] at kernel
  rw [← kernel]
  have hasFinal : (setupLibyalink 0 docsDir draw h).host.kernel.has key := by
    rw [setupLibyalink_has]; exact has key member
  have tuning : settings (((setupLibyalink 0 docsDir draw h).host.tree.content? sysctlConfPath).getD "") =
      settings sysctlConf := by simp [Tree.content?, conf]
  have ours : ∀ key ∈ bufferKeys, (key, "16777216") ∈ settings sysctlConf := by decide
  have oursOnly : ∀ s ∈ settings sysctlConf, s.1 ∈ bufferKeys → s.2 = "16777216" := by decide
  have present : (key, "16777216") ∈ (sysctlFiles (setupLibyalink 0 docsDir draw h).host.tree).flatMap
      fun path => settings (((setupLibyalink 0 docsDir draw h).host.tree.content? path).getD "") :=
    List.mem_flatMap.mpr ⟨sysctlConfPath, sysctlConfPath_mem_sysctlFiles conf, by
      rw [tuning]; exact ours key member⟩
  have accepts : (setupLibyalink 0 docsDir draw h).host.kernel.accepts key "16777216" := by
    rw [applySettings_failed, List.any_eq_false] at passed
    simpa [hasFinal] using passed _ present
  rw [Kernel.lastTaken_of_all _ present ?_ hasFinal accepts]
  intro s within named
  obtain ⟨path, file, within⟩ := List.mem_flatMap.mp within
  by_cases own : path = sysctlConfPath
  · subst own
    rw [tuning] at within
    exact oursOnly s within (named ▸ member)
  · have far := mem_sysctlFiles file
    have untouched : path ∉ touched := fun m =>
      (touched_far_from_sysctl path m own).1 (far.resolve_right (touched_far_from_sysctl path m own).2)
    have same : (setupLibyalink 0 docsDir draw h).host.tree.content? path = h.tree.content? path := by
      simp only [Tree.content?, setupLibyalink_get_of_not_touched 0 docsDir draw h untouched]
    rw [same] at within
    cases found : h.tree.get path with
    | none =>
      rw [Tree.content?, found] at within
      exact absurd within (List.not_mem_nil s)
    | some n => exact absurd (named ▸ member) (alone _ (h.tree.mem_nodes_of_get found) own far s within)

/-- ... and the doctor, run by any account on Linux, reads them from `/proc/sys` and passes
both buffer checks. -/
theorem checkUDPBuffers_after_setup {docsDir : String} {draw : Draw} {h : Host}
    (completed : (setupLibyalink 0 docsDir draw h).stop = none)
    (has : ∀ key ∈ bufferKeys, h.kernel.has key) (alone : h.tree.BuffersLeftAlone)
    (caller : Caller) (config : ConfigSource) (net : Network)
    (loadX509KeyPair : String → String → Option String) :
    checkUDPBuffers ⟨config, hostFileSystem (setupLibyalink 0 docsDir draw h).host caller, net,
        loadX509KeyPair, "linux"⟩ =
      [⟨"UDP rmem_max", .ok, "16777216 bytes (>= 8388608 recommended). Good!"⟩,
        ⟨"UDP wmem_max", .ok, "16777216 bytes (>= 8388608 recommended). Good!"⟩] := by
  have buffers := setupLibyalink_buffers completed has alone
  have shown : ∀ key ∈ bufferKeys, ∀ path, procSys.data <+: path.data →
      ⟨(path.data.drop procSys.length).map slashToDot⟩ = key →
      (hostFileSystem (setupLibyalink 0 docsDir draw h).host caller).readFile path = some (sysctlText 16777216) :=
    fun key member path under named => by
      simp only [hostFileSystem, under, if_true, Kernel.readProc, named, buffers key member]
      rfl
  rw [checkUDPBuffers_linux _ 16777216 16777216 rfl
    (shown "net.core.rmem_max" (by decide) _ (by decide) (by decide))
    (shown "net.core.wmem_max" (by decide) _ (by decide) (by decide))]
  decide

/-- After a completed run, where no other configuration file sets the two ceilings, the
kernel holds 16 MiB for both and the doctor passes both buffer checks. -/
theorem doctor_buffers_after_setup (docsDir : String) (draw : Draw) (h : Host)
    (completed : (setupLibyalink 0 docsDir draw h).stop = none)
    (has : ∀ key ∈ bufferKeys, h.kernel.has key) (alone : h.tree.BuffersLeftAlone)
    (caller : Caller) (config : ConfigSource) (net : Network)
    (loadX509KeyPair : String → String → Option String) :
    (∀ key ∈ bufferKeys, (setupLibyalink 0 docsDir draw h).host.kernel.params key = some "16777216") ∧
      checkUDPBuffers ⟨config, hostFileSystem (setupLibyalink 0 docsDir draw h).host caller, net,
          loadX509KeyPair, "linux"⟩ =
        [⟨"UDP rmem_max", .ok, "16777216 bytes (>= 8388608 recommended). Good!"⟩,
          ⟨"UDP wmem_max", .ok, "16777216 bytes (>= 8388608 recommended). Good!"⟩] :=
  ⟨setupLibyalink_buffers completed has alone,
    checkUDPBuffers_after_setup completed has alone caller config net loadX509KeyPair⟩

theorem doctor_buffers_after_setup_ubuntu :
    (setupLibyalink 0 "/opt/libyalink/docs" (exampleDraw 200) ubuntuHost).stop = none ∧
      (∀ key ∈ bufferKeys, ubuntuHost.kernel.has key) ∧ ubuntuHost.tree.BuffersLeftAlone ∧
      (∀ key ∈ bufferKeys,
          (setupLibyalink 0 "/opt/libyalink/docs" (exampleDraw 200) ubuntuHost).host.kernel.params key =
            some "16777216") ∧
        checkUDPBuffers ⟨⟨none, configPath, fun _ => false, fun _ => "", fun _ => .empty⟩,
            hostFileSystem (setupLibyalink 0 "/opt/libyalink/docs" (exampleDraw 200) ubuntuHost).host
              (.user "ubuntu" ["ubuntu", "sudo"]),
            ⟨fun _ => none, fun _ => none⟩, fun _ _ => none, "linux"⟩ =
          [⟨"UDP rmem_max", .ok, "16777216 bytes (>= 8388608 recommended). Good!"⟩,
            ⟨"UDP wmem_max", .ok, "16777216 bytes (>= 8388608 recommended). Good!"⟩] :=
  ⟨ubuntuHost_completed, by decide, by unfold Tree.BuffersLeftAlone; decide,
    doctor_buffers_after_setup "/opt/libyalink/docs" (exampleDraw 200) ubuntuHost ubuntuHost_completed (by decide)
      (by unfold Tree.BuffersLeftAlone; decide) (.user "ubuntu" ["ubuntu", "sudo"])
      ⟨none, configPath, fun _ => false, fun _ => "", fun _ => .empty⟩ ⟨fun _ => none, fun _ => none⟩
      fun _ _ => none⟩

end LibyaLink.Setup
