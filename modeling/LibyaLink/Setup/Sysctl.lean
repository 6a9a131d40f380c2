import LibyaLink.Setup.Host
import LibyaLink.Go.Strings

/-! `sysctl --system` as procps applies the configuration files: each `*.conf` name from
the first directory that has it, in name order, then `/etc/sysctl.conf`. -/

namespace LibyaLink.Setup

open LibyaLink.Go

/-- C's `isspace`. -/
def cIsSpace (c : Char) : Bool :=
  c = ' ' || c = '\t' || c = '\n' || c = '\x0b' || c = '\x0c' || c = '\r'

/-- `StripLeadingAndTrailingSpaces`. -/
def stripSpaces (cs : List Char) : List Char :=
  ((cs.dropWhile cIsSpace).reverse.dropWhile cIsSpace).reverse

/-- A sysctl key names the same parameter with `/` or `.` between its parts. -/
def slashToDot (c : Char) : Char := if c = '/' then '.' else c

/-- A line of a configuration file as `Preload` reads it: `name = value`, trimmed; blank,
one-character, comment and malformed lines are skipped. -/
def settingOf (line : List Char) : Option (String × String) :=
  let t := stripSpaces line
  if t.length < 2 ∨ t.head? = some '#' ∨ t.head? = some ';' then none
  else
    let name := stripSpaces (t.takeWhile (· ≠ '='))
    let value := ((t.dropWhile (· ≠ '=')).drop 1).dropWhile fun c => c = ' ' || c = '\t'
    if name = [] ∨ value = [] then none else some (⟨name.map slashToDot⟩, ⟨value⟩)

/-- The settings of a configuration file, in order. -/
def settings (content : String) : List (String × String) :=
  (splitLines content.data).filterMap settingOf

/-- The parameter `key` is one the kernel has. -/
def Kernel.has (k : Kernel) (key : String) : Bool := (k.params key).isSome

/-- `WriteSetting` under `--system`: a key the kernel lacks is skipped; a value the kernel
refuses leaves the parameter as it was and is reported as a failure. -/
def Kernel.writeSetting (k : Kernel) (setting : String × String) : Kernel × Bool :=
  if k.has setting.1 then
    if k.accepts setting.1 setting.2 then
      ({ k with params := Function.update k.params setting.1 (some setting.2) }, false)
    else (k, true)
  else (k, false)

/-- The settings applied in order; the flag says whether any write failed. -/
def applySettings (k : Kernel) : List (String × String) → Kernel × Bool
  | [] => (k, false)
  | s :: ss =>
    ((applySettings (k.writeSetting s).1 ss).1,
      (k.writeSetting s).2 || (applySettings (k.writeSetting s).1 ss).2)

/-- The directories `sysctl --system` reads, in the order it reads them. -/
def sysctlDirs : List String :=
  ["/etc/sysctl.d", "/run/sysctl.d", "/usr/local/lib/sysctl.d", "/usr/lib/sysctl.d",
    "/lib/sysctl.d"]

/-- The `*.conf` files directly in `dir`, with their names. -/
def confFiles (t : Tree) (dir : String) : List (String × String) :=
  t.nodes.filterMap fun e =>
    match e.2 with
    | .file _ _ =>
      if dirName e.1 = dir ∧ ".conf".data <:+ (baseName e.1).data then some (baseName e.1, e.1)
      else none
    | .dir _ => none

/-- The files `sysctl --system` applies, in order. -/
def sysctlFiles (t : Tree) : List String :=
  let found := sysctlDirs.foldl (fun found dir =>
    found ++ (confFiles t dir).filter fun e => e.1 ∉ found.map Prod.fst) []
  (found.insertionSort fun a b => a.1.data ≤ b.1.data).map Prod.snd ++
    if t.isFile "/etc/sysctl.conf" then ["/etc/sysctl.conf"] else []

/-- `sysctl --system`: the new kernel, and whether the command fails. -/
def sysctlSystem (t : Tree) (k : Kernel) : Kernel × Bool :=
  applySettings k ((sysctlFiles t).flatMap fun path => settings ((t.content? path).getD ""))

/-- The value the last setting of `key` that the kernel takes gives it. -/
def Kernel.lastTaken (k : Kernel) (key : String) (ss : List (String × String)) : Option String :=
  (ss.reverse.find? fun s => s.1 = key ∧ k.has key ∧ k.accepts key s.2).map Prod.snd

@[simp] theorem Kernel.writeSetting_accepts (k : Kernel) (s : String × String) :
    (k.writeSetting s).1.accepts = k.accepts := by
  unfold Kernel.writeSetting; split_ifs <;> rfl

@[simp] theorem Kernel.writeSetting_has (k : Kernel) (s : String × String) (key : String) :
    (k.writeSetting s).1.has key = k.has key := by
  unfold Kernel.writeSetting Kernel.has
  split_ifs with known
  · by_cases same : key = s.1
    · subst same; simpa using known.symm
    · simp [Function.update_noteq same]
  all_goals rfl

theorem Kernel.writeSetting_params (k : Kernel) (s : String × String) (key : String) :
    (k.writeSetting s).1.params key =
      if s.1 = key ∧ k.has key ∧ k.accepts key s.2 then some s.2 else k.params key := by
  unfold Kernel.writeSetting
  by_cases same : s.1 = key
  · subst same; split_ifs <;> simp_all
  · split_ifs <;> simp_all [Function.update_noteq (Ne.symm same)]

/-- Kernels that have the same keys and take the same values agree on what a run of
settings leaves last. -/
theorem Kernel.lastTaken_congr {k k' : Kernel} (key : String) (has : k'.has key = k.has key)
    (accepts : k'.accepts = k.accepts) (ss : List (String × String)) :
    k'.lastTaken key ss = k.lastTaken key ss := by
  simp [Kernel.lastTaken, has, accepts]

theorem Kernel.lastTaken_cons (k : Kernel) (key : String) (s : String × String)
    (ss : List (String × String)) :
    k.lastTaken key (s :: ss) =
      match k.lastTaken key ss with
      | some v => some v
      | none => if s.1 = key ∧ k.has key ∧ k.accepts key s.2 then some s.2 else none := by
  unfold Kernel.lastTaken
  rw [List.reverse_cons, List.find?_append]
  cases (ss.reverse.find? fun s => s.1 = key ∧ k.has key ∧ k.accepts key s.2) with
  | some found => rfl
  | none => by_cases taken : s.1 = key ∧ k.has key ∧ k.accepts key s.2 <;> simp [taken]

theorem applySettings_params (k : Kernel) (key : String) :
    ∀ ss, (applySettings k ss).1.params key =
      match k.lastTaken key ss with
      | some v => some v
      | none => k.params key
  | [] => by simp [applySettings, Kernel.lastTaken]
  | s :: ss => by
    rw [applySettings, applySettings_params _ key ss,
      Kernel.lastTaken_congr key (k.writeSetting_has s key) (k.writeSetting_accepts s),
      Kernel.lastTaken_cons, k.writeSetting_params]
    cases k.lastTaken key ss with
    | some v => rfl
    | none => split_ifs <;> rfl

@[simp] theorem applySettings_accepts (k : Kernel) :
    ∀ ss, (applySettings k ss).1.accepts = k.accepts
  | [] => rfl
  | s :: ss => by rw [applySettings, applySettings_accepts _ ss, k.writeSetting_accepts]

@[simp] theorem applySettings_has (k : Kernel) (key : String) :
    ∀ ss, (applySettings k ss).1.has key = k.has key
  | [] => rfl
  | s :: ss => by rw [applySettings, applySettings_has _ key ss, k.writeSetting_has]

/-- The command fails exactly when some setting names a key the kernel has with a value it
refuses. -/
theorem applySettings_failed (k : Kernel) :
    ∀ ss, (applySettings k ss).2 = ss.any fun s => k.has s.1 && !k.accepts s.1 s.2
  | [] => rfl
  | s :: ss => by
    rw [applySettings, applySettings_failed _ ss, List.any_cons]
    simp only [Kernel.writeSetting_has, Kernel.writeSetting_accepts]
    unfold Kernel.writeSetting
    split_ifs <;> simp_all

/-- Applying the same settings again changes nothing and fails as the first time did. -/
theorem applySettings_idem (k : Kernel) (ss : List (String × String)) :
    applySettings (applySettings k ss).1 ss = applySettings k ss := by
  have params : (applySettings (applySettings k ss).1 ss).1.params = (applySettings k ss).1.params := by
    funext key
    rw [applySettings_params _ key ss, Kernel.lastTaken_congr key (applySettings_has k key ss)
      (applySettings_accepts k ss), applySettings_params k key ss]
    cases k.lastTaken key ss <;> rfl
  ext1
  · ext1
    · exact params
    · simp
  · simp only [applySettings_failed, applySettings_has, applySettings_accepts]

theorem dirName_of_mem_confFiles {t : Tree} {dir : String} {e : String × String}
    (member : e ∈ confFiles t dir) : dirName e.2 = dir := by
  obtain ⟨⟨path, node⟩, -, found⟩ := List.mem_filterMap.mp member
  cases node with
  | dir m => simp at found
  | file c m =>
    simp only at found
    split_ifs at found with named
    cases found
    exact named.1

theorem mem_found_foldl (t : Tree) {e : String × String} :
    ∀ (dirs : List String) (found : List (String × String)),
      e ∈ dirs.foldl (fun found dir =>
        found ++ (confFiles t dir).filter fun e => e.1 ∉ found.map Prod.fst) found →
      e ∈ found ∨ ∃ dir ∈ dirs, e ∈ confFiles t dir
  | [], _, member => .inl member
  | dir :: dirs, found, member => by
    rcases mem_found_foldl t dirs _ member with member | ⟨d, within, member⟩
    · rcases List.mem_append.mp member with member | member
      · exact .inl member
      · exact .inr ⟨dir, List.mem_cons_self _ _, (List.mem_filter.mp member).1⟩
    · exact .inr ⟨d, List.mem_cons_of_mem _ within, member⟩

/-- `sysctl --system` reads only files in its directories and `/etc/sysctl.conf`. -/
theorem mem_sysctlFiles {t : Tree} {path : String} (member : path ∈ sysctlFiles t) :
    dirName path ∈ sysctlDirs ∨ path = "/etc/sysctl.conf" := by
  unfold sysctlFiles at member
  rcases List.mem_append.mp member with member | member
  · obtain ⟨e, sorted, rfl⟩ := List.mem_map.mp member
    rcases mem_found_foldl t sysctlDirs [] ((List.perm_insertionSort _ _).mem_iff.mp sorted) with
      none | ⟨dir, within, member⟩
    · exact absurd none (List.not_mem_nil _)
    · exact .inl (dirName_of_mem_confFiles member ▸ within)
  · split_ifs at member
    · exact .inr (List.mem_singleton.mp member)
    · exact absurd member (List.not_mem_nil _)

theorem filterMap_set {β : Type} (t : Tree) {path : String} (node : Node)
    {f : String × Node → Option β} (skipped : ∀ n, f (path, n) = none) :
    (t.set path node).nodes.filterMap f = t.nodes.filterMap f := by
  unfold Tree.set
  split
  · rw [List.filterMap_map]
    apply List.filterMap_congr
    intro e _
    by_cases here : e.1 = path
    · obtain ⟨k, v⟩ := e
      simp only at here
      subst here
      simp [skipped]
    · simp [replaceAt, here]
  · simp [List.filterMap_append, skipped]

theorem foldl_found_congr (c c' : String → List (String × String)) :
    ∀ (dirs : List String) (found : List (String × String)), (∀ d ∈ dirs, c d = c' d) →
      dirs.foldl (fun found dir => found ++ (c dir).filter fun e => e.1 ∉ found.map Prod.fst) found =
        dirs.foldl (fun found dir => found ++ (c' dir).filter fun e => e.1 ∉ found.map Prod.fst) found
  | [], _, _ => rfl
  | d :: dirs, found, same => by
    simp only [List.foldl_cons, same d (List.mem_cons_self _ _)]
    exact foldl_found_congr c c' dirs _ fun d' within => same d' (List.mem_cons_of_mem _ within)

/-- A node outside the sysctl directories, other than `/etc/sysctl.conf`, does not change
what `sysctl --system` does. -/
theorem sysctlSystem_set (t : Tree) (k : Kernel) {path : String} (node : Node)
    (far : dirName path ∉ sysctlDirs) (notConf : path ≠ "/etc/sysctl.conf") :
    sysctlSystem (t.set path node) k = sysctlSystem t k := by
  have conf : ∀ dir ∈ sysctlDirs, confFiles (t.set path node) dir = confFiles t dir := by
    intro dir within
    apply filterMap_set
    intro n
    cases n with
    | dir m => rfl
    | file c m =>
      have : dirName path ≠ dir := fun same => far (same ▸ within)
      simp [this]
  have sysctlConf : (t.set path node).isFile "/etc/sysctl.conf" = t.isFile "/etc/sysctl.conf" := by
    simp [Tree.isFile, Ne.symm notConf]
  have files : sysctlFiles (t.set path node) = sysctlFiles t := by
    unfold sysctlFiles
    rw [foldl_found_congr (confFiles (t.set path node)) (confFiles t) sysctlDirs [] conf, sysctlConf]
  unfold sysctlSystem
  rw [files]
  refine congrArg (applySettings k) (List.flatMap_congr fun f member => ?_)
  have ne : f ≠ path := by
    rintro rfl
    rcases mem_sysctlFiles member with within | same
    · exact far within
    · exact notConf same
  simp [Tree.content?, ne]

end LibyaLink.Setup
