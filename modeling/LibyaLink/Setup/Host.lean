import Mathlib

/-! The host `scripts/setup_libyalink.sh` changes. The tree has no symbolic or hard links,
and the accounts and firewall rules are held as lists, not as the files `useradd` and `ufw`
write them to. -/

namespace LibyaLink.Setup

/-- Owner, group and permission bits of a file or a directory. -/
structure Meta where
  owner : String
  group : String
  mode : Nat
deriving DecidableEq, Repr

inductive Node
  | dir (meta : Meta)
  | file (content : String) (meta : Meta)
deriving DecidableEq, Repr

instance : Inhabited Node := ⟨.dir ⟨"", "", 0⟩⟩

def Node.meta : Node → Meta
  | .dir m => m
  | .file _ m => m

/-- The node with its owner, group and mode replaced. -/
def Node.withMeta : Node → Meta → Node
  | .dir _, m => .dir m
  | .file content _, m => .file content m

@[simp] theorem Node.withMeta_meta (n : Node) : n.withMeta n.meta = n := by cases n <;> rfl

/-- A node of root's, as root's commands create them. -/
def rootMeta (mode : Nat) : Meta := ⟨"root", "root", mode⟩

/-- The permission bits of a node created with `mode` under `umask`: `mode & ~umask`. -/
def underUmask (umask mode : Nat) : Nat := mode &&& (0o777 ^^^ umask)

/-- The entry `path ↦ node` in place of the one at `path`. -/
def replaceAt (path : String) (node : Node) (e : String × Node) : String × Node :=
  if e.1 = path then (path, node) else e

@[simp] theorem fst_replaceAt (path : String) (node : Node) (e : String × Node) :
    (replaceAt path node e).1 = e.1 := by
  unfold replaceAt; split <;> simp_all

@[simp] theorem replaceAt_self (path : String) (node old : Node) :
    replaceAt path node (path, old) = (path, node) := if_pos rfl

theorem replaceAt_of_ne {path k : String} (node v : Node) (ne : k ≠ path) :
    replaceAt path node (k, v) = (k, v) := if_neg ne

/-- The file tree: each path names at most one node. -/
@[ext] structure Tree where
  nodes : List (String × Node)
  nodup : (nodes.map Prod.fst).Nodup

namespace Tree

def get (t : Tree) (path : String) : Option Node := t.nodes.lookup path

/-- Put `node` at `path`: in place of the node there, or after all others. -/
def set (t : Tree) (path : String) (node : Node) : Tree :=
  if present : path ∈ t.nodes.map Prod.fst then
    ⟨t.nodes.map (replaceAt path node), by simpa [List.map_map, Function.comp_def] using t.nodup⟩
  else ⟨t.nodes ++ [(path, node)], by
    rw [List.map_append, List.map_singleton, ← List.concat_eq_append]
    exact t.nodup.concat present⟩

/-- `[ -f path ]`. -/
def isFile (t : Tree) (path : String) : Bool :=
  match t.get path with
  | some (.file _ _) => true
  | _ => false

/-- The contents of the file at `path`. -/
def content? (t : Tree) (path : String) : Option String :=
  match t.get path with
  | some (.file content _) => some content
  | _ => none

end Tree

theorem lookup_cons_self (q : String) (v : Node) (rest : List (String × Node)) :
    ((q, v) :: rest).lookup q = some v := by simp [List.lookup]

theorem lookup_cons_of_ne {q k : String} (v : Node) (rest : List (String × Node)) (ne : q ≠ k) :
    ((k, v) :: rest).lookup q = rest.lookup q := by simp [List.lookup, beq_false_of_ne ne]

theorem lookup_map_replaceAt_of_ne {path q : String} (node : Node) (ne : q ≠ path) :
    ∀ l : List (String × Node), (l.map (replaceAt path node)).lookup q = l.lookup q
  | [] => rfl
  | (k, v) :: rest => by
    rw [List.map_cons]
    by_cases here : k = path
    · subst here
      rw [replaceAt_self, lookup_cons_of_ne _ _ ne, lookup_cons_of_ne _ _ ne,
        lookup_map_replaceAt_of_ne node ne rest]
    · rw [replaceAt_of_ne node v here]
      by_cases qk : q = k
      · subst qk; rw [lookup_cons_self, lookup_cons_self]
      · rw [lookup_cons_of_ne _ _ qk, lookup_cons_of_ne _ _ qk, lookup_map_replaceAt_of_ne node ne rest]

theorem lookup_map_replaceAt_self {path : String} (node : Node) :
    ∀ {l : List (String × Node)}, path ∈ l.map Prod.fst →
      (l.map (replaceAt path node)).lookup path = some node
  | [], present => by simp at present
  | (k, v) :: rest, present => by
    rw [List.map_cons]
    by_cases here : k = path
    · subst here; rw [replaceAt_self, lookup_cons_self]
    · rw [replaceAt_of_ne node v here, lookup_cons_of_ne _ _ (Ne.symm here)]
      exact lookup_map_replaceAt_self node (by simpa [Ne.symm here] using present)

theorem lookup_append_absent (path : String) (node : Node) (q : String) :
    ∀ {l : List (String × Node)}, path ∉ l.map Prod.fst →
      (l ++ [(path, node)]).lookup q = if q = path then some node else l.lookup q
  | [], _ => by
    by_cases same : q = path
    · simp [same, lookup_cons_self]
    · rw [List.nil_append, lookup_cons_of_ne _ _ same, if_neg same]
  | (k, v) :: rest, absent => by
    have ne : path ≠ k := fun same => absent (by simp [same])
    have later : path ∉ rest.map Prod.fst := fun m => absent (by simp [m])
    rw [List.cons_append]
    by_cases qk : q = k
    · subst qk; simp [Ne.symm ne, lookup_cons_self]
    · simp [lookup_cons_of_ne _ _ qk, lookup_append_absent path node q later]

theorem mem_keys_of_lookup {path : String} {node : Node} :
    ∀ {l : List (String × Node)}, l.lookup path = some node → path ∈ l.map Prod.fst
  | [], found => by simp [List.lookup] at found
  | (k, v) :: rest, found => by
    by_cases here : path = k
    · simp [here]
    · rw [lookup_cons_of_ne _ _ here] at found
      simp [mem_keys_of_lookup found]

theorem map_replaceAt_of_absent (path : String) (node : Node) :
    ∀ {l : List (String × Node)}, path ∉ l.map Prod.fst → l.map (replaceAt path node) = l
  | [], _ => rfl
  | (k, v) :: rest, absent => by
    have ne : k ≠ path := fun same => absent (by simp [same])
    have later : path ∉ rest.map Prod.fst := fun m => absent (by simp [m])
    rw [List.map_cons, replaceAt_of_ne node v ne, map_replaceAt_of_absent path node later]

theorem map_replaceAt_of_lookup (path : String) (node : Node) :
    ∀ {l : List (String × Node)}, (l.map Prod.fst).Nodup → l.lookup path = some node →
      l.map (replaceAt path node) = l
  | [], _, found => by simp [List.lookup] at found
  | (k, v) :: rest, nodup, found => by
    rw [List.map_cons, List.nodup_cons] at nodup
    rw [List.map_cons]
    by_cases here : k = path
    · subst here
      rw [lookup_cons_self, Option.some.injEq] at found
      subst found
      rw [replaceAt_self, map_replaceAt_of_absent k v nodup.1]
    · rw [lookup_cons_of_ne _ _ (Ne.symm here)] at found
      rw [replaceAt_of_ne node v here, map_replaceAt_of_lookup path node nodup.2 found]

namespace Tree

@[simp] theorem get_set (t : Tree) (path : String) (node : Node) (q : String) :
    (t.set path node).get q = if q = path then some node else t.get q := by
  unfold set get
  split
  · by_cases same : q = path
    · subst same; simp [lookup_map_replaceAt_self node ‹_›]
    · simp [same, lookup_map_replaceAt_of_ne node same]
  · exact lookup_append_absent path node q ‹_›

/-- Putting back the node a path holds changes nothing. -/
theorem set_of_get {t : Tree} {path : String} {node : Node} (found : t.get path = some node) :
    t.set path node = t := by
  ext1
  simp [set, mem_keys_of_lookup found, map_replaceAt_of_lookup path node t.nodup found]

end Tree

/-- `dirname path` of an absolute path: what stands before its last `/`, or `/`. -/
def dirName (path : String) : String :=
  match (path.data.reverse.dropWhile (· ≠ '/')).drop 1 with
  | [] => "/"
  | rest => ⟨rest.reverse⟩

/-- `basename path`: what stands after its last `/`. -/
def baseName (path : String) : String := ⟨(path.data.reverse.takeWhile (· ≠ '/')).reverse⟩

namespace Tree

/-- `mkdir -p path`: nothing to do when the directory is there; a file in the way fails. A
new directory gets `fresh`. -/
def mkdirP (t : Tree) (path : String) (fresh : Meta) : Option Tree :=
  match t.get path with
  | none => some (t.set path (.dir fresh))
  | some (.dir _) => some t
  | some (.file _ _) => none

/-- `chown owner:group path` and `chmod mode path`: a new owner, group and mode. -/
def setMeta (t : Tree) (path : String) (change : Meta → Meta) : Option Tree :=
  (t.get path).map fun n => t.set path (n.withMeta (change n.meta))

/-- A file written through `>` or by `openssl`: a file there keeps its owner and mode, a new
one gets `fresh`. Writing fails onto a directory or where the parent directory is missing. -/
def write (t : Tree) (path content : String) (fresh : Meta) : Option Tree :=
  match t.get (dirName path), t.get path with
  | some (.dir _), some (.file _ m) => some (t.set path (.file content m))
  | some (.dir _), none => some (t.set path (.file content fresh))
  | _, _ => none

/-- Where `cp src dst` writes: into `dst` when it is a directory. -/
def cpTarget (t : Tree) (src dst : String) : String :=
  match t.get dst with
  | some (.dir _) => dst ++ "/" ++ baseName src
  | _ => dst

/-- `cp src dst`: a new file takes the source's permission bits under the umask; a copy onto
the source itself fails. -/
def cp (t : Tree) (src dst : String) (umask : Nat) : Option Tree :=
  match t.get src with
  | some (.file content m) =>
    if t.cpTarget src dst = src then none
    else t.write (t.cpTarget src dst) content (rootMeta (underUmask umask m.mode))
  | _ => none

theorem cpTarget_cases (t : Tree) (src dst : String) :
    t.cpTarget src dst = dst ∨ t.cpTarget src dst = dst ++ "/" ++ baseName src := by
  unfold cpTarget; split <;> simp

theorem get_of_mkdirP {t t' : Tree} {path : String} {fresh : Meta} (ran : t.mkdirP path fresh = some t') {q : String}
    (other : q ≠ path) : t'.get q = t.get q := by
  unfold mkdirP at ran
  split at ran <;> simp at ran <;> subst ran <;> simp [other]

theorem get_of_setMeta {t t' : Tree} {path : String} {change : Meta → Meta}
    (ran : t.setMeta path change = some t') {q : String} (other : q ≠ path) : t'.get q = t.get q := by
  obtain ⟨n, -, rfl⟩ := Option.map_eq_some'.mp ran
  simp [other]

theorem get_of_write {t t' : Tree} {path content : String} {fresh : Meta}
    (ran : t.write path content fresh = some t') {q : String} (other : q ≠ path) :
    t'.get q = t.get q := by
  unfold write at ran
  split at ran <;> simp at ran <;> subst ran <;> simp [other]

theorem get_of_cp {t t' : Tree} {src dst : String} {umask : Nat} (ran : t.cp src dst umask = some t') {q : String}
    (other : q ≠ t.cpTarget src dst) : t'.get q = t.get q := by
  unfold cp at ran
  split at ran
  · split_ifs at ran
    exact get_of_write ran other
  · simp at ran

theorem mkdirP_dir {t t' : Tree} {path : String} {fresh : Meta} (ran : t.mkdirP path fresh = some t') :
    ∃ m, t'.get path = some (.dir m) := by
  unfold mkdirP at ran
  split at ran <;> simp at ran <;> subst ran
  · exact ⟨_, by rw [get_set, if_pos rfl]⟩
  · exact ⟨_, ‹_›⟩

theorem setMeta_get {t t' : Tree} {path : String} {change : Meta → Meta}
    (ran : t.setMeta path change = some t') :
    ∃ n, t.get path = some n ∧ t'.get path = some (n.withMeta (change n.meta)) := by
  obtain ⟨n, found, rfl⟩ := Option.map_eq_some'.mp ran
  exact ⟨n, found, by simp⟩

theorem write_file {t t' : Tree} {path content : String} {fresh : Meta}
    (ran : t.write path content fresh = some t') : ∃ m, t'.get path = some (.file content m) := by
  unfold write at ran
  split at ran <;> simp at ran <;> subst ran <;> exact ⟨_, by rw [get_set, if_pos rfl]⟩

/-- Writing a file the contents it holds changes nothing. -/
theorem write_of_get {t : Tree} {path content : String} {m : Meta} (fresh : Meta)
    (parent : ∃ pm, t.get (dirName path) = some (.dir pm)) (found : t.get path = some (.file content m)) :
    t.write path content fresh = some t := by
  obtain ⟨pm, parent⟩ := parent
  simp [write, parent, found, set_of_get found]

theorem write_eq_set {t t' : Tree} {path content : String} {fresh : Meta}
    (ran : t.write path content fresh = some t') : ∃ n, t' = t.set path n := by
  unfold write at ran
  split at ran <;> simp at ran <;> exact ⟨_, ran.symm⟩

/-- A file written where there was none gets `fresh`. -/
theorem write_new {t t' : Tree} {path content : String} {fresh : Meta} (absent : t.isFile path = false)
    (ran : t.write path content fresh = some t') : t'.get path = some (.file content fresh) := by
  unfold write at ran
  split at ran <;> simp at ran <;> subst ran
  · simp_all [isFile]
  · simp

theorem setMeta_file {t t' : Tree} {path content : String} {m : Meta} {change : Meta → Meta}
    (found : t.get path = some (.file content m)) (ran : t.setMeta path change = some t') :
    t'.get path = some (.file content (change m)) := by
  obtain ⟨n, found', changed⟩ := setMeta_get ran
  rw [found] at found'
  cases found'
  exact changed

/-- A write needs the parent directory. -/
theorem write_parent {t t' : Tree} {path content : String} {fresh : Meta}
    (ran : t.write path content fresh = some t') : ∃ pm, t.get (dirName path) = some (.dir pm) := by
  unfold write at ran
  split at ran <;> simp at ran <;> exact ⟨_, ‹_›⟩

theorem cp_eq_write {t t' : Tree} {src dst : String} {umask : Nat} (ran : t.cp src dst umask = some t') :
    ∃ content m, t.get src = some (.file content m) ∧ t.cpTarget src dst ≠ src ∧
      t.write (t.cpTarget src dst) content (rootMeta (underUmask umask m.mode)) = some t' := by
  unfold cp at ran
  split at ran
  · split_ifs at ran with same
    exact ⟨_, _, ‹_›, same, ran⟩
  · simp at ran

theorem ne_append_slash (dir name : String) : dir ≠ dir ++ "/" ++ name := fun same => by
  have := congrArg String.length same
  simp only [String.length_append] at this
  have : "/".length = 1 := rfl
  omega

theorem cpTarget_of_dir {t : Tree} {dst : String} {m : Meta} (isDir : t.get dst = some (.dir m))
    (src : String) : t.cpTarget src dst = dst ++ "/" ++ baseName src := by
  simp [cpTarget, isDir]

theorem cpTarget_of_not_dir {t : Tree} {dst : String} (notDir : ∀ m, t.get dst ≠ some (.dir m))
    (src : String) : t.cpTarget src dst = dst := by
  unfold cpTarget; split
  · exact absurd ‹_› (notDir _)
  · rfl

/-- After a copy, a copy of a file of the same name to the same place lands where it did. -/
theorem cpTarget_after_cp {t t' : Tree} {src dst : String} {umask : Nat} (ran : t.cp src dst umask = some t')
    (src' : String) (named : baseName src' = baseName src) :
    t'.cpTarget src' dst = t.cpTarget src dst := by
  obtain ⟨content, m, -, -, written⟩ := cp_eq_write ran
  by_cases isDir : ∃ dm, t.get dst = some (.dir dm)
  · obtain ⟨dm, isDir⟩ := isDir
    rw [cpTarget_of_dir isDir] at written ⊢
    have kept := get_of_write written (ne_append_slash dst _)
    rw [cpTarget_of_dir (kept.trans isDir), named]
  · rw [cpTarget_of_not_dir (fun m found => isDir ⟨m, found⟩)] at written ⊢
    obtain ⟨m', file⟩ := write_file written
    exact cpTarget_of_not_dir (fun dm found => by rw [file] at found; cases found) src'

/-- Copying again the file a copy wrote changes nothing. -/
theorem cp_again {t t' : Tree} {src dst : String} {umask : Nat} (ran : t.cp src dst umask = some t')
    (kept : t'.get src = t.get src) (parent : dirName (t.cpTarget src dst) ≠ t.cpTarget src dst) :
    t'.cp src dst umask = some t' := by
  obtain ⟨content, m, source, distinct, written⟩ := cp_eq_write ran
  obtain ⟨pm, dir⟩ := write_parent written
  obtain ⟨m', file⟩ := write_file written
  have target := cpTarget_after_cp ran src rfl
  simp only [cp, kept, source, target, distinct, if_false]
  exact write_of_get _ ⟨pm, (get_of_write written parent).trans dir⟩ file

end Tree

/-- The kernel's parameters under `/proc/sys`, by sysctl key: the value each holds (`none`
for a key it lacks), and whether it takes a value written to it. -/
@[ext] structure Kernel where
  params : String → Option String
  accepts : String → String → Bool

/-- Everything of the host that the script reads or changes. -/
@[ext] structure Host where
  /-- system accounts, each with a group of its own name as `useradd` makes it -/
  accounts : List String
  tree : Tree
  kernel : Kernel
  /-- `command -v ufw` finds it -/
  ufwInstalled : Bool
  /-- `ufw status` reports the firewall active -/
  ufwActive : Bool
  /-- the rules `ufw allow` added -/
  ufwRules : List String
  /-- the umask the script runs under -/
  umask : Nat

end LibyaLink.Setup
