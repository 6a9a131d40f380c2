import LibyaLink.Setup.Sysctl
import LibyaLink.Doctor.Basic

/-! The host as a process sees it through its credentials: `os.Stat`, `os.Open` and
`os.ReadFile` with Go's `*PathError` texts. Directories the tree does not hold are the
system's own, which every account may pass through. -/

namespace LibyaLink.Setup

open LibyaLink.Doctor

/-- Who a process runs as: root, or an account and the groups it is in. -/
inductive Caller
  | root
  | user (name : String) (groups : List String)
deriving DecidableEq, Repr

inductive Access
  | read
  | search
deriving DecidableEq, Repr

/-- The bit of a permission triple that grants the access. -/
def Access.bit : Access → Nat
  | .read => 2
  | .search => 0

/-- The owner's, the group's or the others' bits, whichever apply to the caller; root passes
them all. -/
def Meta.permits (m : Meta) (caller : Caller) (access : Access) : Bool :=
  match caller with
  | .root => true
  | .user name groups =>
    let shift := if m.owner = name then 6 else if m.group ∈ groups then 3 else 0
    m.mode.testBit (shift + access.bit)

inductive Errno
  | noent
  | acces
  | notdir
  | isdir
deriving DecidableEq, Repr

def Errno.text : Errno → String
  | .noent => "no such file or directory"
  | .acces => "permission denied"
  | .notdir => "not a directory"
  | .isdir => "is a directory"

/-- The text of Go's `*PathError`. -/
def pathError (op path : String) (e : Errno) : String := op ++ " " ++ path ++ ": " ++ e.text

/-- The characters of a path without the slashes that end it. -/
def dropTrailingSlashes (cs : List Char) : List Char := (cs.reverse.dropWhile (· = '/')).reverse

/-- The name a path looks up: `dir/` looks up `dir`, which must then be a directory; `/`
stays. -/
def trimSlashes (path : String) : String :=
  match dropTrailingSlashes path.data with
  | [] => if path = "" then "" else "/"
  | name => ⟨name⟩

/-- The directories a name passes through, outermost first, from what precedes it. -/
def ancestorsFrom (acc : List Char) : List Char → List String
  | [] => []
  | c :: rest => (if c = '/' ∧ acc ≠ [] then [⟨acc⟩] else []) ++ ancestorsFrom (acc ++ [c]) rest

/-- The directories the lookup of a path searches: those before its last name. -/
def ancestors (path : String) : List String := ancestorsFrom [] (trimSlashes path).data

theorem ancestorsFrom_append (acc : List Char) (xs ys : List Char) :
    ancestorsFrom acc (xs ++ ys) = ancestorsFrom acc xs ++ ancestorsFrom (acc ++ xs) ys := by
  induction xs generalizing acc with
  | nil => simp [ancestorsFrom]
  | cons c rest ih => simp [ancestorsFrom, ih]

/-- What stops the caller at one directory on the way. -/
def Tree.passes (t : Tree) (caller : Caller) (dir : String) : Option Errno :=
  match t.get dir with
  | some (.dir m) => if m.permits caller .search then none else some .acces
  | some (.file _ _) => some .notdir
  | none => none

/-- Path resolution: the first directory on the way that stops the caller, else the node,
which a trailing slash requires to be a directory. -/
def Tree.resolve (t : Tree) (caller : Caller) (path : String) : Except Errno Node :=
  match (ancestors path).findSome? (t.passes caller) with
  | some e => .error e
  | none =>
    match t.get (trimSlashes path) with
    | some (.file content m) => if trimSlashes path = path then .ok (.file content m) else .error .notdir
    | some n => .ok n
    | none => .error .noent

/-- The size `stat` reports: a file's bytes, one ext4 block for a directory. -/
def Node.size : Node → Nat
  | .file content _ => content.utf8ByteSize
  | .dir _ => 4096

/-- `os.Stat`, with its error in the classes `os.IsNotExist` and `os.IsPermission` test. -/
def Tree.stat (t : Tree) (caller : Caller) (path : String) : Except StatError Nat :=
  match t.resolve caller path with
  | .ok n => .ok n.size
  | .error .noent => .error (.notExist (pathError "stat" path .noent))
  | .error .acces => .error (.permission (pathError "stat" path .acces))
  | .error e => .error (.other (pathError "stat" path e))

/-- `os.Open` for reading: the node, if the caller may read it. -/
def Tree.openRead (t : Tree) (caller : Caller) (path : String) : Except Errno Node :=
  match t.resolve caller path with
  | .ok n => if n.meta.permits caller .read then .ok n else .error .acces
  | .error e => .error e

/-- `os.ReadFile`: the open, then the read, which fails on a directory. -/
def Tree.readFile (t : Tree) (caller : Caller) (path : String) : Except String String :=
  match t.openRead caller path with
  | .ok (.file content _) => .ok content
  | .ok (.dir _) => .error (pathError "read" path .isdir)
  | .error e => .error (pathError "open" path e)

def procSys : String := "/proc/sys/"

/-- A file of `/proc/sys` shows its parameter, the text last written to it, and a newline.
The doctor reads two that every account may read. -/
def Kernel.readProc (k : Kernel) (path : String) : Option String :=
  (k.params ⟨(path.data.drop procSys.length).map slashToDot⟩).map (· ++ "\n")

/-- The files the doctor reads, on the host, as `caller`. -/
def hostFileSystem (h : Host) (caller : Caller) : FileSystem where
  stat := h.tree.stat caller
  openFile path :=
    match h.tree.openRead caller path with
    | .ok _ => none
    | .error e => some (pathError "open" path e)
  readFile path :=
    if procSys.data <+: path.data then h.kernel.readProc path
    else (h.tree.readFile caller path).toOption

theorem dropTrailingSlashes_append (xs : List Char) {ys : List Char} (named : ∃ c ∈ ys, c ≠ '/') :
    dropTrailingSlashes (xs ++ ys) = xs ++ dropTrailingSlashes ys := by
  have kept : (ys.reverse.dropWhile (· = '/')).isEmpty = false := by
    obtain ⟨c, member, other⟩ := named
    cases dropped : ys.reverse.dropWhile (· = '/') with
    | cons => rfl
    | nil => simpa [other] using List.dropWhile_eq_nil_iff.mp dropped c (List.mem_reverse.mpr member)
  simp [dropTrailingSlashes, List.dropWhile_append, kept]

/-- A path whose directories all let the caller pass resolves to its node. -/
theorem Tree.resolve_of_passes {t : Tree} {caller : Caller} {path : String} {n : Node}
    (passes : ∀ dir ∈ ancestors path, t.passes caller dir = none) (plain : trimSlashes path = path)
    (found : t.get path = some n) : t.resolve caller path = .ok n := by
  rw [Tree.resolve, List.findSome?_eq_none_iff.mpr passes]
  cases n <;> simp [plain, found]

/-- A directory that stops the caller, after directories that let it pass. -/
theorem Tree.resolve_of_stopped {t : Tree} {caller : Caller} {path : String} {e : Errno}
    {before after : List String} {dir : String} (walk : ancestors path = before ++ dir :: after)
    (passes : ∀ d ∈ before, t.passes caller d = none) (stopped : t.passes caller dir = some e) :
    t.resolve caller path = .error e := by
  rw [Tree.resolve, walk, List.findSome?_append, List.findSome?_eq_none_iff.mpr passes]
  simp [stopped]

theorem Tree.openRead_of_resolve {t : Tree} {caller : Caller} {path : String} {n : Node}
    (resolved : t.resolve caller path = .ok n) (readable : n.meta.permits caller .read) :
    t.openRead caller path = .ok n := by
  simp [Tree.openRead, resolved, readable]

@[simp] theorem Meta.permits_root (m : Meta) (access : Access) : m.permits .root access := rfl

end LibyaLink.Setup
