import Mathlib

/-! The UDP buffer tuner: it asks the kernel for 8 MiB read and write buffers on the server's
socket, reads back through the per-platform socket-option accessor what was granted, and
logs the outcome of each request. -/

namespace LibyaLink.Tuner

def libyalinkDesiredReadBuffer : Nat := 8 * 1024 * 1024

def libyalinkDesiredWriteBuffer : Nat := 8 * 1024 * 1024

inductive Direction
  | read
  | write
deriving DecidableEq, Repr

/-- The kernel's state for one UDP socket: its receive and send buffer sizes. -/
structure Socket where
  rcvBuf : Nat
  sndBuf : Nat
deriving DecidableEq, Repr

def Socket.buffer (socket : Socket) : Direction → Nat
  | .read => socket.rcvBuf
  | .write => socket.sndBuf

def Socket.setBuffer (socket : Socket) : Direction → Nat → Socket
  | .read, size => { socket with rcvBuf := size }
  | .write, size => { socket with sndBuf := size }

/-- Setting one buffer leaves the other as it was. -/
@[simp] theorem Socket.buffer_setBuffer_of_ne (socket : Socket) {dir other : Direction}
    (different : other ≠ dir) (size : Nat) : (socket.setBuffer dir size).buffer other = socket.buffer other := by
  cases dir <;> cases other <;> first | rfl | exact absurd rfl different

/-- The operating system's answer to the two socket options the tuner uses. -/
structure Kernel where
  /-- `setsockopt(SO_RCVBUF / SO_SNDBUF, r)`: the socket's new state, or the error -/
  setsockopt : Direction → Nat → Socket → Except String Socket
  /-- `getsockopt(SO_RCVBUF / SO_SNDBUF)`: the stored size, or the error -/
  getsockopt : Direction → Socket → Except String Nat

/-- Linux as socket(7) describes it: a request of `r` bytes stores `2 * min r ceiling`, the
ceiling being `net.core.rmem_max` or `net.core.wmem_max`, and the option reads it back. -/
def linux (rmemMax wmemMax : Nat) : Kernel where
  setsockopt dir request socket :=
    .ok (socket.setBuffer dir (2 * min request (match dir with | .read => rmemMax | .write => wmemMax)))
  getsockopt dir socket := .ok (socket.buffer dir)

/-- `getSockOptRcvBuf` and `getSockOptSndBuf`, on Unix and on Windows alike: the size the
option reads, or 0 when the call fails. -/
def getSockOptBuf (kernel : Kernel) (dir : Direction) (socket : Socket) : Nat :=
  match kernel.getsockopt dir socket with
  | .ok size => size
  | .error _ => 0

def getSockOptRcvBuf (kernel : Kernel) (socket : Socket) : Nat := getSockOptBuf kernel .read socket

def getSockOptSndBuf (kernel : Kernel) (socket : Socket) : Nat := getSockOptBuf kernel .write socket

/-- `getUDPReadBufferSize`. `SyscallConn` only fails for a connection that `SetReadBuffer` has
already refused, so the size is the accessor's. -/
def getUDPReadBufferSize (kernel : Kernel) (socket : Socket) : Nat := getSockOptRcvBuf kernel socket

def getUDPWriteBufferSize (kernel : Kernel) (socket : Socket) : Nat := getSockOptSndBuf kernel socket

def formatBytes (b : Nat) : String :=
  if b ≥ 1024 * 1024 then s!"{b / (1024 * 1024)}MB"
  else if b ≥ 1024 then s!"{b / 1024}KB"
  else s!"{b}B"

inductive Level
  | info
  | warn
deriving DecidableEq, Repr

/-- A `zap` field: `zap.Int(key, value)` or `zap.Error(err)`. -/
inductive Field
  | int (key : String) (value : Nat)
  | error (err : String)
deriving DecidableEq, Repr

structure LogEntry where
  level : Level
  message : String
  fields : List Field
deriving DecidableEq, Repr

/-- One block of `tuneUDPBuffer`: request `desired` bytes for the buffer and, when the
request succeeds, log what the accessor reads back against it. -/
def tuneDirection (kernel : Kernel) (dir : Direction) (word : String) (desired : Nat)
    (getBufferSize : Kernel → Socket → Nat) (socket : Socket) : LogEntry × Socket :=
  match kernel.setsockopt dir desired socket with
  | .error err =>
    (⟨.warn, s!"[LibyaLink] Failed to set UDP {word} buffer", [.int "requested_bytes" desired, .error err]⟩,
      socket)
  | .ok socket =>
    let granted := getBufferSize kernel socket
    if granted < desired then
      (⟨.warn, s!"[LibyaLink] Requested {formatBytes desired} {word} buffer -> OS granted {formatBytes granted}. " ++
          "Warning: Run the tuning script to unlock full speed. See docs/libya_tuning.md",
        [.int "requested_bytes" desired, .int "granted_bytes" granted]⟩, socket)
    else
      (⟨.info, s!"[LibyaLink] UDP {word} buffer: requested {formatBytes desired} -> granted {formatBytes granted}. Optimal!",
        [.int "granted_bytes" granted]⟩, socket)

/-- `tuneUDPBuffer` on a connection (`none` for a nil one) with a logger or without: the
entries it logs and the socket's state afterwards. It never fails its caller. -/
def tuneUDPBuffer (kernel : Kernel) (conn : Option Socket) (hasLog : Bool) :
    List LogEntry × Option Socket :=
  match conn with
  | none => ([], none)
  | some socket =>
    if !hasLog then ([], some socket)
    else
      let (readEntry, socket) :=
        tuneDirection kernel .read "read" libyalinkDesiredReadBuffer getUDPReadBufferSize socket
      let (writeEntry, socket) :=
        tuneDirection kernel .write "write" libyalinkDesiredWriteBuffer getUDPWriteBufferSize socket
      ([⟨.info, "[LibyaLink] Tuning UDP socket buffers for Libyan network conditions...", []⟩,
        readEntry, writeEntry], some socket)

end LibyaLink.Tuner
