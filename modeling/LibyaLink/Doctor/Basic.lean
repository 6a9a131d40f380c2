import Mathlib

/-! The data the doctor reads and writes: a check's result, and the world its six checks
look at (the configuration source, files, the network stack and the platform). -/

namespace LibyaLink.Doctor

def checkOK : String := "✅"

def checkFail : String := "❌"

def checkWarn : String := "⚠️"

/-- The three values a result's `Status` takes. -/
inductive Status
  | ok
  | fail
  | warn
deriving DecidableEq, Repr

/-- The glyph the source stores in `checkResult.Status`. -/
def Status.glyph : Status → String
  | .ok => checkOK
  | .fail => checkFail
  | .warn => checkWarn

/-- The runner compares glyphs; distinct statuses have distinct glyphs. -/
@[simp] theorem Status.glyph_eq_glyph (s t : Status) : s.glyph = t.glyph ↔ s = t := by
  cases s <;> cases t <;> decide

@[simp] theorem Status.glyph_eq_checkOK (s : Status) : s.glyph = checkOK ↔ s = .ok :=
  Status.glyph_eq_glyph s .ok

@[simp] theorem Status.glyph_eq_checkFail (s : Status) : s.glyph = checkFail ↔ s = .fail :=
  Status.glyph_eq_glyph s .fail

@[simp] theorem Status.glyph_eq_checkWarn (s : Status) : s.glyph = checkWarn ↔ s = .warn :=
  Status.glyph_eq_glyph s .warn

structure CheckResult where
  name : String
  status : Status
  message : String
deriving DecidableEq, Repr

/-- A Go `map[string]string`: its keys are distinct, so `len` counts entries. -/
structure StringMap where
  entries : List (String × String)
  keysNodup : (entries.map Prod.fst).Nodup

/-- `len` of the map. -/
def StringMap.size (m : StringMap) : Nat := m.entries.length

def StringMap.empty : StringMap := ⟨[], List.nodup_nil⟩

/-- The process-wide `viper` configuration as the checks see it, after `ReadInConfig`. -/
structure ConfigSource where
  /-- the error `viper.ReadInConfig` returned, if loading failed -/
  readInConfig : Option String
  configFileUsed : String
  isSet : String → Bool
  getString : String → String
  getStringMapString : String → StringMap

/-- No configuration could be loaded, and the source holds no key at all. -/
def ConfigSource.Unloaded (config : ConfigSource) : Prop :=
  config.readInConfig.isSome ∧ (∀ key, config.isSet key = false) ∧
    (∀ key, config.getString key = "") ∧ ∀ key, (config.getStringMapString key).size = 0

/-- Why `os.Stat` failed, in the classes `os.IsNotExist` and `os.IsPermission` tell apart. -/
inductive StatError
  | notExist (text : String)
  | permission (text : String)
  | other (text : String)

structure FileSystem where
  /-- `os.Stat`: the file's size, or why it cannot be read -/
  stat : String → Except StatError Nat
  /-- `os.Open`: the error, if the file cannot be opened -/
  openFile : String → Option String
  /-- `os.ReadFile`: the contents, if the file can be read -/
  readFile : String → Option String

structure Network where
  /-- `net.ResolveUDPAddr("udp", addr)`: the error, if the address does not resolve -/
  resolveUDPAddr : String → Option String
  /-- `net.ListenUDP` on the resolved address: the bind error, if any -/
  listenUDP : String → Option String

/-- Everything the six checks read. -/
structure Env where
  config : ConfigSource
  fs : FileSystem
  net : Network
  /-- `tls.LoadX509KeyPair(certPath, keyPath)`: the error, if the pair does not load -/
  loadX509KeyPair : String → String → Option String
  /-- `runtime.GOOS` -/
  goos : String

end LibyaLink.Doctor
