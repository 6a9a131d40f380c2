import LibyaLink.Tuner.Buffer
import LibyaLink.Doctor.CheckLaws

/-! The tuner and the doctor judge the same 8 MiB floor from two sides, the reported size and
the ceiling; on Linux they disagree exactly on ceilings in [4 MiB, 8 MiB). -/

namespace LibyaLink.Tuner

open LibyaLink.Go LibyaLink.Doctor

/-- What `/proc/sys/net/core/rmem_max` or `wmem_max` holds for a ceiling: its decimal text
and a newline. -/
def sysctlText (value : Nat) : String := toString value ++ "\n"

theorem trimSpace_sysctlText (value : Nat) : trimSpace (sysctlText value) = toString value := by
  obtain ⟨-, decimal, -⟩ := toString_decimal value
  have plain : ∀ c ∈ (toString value).data, isSpace c = false :=
    fun c member => (decimalDigits_plain c (decimal c member)).1
  exact trimSpace_append_spaces _ ['\n'] (fun c first => plain c (List.mem_of_mem_head? first))
    (fun c last => plain c (List.mem_of_mem_getLast? last)) (by decide)

theorem sscanfInt_sysctlText {value : Nat} (fits : value < 2 ^ 63) :
    sscanfInt (trimSpace (sysctlText value)) = some (value : Int) := by
  rw [trimSpace_sysctlText, sscanfInt_toString value fits]

/-- The doctor reads a ceiling back from its sysctl file and passes it exactly when it is at
least 8 MiB. -/
theorem checkBufferValue_sysctl (name : String) (value : Nat) (fits : value < 2 ^ 63) :
    (checkBufferValue name (trimSpace (sysctlText value)) 8388608).status = .ok ↔
      8 * 1024 * 1024 ≤ value := by
  rw [checkBufferValue_ok_iff (sscanfInt_sysctlText fits)]
  omega

theorem checkBufferValue_sysctl_default :
    (212992 : Nat) < 2 ^ 63 ∧
      ((checkBufferValue "UDP rmem_max" (trimSpace (sysctlText 212992)) 8388608).status = .ok ↔
        8 * 1024 * 1024 ≤ 212992) :=
  ⟨by decide, checkBufferValue_sysctl "UDP rmem_max" 212992 (by decide)⟩

/-- On Linux, with both sysctl files readable, the doctor reports one result per ceiling. -/
theorem checkUDPBuffers_linux (env : Env) (rmemMax wmemMax : Nat) (onLinux : env.goos = "linux")
    (rmem : env.fs.readFile "/proc/sys/net/core/rmem_max" = some (sysctlText rmemMax))
    (wmem : env.fs.readFile "/proc/sys/net/core/wmem_max" = some (sysctlText wmemMax)) :
    checkUDPBuffers env =
      [checkBufferValue "UDP rmem_max" (trimSpace (sysctlText rmemMax)) 8388608,
        checkBufferValue "UDP wmem_max" (trimSpace (sysctlText wmemMax)) 8388608] := by
  simp [checkUDPBuffers, onLinux, sysctlBufferResult, rmem, wmem]

/-- A host whose ceilings were tuned to 4 MiB. -/
def halfTunedEnv : Env where
  config :=
    { readInConfig := none
      configFileUsed := "/etc/libyalink/config.yaml"
      isSet := fun _ => false
      getString := fun _ => ""
      getStringMapString := fun _ => StringMap.empty }
  fs :=
    { stat := fun path => .error (.notExist s!"stat {path}: no such file or directory")
      openFile := fun path => some s!"open {path}: no such file or directory"
      readFile := fun path =>
        if path = "/proc/sys/net/core/rmem_max" || path = "/proc/sys/net/core/wmem_max" then
          some (sysctlText 4194304)
        else none }
  net := { resolveUDPAddr := fun _ => none, listenUDP := fun _ => none }
  loadX509KeyPair := fun cert _ => some s!"open {cert}: no such file or directory"
  goos := "linux"

/-- With both ceilings at 4 MiB the tuner logs both buffers as optimal, and the doctor warns
about both ceilings. -/
theorem tuner_doctor_disagree :
    (tuneUDPBuffer (linux 4194304 4194304) (some ⟨212992, 212992⟩) true).1 =
        [⟨.info, "[LibyaLink] Tuning UDP socket buffers for Libyan network conditions...", []⟩,
          ⟨.info, "[LibyaLink] UDP read buffer: requested 8MB -> granted 8MB. Optimal!",
            [.int "granted_bytes" 8388608]⟩,
          ⟨.info, "[LibyaLink] UDP write buffer: requested 8MB -> granted 8MB. Optimal!",
            [.int "granted_bytes" 8388608]⟩] ∧
      checkUDPBuffers halfTunedEnv =
        [⟨"UDP rmem_max", .warn,
            "4194304 bytes (< 8388608 recommended). Run the tuning script for full speed. See docs/libya_tuning.md"⟩,
          ⟨"UDP wmem_max", .warn,
            "4194304 bytes (< 8388608 recommended). Run the tuning script for full speed. See docs/libya_tuning.md"⟩] := by
  decide

end LibyaLink.Tuner
