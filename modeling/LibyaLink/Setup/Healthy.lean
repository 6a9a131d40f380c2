import LibyaLink.Setup.Diagnose
import LibyaLink.Setup.Tuned

/-! The whole report of `libyalink doctor -c /etc/libyalink/config.yaml` after a first setup:
it turns only on the TLS loader accepting the drawn pair and on UDP port 443 being free. -/

namespace LibyaLink.Setup

open LibyaLink.Go LibyaLink.Doctor

/-- The port check never warns: it passes, or fails once. -/
theorem checkPortAvailability_counts (defaultListenAddr : String) (env : Env) :
    (checkPortAvailability defaultListenAddr env).countP (·.status = .warn) = 0 ∧
      (checkPortAvailability defaultListenAddr env).countP (·.status = .fail) =
        if env.net.resolveUDPAddr (listenAddress defaultListenAddr env.config) = none ∧
            env.net.listenUDP (listenAddress defaultListenAddr env.config) = none then 0 else 1 := by
  cases resolved : env.net.resolveUDPAddr (listenAddress defaultListenAddr env.config) with
  | some err => simp [checkPortAvailability, resolved]
  | none =>
    cases bound : env.net.listenUDP (listenAddress defaultListenAddr env.config) with
    | none => simp [checkPortAvailability, resolved, bound]
    | some err =>
      simp only [checkPortAvailability, resolved, bound, reduceCtorEq, and_false, if_false]
      split_ifs <;> simp

/-- After a first setup, an admitted caller's doctor run prints no warning, and one failure
each for a refused pair and for UDP `:443` not binding. -/
theorem runDoctor_after_first_setup (docsDir : String) (draw : Draw) (h : Host)
    (completed : (setupLibyalink 0 docsDir draw h).stop = none)
    (noCert : h.tree.isFile certPath = false) (noConfig : h.tree.isFile configPath = false)
    (keepsRead : h.umask &&& 0o440 = 0) (has : ∀ key ∈ bufferKeys, h.kernel.has key) (alone : h.tree.BuffersLeftAlone)
    (caller : Caller) (admitted : caller.Admitted) (etc : h.tree.passes caller "/etc" = none)
    (net : Network) (loadX509KeyPair : String → String → Option String)
    (defaultListenAddr : String) (unicodeToLower : Char → Char) :
    ∃ env, doctorEnv (setupLibyalink 0 docsDir draw h).host caller configPath net loadX509KeyPair
        "linux" = some env ∧
      let tally := doctorLoop (doctorChecks defaultListenAddr unicodeToLower env)
      tally.warnCount = 0 ∧
      tally.failCount =
        (if loadX509KeyPair "/etc/libyalink/cert.pem" "/etc/libyalink/key.pem" = none then 0 else 1) +
          (if net.resolveUDPAddr ":443" = none ∧ net.listenUDP ":443" = none then 0 else 1) ∧
      (verdictLine tally.failCount tally.warnCount = Verdict.allClear.line tally.failCount tally.warnCount ↔
        loadX509KeyPair "/etc/libyalink/cert.pem" "/etc/libyalink/key.pem" = none ∧
          net.resolveUDPAddr ":443" = none ∧ net.listenUDP ":443" = none) := by
  obtain ⟨config, sc, env⟩ := doctorEnv_after_first_setup completed noCert noConfig admitted etc net
    loadX509KeyPair "linux"
  refine ⟨_, env, ?_⟩
  have port := checkPortAvailability_counts defaultListenAddr
    ⟨config, hostFileSystem (setupLibyalink 0 docsDir draw h).host caller, net, loadX509KeyPair, "linux"⟩
  simp only [sc.listenAddress_eq] at port
  simp only [doctorLoop_eq, doctorChecks, sc.checkConfigReadable_ok, sc.checkTLSACMEConflict_ok,
    checkTLSFiles_after_first_setup completed noCert noConfig admitted etc sc,
    checkCert_after_first_setup completed noCert noConfig keepsRead admitted etc,
    checkUDPBuffers_after_setup completed has alone, sc.checkAuthConfig_ok, List.countP_append,
    port.1, port.2, verdictLine_allClear]
  cases pair : loadX509KeyPair "/etc/libyalink/cert.pem" "/etc/libyalink/key.pem" <;>
    simp [tlsPairResult, pair]

/-- A network where another process holds UDP port 443. -/
def portTaken : Network := ⟨fun _ => none, fun _ => some "listen udp :443: bind: address already in use"⟩

/-- A TLS loader that accepts every pair. -/
def pairLoads : String → String → Option String := fun _ _ => none

theorem runDoctor_after_first_setup_service :
    (setupLibyalink 0 "/opt/libyalink/docs" (exampleDraw 200) ubuntuHost).stop = none ∧
      ubuntuHost.tree.isFile certPath = false ∧ ubuntuHost.tree.isFile configPath = false ∧
      ubuntuHost.umask &&& 0o440 = 0 ∧ (∀ key ∈ bufferKeys, ubuntuHost.kernel.has key) ∧ ubuntuHost.tree.BuffersLeftAlone ∧
      (Caller.user serviceUser [serviceUser]).Admitted ∧
      ubuntuHost.tree.passes (.user serviceUser [serviceUser]) "/etc" = none ∧
      ∃ env, doctorEnv (setupLibyalink 0 "/opt/libyalink/docs" (exampleDraw 200) ubuntuHost).host
          (.user serviceUser [serviceUser]) configPath portTaken pairLoads "linux" = some env ∧
        let tally := doctorLoop (doctorChecks ":443" id env)
        tally.warnCount = 0 ∧
        tally.failCount =
          (if pairLoads "/etc/libyalink/cert.pem" "/etc/libyalink/key.pem" = none then 0 else 1) +
            (if portTaken.resolveUDPAddr ":443" = none ∧ portTaken.listenUDP ":443" = none then 0 else 1) ∧
        (verdictLine tally.failCount tally.warnCount = Verdict.allClear.line tally.failCount tally.warnCount ↔
          pairLoads "/etc/libyalink/cert.pem" "/etc/libyalink/key.pem" = none ∧
            portTaken.resolveUDPAddr ":443" = none ∧ portTaken.listenUDP ":443" = none) :=
  ⟨ubuntuHost_completed, rfl, rfl, rfl, by decide, by unfold Tree.BuffersLeftAlone; decide, .inl rfl, rfl,
    runDoctor_after_first_setup "/opt/libyalink/docs" (exampleDraw 200) ubuntuHost ubuntuHost_completed rfl rfl rfl
      (by decide)
      (by unfold Tree.BuffersLeftAlone; decide) (.user serviceUser [serviceUser]) (.inl rfl) rfl portTaken
      pairLoads ":443" id⟩

end LibyaLink.Setup
