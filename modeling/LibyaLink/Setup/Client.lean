import LibyaLink.Setup.Diagnose
import LibyaLink.GenClient.Json
import LibyaLink.GenClient.Agreement

/-! The client side of a first setup: `gen-client` run as the script's last lines say, with the
password it printed, gives clients that match the server configuration the script wrote. -/

namespace LibyaLink.Setup

open LibyaLink.Go LibyaLink.Doctor LibyaLink.GenClient

/-- The flags of the next steps' `gen-client` line, the others left at their defaults. -/
def suggestedFlags (server authPass : String) : Flags :=
  { server := server, auth := authPass, insecure := true }

/-- The password is base64: none of the characters double quotes leave to the shell. -/
theorem Draw.authPass_shellSafe (draw : Draw) :
    ∀ c ∈ draw.authPass.data, c ∉ ['$', '\x60', '\\', '"', '!'] := by
  have plain : ∀ c ∈ base64Alphabet ++ ['='], c ∉ ['$', '\x60', '\\', '"', '!'] := by decide
  intro c member
  exact plain c (List.mem_append.mpr ((base64_chars _ c member).imp id List.mem_singleton.mpr))

/-- Step 4 prints the box with the password whenever it writes the configuration. -/
theorem createDefaultConfig_passwordBox {draw : Draw} {h : Host} (absent : h.tree.isFile configPath = false)
    (ok : (createDefaultConfig draw h).stop = none) :
    "  ║  " ++ draw.authPass ++ "  ║" ∈ (createDefaultConfig draw h).output := by
  unfold createDefaultConfig at ok ⊢
  rw [if_neg (by simp [absent])] at ok ⊢
  unfold step at ok ⊢
  split <;> simp_all [passwordBox]

/-- A run that completes on a host without a configuration prints the box with the password
it wrote. -/
theorem setupLibyalink_passwordBox {docsDir : String} {draw : Draw} {h : Host}
    (completed : (setupLibyalink 0 docsDir draw h).stop = none)
    (noConfig : h.tree.isFile configPath = false) :
    "  ║  " ++ draw.authPass ++ "  ║" ∈ (setupLibyalink 0 docsDir draw h).output := by
  obtain ⟨_, _, _, _, _, _, ⟨-, rfl⟩, ⟨-, rfl⟩, ⟨-, rfl⟩, ⟨created, rfl⟩, -, -, -, -, output⟩ :=
    setupLibyalink_stages completed
  have kept : (generateCertificate draw (setupConfigDir (createUser h).host).host).host.tree.get configPath =
      h.tree.get configPath := (generateCertificate_treeStep draw).keeps (by decide) _ <|
    setupConfigDir_treeStep.keeps (by decide) _ <| by obtain ⟨_, eq, -⟩ := createUser_shape h; rw [eq]
  have absent := (Tree.isFile_congr kept).trans noConfig
  rw [output]
  exact List.mem_append_left _ <| List.mem_append_left _ <| List.mem_append_left _ <|
    List.mem_append_left _ <| List.mem_append_right _ <| createDefaultConfig_passwordBox absent created

/-- After a first setup, `gen-client` run with the printed password, which passes unchanged
through the next steps' double quotes, gives clients of the configuration the run wrote. -/
theorem genClient_after_first_setup (docsDir : String) (draw : Draw) (h : Host)
    (completed : (setupLibyalink 0 docsDir draw h).stop = none)
    (noCert : h.tree.isFile certPath = false) (noConfig : h.tree.isFile configPath = false)
    (server : String) :
    "  ║  " ++ draw.authPass ++ "  ║" ∈ (setupLibyalink 0 docsDir draw h).output ∧
      (∀ c ∈ draw.authPass.data, c ∉ ['$', '\x60', '\\', '"', '!']) ∧
      ∃ text m config, (setupLibyalink 0 docsDir draw h).host.tree.get configPath = some (.file text m) ∧
        viperConfig configPath (.ok text) = some config ∧
        config.getString "auth.password" = draw.authPass ∧
        splitHostPort (config.getString "listen") = .ok ("", "443") ∧
        ∃ outbound native,
          runGenClient (suggestedFlags server draw.authPass) = .ok (singBoxConfig outbound, native) ∧
          (JSON.read (singBoxJSON (suggestedFlags server draw.authPass) ⟨"1 mbps", "10 mbps"⟩)).bind
              finalOutbound? = some outbound ∧
          (JSON.read (nativeJSON (suggestedFlags server draw.authPass) ⟨"1 mbps", "10 mbps"⟩)).bind
              Hysteria2ClientConfig.ofJSON? = some native ∧
          outbound.password = config.getString "auth.password" ∧
          native.auth = config.getString "auth.password" ∧
          toString outbound.serverPort = "443" ∧
          (NoDelimiters server.data → splitHostPort native.server = .ok (server, "443")) ∧
          outbound.tls.insecure = true ∧ native.tls.insecure = true := by
  have files := setupLibyalink_first completed noCert noConfig
  obtain ⟨config, viper, sc⟩ := viperConfig_configYaml draw
  have native : (nativeConfig (suggestedFlags server draw.authPass) ⟨"1 mbps", "10 mbps"⟩).server =
      ⟨server.data ++ ':' :: "443".data⟩ :=
    String.ext (nativeConfig_server _ _)
  refine ⟨setupLibyalink_passwordBox completed noConfig, draw.authPass_shellSafe, _, _, config,
    files.config, viper, sc.password, by rw [sc.listen]; rfl, _, _, runGenClient_ok _ rfl, ?_, ?_,
    sc.password.symm, sc.password.symm, rfl, fun plain => ?_, rfl, rfl⟩
  · rw [singBoxJSON, marshalIndent_eq, JSON.read_layout _ genClient_indent_blank, Option.some_bind,
      finalOutbound?_singBoxConfig rfl]
  · rw [nativeJSON, marshalIndent_eq, JSON.read_layout _ genClient_indent_blank, Option.some_bind,
      Hysteria2ClientConfig.ofJSON?_toJSON]
  · rw [native]
    exact splitHostPort_join server.data "443".data plain (by decide)

theorem genClient_after_first_setup_ubuntu :
    (setupLibyalink 0 "/opt/libyalink/docs" (exampleDraw 200) ubuntuHost).stop = none ∧
      ubuntuHost.tree.isFile certPath = false ∧ ubuntuHost.tree.isFile configPath = false ∧
      "  ║  " ++ (exampleDraw 200).authPass ++ "  ║" ∈
        (setupLibyalink 0 "/opt/libyalink/docs" (exampleDraw 200) ubuntuHost).output ∧
      (∀ c ∈ (exampleDraw 200).authPass.data, c ∉ ['$', '\x60', '\\', '"', '!']) ∧
      ∃ text m config,
        (setupLibyalink 0 "/opt/libyalink/docs" (exampleDraw 200) ubuntuHost).host.tree.get configPath =
          some (.file text m) ∧
        viperConfig configPath (.ok text) = some config ∧
        config.getString "auth.password" = (exampleDraw 200).authPass ∧
        splitHostPort (config.getString "listen") = .ok ("", "443") ∧
        ∃ outbound native,
          runGenClient (suggestedFlags "203.0.113.7" (exampleDraw 200).authPass) =
            .ok (singBoxConfig outbound, native) ∧
          (JSON.read (singBoxJSON (suggestedFlags "203.0.113.7" (exampleDraw 200).authPass)
              ⟨"1 mbps", "10 mbps"⟩)).bind finalOutbound? = some outbound ∧
          (JSON.read (nativeJSON (suggestedFlags "203.0.113.7" (exampleDraw 200).authPass)
              ⟨"1 mbps", "10 mbps"⟩)).bind Hysteria2ClientConfig.ofJSON? = some native ∧
          outbound.password = config.getString "auth.password" ∧
          native.auth = config.getString "auth.password" ∧
          toString outbound.serverPort = "443" ∧
          (NoDelimiters "203.0.113.7".data → splitHostPort native.server = .ok ("203.0.113.7", "443")) ∧
          outbound.tls.insecure = true ∧ native.tls.insecure = true :=
  ⟨ubuntuHost_completed, rfl, rfl,
    genClient_after_first_setup "/opt/libyalink/docs" (exampleDraw 200) ubuntuHost ubuntuHost_completed rfl rfl "203.0.113.7"⟩

end LibyaLink.Setup
