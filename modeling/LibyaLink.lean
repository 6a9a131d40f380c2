import LibyaLink.Go.Strings
import LibyaLink.Go.Fmt
import LibyaLink.Go.Net
import LibyaLink.Go.Json
import LibyaLink.Go.JsonLayout
import LibyaLink.Go.JsonRead
import LibyaLink.Doctor.Basic
import LibyaLink.Doctor.Checks
import LibyaLink.Doctor.Report
import LibyaLink.Doctor.CheckLaws
import LibyaLink.Tuner.Buffer
import LibyaLink.Tuner.Agreement
import LibyaLink.GenClient.Config
import LibyaLink.GenClient.Agreement
import LibyaLink.GenClient.Json
import LibyaLink.Go.Yaml
import LibyaLink.Setup.Host
import LibyaLink.Setup.Sysctl
import LibyaLink.Setup.Script
import LibyaLink.Setup.Frame
import LibyaLink.Setup.Rerun
import LibyaLink.Setup.Access
import LibyaLink.Setup.Diagnose
import LibyaLink.Setup.Tuned
import LibyaLink.Setup.Healthy
import LibyaLink.Setup.Client
