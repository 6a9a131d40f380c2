import LibyaLink.Doctor.Checks

/-! The report `runDoctor` prints and its verdict, chosen from two counters; over them,
severity ordered OK < WARN < FAIL, whose worst value the verdict names. -/

namespace LibyaLink.Doctor

/-- What `runDoctor` prints before its results. -/
def doctorBanner : List String :=
  ["", "╔══════════════════════════════════════════════════════╗",
    "║          LibyaLink Doctor — System Diagnostic       ║",
    "║          Powered by Hysteria 2                      ║",
    "╚══════════════════════════════════════════════════════╝", "",
    "─── Diagnostic Results ───", ""]

def resultLine (r : CheckResult) : String :=
  s!"  {r.status.glyph}  [{r.name}] {r.message}"

/-- The loop state of `runDoctor`: the lines printed so far and the two counters. -/
structure Tally where
  printed : List String
  failCount : Nat
  warnCount : Nat

/-- One pass of the loop body over a result. -/
def Tally.step (tally : Tally) (r : CheckResult) : Tally where
  printed := tally.printed ++ [resultLine r]
  failCount := if r.status.glyph = checkFail then tally.failCount + 1 else tally.failCount
  warnCount := if r.status.glyph = checkWarn then tally.warnCount + 1 else tally.warnCount

def doctorLoop (results : List CheckResult) : Tally :=
  results.foldl Tally.step ⟨[], 0, 0⟩

inductive Verdict
  | allClear
  | degraded
  | broken
deriving DecidableEq, Repr

/-- The closing line of each verdict, given the two counters. -/
def Verdict.line (failCount warnCount : Nat) : Verdict → String
  | .allClear => "  ✅ System Healthy — All checks passed!"
  | .degraded => s!"  {checkWarn} System OK with {warnCount} warning(s)"
  | .broken =>
    s!"  {checkFail} {failCount} error(s), {warnCount} warning(s) found. Fix the issues above."

/-- The `if` / `else if` / `else` chain at the end of `runDoctor`. -/
def verdictLine (failCount warnCount : Nat) : String :=
  if failCount = 0 ∧ warnCount = 0 then Verdict.allClear.line failCount warnCount
  else if failCount = 0 then Verdict.degraded.line failCount warnCount
  else Verdict.broken.line failCount warnCount

/-- The glyph each verdict line shows as its third rune. -/
def Verdict.mark : Verdict → Char
  | .allClear => '✅'
  | .degraded => '⚠'
  | .broken => '❌'

theorem Verdict.line_mark (v : Verdict) (failCount warnCount : Nat) :
    (v.line failCount warnCount).data.get? 2 = some v.mark := by
  cases v <;> rfl

/-- The three verdicts print three different lines. -/
@[simp] theorem Verdict.line_inj {v v' : Verdict} {failCount warnCount : Nat} :
    v.line failCount warnCount = v'.line failCount warnCount ↔ v = v' := by
  refine ⟨fun same => ?_, fun same => same ▸ rfl⟩
  have marks := congrArg (fun line => line.data.get? 2) same
  simp only [Verdict.line_mark, Option.some.injEq] at marks
  cases v <;> cases v' <;> simp_all [Verdict.mark]

theorem verdictLine_allClear (failCount warnCount : Nat) :
    verdictLine failCount warnCount = Verdict.allClear.line failCount warnCount ↔
      failCount = 0 ∧ warnCount = 0 := by
  unfold verdictLine
  split_ifs <;> simp_all

theorem verdictLine_degraded (failCount warnCount : Nat) :
    verdictLine failCount warnCount = Verdict.degraded.line failCount warnCount ↔
      failCount = 0 ∧ 0 < warnCount := by
  unfold verdictLine
  split_ifs <;> simp_all
  omega

theorem verdictLine_broken (failCount warnCount : Nat) :
    verdictLine failCount warnCount = Verdict.broken.line failCount warnCount ↔ 0 < failCount := by
  unfold verdictLine
  split_ifs <;> simp_all
  omega

/-- What `runDoctor` prints after its results. -/
def doctorFooter (failCount warnCount : Nat) : List String :=
  ["", "──────────────────────────", verdictLine failCount warnCount, ""]

inductive ExitStatus
  | success
  | failure
deriving DecidableEq, Repr

structure DoctorRun where
  stdout : List String
  exit : ExitStatus

/-- `runDoctor` over the results of the checks. It is the command's `Run`, which returns
nothing and never calls `os.Exit`: the command ends with success whatever it printed. -/
def doctorRun (results : List CheckResult) : DoctorRun :=
  let tally := doctorLoop results
  { stdout := doctorBanner ++ tally.printed ++ doctorFooter tally.failCount tally.warnCount
    exit := .success }

def runDoctor (defaultListenAddr : String) (unicodeToLower : Char → Char) (env : Env) : DoctorRun :=
  doctorRun (doctorChecks defaultListenAddr unicodeToLower env)

/-- The loop prints each result once, in order, and each counter counts its own status. -/
theorem foldl_step (results : List CheckResult) (tally : Tally) :
    results.foldl Tally.step tally =
      ⟨tally.printed ++ results.map resultLine,
        tally.failCount + results.countP (·.status = .fail),
        tally.warnCount + results.countP (·.status = .warn)⟩ := by
  induction results generalizing tally with
  | nil => simp
  | cons r rest ih =>
    rw [List.foldl_cons, ih]
    cases status : r.status <;> simp [Tally.step, status, List.countP_cons] <;> omega

theorem doctorLoop_eq (results : List CheckResult) :
    doctorLoop results =
      ⟨results.map resultLine, results.countP (·.status = .fail), results.countP (·.status = .warn)⟩ := by
  simpa using foldl_step results ⟨[], 0, 0⟩

/-- The report of `runDoctor`: each result printed once and in order, both counters exact,
the verdict line fixed by them, and success as the exit status whatever the results hold. -/
theorem doctorRun_report (results : List CheckResult) :
    let tally := doctorLoop results
    (doctorRun results).stdout =
        doctorBanner ++ results.map resultLine ++ doctorFooter tally.failCount tally.warnCount ∧
      tally.failCount = results.countP (·.status = .fail) ∧
      tally.warnCount = results.countP (·.status = .warn) ∧
      (verdictLine tally.failCount tally.warnCount =
          Verdict.allClear.line tally.failCount tally.warnCount ↔
        tally.failCount = 0 ∧ tally.warnCount = 0) ∧
      (verdictLine tally.failCount tally.warnCount =
          Verdict.degraded.line tally.failCount tally.warnCount ↔
        tally.failCount = 0 ∧ 0 < tally.warnCount) ∧
      (verdictLine tally.failCount tally.warnCount =
          Verdict.broken.line tally.failCount tally.warnCount ↔ 0 < tally.failCount) ∧
      (doctorRun results).exit = .success := by
  refine ⟨?_, ?_, ?_, verdictLine_allClear _ _, verdictLine_degraded _ _, verdictLine_broken _ _, rfl⟩ <;>
    simp [doctorRun, doctorLoop_eq]

/-- Severity, ordered OK < WARN < FAIL. -/
def Status.rank : Status → Nat
  | .ok => 0
  | .warn => 1
  | .fail => 2

/-- The more severe of two statuses. -/
def Status.max (s t : Status) : Status := if s.rank < t.rank then t else s

/-- The most severe status among a run's results; OK when there are none. -/
def worst (results : List CheckResult) : Status :=
  results.foldr (fun r s => r.status.max s) .ok

/-- The verdict each severity calls for. -/
def Verdict.ofStatus : Status → Verdict
  | .ok => .allClear
  | .warn => .degraded
  | .fail => .broken

/-- The worst status read off the two counts, in the order of the verdict chain. -/
theorem worst_eq_counts (results : List CheckResult) :
    worst results =
      if results.countP (·.status = .fail) = 0 ∧ results.countP (·.status = .warn) = 0 then .ok
      else if results.countP (·.status = .fail) = 0 then .warn else .fail := by
  induction results with
  | nil => rfl
  | cons r rest ih =>
    change r.status.max (worst rest) = _
    rw [ih]
    cases status : r.status <;>
      simp only [List.countP_cons, status, reduceCtorEq, decide_True, decide_False, if_true,
        if_false, Nat.add_zero, Nat.add_one_ne_zero, false_and, and_false] <;>
      split_ifs <;> first | rfl | omega

/-- The two counters of `runDoctor` pick the verdict of the run's worst status. -/
theorem verdictLine_worst (results : List CheckResult) :
    let tally := doctorLoop results
    verdictLine tally.failCount tally.warnCount =
      (Verdict.ofStatus (worst results)).line tally.failCount tally.warnCount := by
  simp only [doctorLoop_eq, verdictLine, worst_eq_counts]
  split_ifs <;> rfl

end LibyaLink.Doctor
