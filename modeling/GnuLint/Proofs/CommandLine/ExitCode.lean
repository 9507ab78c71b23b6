import GnuLint.CommandLine.Check
import GnuLint.Proofs.Fix.Completion

/-!
# What the exit code of a check tells

Who runs a check from another program sees its exit code and nothing else, so the code has
to tell of the whole run, and not only of the script that came last. For a report, what
counts is whether some script could not be scanned, and how severe the worst finding is that
is shown. For a fix run, code 0 promises that nothing is left to be done: all scripts were
scanned, and the batch of them has completed (`GnuLint.Batch.Completes`).

Both are told by what there was on the disk and what a script is, not by what the run has
recorded on its way (`GnuLint.CommandLine.exitCode_check`). For a fix run it does not matter who
judges what is fixed, and the judges that can be asked for are a case of any others
(`GnuLint.CommandLine.exitCode_checkJudgedBy_of_destination`). An output that is not a directory,
where there has to be one, keeps all scripts from being scanned.
-/

namespace GnuLint

theorem Step.unresolvedTotal_eq_zero_iff {steps : List Step} :
    unresolvedTotal steps = 0 ↔ ∀ s ∈ steps, s.unresolvedCount = 0 := by
  induction steps with
  | nil => simp [unresolvedTotal]
  | cons s steps ih =>
    rw [List.forall_mem_cons, ← ih, unresolvedTotal, List.foldr_cons, ← unresolvedTotal]
    exact Nat.add_eq_zero_iff

theorem Findings.mem_atLeast {least : Severity} {fs : List Finding} {f : Finding} :
    f ∈ atLeast least fs ↔ f ∈ fs ∧ least ≤ f.severity := by
  rw [atLeast, List.mem_filter, decide_eq_true_eq]

namespace CommandLine

/-! ### What there is to scan -/

namespace CheckRequest

/-- **The scripts are there**: there are some, and each of them is on the disk. -/
def HasInputs (r : CheckRequest) (disk : Disk) : Prop :=
  r.files ≠ [] ∧ ∀ file ∈ r.files, disk.hasPath file = true

/-- Some script cannot be scanned. -/
def HasUnscanned (r : CheckRequest) (rules : RuleSet) (disk : Disk) : Prop :=
  ∃ file ∈ r.files, ∃ e, rules.scanFile disk file = .error e

/-- **A finding is shown**: it is one of some script, and severe enough. -/
def Shows (r : CheckRequest) (rules : RuleSet) (disk : Disk) (f : Finding) : Prop :=
  ∃ file ∈ r.files, ∃ fs, rules.scanFile disk file = .ok fs ∧ f ∈ fs ∧ r.least ≤ f.severity

/-- **All scripts are scanned**, and these are the scripts with their findings, as far as
they are severe enough. -/
def Scanned (r : CheckRequest) (rules : RuleSet) (disk : Disk)
    (inputs : List (Path × List Finding)) : Prop :=
  List.Forall₂ (fun file input => ∃ fs, rules.scanFile disk file = .ok fs ∧
    input = (file, Findings.atLeast r.least fs)) r.files inputs

end CheckRequest

namespace Scans

variable {rules : RuleSet} {disk : Disk} {least : Severity} {file : Path} {files : List Path}

theorem ofFiles_cons_ok {fs : List Finding} (h : rules.scanFile disk file = .ok fs) :
    ofFiles rules disk least (file :: files) =
      ⟨(file, Findings.atLeast least fs) :: (ofFiles rules disk least files).findings,
        (ofFiles rules disk least files).failures⟩ := by
  rw [ofFiles, h]

theorem ofFiles_cons_error {e : ScanError FileError} (h : rules.scanFile disk file = .error e) :
    ofFiles rules disk least (file :: files) =
      ⟨(ofFiles rules disk least files).findings,
        e :: (ofFiles rules disk least files).failures⟩ := by
  rw [ofFiles, h]

/-- **There are failures exactly if some script cannot be scanned.** -/
theorem failures_ne_nil_iff :
    (ofFiles rules disk least files).failures ≠ [] ↔
      ∃ file ∈ files, ∃ e, rules.scanFile disk file = .error e := by
  induction files with
  | nil => simp [ofFiles]
  | cons file files ih =>
    cases hscan : rules.scanFile disk file with
    | ok fs =>
      rw [ofFiles_cons_ok hscan, ih]
      simp [hscan]
    | error e =>
      rw [ofFiles_cons_error hscan]
      simp [hscan]

/-- **The findings are those of the scripts that can be scanned.** -/
theorem mem_all_ofFiles {f : Finding} :
    f ∈ (ofFiles rules disk least files).all ↔
      ∃ file ∈ files, ∃ fs, rules.scanFile disk file = .ok fs ∧ f ∈ fs ∧ least ≤ f.severity := by
  induction files with
  | nil => simp [ofFiles, all]
  | cons file files ih =>
    rw [List.exists_mem_cons_iff, ← ih]
    cases hscan : rules.scanFile disk file with
    | ok fs =>
      rw [ofFiles_cons_ok hscan]
      simp [all, Findings.mem_atLeast]
    | error e =>
      rw [ofFiles_cons_error hscan]
      simp [all]

/-- **Without failures, all scripts are scanned**, and the other way round. -/
theorem ofFiles_eq_iff {inputs : List (Path × List Finding)} :
    ofFiles rules disk least files = ⟨inputs, []⟩ ↔
      List.Forall₂ (fun file input => ∃ fs, rules.scanFile disk file = .ok fs ∧
        input = (file, Findings.atLeast least fs)) files inputs := by
  induction files generalizing inputs with
  | nil => simp [ofFiles, eq_comm]
  | cons file files ih =>
    rw [List.forall₂_cons_left_iff]
    cases hscan : rules.scanFile disk file with
    | error e =>
      rw [ofFiles_cons_error hscan]
      simp
    | ok fs =>
      rw [ofFiles_cons_ok hscan]
      constructor
      · intro h
        obtain ⟨hinputs, hfailures⟩ := Scans.mk.inj h
        refine ⟨_, _, ⟨fs, rfl, rfl⟩, ih.mp ?_, hinputs.symm⟩
        rw [← hfailures]
      · rintro ⟨input, inputs, ⟨fs', hfs', rfl⟩, hmore, rfl⟩
        obtain rfl := Except.ok.inj hfs'
        rw [ih.mpr hmore]

/-! ### Exit codes -/

/-- **The three exit codes of a report.** -/
theorem exitCode_spec (s : Scans) :
    (s.exitCode = 1 ↔ s.failures ≠ [] ∨ ∃ f ∈ s.all, f.severity = .error) ∧
      (s.exitCode = 2 ↔
        ¬(s.failures ≠ [] ∨ ∃ f ∈ s.all, f.severity = .error) ∧ ∃ f, f ∈ s.all) ∧
      (s.exitCode = 0 ↔ s.failures = [] ∧ ¬∃ f, f ∈ s.all) := by
  have hbad : (!s.failures.isEmpty || Findings.hasErrors s.all) = true ↔
      s.failures ≠ [] ∨ ∃ f ∈ s.all, f.severity = .error := by
    simp [Findings.hasErrors]
  have hempty : s.all.isEmpty = true ↔ ¬∃ f, f ∈ s.all := by
    rw [List.isEmpty_iff, List.eq_nil_iff_forall_not_mem, not_exists]
  by_cases h : s.failures ≠ [] ∨ ∃ f ∈ s.all, f.severity = .error
  · have hcode : s.exitCode = 1 := if_pos (hbad.mpr h)
    -- an error is a finding, too, so the code is not 0 by rights either
    have hsomething : ¬(s.failures = [] ∧ ¬∃ f, f ∈ s.all) := by
      rintro ⟨hnil, hno⟩
      rcases h with hfailures | ⟨f, hf, -⟩
      · exact hfailures hnil
      · exact hno ⟨f, hf⟩
    rw [hcode]
    exact ⟨iff_of_true rfl h, iff_of_false (by decide) fun hno => hno.1 h,
      iff_of_false (by decide) hsomething⟩
  have hrest : s.exitCode = if s.all.isEmpty then 0 else 2 := if_neg (mt hbad.mp h)
  by_cases hsome : ∃ f, f ∈ s.all
  · have hcode : s.exitCode = 2 := hrest.trans (if_neg fun hno => hempty.mp hno hsome)
    rw [hcode]
    exact ⟨iff_of_false (by decide) h, iff_of_true rfl ⟨h, hsome⟩,
      iff_of_false (by decide) fun hno => hno.2 hsome⟩
  · have hcode : s.exitCode = 0 := hrest.trans (if_pos (hempty.mpr hsome))
    have hnil : s.failures = [] := not_not.mp (not_or.mp h).1
    rw [hcode]
    exact ⟨iff_of_false (by decide) h, iff_of_false (by decide) fun hfound => hsome hfound.2,
      iff_of_true rfl ⟨hnil, hsome⟩⟩

end Scans

theorem fixExitCode_eq_zero_iff {scanFailed : Bool} {steps : List Step} :
    fixExitCode scanFailed steps = 0 ↔ scanFailed = false ∧ ∀ s ∈ steps, s.IsSettled := by
  have hcode : fixExitCode scanFailed steps = 0 ↔
      (scanFailed = false ∧ ∀ s ∈ steps, s.isUnreadable = false ∧ s.isUnwritten = false) ∧
        ∀ s ∈ steps, s.unresolvedCount = 0 := by
    rw [fixExitCode, ite_eq_right_iff, ← Step.unresolvedTotal_eq_zero_iff]
    simp
  rw [hcode]
  constructor
  · rintro ⟨⟨hscans, hsteps⟩, hcounts⟩
    refine ⟨hscans, fun s hs => ?_⟩
    obtain ⟨hread, hwritten⟩ := hsteps s hs
    exact ⟨hread, hwritten, hcounts s hs⟩
  · rintro ⟨hscans, hall⟩
    refine ⟨⟨hscans, fun s hs => ?_⟩, fun s hs => (hall s hs).unresolvedCount_eq⟩
    exact ⟨(hall s hs).read, (hall s hs).written⟩

/-- **The exit code of a fix run is 0 exactly if all scripts were scanned and the batch has
completed.** -/
theorem exitCode_fix {b : Batch} {scans : Scans} {disk : Disk} {e : Execution}
    (h : fix b scans disk = .ok e) :
    (e.exitCode = 0 ↔ scans.failures = [] ∧ b.Completes disk scans.findings) ∧
      (e.exitCode = 0 ∨ e.exitCode = 1) := by
  obtain ⟨⟨steps, after⟩, hrun, hend⟩ := bind_eq_ok_iff.mp h
  have hcode : e.exitCode = fixExitCode (!scans.failures.isEmpty) steps := by
    rw [← Except.ok.inj hend]
  rw [hcode]
  constructor
  · rw [fixExitCode_eq_zero_iff, Batch.completes_iff_of_run hrun, Bool.not_eq_false',
      List.isEmpty_iff]
  · rw [fixExitCode]
    split
    · exact Or.inr rfl
    · exact Or.inl rfl

/-! ### All of it -/

variable {validator : Validator} {env : Environment} {r : CheckRequest} {disk : Disk}
  {rules : RuleSet} {override : Option Path} {e : Execution}

/-- A check whose scripts are there, and whose rules load, scans the scripts, unless their
output is misdirected. -/
theorem checkJudgedBy_cases (hinputs : r.HasInputs disk)
    (hrules : env.loadRules disk r.rules = .ok (rules, override)) :
    (r.isMisdirected disk = false ∧
        checkJudgedBy validator env r disk = checkWith validator rules r disk) ∨
      (r.isMisdirected disk = true ∧
        ∃ f, checkJudgedBy validator env r disk = .ok (.ofFailure disk f)) := by
  obtain ⟨hsome, hthere⟩ := hinputs
  have hfiles : r.files.isEmpty = false := by simpa using hsome
  cases hmisdirected : r.isMisdirected disk with
  | true =>
    have hobstacle : r.obstacle? disk =
        some ⟨"output path must be a directory when processing multiple files", []⟩ := by
      rw [CheckRequest.obstacle?, hfiles, if_neg Bool.false_ne_true, if_pos hmisdirected]
    exact Or.inr ⟨rfl, _, by rw [checkJudgedBy, hobstacle]⟩
  | false =>
    have hfound : (r.files.find? fun file => !disk.hasPath file) = none := by
      rw [List.find?_eq_none]
      intro file hfile
      simp [hthere file hfile]
    have hobstacle : r.obstacle? disk = none := by
      rw [CheckRequest.obstacle?, hfiles, if_neg Bool.false_ne_true, hmisdirected,
        if_neg Bool.false_ne_true, hfound]
      rfl
    exact Or.inl ⟨rfl, by rw [checkJudgedBy, hobstacle, hrules]⟩

/-- **The exit code of a report tells whether all scripts were scanned, and how severe the
findings are that it shows.** -/
theorem exitCode_report
    (h : report r.format (Scans.ofFiles rules disk r.least r.files) disk = .ok e) :
    (e.exitCode = 1 ↔
        r.HasUnscanned rules disk ∨ ∃ f, r.Shows rules disk f ∧ f.severity = .error) ∧
      (e.exitCode = 2 ↔
        ¬(r.HasUnscanned rules disk ∨ ∃ f, r.Shows rules disk f ∧ f.severity = .error) ∧
          ∃ f, r.Shows rules disk f) ∧
      (e.exitCode = 0 ↔ ¬r.HasUnscanned rules disk ∧ ¬∃ f, r.Shows rules disk f) := by
  obtain ⟨output, -, he⟩ := bind_eq_ok_iff.mp h
  have hcode : e.exitCode = (Scans.ofFiles rules disk r.least r.files).exitCode := by
    rw [← Except.ok.inj he]
  have hunscanned : (Scans.ofFiles rules disk r.least r.files).failures ≠ [] ↔
      r.HasUnscanned rules disk := Scans.failures_ne_nil_iff
  have hscanned : (Scans.ofFiles rules disk r.least r.files).failures = [] ↔
      ¬r.HasUnscanned rules disk := by
    rw [← hunscanned, not_not]
  have hshows (f : Finding) : f ∈ (Scans.ofFiles rules disk r.least r.files).all ↔
      r.Shows rules disk f := Scans.mem_all_ofFiles
  have hspec := (Scans.ofFiles rules disk r.least r.files).exitCode_spec
  simp only [hunscanned, hscanned, hshows] at hspec
  rwa [hcode]

/-- **The exit code of a check that reports**: only its scripts and its rules count. -/
theorem exitCode_checkJudgedBy_of_report (hinputs : r.HasInputs disk)
    (hrules : env.loadRules disk r.rules = .ok (rules, override))
    (h : checkJudgedBy validator env r disk = .ok e) (hnone : r.destination = none) :
    (e.exitCode = 1 ↔
        r.HasUnscanned rules disk ∨ ∃ f, r.Shows rules disk f ∧ f.severity = .error) ∧
      (e.exitCode = 2 ↔
        ¬(r.HasUnscanned rules disk ∨ ∃ f, r.Shows rules disk f ∧ f.severity = .error) ∧
          ∃ f, r.Shows rules disk f) ∧
      (e.exitCode = 0 ↔ ¬r.HasUnscanned rules disk ∧ ¬∃ f, r.Shows rules disk f) := by
  rcases checkJudgedBy_cases hinputs hrules with ⟨-, hcheck⟩ | ⟨hmisdirected, -⟩
  · rw [hcheck, checkWith, hnone] at h
    exact exitCode_report h
  -- a report has no output that could be misdirected
  · rw [CheckRequest.isMisdirected, hnone] at hmisdirected
    cases hmisdirected

/-- **The exit code of a check that fixes**, whoever judges what is fixed: it is 0 exactly if all
scripts are scanned and the batch of them completes. -/
theorem exitCode_checkJudgedBy_of_destination {destination : Destination}
    (hinputs : r.HasInputs disk) (hrules : env.loadRules disk r.rules = .ok (rules, override))
    (h : checkJudgedBy validator env r disk = .ok e) (hsome : r.destination = some destination) :
    (e.exitCode = 0 ↔ r.isMisdirected disk = false ∧
        ∃ inputs, r.Scanned rules disk inputs ∧
          (r.batchJudgedBy validator destination).Completes disk inputs) ∧
      (e.exitCode = 0 ∨ e.exitCode = 1) := by
  rcases checkJudgedBy_cases hinputs hrules with ⟨hstraight, hcheck⟩ | ⟨hmisdirected, f, hcheck⟩
  · rw [hcheck, checkWith, hsome] at h
    obtain ⟨hzero, hcodes⟩ := exitCode_fix h
    refine ⟨?_, hcodes⟩
    rw [hzero]
    constructor
    · rintro ⟨hfailures, hcompletes⟩
      refine ⟨hstraight, _, Scans.ofFiles_eq_iff.mp ?_, hcompletes⟩
      rw [← hfailures]
    -- what all scripts were scanned for is what the batch was given
    · rintro ⟨-, inputs, hscanned, hcompletes⟩
      rw [Scans.ofFiles_eq_iff.mpr hscanned]
      exact ⟨rfl, hcompletes⟩
  · rw [hcheck] at h
    have hcode : e.exitCode = 1 := by
      rw [← Except.ok.inj h]
      rfl
    refine ⟨?_, Or.inr hcode⟩
    rw [hcode, hmisdirected]
    simp

/-- **The exit code tells of the whole run.** If there are scripts and rules, a report ends
with 1 if some script cannot be scanned or some finding that is shown is an error, or else
with 2 if a finding is shown at all, or else with 0. A fix run ends with 0 if all scripts are
scanned and the batch of them completes, and with 1 if not. -/
theorem exitCode_check (hinputs : r.HasInputs disk)
    (hrules : env.loadRules disk r.rules = .ok (rules, override))
    (h : check env r disk = .ok e) :
    (r.destination = none →
      (e.exitCode = 1 ↔
        r.HasUnscanned rules disk ∨ ∃ f, r.Shows rules disk f ∧ f.severity = .error) ∧
      (e.exitCode = 2 ↔
        ¬(r.HasUnscanned rules disk ∨ ∃ f, r.Shows rules disk f ∧ f.severity = .error) ∧
          ∃ f, r.Shows rules disk f) ∧
      (e.exitCode = 0 ↔ ¬r.HasUnscanned rules disk ∧ ¬∃ f, r.Shows rules disk f)) ∧
    ∀ destination, r.destination = some destination →
      (e.exitCode = 0 ↔ r.isMisdirected disk = false ∧
        ∃ inputs, r.Scanned rules disk inputs ∧
          (r.batch env disk destination).Completes disk inputs) ∧
      (e.exitCode = 0 ∨ e.exitCode = 1) :=
  ⟨exitCode_checkJudgedBy_of_report hinputs hrules h,
    fun _ => exitCode_checkJudgedBy_of_destination hinputs hrules h⟩

/-! ### An example -/

/-- A disk with one script. -/
def oneScript : Disk where
  entries := [(["a.sh".toList], .file (Bytes.ofText "sed -r\n".toList))]
  workingDirectory := []

/-- The request to fix it in place. -/
def fixOneScript : CheckRequest where
  files := [.ofString "a.sh"]
  destination := some .inPlace
  dryRun := false
  least := .warning
  format := .listing
  rules := ⟨none, true⟩
  judge := .syntactic

/-- The script is fixed, and the exit code says so. -/
theorem exitCode_check_oneScript :
    fixOneScript.HasInputs oneScript ∧
      Environment.loadRules ⟨[], []⟩ oneScript fixOneScript.rules = .ok (Catalog.rules, none) ∧
      ∃ e, check ⟨[], []⟩ fixOneScript oneScript = .ok e ∧ e.exitCode = 0 ∧
        e.disk.readText (.ofString "a.sh") = .ok "sed -E\n".toList ∧
        ∃ inputs, fixOneScript.Scanned Catalog.rules oneScript inputs ∧
          (fixOneScript.batch ⟨[], []⟩ oneScript .inPlace).Completes oneScript inputs := by
  have hinputs : fixOneScript.HasInputs oneScript := ⟨List.cons_ne_nil _ _, by decide +kernel⟩
  have hrules : Environment.loadRules ⟨[], []⟩ oneScript fixOneScript.rules =
      .ok (Catalog.rules, none) := rfl
  have hrun : ((check ⟨[], []⟩ fixOneScript oneScript).map fun e =>
      (e.exitCode, e.disk.readText (.ofString "a.sh"))) = .ok (0, .ok "sed -E\n".toList) := by
    decide +kernel
  obtain ⟨e, he, hend⟩ := map_eq_ok_iff.mp hrun
  obtain ⟨hcode, hread⟩ := Prod.mk.inj hend
  obtain ⟨hzero, -⟩ := (exitCode_check hinputs hrules he).2 .inPlace rfl
  exact ⟨hinputs, hrules, e, he, hcode, hread, (hzero.mp hcode).2⟩

end CommandLine

end GnuLint
