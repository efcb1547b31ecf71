/-
**Reports: problems collected on the way.**

A report keeps the problems it is told, in order. In batch mode being told of a problem is no
failure until the report is finished; in fail-fast mode the first problem reported is one.

* `Report.reportAll`: several problems that describe one matter, which stay together in either mode;
* `Report.finish`: what it comes to at the end;
* `Report.verdict`: problems reported one by one and then finished, which `verdict_batch` and
  `verdict_failFast` say in closed form;
* `Report.summary`: the problems as a text, grouped by kind.
-/

import ValueAnatomy.Problem
import ValueAnatomy.Settings

namespace ValueAnatomy

/-- Problems collected so far. -/
structure Report where
  /-- How the report reacts to a problem. -/
  mode : ReportMode := .batch
  /-- The problems, in the order in which they were told. -/
  problems : List Problem := []
  deriving DecidableEq, Repr

namespace Report

def push (report : Report) (problem : Problem) : Report :=
  { report with problems := report.problems ++ [problem] }

/-- Adds several problems that describe one matter, and tells whether that is a failure already. -/
def reportAll (report : Report) (batch : List Problem) : Except Failure Unit × Report :=
  let told := { report with problems := report.problems ++ batch }
  match report.mode with
  | .failFast => (if batch.isEmpty then .ok () else .error (.problems batch), told)
  | .batch => (.ok (), told)

/-- Adds one problem, and tells whether that is a failure already. -/
def report (report : Report) (problem : Problem) : Except Failure Unit × Report :=
  report.reportAll [problem]

/-- The verdict: a failure with every problem, if there is any. -/
def finish (report : Report) : Except Failure Unit :=
  if report.problems.isEmpty then .ok () else .error (.problems report.problems)

/-- Adds problems one after the other, up to the first that is a failure. -/
def reportEach : List Problem → Report → Except Failure Unit × Report
  | [], report => (.ok (), report)
  | problem :: rest, report =>
    match report.report problem with
    | (.error failure, told) => (.error failure, told)
    | (.ok (), told) => reportEach rest told

/-- What problems come to that are reported one after the other and then finished. -/
def verdict (mode : ReportMode) (problems : List Problem) : Except Failure Unit :=
  match reportEach problems { mode } with
  | (.error failure, _) => .error failure
  | (.ok (), told) => told.finish

def ofKind (report : Report) (kind : ProblemKind) : List Problem :=
  report.problems.filter (·.kind == kind)

/-- How many problems of each kind there are, in the order of the kinds. -/
def counts (report : Report) : List Nat :=
  ProblemKind.all.map fun kind => (report.ofKind kind).length

def entries (report : Report) : List (String × Option Declaration) :=
  report.problems.map fun problem => (problem.message, problem.element)

/-- The problems of one kind under a heading, if there are any. -/
def section? (report : Report) (kind : ProblemKind) : Option String :=
  let problems := report.ofKind kind
  if problems.isEmpty then none
  else
    some ("\n" ++ kind.name ++ " (" ++ toString problems.length ++ "):\n" ++
      String.join (problems.map fun problem => "  " ++ problem.text ++ "\n"))

/-- The problems as a text, grouped by kind. -/
def summary (report : Report) : String :=
  "Diagnostics: " ++ toString report.problems.length ++ " issue(s)\n" ++
    String.join (ProblemKind.all.filterMap report.section?)

@[simp] theorem problems_push (report : Report) (problem : Problem) :
    (report.push problem).problems = report.problems ++ [problem] := rfl

/-- Both modes keep what they are told. -/
@[simp] theorem problems_reportAll (report : Report) (batch : List Problem) :
    (report.reportAll batch).2.problems = report.problems ++ batch := by
  rw [reportAll]; split <;> rfl

theorem finish_eq_error_iff {report : Report} {failure : Failure} :
    report.finish = .error failure ↔
      report.problems ≠ [] ∧ failure = .problems report.problems := by
  rw [finish]
  split
  · rename_i nothing
    simp_all
  · rename_i something
    constructor
    · intro verdict
      exact ⟨by simpa using something, (Except.error.inj verdict).symm⟩
    · rintro ⟨-, rfl⟩
      rfl

theorem reportEach_batch (problems told : List Problem) :
    reportEach problems ⟨.batch, told⟩ = (.ok (), ⟨.batch, told ++ problems⟩) := by
  induction problems generalizing told with
  | nil => simp [reportEach]
  | cons problem rest ih => simp [reportEach, report, reportAll, ih]

/-- In batch mode every problem is part of the failure. -/
theorem verdict_batch (problems : List Problem) :
    verdict .batch problems = if problems = [] then .ok () else .error (.problems problems) := by
  simp [verdict, reportEach_batch, finish]

/-- In fail-fast mode the first problem alone is the failure. -/
theorem verdict_failFast (problems : List Problem) :
    verdict .failFast problems =
      match problems with
      | [] => .ok ()
      | first :: _ => .error (.problems [first]) := by
  cases problems <;> simp [verdict, reportEach, report, reportAll, finish]

end Report

end ValueAnatomy
