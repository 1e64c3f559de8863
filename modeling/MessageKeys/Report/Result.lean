import MessageKeys.Issue

/-!
The result of a check: the issues in their order, and how many there are of each severity.
-/
namespace MessageKeys

/-- Sorted issues with the number of files that were checked. -/
structure CheckResult where
  issues : List Issue
  sourceFiles : Nat
  propertiesFiles : Nat
  deriving DecidableEq, Repr

namespace CheckResult

/-- Sorts issues; equal ones keep their order. -/
def ofIssues (issues : List Issue) (sourceFiles propertiesFiles : Nat) : CheckResult :=
  ⟨issues.mergeSort fun a b => (a.order b).isLE, sourceFiles, propertiesFiles⟩

def errors (result : CheckResult) : Nat :=
  result.issues.countP fun issue => issue.severity == .error

def warnings (result : CheckResult) : Nat := result.issues.length - result.errors

/-- Number of files that could not be read. -/
def unreadable (result : CheckResult) : Nat :=
  result.issues.countP fun issue => issue.rule == .parseError

end CheckResult

end MessageKeys
