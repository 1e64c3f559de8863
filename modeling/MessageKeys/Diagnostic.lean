import MessageKeys.Call.Site
import MessageKeys.Call.Supply
import MessageKeys.Template.Placeholder

/-!
Placeholder diagnostics.

A call site is compared with the template of its key. Two rules apply, each on its own: the
template's placeholders have to be numbered from zero without a gap, and the call has to supply as
many values as the template expects.
-/
namespace MessageKeys

open Call Template

/-- Which rule a call site breaks. -/
inductive DiagnosticKind where
  /-- The template's numbering has a gap or does not start at zero. -/
  | numbering
  /-- The call supplies another number of values than the template expects. -/
  | count
  deriving DecidableEq, Repr

/-- A broken rule at the key of a call. -/
structure Diagnostic where
  span : Span
  kind : DiagnosticKind
  message : Text
  deriving DecidableEq, Repr

namespace Diagnostic

def numberingMessage (placeholders : PlaceholderSet) : Text :=
  "Placeholder numbering must start at \x7b0\x7d and be contiguous (found ".toList ++
    placeholders.describe ++ ").".toList

def countMessage (expected actual : Nat) : Text :=
  "Placeholder count (".toList ++ Text.ofNat expected ++
    ") doesn't match provided argument count (".toList ++ Text.ofNat actual ++ ").".toList

/-- Whether supplied values and expected values differ. -/
def isMismatch (expected actual : Nat) : Bool :=
  if expected = 0 then 0 < actual else actual ≠ expected

/-- What is wrong between a call site and its template. -/
def ofSite (site : Site) (template : Text) : List Diagnostic :=
  let placeholders := PlaceholderSet.parse template
  let expected := placeholders.expectedCount
  let actual := supplied expected site.arguments
  (if placeholders.isWellFormed then []
    else [⟨site.keySpan, .numbering, numberingMessage placeholders⟩]) ++
  (if isMismatch expected actual then [⟨site.keySpan, .count, countMessage expected actual⟩]
    else [])

/-- The diagnostics of all call sites whose key has a template. -/
def validate (source : Text) (methods : List MethodName) (template? : Text → Option Text) :
    List Diagnostic :=
  (sites source methods).flatMap fun site => (template? site.key).toList.flatMap (ofSite site)

end Diagnostic

end MessageKeys
