import MessageKeys.Issue.Find
import MessageKeys.Source.Scan

/-!
Notes: commentary on a run that is no part of its result.

Most notes are details and are shown only on request; none of them changes what a command does.
-/
namespace MessageKeys

/-- A remark on a run. -/
inductive Note where
  /-- The defaults are used, for want of a configuration file of that name. -/
  | noConfig (fileName : Text)
  /-- No methods are configured. -/
  | noMethods
  | scan (warning : ScanWarning)
  /-- That many starting points of a scan could not be entered. -/
  | skipped (count : Nat)
  | unreadable (file error : Text)
  | unbalanced (call : UnbalancedCall)
  deriving DecidableEq, Repr

namespace Note

/-- The line of a note; only a note that is no detail depends on whether details are shown. -/
def line (verbose : Bool) : Note → Styled
  | noConfig fileName =>
    .line (.plain ("Note: No ".toList ++ fileName ++ " found, using default configuration".toList))
  | noMethods =>
    .line (.literal
      "Note: No messageKeyExtractionPatterns configured, placeholder checks are disabled")
  | scan warning => warning.line
  | skipped count =>
    .line (.plain ("Warning: ".toList ++ Text.ofNat count ++
      " path(s) skipped due to access errors".toList ++
      if verbose then [] else " (use -v for details)".toList))
  | unreadable file error => .line (.plain ("Warning: ".toList ++ file ++ " - ".toList ++ error))
  | unbalanced call => call.line

/-- Whether a note is shown only on request. -/
def isDetail : Note → Bool
  | skipped _ => false
  | _ => true

/-- The lines of those notes that are shown. -/
def shown (verbose : Bool) (notes : List Note) : Styled :=
  (notes.filter fun note => verbose || !note.isDetail).flatMap (line verbose)

end Note

end MessageKeys
