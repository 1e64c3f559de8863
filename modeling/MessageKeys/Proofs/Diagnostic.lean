import MessageKeys.Diagnostic

/-!
What diagnostics say.

A call site gives at most one diagnostic for each rule, and each points at the key of the call
(`Diagnostic.span_of_mem`). Which rules are broken and what is told about it depends on the template
and the arguments only (`Diagnostic.message_eq`).
-/
namespace MessageKeys.Diagnostic

open Call

theorem mem_ofSite {site : Site} {template : Text} {diagnostic : Diagnostic} :
    diagnostic ∈ ofSite site template ↔
      ((Template.PlaceholderSet.parse template).isWellFormed = false ∧
        diagnostic = ⟨site.keySpan, .numbering,
          numberingMessage (.parse template)⟩) ∨
      (isMismatch (Template.PlaceholderSet.parse template).expectedCount
          (supplied (Template.PlaceholderSet.parse template).expectedCount site.arguments) = true ∧
        diagnostic = ⟨site.keySpan, .count,
          countMessage (Template.PlaceholderSet.parse template).expectedCount
            (supplied (Template.PlaceholderSet.parse template).expectedCount site.arguments)⟩) := by
  simp only [ofSite, List.mem_append]
  apply or_congr
  · cases (Template.PlaceholderSet.parse template).isWellFormed <;> simp
  · split <;> simp_all

/-- A diagnostic points at the key. -/
theorem span_of_mem {site : Site} {template : Text} {diagnostic : Diagnostic}
    (member : diagnostic ∈ ofSite site template) : diagnostic.span = site.keySpan := by
  rcases mem_ofSite.mp member with ⟨_, rfl⟩ | ⟨_, rfl⟩ <;> rfl

/-- Sites with the same arguments break a rule in the same way. -/
theorem message_eq {site other : Site} {template : Text} {here there : Diagnostic}
    (member : here ∈ ofSite site template) (also : there ∈ ofSite other template)
    (arguments : site.arguments = other.arguments) (kinds : here.kind = there.kind) :
    here.message = there.message := by
  rcases mem_ofSite.mp member with ⟨_, rfl⟩ | ⟨_, rfl⟩ <;>
    rcases mem_ofSite.mp also with ⟨_, rfl⟩ | ⟨_, rfl⟩
  · rfl
  · cases kinds
  · cases kinds
  · rw [arguments]

/-- A call that supplies what is expected breaks at most the rule about numbering. -/
theorem kind_ne_count {site : Site} {template : Text} {diagnostic : Diagnostic}
    (meets : supplied (Template.PlaceholderSet.parse template).expectedCount site.arguments =
      (Template.PlaceholderSet.parse template).expectedCount)
    (member : diagnostic ∈ ofSite site template) : diagnostic.kind ≠ .count := by
  rcases mem_ofSite.mp member with ⟨_, rfl⟩ | ⟨mismatch, _⟩
  · simp
  · rw [meets, isMismatch] at mismatch
    split at mismatch <;> simp_all

/-- A diagnostic of a source comes from a call whose key has a template. -/
theorem mem_validate {source : Text} {methods : List MethodName} {template? : Text → Option Text}
    {diagnostic : Diagnostic} :
    diagnostic ∈ validate source methods template? ↔
      ∃ site ∈ sites source methods, ∃ template, template? site.key = some template ∧
        diagnostic ∈ ofSite site template := by
  simp only [validate, List.mem_flatMap, Option.mem_toList]

end MessageKeys.Diagnostic
