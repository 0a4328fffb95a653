import LineBasic.Proofs.Syntax.Lines

/-!
No statement that a line parses to names an array without dimensions, at whatever depth of IF it
stands.
-/
namespace LineBasic

def Stmt.Dimensioned : Stmt → Prop
  | .dim arrays => ∀ d ∈ arrays, d.dims ≠ []
  | .doIf _ inner => inner.Dimensioned
  | _ => True

namespace Grammar

variable {isFunction : String → Bool}

theorem expressionsNonempty {w es} (list : Expressions isFunction w es) : es ≠ [] := by
  cases list <;> simp

theorem declarationsDimensioned {w arrays} (list : Declarations isFunction w arrays) :
    ∀ d ∈ arrays, d.dims ≠ [] := by
  induction list with
  | one dims =>
      intro d member
      cases List.mem_singleton.mp member
      exact expressionsNonempty dims
  | more dims rest ih =>
      intro d member
      rcases List.mem_cons.mp member with rfl | inside
      · exact expressionsNonempty dims
      · exact ih d inside

theorem assignmentDimensioned {name free w s} (form : Assignment isFunction name free w s) :
    s.Dimensioned := by
  cases form <;> trivial

theorem simpleDimensioned {w s} (form : Simple isFunction w s) : s.Dimensioned := by
  cases form with
  | dim word list => exact declarationsDimensioned list
  | letAssign word rest => exact assignmentDimensioned rest
  | assign plain rest => exact assignmentDimensioned rest
  | _ => trivial

theorem statementDimensioned {c w s} (form : Statement isFunction c w s) : s.Dimensioned := by
  induction form with
  | simple plain form => exact simpleDimensioned form
  | empty plain => trivial
  | remark raw word => trivial
  | doIf word test thenWord body shown ih => exact ih

theorem statementsDimensioned {c w list} (forms : Statements isFunction c w list) :
    ∀ s ∈ list, s.Dimensioned := by
  induction forms with
  | last final only =>
      intro s member
      cases List.mem_singleton.mp member
      exact statementDimensioned only
  | more first others ih =>
      intro s member
      rcases List.mem_cons.mp member with rfl | inside
      · exact statementDimensioned first
      · exact ih s inside

end Grammar

theorem parsedDimensioned {isFunction : String → Bool} {text : String} {body : Body}
    (ok : parseLine isFunction text = .ok body) : ∀ s ∈ body.toList, s.Dimensioned := by
  cases parseLineSound ok with
  | whole read forms => exact Grammar.statementsDimensioned forms
  | remarked read forms => exact Grammar.statementsDimensioned forms

end LineBasic
