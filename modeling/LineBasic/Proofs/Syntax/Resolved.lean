import LineBasic.Proofs.Syntax.Lines

/-!
Every call in a parsed line names a function that was known when the line was parsed, at whatever
depth of expressions and IFs it stands.
-/
namespace LineBasic

section Trees

variable (known : String → Bool)

mutual

def Expr.Resolved : Expr → Prop
  | .number _ => True
  | .text _ => True
  | .scalar _ => True
  | .element _ index => Expr.AllResolved index
  | .call name args => known name = true ∧ Expr.AllResolved args
  | .negate e => e.Resolved
  | .arith _ l r => l.Resolved ∧ r.Resolved
  | .compare _ l r => l.Resolved ∧ r.Resolved

def Expr.AllResolved : List Expr → Prop
  | [] => True
  | e :: es => e.Resolved ∧ Expr.AllResolved es

end

def Target.Resolved : Target → Prop
  | .scalar _ => True
  | .element _ index => Expr.AllResolved known index

def Stmt.Resolved : Stmt → Prop
  | .print (some items) =>
    items.first.Resolved known ∧ ∀ item ∈ items.rest, item.2.Resolved known
  | .assign target value => target.Resolved known ∧ value.Resolved known
  | .jumpIf condition _ => condition.Resolved known
  | .doIf condition inner => condition.Resolved known ∧ inner.Resolved
  | .loop _ start limit step =>
    start.Resolved known ∧ limit.Resolved known ∧ ∀ e ∈ step, e.Resolved known
  | .dim arrays => ∀ d ∈ arrays, Expr.AllResolved known d.dims
  | .randomize seed => ∀ e ∈ seed, e.Resolved known
  | .call name args => known name = true ∧ Expr.AllResolved known args
  | _ => True

end Trees

namespace Grammar

variable {isFunction : String → Bool}

mutual

theorem expressionResolved {w e} : Expression isFunction w e → e.Resolved isFunction
  | .sum form => sumResolved form
  | .compare _ left right => ⟨sumResolved left, sumResolved right⟩

theorem sumResolved {w e} : Sum isFunction w e → e.Resolved isFunction
  | .product form => productResolved form
  | .add _ left right => ⟨sumResolved left, productResolved right⟩

theorem productResolved {w e} : Product isFunction w e → e.Resolved isFunction
  | .signed form => signedResolved form
  | .multiply _ left right => ⟨productResolved left, signedResolved right⟩

theorem signedResolved {w e} : Signed isFunction w e → e.Resolved isFunction
  | .operand form => operandResolved form
  | .plus inner => signedResolved inner
  | .minus inner => by
      rw [Expr.Resolved]
      exact signedResolved inner

theorem operandResolved {w e} : Operand isFunction w e → e.Resolved isFunction
  | .number _ => trivial
  | .text _ => trivial
  | .scalar _ => trivial
  | .call known list => ⟨known, argumentsResolved list⟩
  | .element _ list => expressionsResolved list
  | .group inner => expressionResolved inner

theorem argumentsResolved {w es} : ArgumentList isFunction w es → Expr.AllResolved isFunction es
  | .none => trivial
  | .some list => expressionsResolved list

theorem expressionsResolved {w es} : Expressions isFunction w es → Expr.AllResolved isFunction es
  | .one only => ⟨expressionResolved only, trivial⟩
  | .more first rest => ⟨expressionResolved first, expressionsResolved rest⟩

end

theorem itemsResolved {w list} (items : Items isFunction w list) :
    ∀ item ∈ list, item.2.Resolved isFunction := by
  induction items with
  | done => exact nofun
  | more separator item others ih =>
      simp only [List.forall_mem_cons]
      exact ⟨expressionResolved item, ih⟩

theorem declarationsResolved {w list} (declarations : Declarations isFunction w list) :
    ∀ d ∈ list, Expr.AllResolved isFunction d.dims := by
  induction declarations with
  | one list =>
      simp only [List.forall_mem_cons]
      exact ⟨expressionsResolved list, nofun⟩
  | more list rest ih =>
      simp only [List.forall_mem_cons]
      exact ⟨expressionsResolved list, ih⟩

theorem assignmentResolved {name free w s} (form : Assignment isFunction name free w s) :
    s.Resolved isFunction := by
  cases form with
  | scalar right => exact ⟨trivial, expressionResolved right⟩
  | element allowed list right => exact ⟨expressionsResolved list, expressionResolved right⟩

theorem simpleResolved {w s} (form : Simple isFunction w s) : s.Resolved isFunction := by
  cases form with
  | print word item others => exact ⟨expressionResolved item, itemsResolved others⟩
  | letAssign word rest => exact assignmentResolved rest
  | assign plain rest => exact assignmentResolved rest
  | call plain known list => exact ⟨known, argumentsResolved list⟩
  | jumpIf word test thenWord target => exact expressionResolved test
  | loop word first toWord last => exact ⟨expressionResolved first, expressionResolved last, nofun⟩
  | loopStep word first toWord last stepWord stride =>
      refine ⟨expressionResolved first, expressionResolved last, ?_⟩
      rintro e ⟨⟩
      exact expressionResolved stride
  | dim word list => exact declarationsResolved list
  | reseed word => exact nofun
  | randomize word value =>
      rintro e ⟨⟩
      exact expressionResolved value
  | _ => trivial

theorem statementResolved {c w s} (form : Statement isFunction c w s) : s.Resolved isFunction := by
  induction form with
  | simple plain form => exact simpleResolved form
  | empty plain => trivial
  | remark raw word => trivial
  | doIf word test thenWord body shown ih => exact ⟨expressionResolved test, ih⟩

theorem statementsResolved {c w list} (forms : Statements isFunction c w list) :
    ∀ s ∈ list, s.Resolved isFunction := by
  induction forms with
  | last final only =>
      simp only [List.forall_mem_cons]
      exact ⟨statementResolved only, nofun⟩
  | more first others ih =>
      simp only [List.forall_mem_cons]
      exact ⟨statementResolved first, ih⟩

end Grammar

theorem parsedResolved {isFunction : String → Bool} {text : String} {body : Body}
    (ok : parseLine isFunction text = .ok body) : ∀ s ∈ body.toList, s.Resolved isFunction := by
  cases parseLineSound ok with
  | whole read forms => exact Grammar.statementsResolved forms
  | remarked read forms => exact Grammar.statementsResolved forms

end LineBasic
