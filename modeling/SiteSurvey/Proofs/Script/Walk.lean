import SiteSurvey.Script.Node

set_option autoImplicit false

namespace SiteSurvey.Script.Visitor

variable {σ : Type}

mutual

def visit (v : Visitor σ) (n : Node) (depth : Nat) (s : σ) : σ :=
  match n with
  | .node kind role start stop row text missing children =>
      let n : Node := .node kind role start stop row text missing children
      match v.enter n depth s with
      | (s', false) => s'
      | (s', true) => v.leave n depth (visitAll v children (depth + 1) s')

def visitAll (v : Visitor σ) (ns : List Node) (depth : Nat) (s : σ) : σ :=
  match ns with
  | [] => s
  | n :: rest => visitAll v rest depth (visit v n depth s)

end

theorem visit_eq (v : Visitor σ) (n : Node) (depth : Nat) (s : σ) :
    v.visit n depth s =
      match v.enter n depth s with
      | (s', false) => s'
      | (s', true) => v.leave n depth (v.visitAll n.children (depth + 1) s') := by
  cases n
  rw [visit]
  rfl

mutual

-- The stack below an errand is arbitrary, so the errands of all open ancestors need no case of their own.
theorem run_enter (v : Visitor σ) (n : Node) (depth : Nat) (todo : List Errand) (s : σ) :
    v.run (.enter n depth :: todo) s = v.run todo (v.visit n depth s) := by
  cases n with
  | node kind role start stop row text missing children =>
    rw [run, visit_eq]
    cases entered : v.enter (.node kind role start stop row text missing children) depth s with
    | mk s' goesBelow =>
      cases goesBelow with
      | false => rfl
      | true =>
        have below := run_enterAll v children (depth + 1)
          (.leave (.node kind role start stop row text missing children) depth :: todo) s'
        simp only [Node.children]
        rw [below, run]

theorem run_enterAll (v : Visitor σ) (ns : List Node) (depth : Nat) (todo : List Errand) (s : σ) :
    v.run ((ns.map fun n => .enter n depth) ++ todo) s = v.run todo (v.visitAll ns depth s) := by
  cases ns with
  | nil => rfl
  | cons n rest =>
    have first := run_enter v n depth ((rest.map fun m => .enter m depth) ++ todo) s
    have others := run_enterAll v rest depth todo (v.visit n depth s)
    simp only [List.map_cons, List.cons_append, visitAll]
    rw [first, others]

end

theorem walk_eq_visit (v : Visitor σ) (root : Node) (s : σ) : v.walk root s = v.visit root 0 s := by
  rw [walk, run_enter, run]

end SiteSurvey.Script.Visitor
