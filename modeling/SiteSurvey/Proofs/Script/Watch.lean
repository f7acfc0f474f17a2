import SiteSurvey.Proofs.Script.Walk

set_option autoImplicit false

namespace SiteSurvey.Script.Visitor

variable {σ τ : Type}

/-- Two visitors that keep a relation between their states, and that go below the same nodes. -/
structure Related (v : Visitor σ) (u : Visitor τ) (R : σ → τ → Prop) : Prop where
  enter : ∀ n depth s t, R s t → R (v.enter n depth s).1 (u.enter n depth t).1
  below : ∀ n depth s t, R s t → (v.enter n depth s).2 = (u.enter n depth t).2
  leave : ∀ n depth s t, R s t → R (v.leave n depth s) (u.leave n depth t)

section Related

variable {v : Visitor σ} {u : Visitor τ} {R : σ → τ → Prop}

mutual

theorem Related.visit (related : Related v u R) (n : Node) (depth : Nat) (s : σ) (t : τ) (start : R s t) :
    R (v.visit n depth s) (u.visit n depth t) := by
  cases n with
  | node kind role first stop row text missing children =>
    have entered := related.enter (.node kind role first stop row text missing children) depth s t start
    have below := related.below (.node kind role first stop row text missing children) depth s t start
    rw [visit_eq, visit_eq]
    rcases hv : v.enter (.node kind role first stop row text missing children) depth s with ⟨s', goes⟩
    rcases hu : u.enter (.node kind role first stop row text missing children) depth t with ⟨t', goes'⟩
    simp only [hv, hu] at entered below
    subst below
    cases goes with
    | false => exact entered
    | true => exact related.leave _ _ _ _ (related.visitAll children (depth + 1) s' t' entered)

theorem Related.visitAll (related : Related v u R) (ns : List Node) (depth : Nat) (s : σ) (t : τ)
    (start : R s t) : R (v.visitAll ns depth s) (u.visitAll ns depth t) := by
  cases ns with
  | nil => exact start
  | cons n rest => exact related.visitAll rest depth _ _ (related.visit n depth s t start)

end

theorem Related.walk (related : Related v u R) (root : Node) {s : σ} {t : τ} (start : R s t) :
    R (v.walk root s) (u.walk root t) := by
  rw [walk_eq_visit, walk_eq_visit]
  exact related.visit root 0 s t start

end Related

structure Sight (σ : Type) where
  node : Node
  before : σ
  after : σ

/-- Acts like another visitor and keeps what that one does, in order. -/
def watched (v : Visitor σ) : Visitor (σ × List (Sight σ)) where
  enter n depth s :=
    let entered := v.enter n depth s.1
    ((entered.1, s.2 ++ [{ node := n, before := s.1, after := entered.1 }]), entered.2)
  leave n depth s :=
    let left := v.leave n depth s.1
    (left, s.2 ++ [{ node := n, before := s.1, after := left }])

/-- All that a walk does, once on the way down and once on the way up at each node that it goes below. -/
def sights (v : Visitor σ) (root : Node) (s : σ) : List (Sight σ) :=
  (v.watched.walk root (s, [])).2

theorem watched_walk (v : Visitor σ) (root : Node) (s : σ) : (v.watched.walk root (s, [])).1 = v.walk root s := by
  have related : Related v.watched v fun watched plain => watched.1 = plain :=
    { enter := by rintro n depth s _ rfl; rfl
      below := by rintro n depth s _ rfl; rfl
      leave := by rintro n depth s _ rfl; rfl }
  exact related.walk root rfl

end SiteSurvey.Script.Visitor
