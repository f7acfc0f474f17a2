import SiteSurvey.Script.Parser

set_option autoImplicit false

namespace SiteSurvey.Script.Parser

/-- Whatever is read, from any source and place, has a property. -/
def Gives {α : Type} (p : Parser α) (P : α → Prop) : Prop :=
  ∀ s c a c', p s c = .done a c' → P a

namespace Gives

variable {α β : Type} {p q : Parser α} {P : α → Prop} {Q : β → Prop}

theorem bind {f : α → Parser β} (first : p.Gives P) (next : ∀ a, P a → (f a).Gives Q) : (p >>= f).Gives Q := by
  intro s c b c' read
  cases reached : p s c with
  | done a c₁ =>
    have goes : (p >>= f) s c = f a s c₁ := by simp [Bind.bind, bind', reached]
    exact next a (first s c a c₁ reached) s c₁ b c' (goes ▸ read)
  | stuck r =>
    have goes : (p >>= f) s c = .stuck r := by simp [Bind.bind, bind', reached]
    simp [goes] at read

theorem pure {a : α} (holds : P a) : (Pure.pure a : Parser α).Gives P := by
  intro s c b c' read
  cases read
  exact holds

theorem stop : (Parser.stop : Parser α).Gives P := by
  intro s c b c' read
  cases read

theorem any : p.Gives fun _ => True :=
  fun _ _ _ _ _ => trivial

theorem map {f : α → β} (first : p.Gives P) (next : ∀ a, P a → Q (f a)) : (f <$> p).Gives Q :=
  bind first fun a holds => pure (next a holds)

theorem seqRight {p : Parser α} {q : Parser β} (second : q.Gives Q) : (p *> q).Gives Q :=
  bind any fun _ _ => second

theorem guard {b : Bool} : (Parser.guard b).Gives fun _ => b = true := by
  cases b with
  | true => exact pure rfl
  | false => exact stop

theorem or (first : p.Gives P) (second : q.Gives P) : (p.or q).Gives P := by
  intro s c a c' read
  rw [Parser.or] at read
  split at read
  next b c₁ reached =>
    cases read
    exact first s c a c' reached
  next => exact second s _ a c' read

theorem manyFrom (each : p.Gives P) {s : Source} {fuel : Nat} {c c' : Cursor} {acc : Array α} {as : List α}
    (before : ∀ a ∈ acc, P a) (read : Parser.manyFrom p s fuel c acc = .done as c') : ∀ a ∈ as, P a := by
  induction fuel generalizing c acc with
  | zero =>
    cases read
    simpa using before
  | succ fuel ih =>
    rw [Parser.manyFrom] at read
    split at read
    next a c₁ more =>
      split at read
      next =>
        refine ih (fun b inside => ?_) read
        rcases Array.mem_push.mp inside with earlier | rfl
        · exact before b earlier
        · exact each s c b c₁ more
      next =>
        cases read
        simpa using before
    next =>
      cases read
      simpa using before

theorem many (each : p.Gives P) : (Parser.many p).Gives fun as => ∀ a ∈ as, P a :=
  fun _ _ _ _ read => manyFrom each (by simp) read

theorem commaSep {p : Parser Node} {P : Node → Prop} (each : p.Gives P) :
    (Parser.commaSep p).Gives fun ns => ∀ n ∈ ns, P n := by
  refine .bind each fun head holds => .bind (.many (.seqRight each)) fun tail all => .pure ?_
  simpa using ⟨holds, all⟩

theorem commaList {p : Parser Node} {P : Node → Prop} (each : p.Gives P) :
    (Parser.commaList p).Gives fun ns => ∀ n ∈ ns, P n :=
  .or (.bind (.commaSep each) fun _ all => .bind .any fun _ _ => .pure all) (.pure (by simp))

theorem commaPlaces {p : Parser Node} {P : Node → Prop} (each : p.Gives P) :
    (Parser.commaPlaces p).Gives fun ns => ∀ n ∈ ns, P n := by
  refine .bind (.many (P := fun ns => ∀ n ∈ ns, P n) (.or ?_ (.map (P := P) ?_ ?_))) fun lists all => .pure ?_
  · exact .seqRight (.pure (by simp))
  · exact .bind each fun _ holds => .bind .any fun _ _ => .bind .any fun _ _ => .bind .any fun _ _ =>
      .bind .any fun _ _ => .bind .any fun _ _ => .pure holds
  · simp
  · intro n inside
    obtain ⟨ns, among, there⟩ := List.mem_flatten.mp inside
    exact all ns among n there

theorem foldFrom {step : α → Parser α} (keeps : ∀ a, P a → (step a).Gives P) {s : Source} {fuel : Nat} {c c' : Cursor}
    {a b : α} (holds : P a) (read : Parser.foldFrom step s fuel c a = .done b c') : P b := by
  induction fuel generalizing c a with
  | zero =>
    cases read
    exact holds
  | succ fuel ih =>
    rw [Parser.foldFrom] at read
    split at read
    next a' c₁ more =>
      split at read
      next => exact ih (keeps a holds s c a' c₁ more) read
      next =>
        cases read
        exact holds
    next =>
      cases read
      exact holds

theorem grow {a : α} {step : α → Parser α} (holds : P a) (keeps : ∀ a, P a → (step a).Gives P) :
    (Parser.grow a step).Gives P :=
  fun _ _ _ _ read => foldFrom keeps holds read

theorem leaf {P : Node → Prop} {kind : Kind} {start stop : Nat}
    (holds : ∀ row text, P (.node kind none start stop row text false [])) : (Parser.leaf kind start stop).Gives P := by
  intro s c b c' read
  cases read
  exact holds _ _

theorem close {P : Node → Prop} {kind : Kind} {start : Nat} {children : List Node}
    (holds : ∀ stop row, P (.node kind none start stop row "" false children)) :
    (Parser.close kind start children).Gives P := by
  intro s c b c' read
  cases read
  exact holds _ _

end Gives

end SiteSurvey.Script.Parser
