import SiteSurvey.Proofs.Script.Gives
import SiteSurvey.Proofs.Script.Preorder
import SiteSurvey.Script.Grammar.Types

set_option autoImplicit false

namespace SiteSurvey.Script

/-- Kinds of nodes that are proper whatever is below them. -/
abbrev Kind.Ordinary (kind : Kind) : Prop :=
  kind ≠ .error ∧ kind ≠ .memberExpression

namespace Node

/-- Nothing is wrong with the node itself: it reports no fault, and as a member expression it has no variable for a
property. -/
structure Proper (n : Node) : Prop where
  sound : n.isFault = false
  property : n.kind = .memberExpression → ∀ c ∈ n.children, c.role = some .property → c.kind ≠ .identifier

/-- All nodes of the tree are proper. -/
def Tidy (n : Node) : Prop :=
  ∀ m ∈ n.preorder, m.Proper

def Named (n : Node) : Prop :=
  n.Tidy ∧ n.kind ≠ .identifier

variable {n : Node} {kind : Kind} {role : Option Role} {start stop row : Nat} {text : String}
  {children remarks : List Node}

@[grind =] theorem role_asRole (n : Node) (role : Role) : (n.asRole role).role = some role := by
  cases n
  rfl

@[grind =] theorem kind_asRole (n : Node) (role : Role) : (n.asRole role).kind = n.kind := by
  cases n
  rfl

theorem tidy_iff : n.Tidy ↔ n.Proper ∧ ∀ c ∈ n.children, c.Tidy := by
  simp only [Tidy, preorder_eq n, List.mem_cons, forall_eq_or_imp, mem_preorderAll]
  exact and_congr_right fun _ =>
    ⟨fun all c child m inside => all m ⟨c, child, inside⟩, fun all m ⟨c, child, inside⟩ => all c child m inside⟩

@[grind ←] theorem tidy_of_ordinary (ordinary : kind.Ordinary) (below : ∀ c ∈ children, c.Tidy) :
    (node kind role start stop row text false children).Tidy := by
  refine tidy_iff.mpr ⟨⟨?_, fun member => absurd member ordinary.2⟩, below⟩
  simpa [isFault, Node.kind, missing] using ordinary.1

theorem tidy_member (named : ∀ c ∈ children, c.role = some .property → c.kind ≠ .identifier)
    (below : ∀ c ∈ children, c.Tidy) : (node .memberExpression role start stop row text false children).Tidy :=
  tidy_iff.mpr ⟨⟨rfl, fun _ => named⟩, below⟩

@[grind ←] theorem Tidy.asRole (tidy : n.Tidy) (role : Role) : (n.asRole role).Tidy := by
  rw [tidy_iff] at tidy ⊢
  cases n
  exact ⟨⟨tidy.1.sound, tidy.1.property⟩, tidy.2⟩

@[grind ←] theorem Tidy.asKind (tidy : n.Tidy) (ordinary : kind.Ordinary) : (n.asKind kind).Tidy := by
  rw [tidy_iff] at tidy
  cases n with
  | node kind' role start stop row text missing children =>
    obtain ⟨⟨sound, _⟩, below⟩ := tidy
    obtain rfl : missing = false := by simpa [isFault, Node.missing] using (Bool.or_eq_false_iff.mp sound).2
    exact tidy_of_ordinary ordinary below

section Remarks

theorem tidy_remark : (remark start stop row text).Tidy :=
  tidy_of_ordinary ⟨by decide, by decide⟩ (by simp)

theorem placeRemarks_nil (n : Node) : n.placeRemarks [] = n := by
  cases n with
  | node kind role start stop row text missing children => cases children <;> rfl

-- Among comments stand the children, each with some of the comments inside it.
theorem mem_placeAmong {ns : List Node} (inside : n ∈ placeAmong remarks ns) :
    n ∈ remarks ∨ ∃ c ∈ ns, ∃ held, held ⊆ remarks ∧ n = c.placeRemarks held := by
  induction ns generalizing remarks with
  | nil => exact .inl inside
  | cons c rest ih =>
    have here (held : List Node) : (if held.isEmpty then c else c.placeRemarks held) = c.placeRemarks held := by
      cases held with
      | nil => rw [placeRemarks_nil]; rfl
      | cons r held => rfl
    rw [placeAmong] at inside
    split at inside
    next => exact .inr ⟨n, inside, [], by simp, n.placeRemarks_nil.symm⟩
    next =>
      simp only [here, List.mem_append, List.mem_cons] at inside
      rcases inside with before | rfl | after
      · exact .inl ((List.takeWhile_sublist _).subset before)
      · refine .inr ⟨c, List.mem_cons_self, _, ?_, rfl⟩
        exact ((List.takeWhile_sublist _).trans (List.dropWhile_sublist _)).subset
      · have later (p q : Node → Bool) : (remarks.dropWhile p).dropWhile q ⊆ remarks :=
          ((List.dropWhile_sublist _).trans (List.dropWhile_sublist _)).subset
        rcases ih after with remark | ⟨c', there, held, part, rfl⟩
        · exact .inl (later _ _ remark)
        · exact .inr ⟨c', List.mem_cons_of_mem c there, held, List.Subset.trans part (later _ _), rfl⟩

theorem tidy_placeRemarks (n : Node) {remarks : List Node} (loose : ∀ r ∈ remarks, r.Tidy ∧ r.role = none)
    (tidy : n.Tidy) : (n.placeRemarks remarks).Tidy := by
  rw [tidy_iff] at tidy ⊢
  cases n with
  | node kind role start stop row text missing children =>
    refine ⟨⟨tidy.1.sound, fun member c inside property => ?_⟩, fun c inside => ?_⟩
    · rcases mem_placeAmong inside with remark | ⟨child, there, held, _, rfl⟩
      · rw [(loose c remark).2] at property
        cases property
      · have named := tidy.1.property member child there
        cases child
        exact named property
    · rcases mem_placeAmong inside with remark | ⟨child, there, held, part, rfl⟩
      · exact (loose c remark).1
      · exact tidy_placeRemarks child (fun r among => loose r (part among)) (tidy.2 child there)
termination_by n

end Remarks

end Node

/-- What is asked of the values that the rules of the grammar read: their nodes are tidy, and their kinds ordinary. -/
class Content (α : Type) where
  Tidy : α → Prop

namespace Content

instance (priority := low) (α : Type) : Content α := ⟨fun _ => True⟩

instance : Content Node := ⟨Node.Tidy⟩

instance : Content Kind := ⟨Kind.Ordinary⟩

instance {α : Type} [Content α] : Content (List α) := ⟨fun as => ∀ a ∈ as, Tidy a⟩

instance {α β : Type} [Content α] [Content β] : Content (α × β) := ⟨fun ab => Tidy ab.1 ∧ Tidy ab.2⟩

variable {α β : Type} [Content α] [Content β]

@[grind =] theorem tidy_node (n : Node) : Tidy n ↔ n.Tidy := Iff.rfl

@[grind =] theorem tidy_kind (kind : Kind) : Tidy kind ↔ kind.Ordinary := Iff.rfl

@[grind .] theorem tidy_nat (n : Nat) : Tidy n := trivial

@[grind .] theorem tidy_bool (b : Bool) : Tidy b := trivial

@[grind .] theorem tidy_string (s : String) : Tidy s := trivial

@[grind =] theorem tidy_pair (a : α) (b : β) : Tidy (a, b) ↔ Tidy a ∧ Tidy b := Iff.rfl

theorem tidy_list (as : List α) : Tidy as ↔ ∀ a ∈ as, Tidy a := Iff.rfl

@[grind .] theorem tidy_nil : Tidy ([] : List α) := by simp [tidy_list]

@[grind =] theorem tidy_cons (a : α) (as : List α) : Tidy (a :: as) ↔ Tidy a ∧ Tidy as := by simp [tidy_list]

@[grind =] theorem tidy_append (as bs : List α) : Tidy (as ++ bs) ↔ Tidy as ∧ Tidy bs := by
  simp only [tidy_list, List.mem_append, or_imp, forall_and]

@[grind ←] theorem tidy_children {n : Node} (tidy : n.Tidy) : Tidy n.children :=
  (Node.tidy_iff.mp tidy).2

@[grind ←] theorem tidy_map {f : α → β} {as : List α} (tidy : Tidy as) (keeps : ∀ a, Tidy a → Tidy (f a)) :
    Tidy (as.map f) := by
  simp only [tidy_list, List.forall_mem_map]
  exact fun a inside => keeps a (tidy a inside)

@[grind ←] theorem tidy_filter {p : α → Bool} {as : List α} (tidy : Tidy as) : Tidy (as.filter p) :=
  fun a inside => tidy a (List.mem_filter.mp inside).1

@[grind ←] theorem tidy_flatten {ass : List (List α)} (tidy : Tidy ass) : Tidy ass.flatten := by
  intro a inside
  obtain ⟨as, among, there⟩ := List.mem_flatten.mp inside
  exact tidy as among a there

@[grind ←] theorem tidy_flatMap {f : α → List β} {as : List α} (tidy : Tidy as)
    (keeps : ∀ a, Tidy a → Tidy (f a)) : Tidy (as.flatMap f) :=
  tidy_flatten (tidy_map tidy keeps)

@[grind ←] theorem tidy_reverse {as : List α} (tidy : Tidy as) : Tidy as.reverse :=
  fun a inside => tidy a (List.mem_reverse.mp inside)

@[grind ←] theorem tidy_foldl {f : β → α → β} {as : List α} {b : β} (start : Tidy b) (tidy : Tidy as)
    (keeps : ∀ b a, Tidy b → Tidy a → Tidy (f b a)) : Tidy (as.foldl f b) := by
  induction as generalizing b with
  | nil => exact start
  | cons a as ih =>
    rw [tidy_cons] at tidy
    exact ih (keeps b a start tidy.1) tidy.2

@[grind ←] theorem tidy_foldr {f : α → β → β} {as : List α} {b : β} (start : Tidy b) (tidy : Tidy as)
    (keeps : ∀ a b, Tidy a → Tidy b → Tidy (f a b)) : Tidy (as.foldr f b) := by
  induction as with
  | nil => exact start
  | cons a as ih =>
    rw [tidy_cons] at tidy
    exact keeps a _ tidy.1 (ih tidy.2)

end Content

-- The order counts for `constructor`: a parser that reads no nodes is seen first, then a member expression as a
-- whole. The last way is for proofs that name what they know.
/-- The ways to put parsers together such that whatever they read is tidy. -/
inductive Parser.Tidy : {α : Type} → [Content α] → Parser α → Prop
  | any {α : Type} (p : Parser α) : Tidy p
  | member {p : Parser Node} {start : Nat} {children : Node → List Node} (named : p.Gives Node.Named)
      (tidy : ∀ n, n.Tidy → Content.Tidy (children n))
      (only : ∀ n, ∀ c ∈ children n, c.role = some .property → c = n.asRole .property) :
      Tidy (p >>= fun property => Parser.close .memberExpression start (children property))
  | bind {α β : Type} [Content α] [Content β] {p : Parser α} {f : α → Parser β} (first : Tidy p)
      (next : ∀ a, Content.Tidy a → Tidy (f a)) : Tidy (p >>= f)
  | pure {α : Type} [Content α] {a : α} (tidy : Content.Tidy a) : Tidy (Pure.pure a)
  | stop {α : Type} [Content α] : Tidy (Parser.stop (α := α))
  | map {α β : Type} [Content α] [Content β] {p : Parser α} {f : α → β} (first : Tidy p)
      (next : ∀ a, Content.Tidy a → Content.Tidy (f a)) : Tidy (f <$> p)
  | seqRight {α β : Type} [Content β] {p : Parser α} {q : Unit → Parser β} (second : Tidy (q ())) :
      Tidy (SeqRight.seqRight p q)
  | or {α : Type} [Content α] {p q : Parser α} (first : Tidy p) (second : Tidy q) : Tidy (p.or q)
  | perhaps {p : Parser (List Node)} (first : Tidy p) : Tidy p.perhaps
  | one {p : Parser Node} (only : Tidy p) : Tidy (Grammar.one p)
  | many {α : Type} [Content α] {p : Parser α} (each : Tidy p) : Tidy (Parser.many p)
  | commaSep {p : Parser Node} (each : Tidy p) : Tidy (Parser.commaSep p)
  | commaList {p : Parser Node} (each : Tidy p) : Tidy (Parser.commaList p)
  | commaPlaces {p : Parser Node} (each : Tidy p) : Tidy (Parser.commaPlaces p)
  | grow {α : Type} [Content α] {a : α} {step : α → Parser α} (tidy : Content.Tidy a)
      (keeps : ∀ a, Content.Tidy a → Tidy (step a)) : Tidy (Parser.grow a step)
  | leaf {kind : Kind} {start stop : Nat} (ordinary : Content.Tidy kind) : Tidy (Parser.leaf kind start stop)
  | close {kind : Kind} {start : Nat} {children : List Node} (ordinary : Content.Tidy kind)
      (below : Content.Tidy children) : Tidy (Parser.close kind start children)
  | node {kind : Kind} {p : Parser (List Node)} (ordinary : Content.Tidy kind) (below : Tidy p) :
      Tidy (Parser.node kind p)
  | knowing {α β : Type} [Content β] {p : Parser α} {P : α → Prop} {f : α → Parser β} (first : p.Gives P)
      (next : ∀ a, P a → Tidy (f a)) : Tidy (p >>= f)

-- By induction on how the parser is put together.
theorem Parser.Tidy.gives {α : Type} [Content α] {p : Parser α} (tidy : p.Tidy) : p.Gives Content.Tidy := by
  induction tidy with
  | any => exact .any
  | member named tidy only =>
    refine .bind named fun property ⟨property_tidy, other⟩ => .close fun _ _ =>
      Node.tidy_member (fun c inside place => ?_) (tidy property property_tidy)
    rwa [only property c inside place, Node.kind_asRole]
  | bind _ _ first next => exact .bind first next
  | pure tidy => exact .pure tidy
  | stop => exact .stop
  | map _ next first => exact .map first next
  | seqRight _ second => exact .bind .any fun _ _ => second
  | or _ _ first second => exact .or first second
  | perhaps _ first => exact .or first (.pure Content.tidy_nil)
  | one _ only => exact .map only (by simp [Content.tidy_list])
  | many _ each => exact .many each
  | commaSep _ each => exact .commaSep each
  | commaList _ each => exact .commaList each
  | commaPlaces _ each => exact .commaPlaces each
  | grow tidy _ keeps => exact .grow tidy keeps
  | leaf ordinary => exact .leaf fun _ _ => Node.tidy_of_ordinary ordinary Content.tidy_nil
  | close ordinary below => exact .close fun _ _ => Node.tidy_of_ordinary ordinary below
  | node ordinary _ below =>
    exact .bind .any fun _ _ => .bind below fun _ tidy => .close fun _ _ => Node.tidy_of_ordinary ordinary tidy
  | knowing first _ next => exact .bind first next

attribute [grind ←] Parser.Tidy.or

end SiteSurvey.Script
