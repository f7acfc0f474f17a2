import SiteSurvey.Proofs.Script.Related
import SiteSurvey.Request.Extract

set_option autoImplicit false

namespace SiteSurvey.Script

/-- The kinds of node that have a value. -/
def Kind.expressions : List Kind :=
  [.identifier, .undefined, .thisWord, .superWord, .trueWord, .falseWord, .nullWord, .number, .string, .templateString,
    .regex, .object, .array, .functionExpression, .generatorFunction, .arrowFunction, .classExpression, .metaProperty,
    .callExpression, .newExpression, .memberExpression, .subscriptExpression, .awaitExpression,
    .yieldExpression, .assignmentExpression, .augmentedAssignmentExpression, .unaryExpression, .updateExpression,
    .binaryExpression, .ternaryExpression, .sequenceExpression, .parenthesizedExpression, .asExpression,
    .satisfiesExpression, .nonNullExpression, .typeAssertion, .instantiationExpression, .internalModule, .jsxElement,
    .jsxSelfClosingElement]

def Kind.isExpression (kind : Kind) : Bool :=
  expressions.contains kind

/-- Where a node stands: where its value counts, where it is called, or where it is taken as it is written. -/
inductive Position where
  | value
  | callee
  | written
  deriving DecidableEq, Repr

/-- Where a child stands. A called object, a constructor, the target of an assignment and a key are taken as they
are written. So are a list of arguments and the name of a property or a declaration, which are no expressions. -/
def Position.below (here : Position) (kind : Kind) (role : Option Role) : Position :=
  match kind, role with
  | .callExpression, some .function => .callee
  | .memberExpression, some .object => if here = .callee then .written else .value
  | .memberExpression, some .property => .written
  | .newExpression, some .constructor => .written
  | .newExpression, some .arguments => .written
  | .assignmentExpression, some .left => .written
  | .variableDeclarator, some .name => .written
  | .pair, some .key => .written
  | .methodDefinition, some .name => .written
  | _, _ => .value

namespace Node

mutual

def isSilent : Node → Bool
  | node kind _ _ _ _ _ _ children =>
      kind != .callExpression && kind != .variableDeclarator && kind != .assignmentExpression && areSilent children

def areSilent : List Node → Bool
  | [] => true
  | n :: rest => n.isSilent && areSilent rest

end

def loose : Node → Node
  | node kind _ start stop row text missing children => node kind none start stop row text missing children

/-- A wrapper around a node, in its place. Only an assertion in front has the type before the expression. -/
def wrapIn (kind : Kind) (start stop row : Nat) (types : List Node) (n : Node) : Node :=
  node kind n.role start stop row "" false
    (if kind = .typeAssertion then types ++ [n.loose] else n.loose :: types)

end Node

open Node

/-- One change to a tree that says nothing about requests: a node takes up other offsets, a comment comes among
the children of some node, or an expression gets a wrapper where its value counts. -/
inductive Veil : Position → Node → Node → Prop
  | moved {here : Position} {kind : Kind} {role : Option Role} {start stop row : Nat} {text : String} {missing : Bool}
      {children : List Node} (start' stop' row' : Nat) :
      Veil here (.node kind role start stop row text missing children)
        (.node kind role start' stop' row' text missing children)
  | remark {here : Position} {kind : Kind} {role : Option Role} {start stop row : Nat} {text : String}
      {missing : Bool} (before after : List Node) (start' stop' row' : Nat) (text' : String) :
      Veil here (.node kind role start stop row text missing (before ++ after))
        (.node kind role start stop row text missing (before ++ Node.remark start' stop' row' text' :: after))
  | inner {here : Position} {kind : Kind} {role : Option Role} {start stop row : Nat} {text : String}
      {missing : Bool} (before after : List Node) {c c' : Node} (child : Veil (here.below kind c.role) c c') :
      Veil here (.node kind role start stop row text missing (before ++ c :: after))
        (.node kind role start stop row text missing (before ++ c' :: after))
  | wrap {n : Node} (expression : n.kind.isExpression = true) (kind : Kind) (start stop row : Nat)
      {types : List Node} (silent : areSilent types = true)
      (wrapper : (wrapIn kind start stop row types n).isWrapper = true) :
      Veil .value n (wrapIn kind start stop row types n)

def Veiled (n n' : Node) : Prop :=
  ∃ here, Veil here n n'

/-- What a change somewhere below a node leaves to be read from it. -/
structure Akin (here : Position) (n n' : Node) : Prop where
  kind : n'.kind = n.kind
  text : n'.text = n.text
  child : ∀ role, Option.Rel (Veil (here.below n.kind (some role))) (n.child? role) (n'.child? role)
  operands : List.Forall₂ Veiled n.operands n'.operands

structure Wraps (n n' : Node) : Prop where
  expression : n.kind.isExpression = true
  wrapper : n'.isWrapper = true
  inner : n'.wrapped? = some n.loose

section Change

variable {here : Position} {n n' : Node}

theorem Veil.refl (here : Position) (n : Node) : Veil here n n := by
  cases n
  exact .moved _ _ _

theorem Veil.role (veil : Veil here n n') : n'.role = n.role := by
  cases veil <;> rfl

theorem isWrapper_iff : n.isWrapper = true ↔ n.kind ∈ [Kind.parenthesizedExpression, .asExpression,
    .satisfiesExpression, .nonNullExpression, .typeAssertion] := by
  unfold Node.isWrapper
  split <;> simp_all

theorem Wraps.kind_isExpression (wraps : Wraps n n') : n'.kind.isExpression = true := by
  have kinds := isWrapper_iff.mp wraps.wrapper
  simp only [List.mem_cons, List.not_mem_nil, or_false] at kinds
  rcases kinds with kind | kind | kind | kind | kind <;> rw [kind] <;> decide

theorem isRemark_of_expression (expression : n.kind.isExpression = true) : n.isRemark = false := by
  rw [Node.isRemark, beq_eq_false_iff_ne]
  intro kind
  rw [kind] at expression
  exact absurd expression (by decide)

theorem wraps_wrapIn {kind : Kind} {start stop row : Nat} {types : List Node} (expression : n.kind.isExpression = true)
    (wrapper : (wrapIn kind start stop row types n).isWrapper = true) :
    Wraps n (wrapIn kind start stop row types n) := by
  refine ⟨expression, wrapper, ?_⟩
  have plain : n.loose.isRemark = false := by
    cases n
    exact isRemark_of_expression expression
  by_cases inFront : kind = .typeAssertion
  · simp [wrapped?, wrapIn, inFront, Node.kind, operands, children, plain]
  · simp [wrapped?, wrapIn, inFront, Node.kind, operands, children, plain]

theorem forall₂_veiled_refl (ns : List Node) : List.Forall₂ Veiled ns ns :=
  List.forall₂_same.mpr fun c _ => ⟨.value, .refl _ c⟩

theorem Akin.of_children (here : Position) (kind : n'.kind = n.kind) (text : n'.text = n.text)
    (children : n'.children = n.children) : Akin here n n' := by
  refine ⟨kind, text, fun role => ?_, ?_⟩
  · rw [child?, child?, children]
    exact optionRel_refl (Veil.refl _) _
  · rw [Node.operands, Node.operands, children]
    exact forall₂_veiled_refl _

theorem Akin.loose (here : Position) (n : Node) : Akin here n n.loose := by
  cases n
  exact .of_children _ rfl rfl rfl

theorem akin_remark (here : Position) {kind : Kind} {role : Option Role} {start stop row : Nat} {text : String}
    {missing : Bool} (before after : List Node) (start' stop' row' : Nat) (text' : String) :
    Akin here (.node kind role start stop row text missing (before ++ after))
      (.node kind role start stop row text missing (before ++ Node.remark start' stop' row' text' :: after)) := by
  -- A comment is not found in any place, and it is no operand.
  refine ⟨rfl, rfl, fun place => ?_, ?_⟩
  · have unseen : (Node.remark start' stop' row' text').role = none := rfl
    simp only [child?, children, List.find?_append, List.find?_cons, unseen]
    exact optionRel_refl (Veil.refl _) _
  · have left : (Node.remark start' stop' row' text').isRemark = true := rfl
    simp only [operands, children, List.filter_append, List.filter_cons, left, Bool.not_true, Bool.false_eq_true,
      if_false]
    exact forall₂_veiled_refl _

theorem akin_inner {kind : Kind} {role : Option Role} {start stop row : Nat} {text : String} {missing : Bool}
    (before after : List Node) {c c' : Node} (child : Veil (here.below kind c.role) c c')
    (sameRemark : c'.isRemark = c.isRemark) :
    Akin here (.node kind role start stop row text missing (before ++ c :: after))
      (.node kind role start stop row text missing (before ++ c' :: after)) := by
  refine ⟨rfl, rfl, fun place => ?_, ?_⟩
  · simp only [child?, children, List.find?_append, List.find?_cons, child.role]
    cases before.find? fun d => d.role == some place with
    | some d => exact .some (.refl _ d)
    | none =>
      -- The child keeps its place, so it is found if it was found before.
      cases found : c.role == some place with
      | false => exact optionRel_refl (Veil.refl _) _
      | true =>
        rw [beq_iff_eq.mp found] at child
        exact .some child
  · simp only [operands, children, List.filter_append, List.filter_cons, sameRemark]
    refine List.rel_append (forall₂_veiled_refl _) ?_
    cases c.isRemark with
    | true => exact forall₂_veiled_refl _
    | false => exact .cons ⟨_, child⟩ (forall₂_veiled_refl _)

/-- A change either leaves a node as it reads or puts a wrapper around it. -/
theorem Veil.akin_or_wraps (veil : Veil here n n') : Akin here n n' ∨ here = .value ∧ Wraps n n' := by
  induction veil with
  | moved start' stop' row' => exact .inl (.of_children _ rfl rfl rfl)
  | remark before after start' stop' row' text' => exact .inl (akin_remark _ before after start' stop' row' text')
  | wrap expression kind start stop row silent wrapper => exact .inr ⟨rfl, wraps_wrapIn expression wrapper⟩
  | inner before after child ih =>
    refine .inl (akin_inner before after child ?_)
    rcases ih with akin | ⟨_, wraps⟩
    · rw [isRemark, isRemark, akin.kind]
    · rw [isRemark_of_expression wraps.expression, isRemark_of_expression wraps.kind_isExpression]

theorem Veil.akin (veil : Veil here n n') (written : here ≠ .value) : Akin here n n' :=
  veil.akin_or_wraps.resolve_right fun wraps => written wraps.1

theorem Veil.akin_of_kind {kind : Kind} (veil : Veil here n n') (has : n.kind = kind)
    (other : kind.isExpression = false) : Akin here n n' :=
  veil.akin_or_wraps.resolve_right fun wraps => by
    rw [← has, wraps.2.expression] at other
    cases other

theorem Akin.isWrapper (akin : Akin here n n') : n'.isWrapper = n.isWrapper := by
  rw [Node.isWrapper, Node.isWrapper, akin.kind]

theorem Akin.wrapped? (akin : Akin here n n') : Option.Rel Veiled n.wrapped? n'.wrapped? := by
  rw [Node.wrapped?, Node.wrapped?, akin.kind]
  split
  · rw [← List.head?_reverse, ← List.head?_reverse]
    exact head?_rel (List.rel_reverse akin.operands)
  · exact head?_rel akin.operands

end Change

theorem unwrap_eq (n : Node) :
    n.unwrap = if n.isWrapper then n.wrapped?.elim n Node.unwrap else n := by
  rw [Node.unwrap]
  split
  · split <;> rename_i found <;> simp only [found, Option.elim_some, Option.elim_none]
  · rfl

theorem Akin.unwrap_loose (here : Position) (n : Node) : Akin here n.unwrap n.loose.unwrap := by
  have wrapper : n.loose.isWrapper = n.isWrapper := by cases n; rfl
  have inner : n.loose.wrapped? = n.wrapped? := by cases n; rfl
  rw [unwrap_eq n, unwrap_eq n.loose, wrapper, inner]
  split
  · cases n.wrapped? with
    | none => exact .loose _ n
    | some m => exact .of_children _ rfl rfl rfl
  · exact .loose _ n

/-- A change leaves what is inside all wrappers as it reads. -/
theorem Veiled.unwrap {n n' : Node} (veiled : Veiled n n') : ∃ here, Akin here n.unwrap n'.unwrap := by
  obtain ⟨here, veil⟩ := veiled
  rcases veil.akin_or_wraps with akin | ⟨_, wraps⟩
  · rw [unwrap_eq n, unwrap_eq n', akin.isWrapper]
    split
    · have inner := akin.wrapped?
      cases found : n.wrapped? with
      | none =>
        rw [found] at inner
        generalize n'.wrapped? = inner' at inner
        cases inner
        exact ⟨here, akin⟩
      | some m =>
        rw [found] at inner
        generalize n'.wrapped? = inner' at inner
        cases inner with
        | some changed => exact changed.unwrap
    · exact ⟨here, akin⟩
  · -- The wrapper that the change adds is taken off again.
    rw [unwrap_eq n', if_pos wraps.wrapper, wraps.inner]
    exact ⟨here, .unwrap_loose here n⟩
termination_by n.size
decreasing_by exact size_lt_of_mem_operands (wrapped?_mem found)

section Reading

variable {here : Position} {n n' : Node}

theorem kind_ne_of_expression {kind : Kind} (expression : n.kind.isExpression = true)
    (other : kind.isExpression = false) : n.kind ≠ kind := by
  rintro rfl
  rw [expression] at other
  cases other

theorem Veiled.kind_beq {kind : Kind} (veiled : Veiled n n') (other : kind.isExpression = false) :
    (n'.kind == kind) = (n.kind == kind) := by
  -- A wrapper is an expression too, so it is not of that kind any more than what is inside.
  obtain ⟨here, veil⟩ := veiled
  rcases veil.akin_or_wraps with akin | ⟨_, wraps⟩
  · rw [akin.kind]
  · rw [beq_eq_false_iff_ne.mpr (kind_ne_of_expression wraps.kind_isExpression other),
      beq_eq_false_iff_ne.mpr (kind_ne_of_expression wraps.expression other)]

theorem Akin.map_operands {α : Type} {f : Node → α} (akin : Akin here n n')
    (same : ∀ {c c'}, Veiled c c' → f c' = f c) : n'.operands.map f = n.operands.map f :=
  map_eq_of_forall₂ akin.operands same

theorem flatMap_children {α : Type} {f : Node → List α} (skips : ∀ c : Node, c.isRemark = true → f c = []) (n : Node) :
    n.children.flatMap f = (n.operands.map f).flatten := by
  rw [Node.operands, ← List.flatMap_def]
  induction n.children with
  | nil => rfl
  | cons c cs ih =>
    cases left : c.isRemark with
    | true => simp [left, skips c left, ih]
    | false => simp [left, ih]

theorem any_children {p : Node → Bool} (skips : ∀ c : Node, c.isRemark = true → p c = false) (n : Node) :
    n.children.any p = (n.operands.map p).any id := by
  rw [Node.operands, List.any_map]
  induction n.children with
  | nil => rfl
  | cons c cs ih =>
    cases left : c.isRemark with
    | true => simp [left, skips c left, ih]
    | false => simp [left, ih]

/-- What is read from kind and text alone, and not from expressions, stays the same. -/
theorem Veiled.leaf {α : Type} {f : Node → α} {blank : α} (veiled : Veiled n n')
    (same : n'.kind = n.kind → n'.text = n.text → f n' = f n)
    (blanks : ∀ m : Node, m.kind.isExpression = true → f m = blank) : f n' = f n := by
  obtain ⟨here, veil⟩ := veiled
  rcases veil.akin_or_wraps with akin | ⟨_, wraps⟩
  · exact same akin.kind akin.text
  · rw [blanks n' wraps.kind_isExpression, blanks n wraps.expression]

theorem fragmentValue_of_expression (expression : n.kind.isExpression = true) : fragmentValue n = [] := by
  unfold fragmentValue
  split
  · exact absurd ‹_› (kind_ne_of_expression expression (by decide))
  · exact absurd ‹_› (kind_ne_of_expression expression (by decide))
  · rfl

theorem skeletonPart_of_expression (placeholder : Text) (expression : n.kind.isExpression = true) :
    skeletonPart placeholder n = [] := by
  unfold skeletonPart
  split
  · exact absurd ‹_› (kind_ne_of_expression expression (by decide))
  · exact absurd ‹_› (kind_ne_of_expression expression (by decide))
  · exact absurd ‹_› (kind_ne_of_expression expression (by decide))
  · rfl

theorem Veiled.fragmentValue (veiled : Veiled n n') : fragmentValue n' = fragmentValue n :=
  veiled.leaf (fun kind text => by rw [Script.fragmentValue, Script.fragmentValue, kind, text])
    fun _ => fragmentValue_of_expression

theorem Veiled.skeletonPart (veiled : Veiled n n') (placeholder : Text) :
    skeletonPart placeholder n' = skeletonPart placeholder n :=
  veiled.leaf (fun kind text => by rw [Script.skeletonPart, Script.skeletonPart, kind, text])
    fun _ => skeletonPart_of_expression placeholder

theorem fragmentValue_of_isRemark {c : Node} (left : c.isRemark = true) : fragmentValue c = [] := by
  rw [fragmentValue, beq_iff_eq.mp left]

theorem skeletonPart_of_isRemark (placeholder : Text) {c : Node} (left : c.isRemark = true) :
    skeletonPart placeholder c = [] := by
  rw [skeletonPart, beq_iff_eq.mp left]

theorem Akin.stringValue? (akin : Akin here n n') : stringValue? n' = stringValue? n := by
  rw [Script.stringValue?, Script.stringValue?, akin.kind, flatMap_children fun _ => fragmentValue_of_isRemark,
    flatMap_children fun _ => fragmentValue_of_isRemark, akin.map_operands Veiled.fragmentValue]

theorem Akin.skeleton? (akin : Akin here n n') (placeholder : Text) :
    skeleton? placeholder n' = skeleton? placeholder n := by
  rw [Script.skeleton?, Script.skeleton?, akin.kind, flatMap_children fun _ => skeletonPart_of_isRemark placeholder,
    flatMap_children fun _ => skeletonPart_of_isRemark placeholder,
    akin.map_operands fun veiled => veiled.skeletonPart placeholder]

theorem Akin.child_veiled (akin : Akin here n n') (role : Role) :
    Option.Rel Veiled (n.child? role) (n'.child? role) := by
  have child := akin.child role
  generalize n.child? role = found at child
  generalize n'.child? role = found' at child
  cases child with
  | none => exact .none
  | some veil => exact .some ⟨_, veil⟩

theorem find?_children {p : Node → Bool} (skips : ∀ c : Node, c.isRemark = true → p c = false) (n : Node) :
    n.children.find? p = n.operands.find? p := by
  rw [Node.operands, List.find?_filter]
  congr 1
  funext c
  cases left : c.isRemark with
  | true => simpa using skips c left
  | false => simp

end Reading

end SiteSurvey.Script
