import SiteSurvey.Proofs.Script.Preorder
import SiteSurvey.Proofs.Script.Veil

set_option autoImplicit false

namespace SiteSurvey.Script

/-- Two trees of one shape and with the same texts, but for identifiers, whose texts go by a renaming. Where the nodes
stand in their sources may differ. -/
inductive Renamed (ρ : String → String) : Node → Node → Prop
  | node {kind : Kind} {role : Option Role} {start stop row start' stop' row' : Nat} {text text' : String}
      {missing missing' : Bool} {children children' : List Node}
      (named : text' = if kind = .identifier then ρ text else text)
      (below : List.Forall₂ (Renamed ρ) children children') :
      Renamed ρ (.node kind role start stop row text missing children)
        (.node kind role start' stop' row' text' missing' children')

/-- In a node that is plain, each text that is read as the name of a variable is that of an identifier, and no other
text is. -/
structure Node.Plain (n : Node) : Prop where
  noShorthand : n.kind ≠ .shorthandPropertyIdentifier
  maker : n.kind = .newExpression → ∀ m ∈ n.child? .constructor, m.kind = .identifier ∨ m.kind = .memberExpression
  property : n.kind = .memberExpression → ∀ m ∈ n.child? .property, m.kind ≠ .identifier

/-- A node, with plain nodes only in its tree, and what it is renamed to. -/
structure Recast (ρ : String → String) (n n' : Node) : Prop where
  renamed : Renamed ρ n n'
  plain : ∀ m ∈ n.preorder, m.Plain

namespace Node

mutual

def rename (ρ : String → String) : Node → Node
  | node kind role start stop row text missing children =>
      node kind role start stop row (if kind = .identifier then ρ text else text) missing (renameAll ρ children)

def renameAll (ρ : String → String) : List Node → List Node
  | [] => []
  | n :: rest => n.rename ρ :: renameAll ρ rest

end

mutual

theorem renamed_rename (ρ : String → String) (n : Node) : Renamed ρ n (n.rename ρ) := by
  cases n with
  | node kind role start stop row text missing children => exact .node rfl (renamed_renameAll ρ children)

theorem renamed_renameAll (ρ : String → String) (ns : List Node) :
    List.Forall₂ (Renamed ρ) ns (renameAll ρ ns) := by
  cases ns with
  | nil => exact .nil
  | cons n rest => exact .cons (renamed_rename ρ n) (renamed_renameAll ρ rest)

end

end Node

namespace Recast

variable {ρ : String → String} {n n' : Node}

theorem kind (recast : Recast ρ n n') : n'.kind = n.kind := by
  cases recast.renamed
  rfl

theorem role (recast : Recast ρ n n') : n'.role = n.role := by
  cases recast.renamed
  rfl

theorem text_of_eq (recast : Recast ρ n n') (variable_ : n.kind = .identifier) : n'.text = ρ n.text := by
  cases recast.renamed with
  | node named => exact named.trans (if_pos variable_)

theorem text_of_ne (recast : Recast ρ n n') (other : n.kind ≠ .identifier) : n'.text = n.text := by
  cases recast.renamed with
  | node named => exact named.trans (if_neg other)

theorem here (recast : Recast ρ n n') : n.Plain :=
  recast.plain n n.self_mem_preorder

theorem children (recast : Recast ρ n n') : List.Forall₂ (Recast ρ) n.children n'.children := by
  have plain : ∀ c ∈ n.children, ∀ m ∈ c.preorder, m.Plain := fun c child m below =>
    recast.plain m (Node.mem_preorder_of_mem_children child below)
  cases recast.renamed with
  | node _ below =>
    exact ((List.forall₂_and_left _ _).mpr ⟨plain, below⟩).imp fun _ _ child => ⟨child.2, child.1⟩

theorem isRemark (recast : Recast ρ n n') : n'.isRemark = n.isRemark := by
  rw [Node.isRemark, Node.isRemark, recast.kind]

theorem operands (recast : Recast ρ n n') : List.Forall₂ (Recast ρ) n.operands n'.operands :=
  List.rel_filter (fun _ _ child => by simp only [child.isRemark]) recast.children

theorem child (recast : Recast ρ n n') (role : Role) : Option.Rel (Recast ρ) (n.child? role) (n'.child? role) :=
  find?_rel recast.children fun child => by rw [child.role]

theorem property (recast : Recast ρ n n') (member : n.kind = .memberExpression) :
    Option.Rel (fun p p' => p'.text = p.text) (n.child? .property) (n'.child? .property) :=
  rel_imp (rel_and_eq (recast.child .property)) fun named =>
    named.1.text_of_ne (recast.here.property member _ named.2)

theorem isWrapper (recast : Recast ρ n n') : n'.isWrapper = n.isWrapper := by
  rw [Node.isWrapper, Node.isWrapper, recast.kind]

theorem wrapped? (recast : Recast ρ n n') : Option.Rel (Recast ρ) n.wrapped? n'.wrapped? := by
  rw [Node.wrapped?, Node.wrapped?, recast.kind]
  split
  · rw [← List.head?_reverse, ← List.head?_reverse]
    exact head?_rel (List.rel_reverse recast.operands)
  · exact head?_rel recast.operands

theorem unwrap {n n' : Node} (recast : Recast ρ n n') : Recast ρ n.unwrap n'.unwrap := by
  rw [unwrap_eq n, unwrap_eq n', recast.isWrapper]
  split
  · have inner := recast.wrapped?
    cases found : n.wrapped? with
    | none =>
      rw [found] at inner
      generalize n'.wrapped? = inner' at inner
      cases inner
      exact recast
    | some m =>
      rw [found] at inner
      generalize n'.wrapped? = inner' at inner
      cases inner with
      | some inside => exact inside.unwrap
  · exact recast
termination_by n.size
decreasing_by exact Node.size_lt_of_mem_operands (Node.wrapped?_mem found)

theorem fragmentValue (recast : Recast ρ n n') : fragmentValue n' = fragmentValue n := by
  rw [Script.fragmentValue, Script.fragmentValue, recast.kind]
  split
  · rename_i fragment
    rw [recast.text_of_ne (by rw [fragment]; decide)]
  · rename_i escape
    rw [recast.text_of_ne (by rw [escape]; decide)]
  · rfl

theorem skeletonPart (recast : Recast ρ n n') (placeholder : Text) :
    skeletonPart placeholder n' = skeletonPart placeholder n := by
  rw [Script.skeletonPart, Script.skeletonPart, recast.kind]
  split
  · rename_i fragment
    rw [recast.text_of_ne (by rw [fragment]; decide)]
  · rename_i escape
    rw [recast.text_of_ne (by rw [escape]; decide)]
  · rfl
  · rfl

theorem stringValue? (recast : Recast ρ n n') : stringValue? n' = stringValue? n := by
  rw [Script.stringValue?, Script.stringValue?, recast.kind, List.flatMap_def, List.flatMap_def,
    map_eq_of_forall₂ recast.children Recast.fragmentValue]

theorem skeleton? (recast : Recast ρ n n') (placeholder : Text) :
    skeleton? placeholder n' = skeleton? placeholder n := by
  rw [Script.skeleton?, Script.skeleton?, recast.kind, List.flatMap_def, List.flatMap_def,
    map_eq_of_forall₂ recast.children fun part => part.skeletonPart placeholder]

end Recast

end SiteSurvey.Script
