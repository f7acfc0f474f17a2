import SiteSurvey.Proofs.Script.Preorder
import SiteSurvey.Script.Strict

set_option autoImplicit false

namespace SiteSurvey.Script

namespace Node

/-- A mark says of a node just what it is for: that the node is faulty or that a child is marked. -/
def Coherent (marked : Node → Bool) (n : Node) : Prop :=
  marked n = (n.isFault || n.children.any marked)

theorem anyFault_eq (ns : List Node) : anyFault ns = ns.any hasFault := by
  induction ns with
  | nil => rfl
  | cons n ns ih => rw [anyFault, ih, List.any_cons]

theorem coherent_hasFault (n : Node) : Coherent hasFault n := by
  cases n
  rw [Coherent, hasFault, anyFault_eq]
  rfl

mutual

/-- Coherent marks tell of a node whether anything in its tree is faulty. -/
theorem marked_eq_any {marked : Node → Bool} (n : Node) (coherent : ∀ m ∈ n.preorder, Coherent marked m) :
    marked n = n.preorder.any isFault := by
  cases n with
  | node kind role start stop row text missing children =>
    have here := coherent _ (self_mem_preorder _)
    have below := any_marked_eq_any children fun m inside =>
      coherent m (by rw [preorder]; exact List.mem_cons_of_mem _ inside)
    rw [here, preorder, List.any_cons, ← below]
    rfl

theorem any_marked_eq_any {marked : Node → Bool} (ns : List Node)
    (coherent : ∀ m ∈ preorderAll ns, Coherent marked m) : ns.any marked = (preorderAll ns).any isFault := by
  cases ns with
  | nil => rfl
  | cons n rest =>
    rw [preorderAll] at coherent
    have first := marked_eq_any n fun m inside => coherent m (List.mem_append_left _ inside)
    have others := any_marked_eq_any rest fun m inside => coherent m (List.mem_append_right _ inside)
    rw [List.any_cons, preorderAll, List.any_append, first, others]

end

theorem find?_preorder_of_unmarked {marked : Node → Bool} {n : Node} (coherent : ∀ m ∈ n.preorder, Coherent marked m)
    (unmarked : marked n = false) : n.preorder.find? isFault = none := by
  rw [marked_eq_any n coherent] at unmarked
  rw [List.find?_eq_none]
  intro m inside faulty
  rw [List.any_eq_true.mpr ⟨m, inside, faulty⟩] at unmarked
  cases unmarked

/-- The search that passes over what is not marked finds what the search through all nodes finds. -/
theorem firstFaultFrom_eq_find? {marked : Node → Bool} (todo : List Node)
    (coherent : ∀ m ∈ preorderAll todo, Coherent marked m) :
    firstFaultFrom marked todo = (preorderAll todo).find? isFault := by
  -- The nodes that are left are those below the stack, so the marks have to be coherent in all of its trees.
  fun_induction firstFaultFrom marked todo with
  | case1 => rfl
  | case2 n todo faulty =>
    rw [preorderAll, preorder_eq, List.cons_append, List.find?_cons_of_pos faulty]
  | case3 n todo sound _ ih =>
    have nodes : preorderAll (n :: todo) = n :: preorderAll (n.children ++ todo) := by
      rw [preorderAll, preorder_eq, preorderAll_append, List.cons_append]
    rw [nodes] at coherent ⊢
    rw [List.find?_cons_of_neg sound]
    exact ih fun m inside => coherent m (List.mem_cons_of_mem n inside)
  | case4 n todo _ unmarked ih =>
    rw [preorderAll] at coherent ⊢
    have nothing := find?_preorder_of_unmarked
      (fun m inside => coherent m (List.mem_append_left _ inside)) (Bool.eq_false_iff.mpr unmarked)
    rw [List.find?_append, nothing, Option.none_or]
    exact ih fun m inside => coherent m (List.mem_append_right _ inside)

theorem firstFault_eq_find? (n : Node) : n.firstFault = n.preorder.find? isFault := by
  rw [firstFault, firstFaultFrom_eq_find? [n] fun m _ => coherent_hasFault m, preorderAll_singleton]

theorem hasFault_iff (n : Node) : n.hasFault = true ↔ ∃ m ∈ n.preorder, m.isFault = true := by
  rw [marked_eq_any n fun m _ => coherent_hasFault m, List.any_eq_true]

end Node

namespace Tree

/-- What a strict reading of a tree comes to: it is refused just if some node is faulty, and the refusal names the
line of the first one. -/
structure Judged (t : Tree) (outcome : Except SyntaxFault Tree) : Prop where
  refused_iff : (∃ f, outcome = .error f) ↔ ∃ n ∈ t.root.preorder, n.isFault = true
  named : ∀ f, outcome = .error f → ∃ n, t.root.preorder.find? Node.isFault = some n ∧
    f.line = some (n.row + 1) ∧ f.message = f.subject ++ " near line " ++ Nat.repr (n.row + 1)

theorem judged_strict (t : Tree) (file : Option String) : t.Judged (t.strict file) := by
  have faulty : t.hasErrors = true ↔ ∃ n ∈ t.root.preorder, n.isFault = true := t.root.hasFault_iff
  unfold strict
  split
  · rename_i errors
    have some_ := faulty.mp errors
    refine ⟨⟨fun _ => some_, fun _ => ⟨_, rfl⟩⟩, ?_⟩
    rintro f ⟨⟩
    obtain ⟨n, found⟩ := Option.isSome_iff_exists.mp (List.find?_isSome.mpr some_)
    have line : t.firstErrorLine = some (n.row + 1) := by
      rw [firstErrorLine, Node.firstFault_eq_find?, found, Option.map_some]
    refine ⟨n, found, line, ?_⟩
    rw [SyntaxFault.message, line]
  · rename_i clean
    refine ⟨⟨fun ⟨f, refused⟩ => ?_, fun some_ => absurd (faulty.mpr some_) clean⟩, fun f refused => ?_⟩
    · cases refused
    · cases refused

end Tree

/-- With coherent marks the search that passes over unmarked nodes gives the line of the first faulty node of all, and
none only if there is none. So a strict reading refuses just the trees with a faulty node, and it always names a line. -/
theorem first_fault_line_exact (marked : Node → Bool) (t : Tree)
    (coherent : ∀ n ∈ t.root.preorder, marked n = (n.isFault || n.children.any marked)) (file : Option String) :
    (Node.firstFaultFrom marked [t.root]).map (·.row + 1) =
        (t.root.preorder.find? Node.isFault).map (·.row + 1) ∧
      (Node.firstFaultFrom marked [t.root] = none → ∀ n ∈ t.root.preorder, n.isFault = false) ∧
      t.firstErrorLine = (Node.firstFaultFrom marked [t.root]).map (·.row + 1) ∧
      t.hasErrors = marked t.root ∧
      t.Judged (t.strict file) ∧
      ∀ language text, (parse language text).Judged (parseStrict language text file) := by
  have search : Node.firstFaultFrom marked [t.root] = t.root.preorder.find? Node.isFault := by
    rw [Node.firstFaultFrom_eq_find?, Node.preorderAll_singleton]
    rwa [Node.preorderAll_singleton]
  refine ⟨by rw [search], fun none_ n inside => ?_, ?_, ?_, t.judged_strict file, fun language text => ?_⟩
  · rw [search, List.find?_eq_none] at none_
    exact Bool.eq_false_iff.mpr (none_ n inside)
  · rw [search, Tree.firstErrorLine, Node.firstFault_eq_find?]
  · rw [Node.marked_eq_any t.root coherent]
    exact Node.marked_eq_any t.root fun m _ => Node.coherent_hasFault m
  · exact (parse language text).judged_strict file

-- The name that is missing in the second line of `brokenTree`.
def missingName : Node :=
  .node .identifier none 7 7 1 "" true []

-- A script whose first line is in order, whose second one lacks a condition, and whose third one holds an error
-- inside of another.
def brokenTree : Tree where
  source := .ofString .javascript "a;\nif () c;\n)"
  root := .node .program none 0 13 0 "" false
    [.node .expressionStatement none 0 2 0 "" false [.node .identifier none 0 1 0 "a" false []],
     .node .ifStatement none 3 11 1 "" false
      [.node .parenthesizedExpression none 6 8 1 "" false [missingName],
       .node .expressionStatement none 9 11 1 "" false [.node .identifier none 9 10 1 "c" false []]],
     .node .error none 12 13 2 "" false [.node .error none 12 13 2 "" false []]]

theorem brokenTree_refused :
    (∀ n ∈ brokenTree.root.preorder, n.hasFault = (n.isFault || n.children.any Node.hasFault)) ∧
      brokenTree.firstErrorLine = some 2 ∧ ∃ f, brokenTree.strict (some "a.js") = .error f ∧ f.line = some 2 := by
  have coherent : ∀ n ∈ brokenTree.root.preorder, n.hasFault = (n.isFault || n.children.any Node.hasFault) :=
    fun n _ => n.coherent_hasFault
  have first : brokenTree.root.preorder.find? Node.isFault = some missingName := rfl
  obtain ⟨search, _, same, _, judged, _⟩ := first_fault_line_exact Node.hasFault brokenTree coherent (some "a.js")
  obtain ⟨f, refused⟩ := judged.refused_iff.mpr ⟨missingName, List.mem_of_find?_eq_some first, rfl⟩
  obtain ⟨n, found, named, _⟩ := judged.named f refused
  obtain rfl : missingName = n := Option.some.inj (first.symm.trans found)
  refine ⟨coherent, ?_, f, refused, named⟩
  rw [same, search, first]
  rfl

end SiteSurvey.Script
