import SiteSurvey.Script.Kind

set_option autoImplicit false

namespace SiteSurvey.Script

/-- A node of a syntax tree. `start` and `stop` are offsets into the source, `row` is the number of
line feeds before `start`, and `text` is the source text of a leaf (a node with inner structure
carries the empty text). `missing` marks a node that stands for something the source lacks. -/
inductive Node where
  | node (kind : Kind) (role : Option Role) (start stop row : Nat) (text : String)
      (missing : Bool) (children : List Node)
  deriving Inhabited

namespace Node

def kind : Node → Kind
  | node kind _ _ _ _ _ _ _ => kind

def role : Node → Option Role
  | node _ role _ _ _ _ _ _ => role

def start : Node → Nat
  | node _ _ start _ _ _ _ _ => start

def stop : Node → Nat
  | node _ _ _ stop _ _ _ _ => stop

def row : Node → Nat
  | node _ _ _ _ row _ _ _ => row

def text : Node → String
  | node _ _ _ _ _ text _ _ => text

def missing : Node → Bool
  | node _ _ _ _ _ _ missing _ => missing

def children : Node → List Node
  | node _ _ _ _ _ _ _ children => children

def asRole (role : Role) : Node → Node
  | node kind _ start stop row text missing children =>
      node kind (some role) start stop row text missing children

def asKind (kind : Kind) : Node → Node
  | node _ role start stop row text missing children =>
      node kind role start stop row text missing children

def child? (n : Node) (role : Role) : Option Node :=
  n.children.find? fun c => c.role == some role

/-- A comment, which takes no place of its own. -/
def remark (start stop row : Nat) (text : String) : Node :=
  node .comment none start stop row text false []

def isRemark (n : Node) : Bool :=
  n.kind == .comment

/-- The children that are not comments. -/
def operands (n : Node) : List Node :=
  n.children.filter fun c => !c.isRemark

/-- A node that reports a fault of the source itself. -/
def isFault (n : Node) : Bool :=
  n.kind == .error || n.missing

mutual

def size : Node → Nat
  | node _ _ _ _ _ _ _ children => 1 + sizeAll children

def sizeAll : List Node → Nat
  | [] => 0
  | n :: rest => n.size + sizeAll rest

end

mutual

def hasFault : Node → Bool
  | node kind _ _ _ _ _ missing children => kind == .error || missing || anyFault children

def anyFault : List Node → Bool
  | [] => false
  | n :: rest => n.hasFault || anyFault rest

end

theorem size_pos (n : Node) : 0 < n.size := by
  cases n
  simp only [size]
  omega

theorem sizeAll_append (xs ys : List Node) : sizeAll (xs ++ ys) = sizeAll xs + sizeAll ys := by
  induction xs with
  | nil => simp [sizeAll]
  | cons x xs ih => simp only [List.cons_append, sizeAll, ih]; omega

end Node

/-- The work left in a walk: nodes still to be entered and entered nodes still to be left, each with its
distance from the root. -/
inductive Errand where
  | enter (n : Node) (depth : Nat)
  | leave (n : Node) (depth : Nat)

def Errand.weight : Errand → Nat
  | .enter n _ => 2 * n.size
  | .leave _ _ => 1

def Errand.weightAll : List Errand → Nat
  | [] => 0
  | e :: todo => e.weight + weightAll todo

/-- How a walk over a tree acts: on the way down it may refuse to go below a node, and on the way
up it is told only of the nodes it went below. -/
structure Visitor (σ : Type) where
  enter : Node → Nat → σ → σ × Bool
  leave : Node → Nat → σ → σ := fun _ _ s => s

theorem Errand.weightAll_enterAll (ns : List Node) (depth : Nat) (todo : List Errand) :
    weightAll ((ns.map fun n => .enter n depth) ++ todo) = 2 * Node.sizeAll ns + weightAll todo := by
  induction ns with
  | nil => simp [Node.sizeAll]
  | cons n ns ih => simp only [List.map_cons, List.cons_append, weightAll, ih, weight, Node.sizeAll]; omega

/-- The walk as a loop over a stack of errands, in source order. -/
def Visitor.run {σ : Type} (v : Visitor σ) : List Errand → σ → σ
  | [], s => s
  | .leave n depth :: todo, s => v.run todo (v.leave n depth s)
  | .enter n depth :: todo, s =>
      match v.enter n depth s with
      | (s', false) => v.run todo s'
      | (s', true) =>
          v.run ((n.children.map fun c => .enter c (depth + 1)) ++ .leave n depth :: todo) s'
  termination_by todo => Errand.weightAll todo
  decreasing_by
    · simp [Errand.weightAll, Errand.weight]
    · have := n.size_pos
      simp only [Errand.weightAll, Errand.weight]
      omega
    · cases n
      simp only [Errand.weightAll_enterAll, Errand.weightAll, Errand.weight, Node.children, Node.size]
      omega

def Visitor.walk {σ : Type} (v : Visitor σ) (root : Node) (s : σ) : σ :=
  v.run [.enter root 0] s

namespace Node

/-- The first faulty node in source order, looked for only below nodes that are marked as holding a
fault. -/
def firstFaultFrom (marked : Node → Bool) : List Node → Option Node
  | [] => none
  | n :: todo =>
      if n.isFault then some n
      else if marked n then firstFaultFrom marked (n.children ++ todo)
      else firstFaultFrom marked todo
  termination_by todo => sizeAll todo
  decreasing_by
    · cases n
      simp only [sizeAll, sizeAll_append, children, size]
      omega
    · have := n.size_pos
      simp only [sizeAll]
      omega

def firstFault (n : Node) : Option Node :=
  firstFaultFrom hasFault [n]

mutual

/-- Puts each comment, given in source order, into the innermost node that surrounds it. -/
def placeRemarks (remarks : List Node) : Node → Node
  | node kind role start stop row text missing children =>
      node kind role start stop row text missing (placeAmong remarks children)

def placeAmong (remarks : List Node) : List Node → List Node
  | [] => remarks
  | n :: rest =>
      if remarks.isEmpty then n :: rest else
      let before := remarks.takeWhile fun r => r.start < n.start
      let others := remarks.dropWhile fun r => r.start < n.start
      let inside := others.takeWhile fun r => r.start < n.stop
      let after := others.dropWhile fun r => r.start < n.stop
      let n' := if inside.isEmpty then n else n.placeRemarks inside
      before ++ n' :: placeAmong after rest

end

end Node

end SiteSurvey.Script
