import SiteSurvey.Query
import SiteSurvey.Request.Finding
import SiteSurvey.Script.Literal
import SiteSurvey.Text.Case

set_option autoImplicit false

namespace SiteSurvey.Script.Node

theorem size_le_sizeAll {n : Node} {ns : List Node} (inside : n ∈ ns) : n.size ≤ sizeAll ns := by
  induction ns with
  | nil => simp at inside
  | cons m rest ih =>
      simp only [sizeAll]
      rcases List.mem_cons.mp inside with same | later
      · subst same
        omega
      · have := ih later
        omega

theorem size_lt_of_mem_operands {n m : Node} (inside : m ∈ n.operands) : m.size < n.size := by
  cases n
  have child := size_le_sizeAll (List.mem_filter.mp inside).1
  simp only [children, size] at *
  omega

/-- Parentheses and type assertions, which leave the value inside them as it is. -/
def isWrapper (n : Node) : Bool :=
  match n.kind with
  | .parenthesizedExpression | .asExpression | .satisfiesExpression | .nonNullExpression
  | .typeAssertion => true
  | _ => false

/-- The expression inside a wrapper. An assertion in front of its expression comes after the type. -/
def wrapped? (n : Node) : Option Node :=
  if n.kind == .typeAssertion then n.operands.getLast? else n.operands.head?

theorem wrapped?_mem {n m : Node} (found : n.wrapped? = some m) : m ∈ n.operands := by
  unfold wrapped? at found
  split at found
  · exact List.mem_of_getLast? found
  · exact List.mem_of_head? found

def unwrap (n : Node) : Node :=
  if n.isWrapper then
    match found : n.wrapped? with
    | some inner =>
        have : inner.size < n.size := size_lt_of_mem_operands (wrapped?_mem found)
        unwrap inner
    | none => n
  else n
  termination_by n.size

end SiteSurvey.Script.Node

namespace SiteSurvey.Request

open SiteSurvey.Script

/-- The names by which a source sends requests. -/
structure Senders where
  clients : List String
  fetches : List String
  deriving DecidableEq, Repr

def Senders.usual : Senders :=
  { clients := ["axios"], fetches := ["fetch"] }

def writeVerbs : List String :=
  ["post", "put", "patch", "delete"]

def appendVerbs : List String :=
  ["append", "set"]

def placeholder : Text :=
  "$\x7b\x7d"

def defaultMethod : Text :=
  "GET"

def staticKey? (key : Node) : Option Text :=
  if key.kind == .propertyIdentifier then some (Text.ofString key.text) else stringValue? key

def entryKey? (entry : Node) : Option Text :=
  match entry.kind with
  | .shorthandPropertyIdentifier => some (Text.ofString entry.text)
  | .pair => (entry.child? .key).bind staticKey?
  | .methodDefinition => (entry.child? .name).bind staticKey?
  | _ => none

def objectKeys (object : Node) : List Text × Nat :=
  (object.operands.filterMap entryKey?,
    object.operands.countP fun entry => (entryKey? entry).isNone)

/-- The accumulator that a `new` expression makes, by the name of its constructor or, if that is a
property of something else, of the property. -/
def accumulator? (creation : Node) : Option Shape := do
  let maker ← creation.child? .constructor
  let named ← if maker.kind == .memberExpression then maker.child? .property else some maker
  if named.text == "FormData" then some .formAccumulator
  else if named.text == "URLSearchParams" then some .urlAccumulator
  else none

def seedKeys (shape : Shape) (creation : Node) : List Text × Nat :=
  if shape == .urlAccumulator then
    match (creation.child? .arguments).bind fun args => args.operands.head? with
    | none => ([], 0)
    | some first =>
        let seed := first.unwrap
        if seed.kind == .object then objectKeys seed
        else
          match stringValue? seed with
          | some query => (Query.distinctNames query, 0)
          | none => ([], 0)
  else ([], 0)

def literalKey? (argument : Node) : Option Text :=
  let key := argument.unwrap
  if key.kind == .number then some (Text.ofString key.text)
  else
    match stringValue? key with
    | some value => some value
    | none =>
        if key.children.any fun c => c.kind == .templateSubstitution then none
        else skeleton? placeholder key

def property? (object : Node) (name : Text) : Option Node :=
  let entry? := object.children.find? fun entry =>
    match entry.kind with
    | .pair => (entry.child? .key).bind staticKey? == some name
    | .shorthandPropertyIdentifier => Text.ofString entry.text == name
    | _ => false
  entry?.bind fun entry => if entry.kind == .pair then entry.child? .value else some entry

def endpoint? (args : List Node) : Option Text :=
  args.head?.bind fun first =>
    match stringValue? first.unwrap with
    | some value => some value
    | none => skeleton? placeholder first.unwrap

/-- What an analysis knows after part of a walk. `findings` and `log` are in reverse. -/
structure Progress where
  scope : Scope
  findings : List Finding
  dropped : Nat
  log : List Text

namespace Progress

def start : Progress :=
  { scope := .empty, findings := [], dropped := 0, log := [] }

def drop (p : Progress) (count : Nat) : Progress :=
  { p with dropped := p.dropped + count }

def body (p : Progress) (value : Option Node) : List Text × Encoding × Nat :=
  match value.map Node.unwrap with
  | none => ([], .unknown, 0)
  | some n =>
      match n.kind with
      | .object =>
          let (keys, dropped) := objectKeys n
          (keys, .json, dropped)
      | .identifier | .shorthandPropertyIdentifier =>
          match p.scope.get? n.text with
          | some b => (b.keys, b.shape.encoding, 0)
          | none => ([], .unknown, 0)
      | _ => ([], .unknown, 0)

def report (p : Progress) (finding : Finding) (message : Text) : Progress :=
  { p with findings := finding :: p.findings, log := message :: p.log }

def assign (p : Progress) (name : String) (value : Node) : Progress :=
  let v := value.unwrap
  match v.kind with
  | .object =>
      let (keys, dropped) := objectKeys v
      { p with scope := p.scope.bind name .objectLiteral keys }.drop dropped
  | .newExpression =>
      match accumulator? v with
      | some shape =>
          let (keys, dropped) := seedKeys shape v
          { p with scope := p.scope.bind name shape keys }.drop dropped
      | none => { p with scope := p.scope.unbind name }
  | _ => { p with scope := p.scope.unbind name }

def append (p : Progress) (name verb : String) (args : List Node) : Progress :=
  match args with
  | [] => p
  | first :: _ =>
      match literalKey? first with
      | none => p.drop 1
      | some key => { p with scope := (p.scope.append name key (verb == "set")).1 }

end Progress

def place (file : String) (call : Node) : Text :=
  Text.ofString file ++ ":" ++ Text.ofNat (call.row + 1) ++ ": "

def clientCall (file : String) (p : Progress) (call : Node) (verb : String) (args : List Node) :
    Progress :=
  let (params, encoding, dropped) := p.body args[1]?
  let method := Text.upper verb
  (p.drop dropped).report
    { file, method, endpoint := endpoint? args, params, encoding, confidence := .high }
    (place file call ++ method ++ " call on client object")

def requestedMethod (options : Node) : Text :=
  match (property? options "method").bind fun value => stringValue? value.unwrap with
  | some explicit => if explicit.isEmpty then defaultMethod else Text.upper explicit
  | none => defaultMethod

/-- A call without an endpoint and without parameters is not reported. -/
def fetchCall (file : String) (p : Progress) (call : Node) (args : List Node) : Progress :=
  let options := (args[1]?.map Node.unwrap).filter fun n => n.kind == .object
  let method := match options with
    | some o => requestedMethod o
    | none => defaultMethod
  let (params, encoding, dropped) := p.body (options.bind fun o => property? o "body")
  let endpoint := endpoint? args
  let p' := p.drop dropped
  if (endpoint.getD []).isEmpty && params.isEmpty then p'
  else
    p'.report { file, method, endpoint, params, encoding, confidence := .medium }
      (place file call ++ "fetch-style " ++ method ++ " call")

def call (senders : Senders) (file : String) (p : Progress) (n : Node) : Progress :=
  match n.child? .function, n.child? .arguments with
  | some callee, some list =>
      if list.kind != .arguments then p
      else
        let args := list.operands
        match callee.kind with
        | .memberExpression =>
            match callee.child? .object, callee.child? .property with
            | some object, some method =>
                if object.kind != .identifier then p
                else
                  let p₁ :=
                    if appendVerbs.contains method.text && p.scope.contains object.text then
                      p.append object.text method.text args
                    else p
                  if senders.clients.contains object.text && writeVerbs.contains method.text then
                    clientCall file p₁ n method.text args
                  else p₁
            | _, _ => p
        | .identifier => if senders.fetches.contains callee.text then fetchCall file p n args else p
        | _ => p
  | _, _ => p

def settle (p : Progress) (n : Node) : Progress :=
  let given (name value : Option Node) : Progress :=
    match name, value with
    | some name, some value =>
        if name.kind == .identifier then p.assign name.text value else p
    | _, _ => p
  match n.kind with
  | .variableDeclarator => given (n.child? .name) (n.child? .value)
  | .assignmentExpression => given (n.child? .left) (n.child? .right)
  | _ => p

/-- Calls are taken into account on the way down and values on the way up, so that a call inside a
value still sees what the name held before. -/
def visitor (senders : Senders) (file : String) : Visitor Progress where
  enter n _ p := (if n.kind == .callExpression then call senders file p n else p, true)
  leave n _ p := settle p n

structure Extract where
  findings : List Finding
  log : List Text

def extract (senders : Senders) (file : String) (root : Node) : Extract :=
  let p := (visitor senders file).walk root .start
  let summary : List Text :=
    if p.dropped == 0 then []
    else [Text.ofString file ++ ": " ++ Text.ofNat p.dropped ++
      " non-literal parameter name(s) dropped"]
  { findings := p.findings.reverse, log := p.log.reverse ++ summary }

end SiteSurvey.Request
