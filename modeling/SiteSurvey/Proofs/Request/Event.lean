import Mathlib.Data.List.Basic
import SiteSurvey.Request.Extract

set_option autoImplicit false

namespace SiteSurvey.Request

open SiteSurvey.Script

/-- What a walk meets that matters to requests: a call on the way down, and a value that is given to
a plain name on the way up. -/
inductive Event where
  | call (n : Node)
  | bind (name : String) (value : Node)

def bindTo? (target value : Option Node) : Option Event :=
  match target, value with
  | some target, some value =>
      if target.kind == .identifier then some (.bind target.text value) else none
  | _, _ => none

def bindOf? (n : Node) : Option Event :=
  match n.kind with
  | .variableDeclarator => bindTo? (n.child? .name) (n.child? .value)
  | .assignmentExpression => bindTo? (n.child? .left) (n.child? .right)
  | _ => none

theorem bindOf?_of_other {n : Node} (declares : n.kind ≠ .variableDeclarator)
    (assigns : n.kind ≠ .assignmentExpression) : bindOf? n = none := by
  unfold bindOf?
  split
  · contradiction
  · contradiction
  · rfl

def callOf? (n : Node) : Option Event :=
  if n.kind == .callExpression then some (.call n) else none

mutual

/-- The events of a tree, depth first. -/
def events : Node → List Event
  | .node kind role start stop row text missing children =>
      let n : Node := .node kind role start stop row text missing children
      (callOf? n).toList ++ eventsAll children ++ (bindOf? n).toList

def eventsAll : List Node → List Event
  | [] => []
  | n :: rest => events n ++ eventsAll rest

end

theorem events_eq (n : Node) :
    events n = (callOf? n).toList ++ eventsAll n.children ++ (bindOf? n).toList := by
  cases n
  rw [events, Node.children]

theorem eventsAll_append (ns ms : List Node) : eventsAll (ns ++ ms) = eventsAll ns ++ eventsAll ms := by
  induction ns with
  | nil => rfl
  | cons n ns ih => rw [List.cons_append, eventsAll, eventsAll, ih, List.append_assoc]

/-- The arguments of a call, unless a template stands in place of their list. -/
def arguments? (n : Node) : Option (List Node) :=
  (n.child? .arguments).bind fun list => if list.kind == .arguments then some list.operands else none

structure MethodCall where
  object : String
  method : String
  args : List Node

def methodCall? (n : Node) : Option MethodCall := do
  let callee ← n.child? .function
  let args ← arguments? n
  if callee.kind == .memberExpression then
    let object ← callee.child? .object
    let method ← callee.child? .property
    if object.kind == .identifier then some { object := object.text, method := method.text, args }
    else none
  else none

structure FunctionCall where
  name : String
  args : List Node

def functionCall? (n : Node) : Option FunctionCall := do
  let callee ← n.child? .function
  let args ← arguments? n
  if callee.kind == .identifier then some { name := callee.text, args } else none

/-- What a value is tracked as, with the keys it has from the start. -/
def tracked? (value : Node) : Option (Shape × List Text) :=
  match value.unwrap.kind with
  | .object => some (.objectLiteral, (objectKeys value.unwrap).1)
  | .newExpression => (accumulator? value.unwrap).map fun shape => (shape, (seedKeys shape value.unwrap).1)
  | _ => none

/-- The key that an event adds to what a name holds, and whether only if it is new. -/
def addition? (name : String) : Event → Option (Text × Bool)
  | .bind _ _ => none
  | .call n =>
      (methodCall? n).bind fun m =>
        if m.object == name && appendVerbs.contains m.method then
          (m.args.head?.bind literalKey?).map fun key => (key, m.method == "set")
        else none

def withKey (keys : List Text) (added : Text × Bool) : List Text :=
  if added.2 && keys.contains added.1 then keys else keys ++ [added.1]

/-- The value that a name was last given, and what happened since. -/
def lastValue? (name : String) : List Event → Option (Node × List Event)
  | [] => none
  | .call _ :: later => lastValue? name later
  | .bind target value :: later =>
      match lastValue? name later with
      | some found => some found
      | none => if target = name then some (value, later) else none

/-- What a name holds after some events. Only accumulators take keys from the calls made since. -/
def holding (history : List Event) (name : String) : Option (Shape × List Text) :=
  (lastValue? name history).bind fun (value, later) =>
    (tracked? value).map fun (shape, keys) =>
      (shape, if shape.isAccumulator then (later.filterMap (addition? name)).foldl withKey keys else keys)

/-- The parameters and the encoding of a body after some events. -/
def bodyAfter (history : List Event) (value : Option Node) : List Text × Encoding :=
  match value.map Node.unwrap with
  | none => ([], .unknown)
  | some n =>
      match n.kind with
      | .object => ((objectKeys n).1, .json)
      | .identifier | .shorthandPropertyIdentifier =>
          match holding history n.text with
          | some (shape, keys) => (keys, shape.encoding)
          | none => ([], .unknown)
      | _ => ([], .unknown)

def clientFinding (file : String) (history : List Event) (m : MethodCall) : Finding :=
  let body := bodyAfter history m.args[1]?
  { file, method := Text.upper m.method, endpoint := endpoint? m.args, params := body.1,
    encoding := body.2, confidence := .high }

def options? (args : List Node) : Option Node :=
  (args[1]?.map Node.unwrap).filter fun n => n.kind == .object

def fetchFinding (file : String) (history : List Event) (f : FunctionCall) : Finding :=
  let options := options? f.args
  let body := bodyAfter history (options.bind fun o => property? o "body")
  { file, method := (options.map requestedMethod).getD defaultMethod, endpoint := endpoint? f.args,
    params := body.1, encoding := body.2, confidence := .medium }

/-- The request that a call makes after some events. -/
def request? (senders : Senders) (file : String) (history : List Event) (n : Node) : Option Finding :=
  match methodCall? n, functionCall? n with
  | some m, _ =>
      if senders.clients.contains m.object && writeVerbs.contains m.method then
        some (clientFinding file history m)
      else none
  | none, some f =>
      if senders.fetches.contains f.name then
        let finding := fetchFinding file history f
        if (finding.endpoint.getD []).isEmpty && finding.params.isEmpty then none else some finding
      else none
  | none, none => none

def requestAt? (senders : Senders) (file : String) (es : List Event) (at_ : Event × Nat) : Option Finding :=
  match at_ with
  | (.call n, i) => request? senders file (es.take i) n
  | (.bind _ _, _) => none

/-- The requests of some events, each seen from the events before it. -/
def requests (senders : Senders) (file : String) (es : List Event) : List Finding :=
  es.zipIdx.filterMap (requestAt? senders file es)

theorem lastValue?_append (name : String) (es : List Event) (e : Event)
    (other : ∀ value, e ≠ .bind name value) :
    lastValue? name (es ++ [e]) =
      (lastValue? name es).map fun (value, later) => (value, later ++ [e]) := by
  induction es with
  | nil =>
    cases e with
    | call n => rfl
    | bind target value =>
      have differs : target ≠ name := fun same => other value (by rw [same])
      simp [lastValue?, differs]
  | cons first es ih =>
    cases first with
    | call n => simpa only [List.cons_append, lastValue?] using ih
    | bind target value =>
      simp only [List.cons_append, lastValue?, ih]
      rcases lastValue? name es with _ | found
      · by_cases same : target = name <;> simp [same]
      · rfl

theorem lastValue?_append_bind (name : String) (es : List Event) (value : Node) :
    lastValue? name (es ++ [.bind name value]) = some (value, []) := by
  induction es with
  | nil => simp [lastValue?]
  | cons first es ih =>
    cases first with
    | call n => simpa only [List.cons_append, lastValue?] using ih
    | bind target earlier => simp only [List.cons_append, lastValue?, ih]

theorem holding_append_bind (name : String) (es : List Event) (value : Node) :
    holding (es ++ [.bind name value]) name = tracked? value := by
  simp only [holding, lastValue?_append_bind, Option.bind_some, List.filterMap_nil, List.foldl_nil, ite_self]
  exact Option.map_id'

/-- An event that gives the name no value changes what it holds by at most one key. -/
theorem holding_append (name : String) (es : List Event) (e : Event)
    (other : ∀ value, e ≠ .bind name value) :
    holding (es ++ [e]) name =
      (holding es name).map fun (shape, keys) =>
        (shape, if shape.isAccumulator then ((addition? name e).toList).foldl withKey keys else keys) := by
  simp only [holding, lastValue?_append name es e other]
  rcases lastValue? name es with _ | ⟨value, later⟩
  · rfl
  · have last : [e].filterMap (addition? name) = (addition? name e).toList := by
      rcases found : addition? name e with _ | added <;> simp [found]
    simp only [Option.map_some, Option.bind_some, List.filterMap_append, List.foldl_append, last]
    rcases tracked? value with _ | ⟨shape, keys⟩
    · rfl
    · by_cases grows : shape.isAccumulator = true <;> simp [grows]

theorem requests_append (senders : Senders) (file : String) (es : List Event) (e : Event) :
    requests senders file (es ++ [e]) =
      requests senders file es ++ (requestAt? senders file es (e, es.length)).toList := by
  have earlier : es.zipIdx.filterMap (requestAt? senders file (es ++ [e])) =
      es.zipIdx.filterMap (requestAt? senders file es) := by
    apply List.filterMap_congr
    rintro ⟨d, i⟩ inside
    have within : i < es.length := by
      have := List.snd_lt_of_mem_zipIdx inside
      omega
    cases d with
    | bind name value => rfl
    | call n => simp only [requestAt?, List.take_append_of_le_length (Nat.le_of_lt within)]
  have latest : requestAt? senders file (es ++ [e]) (e, es.length) =
      requestAt? senders file es (e, es.length) := by
    cases e <;> simp [requestAt?]
  simp only [requests, List.zipIdx_append, List.filterMap_append, earlier]
  rcases found : requestAt? senders file es (e, es.length) with _ | finding <;> simp [latest, found]

theorem requests_append_call (senders : Senders) (file : String) (es : List Event) (n : Node) :
    requests senders file (es ++ [.call n]) =
      requests senders file es ++ (request? senders file es n).toList := by
  rw [requests_append]
  simp only [requestAt?, List.take_length]

theorem holding_append_other (es : List Event) {n : Node} (noMethod : methodCall? n = none) (name : String) :
    holding (es ++ [.call n]) name = holding es name := by
  rw [holding_append name es (.call n) (by simp)]
  rcases holding es name with _ | ⟨shape, keys⟩
  · rfl
  · simp [addition?, noMethod]

end SiteSurvey.Request
