import SiteSurvey.Proofs.Request.Event
import SiteSurvey.Proofs.Script.Walk

set_option autoImplicit false

namespace SiteSurvey.Request

open SiteSurvey.Script

def take (senders : Senders) (file : String) (p : Progress) : Event → Progress
  | .call n => call senders file p n
  | .bind name value => p.assign name value

theorem settle_eq_take (senders : Senders) (file : String) (p : Progress) (n : Node) :
    settle p n = (bindOf? n).toList.foldl (take senders file) p := by
  by_cases declares : n.kind = .variableDeclarator
  · unfold settle bindOf? bindTo?
    rw [declares]
    rcases n.child? .name with _ | name <;> rcases n.child? .value with _ | value
    · rfl
    · rfl
    · rfl
    · dsimp only
      split <;> rfl
  · by_cases assigns : n.kind = .assignmentExpression
    · unfold settle bindOf? bindTo?
      rw [assigns]
      rcases n.child? .left with _ | left <;> rcases n.child? .right with _ | right
      · rfl
      · rfl
      · rfl
      · dsimp only
        split <;> rfl
    · rw [bindOf?_of_other declares assigns]
      unfold settle
      dsimp only
      split
      · contradiction
      · contradiction
      · rfl

theorem enter_eq_take (senders : Senders) (file : String) (n : Node) (depth : Nat) (p : Progress) :
    (visitor senders file).enter n depth p = ((callOf? n).toList.foldl (take senders file) p, true) := by
  unfold visitor callOf?
  dsimp only
  split <;> rfl

mutual

theorem visit_eq_events (senders : Senders) (file : String) (n : Node) (depth : Nat) (p : Progress) :
    (visitor senders file).visit n depth p = (events n).foldl (take senders file) p := by
  cases n with
  | node kind role start stop row text missing children =>
    have below := visitAll_eq_events senders file children (depth + 1)
    simp only [Visitor.visit_eq, enter_eq_take, events, List.foldl_append, Node.children, below]
    exact settle_eq_take senders file _ _

theorem visitAll_eq_events (senders : Senders) (file : String) (ns : List Node) (depth : Nat)
    (p : Progress) :
    (visitor senders file).visitAll ns depth p = (eventsAll ns).foldl (take senders file) p := by
  cases ns with
  | nil => rfl
  | cons n rest =>
    have first := visit_eq_events senders file n depth p
    have others := visitAll_eq_events senders file rest depth
    simp only [Visitor.visitAll, eventsAll, List.foldl_append, others, first]

end

namespace Scope

theorem lookup_cons (name : String) (e : String × Binding) (rest : List (String × Binding)) :
    (e :: rest).lookup name = if name = e.1 then some e.2 else rest.lookup name := by
  obtain ⟨key, held⟩ := e
  by_cases found : name = key
  · simp [found]
  · rw [List.lookup_cons, beq_eq_false_iff_ne.mpr found, if_neg found]

theorem lookup_put (bound : String) (new : Binding) (entries : List (String × Binding)) (name : String) :
    (put bound new entries).lookup name = if name = bound then some new else entries.lookup name := by
  induction entries with
  | nil => rw [put, lookup_cons]
  | cons e rest ih =>
    by_cases replaced : e.1 = bound
    · by_cases same : name = bound <;> simp [put, lookup_cons, replaced, same]
    · simp only [put, beq_iff_eq, replaced, if_false, lookup_cons, ih]
      by_cases found : name = e.1
      · simp [found, replaced]
      · simp [found]

@[simp] theorem get?_bind (s : Scope) (bound : String) (shape : Shape) (keys : List Text) (name : String) :
    (s.bind bound shape keys).get? name =
      if name = bound then some { name := bound, shape, keys } else s.get? name :=
  lookup_put _ _ _ _

@[simp] theorem get?_unbind (s : Scope) (unbound name : String) :
    (s.unbind unbound).get? name = if name = unbound then none else s.get? name := by
  simp only [get?, unbind]
  induction s.entries with
  | nil => simp
  | cons e rest ih =>
    by_cases gone : e.1 = unbound
    · by_cases same : name = unbound <;> simpa [gone, same, lookup_cons] using ih
    · by_cases found : name = e.1
      · simp [gone, found, lookup_cons]
      · simpa [gone, found, lookup_cons] using ih

theorem get?_append (s : Scope) (grown : String) (key : Text) (unique : Bool) (name : String) :
    (s.append grown key unique).1.get? name =
      (s.get? name).map fun b =>
        if name = grown ∧ b.shape.isAccumulator then { b with keys := addKey unique b.keys key } else b := by
  unfold append
  rcases held : s.get? grown with _ | b
  · by_cases same : name = grown
    · simp [same, held]
    · simp [same]
  · dsimp only
    split
    · rename_i grows
      by_cases same : name = grown
      · subst same
        rw [held]
        simp [get?, lookup_put, grows]
      · simp [get?, lookup_put, same]
    · rename_i fixed
      by_cases same : name = grown
      · simp [same, held, fixed]
      · simp [same]

end Scope

theorem call_eq (senders : Senders) (file : String) (p : Progress) (n : Node) :
    call senders file p n =
      match methodCall? n, functionCall? n with
      | some m, _ =>
          let grown :=
            if appendVerbs.contains m.method && p.scope.contains m.object then
              p.append m.object m.method m.args
            else p
          if senders.clients.contains m.object && writeVerbs.contains m.method then
            clientCall file grown n m.method m.args
          else grown
      | none, some f => if senders.fetches.contains f.name then fetchCall file p n f.args else p
      | none, none => p := by
  unfold call methodCall? functionCall? arguments?
  rcases n.child? .function with _ | callee <;> rcases n.child? .arguments with _ | list
  · rfl
  · rfl
  · rfl
  · by_cases real : list.kind = .arguments
    · simp only [real, bne_self_eq_false, Bool.false_eq_true, if_false, Option.bind_eq_bind, Option.bind_some,
        beq_self_eq_true, if_true]
      split
      · rename_i member
        simp only [member, beq_self_eq_true, if_true]
        rcases callee.child? .object with _ | object <;> rcases callee.child? .property with _ | method
        · rfl
        · rfl
        · rfl
        · by_cases plain : object.kind = .identifier <;> simp [plain]
      · rename_i plain
        simp [plain]
      · rename_i member plain
        rw [if_neg (by simpa using member), if_neg (by simpa using plain)]
    · simp [real]

namespace Progress

def asBinding (name : String) (held : Shape × List Text) : Binding :=
  { name, shape := held.1, keys := held.2 }

/-- What an analysis knows after some events is what the events themselves say. -/
structure Agrees (p : Progress) (senders : Senders) (file : String) (es : List Event) : Prop where
  findings : p.findings.reverse = requests senders file es
  scope : ∀ name, p.scope.get? name = (holding es name).map (asBinding name)

variable {p : Progress} {senders : Senders} {file : String} {es : List Event}

theorem start_agrees (senders : Senders) (file : String) : start.Agrees senders file [] where
  findings := rfl
  scope _ := rfl

theorem assign_findings (p : Progress) (name : String) (value : Node) :
    (p.assign name value).findings = p.findings := by
  unfold assign
  dsimp only
  split
  · rfl
  · split <;> rfl
  · rfl

theorem assign_scope (p : Progress) (name : String) (value : Node) :
    (p.assign name value).scope =
      match tracked? value with
      | some (shape, keys) => p.scope.bind name shape keys
      | none => p.scope.unbind name := by
  by_cases object : value.unwrap.kind = .object
  · simp only [assign, tracked?, object]
    rfl
  · by_cases creation : value.unwrap.kind = .newExpression
    · simp only [assign, tracked?, creation]
      rcases accumulator? value.unwrap with _ | shape <;> rfl
    · simp only [assign, tracked?]

theorem assign_agrees (agrees : p.Agrees senders file es) (name : String) (value : Node) :
    (p.assign name value).Agrees senders file (es ++ [.bind name value]) where
  findings := by
    rw [assign_findings, agrees.findings, requests_append]
    simp [requestAt?]
  scope other := by
    rw [assign_scope]
    by_cases same : other = name
    · subst same
      rw [holding_append_bind]
      rcases tracked? value with _ | ⟨shape, keys⟩
      · simp
      · simp [asBinding]
    · have untouched : ∀ v, Event.bind name value ≠ .bind other v := by
        intro v equal
        exact same (Event.bind.inj equal).1.symm
      have still : holding (es ++ [.bind name value]) other = holding es other := by
        rw [holding_append other es _ untouched]
        rcases holding es other with _ | ⟨shape, keys⟩
        · rfl
        · simp [addition?]
      rw [still, ← agrees.scope other]
      rcases tracked? value with _ | ⟨shape, keys⟩ <;> simp [same]

theorem body_agrees (agrees : p.Agrees senders file es) (value : Option Node) :
    ((p.body value).1, (p.body value).2.1) = bodyAfter es value := by
  unfold body bodyAfter
  rcases value.map Node.unwrap with _ | n
  · rfl
  · dsimp only
    by_cases object : n.kind = .object
    · rw [object]
    · by_cases plain : n.kind = .identifier
      · rw [plain, agrees.scope]
        rcases holding es n.text with _ | ⟨shape, keys⟩ <;> rfl
      · by_cases shorthand : n.kind = .shorthandPropertyIdentifier
        · rw [shorthand, agrees.scope]
          rcases holding es n.text with _ | ⟨shape, keys⟩ <;> rfl
        · simp only

theorem append_scope (p : Progress) (m : MethodCall) :
    (p.append m.object m.method m.args).scope =
      (m.args.head?.bind literalKey?).toList.foldl
        (fun s key => (s.append m.object key (m.method == "set")).1) p.scope := by
  unfold append
  rcases m.args with _ | ⟨first, rest⟩
  · rfl
  · simp only [List.head?_cons, Option.bind_some]
    rcases literalKey? first with _ | key <;> rfl

theorem append_agrees (agrees : p.Agrees senders file es) {n : Node} {m : MethodCall}
    (called : methodCall? n = some m) (name : String) :
    (if appendVerbs.contains m.method && p.scope.contains m.object then
      p.append m.object m.method m.args else p).scope.get? name =
      (holding (es ++ [.call n]) name).map (asBinding name) := by
  have before := agrees.scope name
  have here : addition? name (.call n) =
      if m.object == name && appendVerbs.contains m.method then
        (m.args.head?.bind literalKey?).map fun key => (key, m.method == "set")
      else none := by
    simp only [addition?, called, Option.bind_some]
  by_cases touched : appendVerbs.contains m.method = true ∧ m.object = name
  · obtain ⟨verb, rfl⟩ := touched
    rw [holding_append m.object es (.call n) (by simp), here]
    rcases held : holding es m.object with _ | ⟨shape, keys⟩
    · -- Nothing is held, so the call is passed over.
      rw [held] at before
      simp [Scope.contains, before]
    · rw [held] at before
      have bound : p.scope.contains m.object = true := by simp [Scope.contains, before]
      simp only [verb, bound, Bool.and_self, beq_self_eq_true, if_true, append_scope]
      rcases m.args.head?.bind literalKey? with _ | key
      · simp [before]
      · simp only [Option.toList_some, List.foldl_cons, List.foldl_nil, Scope.get?_append, before,
          Option.map_some, true_and, asBinding, withKey]
        split <;> rfl
  · have untouched : (m.object == name && appendVerbs.contains m.method) = false := by
      rw [Bool.and_eq_false_iff]
      by_cases verb : appendVerbs.contains m.method = true
      · exact .inl (by simpa using fun same => touched ⟨verb, same⟩)
      · exact .inr (by simpa using verb)
    have unchanged : holding (es ++ [.call n]) name = holding es name := by
      rw [holding_append name es (.call n) (by simp), here, untouched]
      rcases holding es name with _ | ⟨shape, keys⟩
      · rfl
      · simp
    rw [unchanged, ← before]
    split
    · rename_i appends
      have verb := (Bool.and_eq_true_iff.mp appends).1
      have differs : name ≠ m.object := fun same => touched ⟨verb, same.symm⟩
      rw [append_scope]
      rcases m.args.head?.bind literalKey? with _ | key
      · rfl
      · simp [Scope.get?_append, differs]
    · rfl

theorem clientCall_findings (agrees : p.Agrees senders file es) (n : Node) (m : MethodCall) :
    (clientCall file p n m.method m.args).findings = clientFinding file es m :: p.findings := by
  have body := body_agrees agrees m.args[1]?
  simp only [clientCall, clientFinding, report, drop, ← body]

theorem fetchCall_findings (agrees : p.Agrees senders file es) (n : Node) (f : FunctionCall) :
    (fetchCall file p n f.args).findings =
      let finding := fetchFinding file es f
      if (finding.endpoint.getD []).isEmpty && finding.params.isEmpty then p.findings
      else finding :: p.findings := by
  have body := body_agrees agrees ((options? f.args).bind fun o => property? o "body")
  have folded : (f.args[1]?.map Node.unwrap).filter (fun o => o.kind == .object) = options? f.args := rfl
  simp only [fetchFinding, ← body, fetchCall, folded]
  rcases options? f.args with _ | o
  · split <;> rfl
  · split <;> rfl

theorem fetchCall_scope (p : Progress) (file : String) (n : Node) (args : List Node) :
    (fetchCall file p n args).scope = p.scope := by
  unfold fetchCall
  dsimp only
  split <;> rfl

/-- The verbs that add a key send no request, so the body of a client's call is read before and after
the call alike. -/
theorem append_ne_write {verb : String} (writes : writeVerbs.contains verb = true) :
    appendVerbs.contains verb = false := by
  simp only [writeVerbs, List.contains_cons, List.contains_nil, Bool.or_false, Bool.or_eq_true, beq_iff_eq] at writes
  rcases writes with rfl | rfl | rfl | rfl <;> decide

theorem call_agrees (agrees : p.Agrees senders file es) (n : Node) :
    (call senders file p n).Agrees senders file (es ++ [.call n]) := by
  rw [call_eq]
  rcases method : methodCall? n with _ | m
  · have scope (name : String) : p.scope.get? name =
        (holding (es ++ [.call n]) name).map (asBinding name) := by
      rw [holding_append_other es method, agrees.scope]
    rcases function : functionCall? n with _ | f
    · refine ⟨?_, scope⟩
      simp [requests_append_call, request?, method, function, agrees.findings]
    · by_cases sends : senders.fetches.contains f.name = true
      · simp only [sends, if_true]
        refine ⟨?_, fun name => by rw [fetchCall_scope]; exact scope name⟩
        rw [fetchCall_findings agrees, requests_append_call, request?, method, function]
        simp only [sends, if_true]
        split
        · simp [agrees.findings]
        · simp [agrees.findings]
      · simp only [sends, Bool.false_eq_true, if_false]
        refine ⟨?_, scope⟩
        simp only [requests_append_call, request?, method, function, sends, Bool.false_eq_true, if_false,
          Option.toList_none, List.append_nil, agrees.findings]
  · have scope := append_agrees agrees method
    by_cases sends : (senders.clients.contains m.object && writeVerbs.contains m.method) = true
    · have silent := append_ne_write (Bool.and_eq_true_iff.mp sends).2
      simp only [silent, Bool.false_and, Bool.false_eq_true, if_false] at scope
      simp only [sends, silent, Bool.false_and, Bool.false_eq_true, if_false, if_true]
      refine ⟨?_, scope⟩
      rw [clientCall_findings agrees, requests_append_call, request?, method]
      simp only [sends, if_true, List.reverse_cons, agrees.findings, Option.toList_some]
    · simp only [sends, Bool.false_eq_true, if_false]
      refine ⟨?_, scope⟩
      have silent : (if appendVerbs.contains m.method && p.scope.contains m.object then
          p.append m.object m.method m.args else p).findings = p.findings := by
        split
        · unfold append
          split
          · rfl
          · split <;> rfl
        · rfl
      rw [silent, requests_append_call, request?, method]
      simp only [sends, Bool.false_eq_true, if_false, Option.toList_none, List.append_nil, agrees.findings]

/-- One event keeps what is known in step with what the events say. -/
theorem take_agrees (agrees : p.Agrees senders file es) (e : Event) :
    (take senders file p e).Agrees senders file (es ++ [e]) := by
  cases e with
  | call n => exact call_agrees agrees n
  | bind name value => exact assign_agrees agrees name value

theorem foldl_take_agrees (agrees : p.Agrees senders file es) (later : List Event) :
    (later.foldl (take senders file) p).Agrees senders file (es ++ later) := by
  induction later generalizing p es with
  | nil => simpa using agrees
  | cons e later ih => simpa using ih (take_agrees agrees e)

end Progress

/-- What an analysis of a tree knows at its end is what the events of the tree say. -/
theorem walk_agrees (senders : Senders) (file : String) (root : Node) :
    ((visitor senders file).walk root .start).Agrees senders file (events root) := by
  rw [Visitor.walk_eq_visit, visit_eq_events]
  exact Progress.foldl_take_agrees (Progress.start_agrees senders file) (events root)

/-- The findings of a tree are the requests that its events make, each seen from the events before it. -/
theorem extract_findings_eq_requests (senders : Senders) (file : String) (root : Node) :
    (extract senders file root).findings = requests senders file (events root) := by
  have agrees := Progress.foldl_take_agrees (Progress.start_agrees senders file) (events root)
  simp only [extract, Visitor.walk_eq_visit, visit_eq_events]
  exact agrees.findings

end SiteSurvey.Request
