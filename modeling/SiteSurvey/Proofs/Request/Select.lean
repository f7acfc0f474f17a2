import SiteSurvey.Proofs.Request.Veil
import SiteSurvey.Proofs.Script.Watch

set_option autoImplicit false

namespace SiteSurvey.Request

open SiteSurvey.Script

/-- A call goes by one of the names: it is made on a client, or it calls a function in the style of `fetch`. -/
def Senders.sends (senders : Senders) (n : Node) : Bool :=
  (methodCall? n).any (fun m => senders.clients.contains m.object) ||
    (functionCall? n).any (fun f => senders.fetches.contains f.name)

/-- The findings that were made between two states of an analysis, in order. -/
def newFindings (s : Visitor.Sight Progress) : List Finding :=
  (s.after.findings.take (s.after.findings.length - s.before.findings.length)).reverse

def traced (sights : List (Visitor.Sight Progress)) : List (Node × Finding) :=
  sights.flatMap fun s => (newFindings s).map fun f => (s.node, f)

def scopesAt (s : Visitor.Sight Progress) : Node × Scope × Scope :=
  (s.node, s.before.scope, s.after.scope)

theorem traced_append (sights : List (Visitor.Sight Progress)) (n : Node) (before after : Progress)
    {new : List Finding} (made : after.findings = new ++ before.findings) :
    traced (sights ++ [{ node := n, before, after }]) =
      traced sights ++ new.reverse.map fun f => (n, f) := by
  have count : (new ++ before.findings).length - before.findings.length = new.length := by
    rw [List.length_append]
    omega
  have latest : newFindings { node := n, before, after } = new.reverse := by
    rw [newFindings, made, count, List.take_left]
  simp only [traced, List.flatMap_append, List.flatMap_cons, List.flatMap_nil, List.append_nil, latest]

namespace Progress

variable {p q : Progress}

theorem body_congr (same : p.scope = q.scope) (value : Option Node) : p.body value = q.body value := by
  unfold body
  rw [same]

theorem append_findings (p : Progress) (name verb : String) (args : List Node) :
    (p.append name verb args).findings = p.findings := by
  unfold append
  split
  next => rfl
  next => split <;> rfl

/-- What a call does to an analysis whoever may send requests: it may add a key. -/
def heard (p : Progress) (n : Node) : Progress :=
  match methodCall? n with
  | some m =>
      if appendVerbs.contains m.method && p.scope.contains m.object then p.append m.object m.method m.args else p
  | none => p

theorem heard_findings (p : Progress) (n : Node) : (p.heard n).findings = p.findings := by
  unfold heard
  split
  next =>
    split
    next => exact append_findings _ _ _ _
    next => rfl
  next => rfl

theorem heard_congr (same : p.scope = q.scope) (n : Node) : (p.heard n).scope = (q.heard n).scope := by
  unfold heard
  rw [same]
  split
  next =>
    split
    next => rw [append_scope, append_scope, same]
    next => exact same
  next => exact same

/-- What a call does to an analysis if its name is one of those that send requests. -/
def sent (p : Progress) (file : String) (n : Node) : Progress :=
  match methodCall? n, functionCall? n with
  | some m, _ =>
      if writeVerbs.contains m.method then clientCall file (p.heard n) n m.method m.args else p.heard n
  | none, some f => fetchCall file p n f.args
  | none, none => p

theorem clientCall_congr (same : p.scope = q.scope) (file : String) (n : Node) (verb : String)
    (args : List Node) :
    ∃ new, (clientCall file p n verb args).findings = new :: p.findings ∧
      (clientCall file q n verb args).findings = new :: q.findings := by
  unfold clientCall
  rw [body_congr same]
  exact ⟨_, rfl, rfl⟩

theorem fetchCall_congr (same : p.scope = q.scope) (file : String) (n : Node) (args : List Node) :
    ∃ new, (fetchCall file p n args).findings = new ++ p.findings ∧
      (fetchCall file q n args).findings = new ++ q.findings := by
  unfold fetchCall
  simp only [body_congr same]
  split
  next => exact ⟨[], rfl, rfl⟩
  next => exact ⟨[_], rfl, rfl⟩

theorem sent_scope (p : Progress) (file : String) (n : Node) : (p.sent file n).scope = (p.heard n).scope := by
  unfold sent
  split
  next =>
    split
    next => rfl
    next => rfl
  next none _ =>
    rw [fetchCall_scope, heard, none]
  next none _ => rw [heard, none]

theorem sent_congr (same : p.scope = q.scope) (file : String) (n : Node) :
    ∃ new, (p.sent file n).findings = new ++ p.findings ∧ (q.sent file n).findings = new ++ q.findings := by
  unfold sent
  split
  next m _ =>
    split
    next =>
      obtain ⟨new, made, made'⟩ := clientCall_congr (heard_congr same n) file n m.method m.args
      rw [heard_findings] at made made'
      exact ⟨[new], made, made'⟩
    next => exact ⟨[], heard_findings p n, heard_findings q n⟩
  next f _ _ => exact fetchCall_congr same file n f.args
  next => exact ⟨[], rfl, rfl⟩

end Progress

theorem functionCall?_of_methodCall? {n : Node} {m : MethodCall} (method : methodCall? n = some m) :
    functionCall? n = none := by
  simp only [methodCall?, Option.bind_eq_bind, Option.bind_eq_some_iff] at method
  obtain ⟨callee, called, args, given, member⟩ := method
  have isMember : callee.kind = .memberExpression := by
    by_contra other
    rw [if_neg (by simpa using other)] at member
    cases member
  simp [functionCall?, called, given, isMember]

theorem call_eq_sent (senders : Senders) (file : String) (p : Progress) (n : Node) :
    call senders file p n = if senders.sends n then p.sent file n else p.heard n := by
  rw [call_eq, Senders.sends, Progress.sent, Progress.heard]
  rcases method : methodCall? n with _ | m
  · rcases functionCall? n with _ | f
    · simp
    · simp
  · rw [functionCall?_of_methodCall? method]
    by_cases client : m.object ∈ senders.clients
    · simp [client]
    · simp [client]

/-- A run with some of the names of another one is in step with it: what is known of names is the same, and has
been at every node, and it has made those of the findings whose calls go by one of its own names. -/
structure InStep (small : Senders) (s t : Progress × List (Visitor.Sight Progress)) : Prop where
  scope : s.1.scope = t.1.scope
  scopes : s.2.map scopesAt = t.2.map scopesAt
  every : t.1.findings.reverse = (traced t.2).map (·.2)
  chosen : s.1.findings.reverse = ((traced t.2).filter fun made => small.sends made.1).map (·.2)

section InStep

variable {small large : Senders} {file : String} {p q p' q' : Progress}
  {seen seen' : List (Visitor.Sight Progress)}

theorem Senders.sends_mono (clients : small.clients ⊆ large.clients) (fetches : small.fetches ⊆ large.fetches)
    {n : Node} (few : small.sends n = true) : large.sends n = true := by
  simp only [sends, Bool.or_eq_true, Option.any_eq_true, List.contains_iff_mem] at few ⊢
  rcases few with ⟨m, called, client⟩ | ⟨f, called, fetch⟩
  · exact .inl ⟨m, called, clients client⟩
  · exact .inr ⟨f, called, fetches fetch⟩

-- One step of both runs: the one with more names makes some findings, and the other one makes them too or none.
theorem InStep.next (inStep : InStep small (p, seen) (q, seen')) (n : Node) (new : List Finding)
    (scope : p'.scope = q'.scope) (made : q'.findings = new ++ q.findings)
    (few : p'.findings = (if small.sends n then new else []) ++ p.findings) :
    InStep small (p', seen ++ [{ node := n, before := p, after := p' }])
      (q', seen' ++ [{ node := n, before := q, after := q' }]) := by
  have before : p.scope = q.scope := inStep.scope
  have scopes : seen.map scopesAt = seen'.map scopesAt := inStep.scopes
  have every : q.findings.reverse = (traced seen').map (·.2) := inStep.every
  have chosen : p.findings.reverse = ((traced seen').filter fun made => small.sends made.1).map (·.2) :=
    inStep.chosen
  constructor
  · exact scope
  · simp [scopes, scopesAt, before, scope]
  · simp [traced_append seen' n q q' made, made, every, Function.comp_def]
  · rw [traced_append seen' n q q' made, few, List.reverse_append, chosen, List.filter_append, List.map_append]
    congr 1
    by_cases sends : small.sends n = true <;> simp [sends, List.filter_map, Function.comp_def]

theorem InStep.call (clients : small.clients ⊆ large.clients) (fetches : small.fetches ⊆ large.fetches)
    (inStep : InStep small (p, seen) (q, seen')) (n : Node) :
    InStep small
      (call small file p n, seen ++ [{ node := n, before := p, after := call small file p n }])
      (call large file q n, seen' ++ [{ node := n, before := q, after := call large file q n }]) := by
  have same : p.scope = q.scope := inStep.scope
  obtain ⟨new, made, made'⟩ := Progress.sent_congr same file n
  rw [call_eq_sent, call_eq_sent]
  by_cases few : small.sends n = true
  · rw [if_pos few, if_pos (Senders.sends_mono clients fetches few)]
    refine inStep.next n new ?_ made' (by rw [made, if_pos few])
    rw [Progress.sent_scope, Progress.sent_scope, Progress.heard_congr same]
  · rw [if_neg few]
    by_cases many : large.sends n = true
    · rw [if_pos many]
      refine inStep.next n new ?_ made' (by rw [Progress.heard_findings, if_neg few, List.nil_append])
      rw [Progress.sent_scope, Progress.heard_congr same]
    · rw [if_neg many]
      refine inStep.next n [] (Progress.heard_congr same n) (Progress.heard_findings q n) ?_
      rw [Progress.heard_findings, ite_self, List.nil_append]

theorem bindTo?_eq_some {target value : Option Node} {e : Event} (given : bindTo? target value = some e) :
    ∃ name value, e = .bind name value := by
  unfold bindTo? at given
  split at given
  next target value =>
    split at given
    next =>
      cases given
      exact ⟨_, _, rfl⟩
    next => cases given
  next => cases given

theorem settle_cases (n : Node) :
    (∀ p, settle p n = p) ∨ ∃ name value, ∀ p, settle p n = p.assign name value := by
  rcases bound : bindOf? n with _ | e
  · exact .inl fun p => by rw [settle_eq_take .usual "", bound, Option.toList_none, List.foldl_nil]
  · have given : ∃ name value, e = .bind name value := by
      unfold bindOf? at bound
      split at bound
      next => exact bindTo?_eq_some bound
      next => exact bindTo?_eq_some bound
      next => cases bound
    obtain ⟨name, value, rfl⟩ := given
    refine .inr ⟨name, value, fun p => ?_⟩
    rw [settle_eq_take .usual "", bound]
    rfl

theorem InStep.stay (inStep : InStep small (p, seen) (q, seen')) (n : Node) :
    InStep small (p, seen ++ [{ node := n, before := p, after := p }])
      (q, seen' ++ [{ node := n, before := q, after := q }]) :=
  inStep.next n [] inStep.scope rfl (by rw [ite_self, List.nil_append])

theorem InStep.settle (inStep : InStep small (p, seen) (q, seen')) (n : Node) :
    InStep small
      (settle p n, seen ++ [{ node := n, before := p, after := settle p n }])
      (settle q n, seen' ++ [{ node := n, before := q, after := settle q n }]) := by
  rcases settle_cases n with unchanged | ⟨name, value, assigned⟩
  · rw [unchanged, unchanged]
    exact inStep.stay n
  · have same : p.scope = q.scope := inStep.scope
    rw [assigned, assigned]
    refine inStep.next n [] ?_ (Progress.assign_findings q name value) ?_
    · rw [Progress.assign_scope, Progress.assign_scope, same]
    · rw [Progress.assign_findings, ite_self, List.nil_append]

theorem related_watched (clients : small.clients ⊆ large.clients) (fetches : small.fetches ⊆ large.fetches) :
    Visitor.Related (visitor small file).watched (visitor large file).watched (InStep small) where
  enter n depth s t inStep := by
    by_cases calls : (n.kind == .callExpression) = true
    · simp only [Visitor.watched, visitor, calls, if_true]
      exact inStep.call clients fetches n
    · simp only [Visitor.watched, visitor, calls]
      exact inStep.stay n
  below n depth s t inStep := rfl
  leave n depth s t inStep := inStep.settle n

theorem inStep_walk (clients : small.clients ⊆ large.clients) (fetches : small.fetches ⊆ large.fetches)
    (file : String) (root : Node) :
    InStep small ((visitor small file).watched.walk root (.start, []))
      ((visitor large file).watched.walk root (.start, [])) :=
  (related_watched clients fetches).walk root ⟨rfl, rfl, rfl, rfl⟩

end InStep

def tracedFindings (senders : Senders) (file : String) (root : Node) : List (Node × Finding) :=
  traced ((visitor senders file).sights root .start)

/-- The names by which a source may send requests only select: with fewer names a run makes just those of the
findings whose calls go by one of them, in order and unchanged, and what it knows of names is the same
throughout. -/
theorem names_only_select (small large : Senders) (file : String) (root : Node)
    (clients : small.clients ⊆ large.clients) (fetches : small.fetches ⊆ large.fetches) :
    (extract large file root).findings = (tracedFindings large file root).map (·.2) ∧
      (extract small file root).findings =
        ((tracedFindings large file root).filter fun made => small.sends made.1).map (·.2) ∧
      ((extract small file root).findings).Sublist (extract large file root).findings ∧
      ((visitor small file).sights root .start).map scopesAt =
        ((visitor large file).sights root .start).map scopesAt := by
  have inStep := inStep_walk clients fetches file root
  have every : (extract large file root).findings = (tracedFindings large file root).map (·.2) := by
    rw [extract, ← Visitor.watched_walk]
    exact inStep.every
  have chosen : (extract small file root).findings =
      ((tracedFindings large file root).filter fun made => small.sends made.1).map (·.2) := by
    rw [extract, ← Visitor.watched_walk]
    exact inStep.chosen
  refine ⟨every, chosen, ?_, inStep.scopes⟩
  rw [every, chosen]
  exact List.filter_sublist.map _

section Sample

def callOn (object method key : String) : Node :=
  sampleBranch .callExpression none
    [sampleBranch .memberExpression (some .function)
      [sampleLeaf .identifier (some .object) object, sampleLeaf .propertyIdentifier (some .property) method],
     sampleBranch .arguments (some .arguments)
      [sampleBranch .string none [sampleLeaf .stringFragment none key], sampleLeaf .identifier none "form"]]

/-- The script `form = new FormData(); form.append('k', form); api.post('/a', form); axios.post('/b', form)`. -/
def twoClients : Node :=
  sampleBranch .program none
    [sampleBranch .assignmentExpression none
      [sampleLeaf .identifier (some .left) "form",
       sampleBranch .newExpression (some .right) [sampleLeaf .identifier (some .constructor) "FormData"]],
     callOn "form" "append" "k", callOn "api" "post" "/a", callOn "axios" "post" "/b"]

-- The request of one client is left, with the key that was added before either request was sent.
theorem select_one_client :
    ["axios"] ⊆ ["api", "axios"] ∧ (extract ⟨["api", "axios"], ["fetch"]⟩ "a.js" twoClients).findings.length = 2 ∧
    (extract ⟨["axios"], []⟩ "a.js" twoClients).findings =
      [{ file := "a.js", method := "POST", endpoint := some "/b", params := ["k"], encoding := .formData,
         confidence := .high }] := by
  obtain ⟨every, chosen, _, _⟩ := names_only_select ⟨["axios"], []⟩ ⟨["api", "axios"], ["fetch"]⟩
    "a.js" twoClients (by decide) (by decide)
  refine ⟨by decide, ?_, chosen.trans ?_⟩
  · rw [every]
    decide +kernel
  · decide +kernel

end Sample

end SiteSurvey.Request
