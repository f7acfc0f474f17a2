import SiteSurvey.Proofs.Request.Event
import SiteSurvey.Proofs.Script.Related

set_option autoImplicit false

namespace SiteSurvey.Request

open SiteSurvey.Script

/-- What is read of a value that is sent. -/
inductive Payload where
  | literal (keys : List Text)
  | named (name : String)
  | other

def Payload.rename (ρ : String → String) : Payload → Payload
  | literal keys => .literal keys
  | named name => .named (ρ name)
  | other => .other

def payload (value : Option Node) : Payload :=
  match value.map Node.unwrap with
  | none => .other
  | some n =>
      match n.kind with
      | .object => .literal (objectKeys n).1
      | .identifier | .shorthandPropertyIdentifier => .named n.text
      | _ => .other

def Payload.after (history : List Event) : Payload → List Text × Encoding
  | literal keys => (keys, .json)
  | named name =>
      match holding history name with
      | some (shape, keys) => (keys, shape.encoding)
      | none => ([], .unknown)
  | other => ([], .unknown)

theorem bodyAfter_eq (history : List Event) (value : Option Node) :
    bodyAfter history value = (payload value).after history := by
  unfold bodyAfter payload
  rcases value.map Node.unwrap with _ | n
  · rfl
  · dsimp only
    by_cases object : n.kind = .object
    · rw [object]
      rfl
    · by_cases plain : n.kind = .identifier
      · rw [plain]
        rfl
      · by_cases shorthand : n.kind = .shorthandPropertyIdentifier
        · rw [shorthand]
          rfl
        · simp only [Payload.after]

/-- Nodes that are related read the same wherever requests are looked for, but for variables, which are renamed. -/
structure Reads (ρ : String → String) (r : Node → Node → Prop) : Prop where
  key : ∀ {n n'}, r n n' → literalKey? n' = literalKey? n
  value : ∀ {n n'}, r n n' → tracked? n' = tracked? n
  sent : ∀ {o o'}, Option.Rel r o o' → payload o' = (payload o).rename ρ
  endpoint : ∀ {args args'}, List.Forall₂ r args args' → endpoint? args' = endpoint? args
  method : ∀ {args args'}, List.Forall₂ r args args' →
    (options? args').map requestedMethod = (options? args).map requestedMethod
  body : ∀ {args args'}, List.Forall₂ r args args' →
    Option.Rel r ((options? args).bind fun o => property? o "body") ((options? args').bind fun o => property? o "body")

structure MethodCall.Alike (ρ : String → String) (r : Node → Node → Prop) (m m' : MethodCall) : Prop where
  object : m'.object = ρ m.object
  method : m'.method = m.method
  args : List.Forall₂ r m.args m'.args

structure FunctionCall.Alike (ρ : String → String) (r : Node → Node → Prop) (f f' : FunctionCall) : Prop where
  name : f'.name = ρ f.name
  args : List.Forall₂ r f.args f'.args

/-- Two events that say the same about requests. -/
inductive Event.Alike (ρ : String → String) (r : Node → Node → Prop) : Event → Event → Prop
  | call {n n' : Node} (method : Option.Rel (MethodCall.Alike ρ r) (methodCall? n) (methodCall? n'))
      (function : Option.Rel (FunctionCall.Alike ρ r) (functionCall? n) (functionCall? n')) :
      Alike ρ r (.call n) (.call n')
  | bind (name : String) {value value' : Node} (related : r value value') :
      Alike ρ r (.bind name value) (.bind (ρ name) value')

section Events

variable {ρ : String → String} {r : Node → Node → Prop} {es es' : List Event}

theorem addition?_alike (reads : Reads ρ r) (injective : Function.Injective ρ) {e e' : Event}
    (alike : e.Alike ρ r e') (name : String) : addition? (ρ name) e' = addition? name e := by
  cases alike with
  | bind => rfl
  | call method _ =>
    refine bind_eq_of_rel method fun {m m'} same => ?_
    have key : m'.args.head?.bind literalKey? = m.args.head?.bind literalKey? :=
      bind_eq_of_rel (head?_rel same.args) reads.key
    have object : (m'.object == ρ name) = (m.object == name) := by
      rw [same.object, Bool.eq_iff_iff, beq_iff_eq, beq_iff_eq, injective.eq_iff]
    rw [object, same.method, key]

theorem lastValue?_alike (injective : Function.Injective ρ) (alike : List.Forall₂ (Event.Alike ρ r) es es')
    (name : String) :
    Option.Rel (fun found found' => r found.1 found'.1 ∧ List.Forall₂ (Event.Alike ρ r) found.2 found'.2)
      (lastValue? name es) (lastValue? (ρ name) es') := by
  induction alike with
  | nil => exact .none
  | @cons e e' later later' first others ih =>
    cases first with
    | call => exact ih
    | bind target related =>
      simp only [lastValue?]
      generalize lastValue? name later = found at ih
      generalize lastValue? (ρ name) later' = found' at ih
      cases ih with
      | some alike => exact .some alike
      | none =>
        simp only [injective.eq_iff]
        split
        · exact .some ⟨related, others⟩
        · exact .none

/-- What a variable holds is what its new name holds after the renaming. -/
theorem holding_alike (reads : Reads ρ r) (injective : Function.Injective ρ)
    (alike : List.Forall₂ (Event.Alike ρ r) es es') (name : String) : holding es' (ρ name) = holding es name := by
  refine bind_eq_of_rel (lastValue?_alike injective alike name) fun {found found'} alike => ?_
  obtain ⟨related, later⟩ := alike
  have added := filterMap_eq_of_forall₂ later fun alike => addition?_alike reads injective alike name
  dsimp only
  rw [reads.value related, added]

theorem bodyAfter_alike (reads : Reads ρ r) (injective : Function.Injective ρ)
    (alike : List.Forall₂ (Event.Alike ρ r) es es') {value value' : Option Node}
    (related : Option.Rel r value value') : bodyAfter es' value' = bodyAfter es value := by
  rw [bodyAfter_eq, bodyAfter_eq, reads.sent related]
  cases payload value with
  | literal | other => rfl
  | named name => simp only [Payload.rename, Payload.after, holding_alike reads injective alike]

theorem clientFinding_alike (reads : Reads ρ r) (injective : Function.Injective ρ) (file : String)
    (alike : List.Forall₂ (Event.Alike ρ r) es es') {m m' : MethodCall} (same : m.Alike ρ r m') :
    clientFinding file es' m' = clientFinding file es m := by
  rw [clientFinding, clientFinding, same.method, reads.endpoint same.args,
    bodyAfter_alike reads injective alike (getElem?_rel same.args 1)]

theorem fetchFinding_alike (reads : Reads ρ r) (injective : Function.Injective ρ) (file : String)
    (alike : List.Forall₂ (Event.Alike ρ r) es es') {f f' : FunctionCall} (same : f.Alike ρ r f') :
    fetchFinding file es' f' = fetchFinding file es f := by
  have body := bodyAfter_alike reads injective alike (reads.body same.args)
  simp only [fetchFinding, reads.endpoint same.args, body, reads.method same.args]

/-- The renaming keeps the names by which requests are sent apart from all others. -/
structure Senders.Kept (senders : Senders) (ρ : String → String) : Prop where
  clients : ∀ name, senders.clients.contains (ρ name) = senders.clients.contains name
  fetches : ∀ name, senders.fetches.contains (ρ name) = senders.fetches.contains name

theorem requestAt?_alike (reads : Reads ρ r) (injective : Function.Injective ρ) {senders : Senders}
    (kept : senders.Kept ρ) (file : String) (alike : List.Forall₂ (Event.Alike ρ r) es es') (i : Nat)
    {e e' : Event} (same : e.Alike ρ r e') :
    requestAt? senders file es' (e', i) = requestAt? senders file es (e, i) := by
  have before := List.forall₂_take i alike
  cases same with
  | bind => rfl
  | @call n n' method function =>
    simp only [requestAt?, request?]
    generalize methodCall? n = m at method
    generalize methodCall? n' = m' at method
    generalize functionCall? n = f at function
    generalize functionCall? n' = f' at function
    cases method with
    | some same =>
      simp only [same.object, same.method, kept.clients, clientFinding_alike reads injective file before same]
    | none =>
      cases function with
      | none => rfl
      | some same => simp only [same.name, kept.fetches, fetchFinding_alike reads injective file before same]

/-- Events that say the same make the same requests. -/
theorem requests_alike (reads : Reads ρ r) (injective : Function.Injective ρ) {senders : Senders}
    (kept : senders.Kept ρ) (file : String) (alike : List.Forall₂ (Event.Alike ρ r) es es') :
    requests senders file es' = requests senders file es := by
  -- Each event is seen from all events before it, so the part that is left goes with the index it starts at.
  have from_ : ∀ {ds ds' : List Event} (k : Nat), List.Forall₂ (Event.Alike ρ r) ds ds' →
      (ds'.zipIdx k).filterMap (requestAt? senders file es') =
        (ds.zipIdx k).filterMap (requestAt? senders file es) := by
    intro ds ds' k related
    induction related generalizing k with
    | nil => rfl
    | cons first _ ih =>
      simp only [List.zipIdx_cons, List.filterMap_cons, requestAt?_alike reads injective kept file alike k first, ih]
  exact from_ 0 alike

end Events

end SiteSurvey.Request
