import Mathlib.Logic.Relation
import SiteSurvey.Proofs.Request.Alike
import SiteSurvey.Proofs.Request.History
import SiteSurvey.Proofs.Script.Veil

set_option autoImplicit false

namespace SiteSurvey.Request

open SiteSurvey.Script

section Reading

variable {here : Position} {n n' : Node}

theorem staticKey?_akin (akin : Akin here n n') : staticKey? n' = staticKey? n := by
  rw [staticKey?, staticKey?, akin.kind, akin.text, akin.stringValue?]

theorem bind_child?_akin {α : Type} {f : Node → Option α} {role : Role} (akin : Akin here n n')
    (written : here.below n.kind (some role) = .written)
    (same : ∀ {here c c'}, Akin here c c' → f c' = f c) : (n'.child? role).bind f = (n.child? role).bind f := by
  have child := akin.child role
  rw [written] at child
  exact bind_eq_of_rel child fun veil => same (veil.akin (by decide))

theorem entryKey?_of_expression (expression : n.kind.isExpression = true) : entryKey? n = none := by
  unfold entryKey?
  split
  · exact absurd ‹_› (kind_ne_of_expression expression (by decide))
  · exact absurd ‹_› (kind_ne_of_expression expression (by decide))
  · exact absurd ‹_› (kind_ne_of_expression expression (by decide))
  · rfl

theorem entryKey?_veiled (veiled : Veiled n n') : entryKey? n' = entryKey? n := by
  obtain ⟨here, veil⟩ := veiled
  rcases veil.akin_or_wraps with akin | ⟨_, wraps⟩
  · unfold entryKey?
    rw [akin.kind]
    split
    · rw [akin.text]
    · rename_i pair
      exact bind_child?_akin akin (by rw [pair]; rfl) staticKey?_akin
    · rename_i method
      exact bind_child?_akin akin (by rw [method]; rfl) staticKey?_akin
    · rfl
  · rw [entryKey?_of_expression wraps.kind_isExpression, entryKey?_of_expression wraps.expression]

theorem objectKeys_akin (akin : Akin here n n') : (objectKeys n').1 = (objectKeys n).1 :=
  filterMap_eq_of_forall₂ akin.operands entryKey?_veiled

theorem accumulator?_akin (akin : Akin here n n') (creation : n.kind = .newExpression) :
    accumulator? n' = accumulator? n := by
  refine bind_child?_akin akin (by rw [creation]; rfl) fun {there maker maker'} akin => ?_
  dsimp only
  rw [akin.kind]
  split
  · rename_i member
    exact bind_child?_akin akin (by rw [beq_iff_eq.mp member]; rfl) fun akin => by rw [akin.text]
  · simp only [Option.bind_some, Option.bind_eq_bind, akin.text]

theorem seedKeys_akin (akin : Akin here n n') (creation : n.kind = .newExpression) (shape : Shape) :
    (seedKeys shape n').1 = (seedKeys shape n).1 := by
  -- The list of arguments gets no wrapper; only what is in it can get one.
  have written : here.below n.kind (some .arguments) = .written := by rw [creation]; rfl
  have seed : Option.Rel Veiled ((n.child? .arguments).bind fun args => args.operands.head?)
      ((n'.child? .arguments).bind fun args => args.operands.head?) :=
    bind_rel (akin.child .arguments) fun veil => head?_rel (veil.akin (by rw [written]; decide)).operands
  unfold seedKeys
  generalize ((n.child? .arguments).bind fun args => args.operands.head?) = first at seed
  generalize ((n'.child? .arguments).bind fun args => args.operands.head?) = first' at seed
  split
  · cases seed with
    | none => rfl
    | some veiled =>
      obtain ⟨there, akin⟩ := veiled.unwrap
      simp only [akin.kind, akin.stringValue?]
      split
      · exact objectKeys_akin akin
      · rfl
  · rfl

theorem literalKey?_veiled (veiled : Veiled n n') : literalKey? n' = literalKey? n := by
  obtain ⟨here, akin⟩ := veiled.unwrap
  have substitution : (n'.unwrap.children.any fun c => c.kind == .templateSubstitution) =
      n.unwrap.children.any fun c => c.kind == .templateSubstitution := by
    have skips : ∀ c : Node, c.isRemark = true → (c.kind == .templateSubstitution) = false := by
      intro c left
      rw [beq_iff_eq.mp left]
      rfl
    rw [any_children skips, any_children skips]
    exact congrArg (List.any · id) (akin.map_operands fun veiled => veiled.kind_beq (by decide))
  simp only [literalKey?, akin.kind, akin.text, akin.stringValue?, akin.skeleton?, substitution]

theorem tracked?_veiled (veiled : Veiled n n') : tracked? n' = tracked? n := by
  obtain ⟨here, akin⟩ := veiled.unwrap
  unfold tracked?
  rw [akin.kind]
  split
  · rw [objectKeys_akin akin]
  · rename_i creation
    simp only [accumulator?_akin akin creation, seedKeys_akin akin creation]
  · rfl

/-- The value of a property is that of the first entry with its key, methods apart. -/
theorem property?_eq (object : Node) (name : Text) :
    property? object name =
      (object.operands.find? fun entry => entry.kind != .methodDefinition && entryKey? entry == some name).bind
        fun entry => if entry.kind == .pair then entry.child? .value else some entry := by
  rw [← find?_children]
  · unfold property?
    dsimp only
    congr 2
    funext entry
    unfold entryKey?
    cases entry.kind <;> simp
  · intro c left
    rw [entryKey?, beq_iff_eq.mp left]
    rfl

theorem property?_akin (akin : Akin here n n') (name : Text) :
    Option.Rel Veiled (property? n name) (property? n' name) := by
  -- The entries that are found differ by a change. Only a pair has its value in a child, and it gets no wrapper.
  rw [property?_eq, property?_eq]
  refine bind_rel (find?_rel akin.operands fun veiled => ?_) fun veiled => ?_
  · rw [bne, bne, veiled.kind_beq (by decide), entryKey?_veiled veiled]
  · rw [veiled.kind_beq (by decide)]
    split
    · rename_i pair
      obtain ⟨there, veil⟩ := veiled
      exact (veil.akin_of_kind (beq_iff_eq.mp pair) (by decide)).child_veiled .value
    · exact .some veiled

theorem requestedMethod_akin (akin : Akin here n n') : requestedMethod n' = requestedMethod n := by
  have explicit : ((property? n' "method").bind fun value => stringValue? value.unwrap) =
      (property? n "method").bind fun value => stringValue? value.unwrap :=
    bind_eq_of_rel (property?_akin akin "method") fun veiled => by
      obtain ⟨there, akin⟩ := veiled.unwrap
      exact akin.stringValue?
  rw [requestedMethod, requestedMethod, explicit]

theorem endpoint?_veiled {args args' : List Node} (related : List.Forall₂ Veiled args args') :
    endpoint? args' = endpoint? args := by
  cases related with
  | nil => rfl
  | cons first _ =>
    obtain ⟨there, akin⟩ := first.unwrap
    simp only [endpoint?, List.head?_cons, Option.bind_some, akin.stringValue?, akin.skeleton?]

theorem options?_veiled {args args' : List Node} (related : List.Forall₂ Veiled args args') :
    Option.Rel (fun o o' => ∃ here, Akin here o o') (options? args) (options? args') := by
  have second := getElem?_rel related 1
  unfold options?
  generalize args[1]? = found at second
  generalize args'[1]? = found' at second
  cases second with
  | none => exact .none
  | some veiled =>
    obtain ⟨there, akin⟩ := veiled.unwrap
    simp only [Option.map_some, Option.filter_some, akin.kind]
    split
    · exact .some ⟨there, akin⟩
    · exact .none

theorem arguments?_akin (akin : Akin here n n') :
    Option.Rel (List.Forall₂ Veiled) (arguments? n) (arguments? n') := by
  refine bind_rel (akin.child_veiled .arguments) fun veiled => ?_
  rw [veiled.kind_beq (by decide)]
  split
  · rename_i list
    obtain ⟨there, veil⟩ := veiled
    exact .some (veil.akin_of_kind (beq_iff_eq.mp list) (by decide)).operands
  · exact .none

end Reading

theorem payload_veiled {value value' : Option Node} (related : Option.Rel Veiled value value') :
    payload value' = (payload value).rename id := by
  have unnamed : (payload value).rename id = payload value := by
    cases payload value <;> rfl
  rw [unnamed]
  cases related with
  | none => rfl
  | some veiled =>
    obtain ⟨there, akin⟩ := veiled.unwrap
    simp only [payload, Option.map_some, akin.kind, akin.text, objectKeys_akin akin]

theorem reads_veiled : Reads id Veiled where
  key := literalKey?_veiled
  value := tracked?_veiled
  sent := payload_veiled
  endpoint := endpoint?_veiled
  method related := map_eq_of_rel (options?_veiled related) fun ⟨_, akin⟩ => requestedMethod_akin akin
  body related := bind_rel (options?_veiled related) fun ⟨_, akin⟩ => property?_akin akin "body"

/-- Two events that say the same about requests, with values that are the same but for changes. -/
abbrev Event.Unchanged : Event → Event → Prop :=
  Event.Alike id Veiled

theorem Event.Unchanged.refl (e : Event) : Unchanged e e := by
  cases e with
  | call n =>
    refine .call (optionRel_refl (fun m => ⟨rfl, rfl, ?_⟩) _) (optionRel_refl (fun f => ⟨rfl, ?_⟩) _)
    · exact forall₂_veiled_refl m.args
    · exact forall₂_veiled_refl f.args
  | bind name value => exact .bind name ⟨.value, .refl _ value⟩

theorem requests_unchanged (senders : Senders) (file : String) {es es' : List Event}
    (same : List.Forall₂ Event.Unchanged es es') : requests senders file es' = requests senders file es :=
  requests_alike reads_veiled Function.injective_id ⟨fun _ => rfl, fun _ => rfl⟩ file same

section Calls

variable {here : Position} {n n' : Node}

theorem methodCall?_akin (akin : Akin here n n') (calls : n.kind = .callExpression) :
    Option.Rel (MethodCall.Alike id Veiled) (methodCall? n) (methodCall? n') := by
  -- Neither what is called nor the object that it is called on can get a wrapper.
  have called : here.below n.kind (some .function) = .callee := by rw [calls]; rfl
  refine bind_rel (akin.child .function) fun callee => ?_
  rw [called] at callee
  have member := callee.akin (by decide)
  refine bind_rel (arguments?_akin akin) fun args => ?_
  rw [member.kind]
  split
  · rename_i isMember
    refine bind_rel (member.child .object) fun object => ?_
    refine bind_rel (member.child .property) fun method => ?_
    rw [beq_iff_eq.mp isMember] at object method
    have object := object.akin (by decide)
    have method := method.akin (by decide)
    rw [object.kind]
    split
    · exact .some ⟨object.text, method.text, args⟩
    · exact .none
  · exact .none

theorem functionCall?_akin (akin : Akin here n n') (calls : n.kind = .callExpression) :
    Option.Rel (FunctionCall.Alike id Veiled) (functionCall? n) (functionCall? n') := by
  have called : here.below n.kind (some .function) = .callee := by rw [calls]; rfl
  refine bind_rel (akin.child .function) fun callee => ?_
  rw [called] at callee
  have plain := callee.akin (by decide)
  refine bind_rel (arguments?_akin akin) fun args => ?_
  rw [plain.kind]
  split
  · exact .some ⟨plain.text, args⟩
  · exact .none

end Calls

mutual

theorem events_of_isSilent (n : Node) (silent : n.isSilent = true) : events n = [] := by
  cases n with
  | node kind role start stop row text missing children =>
    simp only [Node.isSilent, Bool.and_eq_true, bne_iff_ne] at silent
    obtain ⟨⟨⟨noCall, noDeclarator⟩, noAssignment⟩, below⟩ := silent
    have call : callOf? (.node kind role start stop row text missing children) = none :=
      if_neg (by simpa [Node.kind] using noCall)
    have bind : bindOf? (.node kind role start stop row text missing children) = none :=
      bindOf?_of_other noDeclarator noAssignment
    rw [events, call, bind, eventsAll_of_areSilent children below]
    rfl

theorem eventsAll_of_areSilent (ns : List Node) (silent : Node.areSilent ns = true) : eventsAll ns = [] := by
  cases ns with
  | nil => rfl
  | cons n rest =>
    simp only [Node.areSilent, Bool.and_eq_true] at silent
    rw [eventsAll, events_of_isSilent n silent.1, eventsAll_of_areSilent rest silent.2]
    rfl

end

section Trees

open Event (Unchanged)

variable {here : Position} {n n' : Node}

theorem forall₂_alike_refl (es : List Event) : List.Forall₂ Unchanged es es :=
  List.forall₂_same.mpr fun e _ => .refl e

theorem callOf?_akin (akin : Akin here n n') : List.Forall₂ Unchanged (callOf? n).toList (callOf? n').toList := by
  unfold callOf?
  rw [akin.kind]
  split
  · rename_i calls
    have calls := beq_iff_eq.mp calls
    exact .cons (.call (methodCall?_akin akin calls) (functionCall?_akin akin calls)) .nil
  · exact .nil

theorem bindTo?_veil {target target' value value' : Option Node} (name : Option.Rel (Veil .written) target target')
    (given : Option.Rel Veiled value value') :
    List.Forall₂ Unchanged (bindTo? target value).toList (bindTo? target' value').toList := by
  cases name with
  | none => exact .nil
  | some written =>
    cases given with
    | none => exact .nil
    | some veiled =>
      have name := written.akin (by decide)
      simp only [bindTo?, name.kind, name.text]
      split
      · exact .cons (.bind _ veiled) .nil
      · exact .nil

theorem bindOf?_akin (akin : Akin here n n') : List.Forall₂ Unchanged (bindOf? n).toList (bindOf? n').toList := by
  unfold bindOf?
  rw [akin.kind]
  split
  · rename_i declares
    have name := akin.child .name
    rw [declares] at name
    exact bindTo?_veil name (akin.child_veiled .value)
  · rename_i assigns
    have left := akin.child .left
    rw [assigns] at left
    exact bindTo?_veil left (akin.child_veiled .right)
  · exact .nil

theorem events_akin (akin : Akin here n n')
    (children : List.Forall₂ Unchanged (eventsAll n.children) (eventsAll n'.children)) :
    List.Forall₂ Unchanged (events n) (events n') := by
  rw [events_eq, events_eq]
  exact List.rel_append (List.rel_append (callOf?_akin akin) children) (bindOf?_akin akin)

theorem events_wrapIn {kind : Kind} {start stop row : Nat} {types : List Node} (silent : Node.areSilent types = true)
    (wrapper : (Node.wrapIn kind start stop row types n).isWrapper = true) :
    events (Node.wrapIn kind start stop row types n) = events n.loose := by
  have kinds : kind ∈ [Kind.parenthesizedExpression, .asExpression, .satisfiesExpression, .nonNullExpression,
    .typeAssertion] := isWrapper_iff.mp wrapper
  have call : callOf? (Node.wrapIn kind start stop row types n) = none := by
    refine if_neg fun calls => ?_
    obtain rfl : kind = .callExpression := beq_iff_eq.mp calls
    exact absurd kinds (by decide)
  have bind : bindOf? (Node.wrapIn kind start stop row types n) = none := by
    refine bindOf?_of_other (fun declares => ?_) fun assigns => ?_
    · obtain rfl : kind = .variableDeclarator := declares
      exact absurd kinds (by decide)
    · obtain rfl : kind = .assignmentExpression := assigns
      exact absurd kinds (by decide)
  have inside : eventsAll (Node.wrapIn kind start stop row types n).children = events n.loose := by
    rw [Node.wrapIn, Node.children]
    split
    · rw [eventsAll_append, eventsAll_of_areSilent types silent, eventsAll, eventsAll, List.append_nil, List.nil_append]
    · rw [eventsAll, eventsAll_of_areSilent types silent, List.append_nil]
  rw [events_eq, call, bind, inside, Option.toList_none, List.append_nil, List.nil_append]

/-- A change to a tree changes none of its events. -/
theorem events_veil (veil : Veil here n n') : List.Forall₂ Unchanged (events n) (events n') := by
  induction veil with
  | moved start' stop' row' => exact events_akin (.of_children here rfl rfl rfl) (forall₂_alike_refl _)
  | remark before after start' stop' row' text' =>
    refine events_akin (akin_remark here before after start' stop' row' text') ?_
    have silent : events (Node.remark start' stop' row' text') = [] := rfl
    simp only [Node.children, eventsAll_append, eventsAll, silent, List.nil_append]
    exact forall₂_alike_refl _
  | inner before after child ih =>
    refine events_akin (akin_inner before after child (Veiled.kind_beq ⟨_, child⟩ (by decide))) ?_
    simp only [Node.children, eventsAll_append, eventsAll]
    exact List.rel_append (forall₂_alike_refl _) (List.rel_append ih (forall₂_alike_refl _))
  | @wrap n _ kind start stop row types silent wrapper =>
    -- Inside of the wrapper the node takes no place of its own, which none of its events shows.
    rw [events_wrapIn silent wrapper]
    refine events_akin (.loose here n) ?_
    cases n
    exact forall₂_alike_refl _

end Trees

/-- Comments, wrappers where values count and offsets do not change what is found, however many they are. -/
theorem findings_of_veiled (senders : Senders) (file : String) {t t' : Node}
    (veiled : Relation.ReflTransGen (Veil .value) t t') :
    (extract senders file t').findings = (extract senders file t).findings := by
  -- Events are compared across one change only, since two changes need not give events that are alike.
  induction veiled with
  | refl => rfl
  | @tail m m' _ veil ih =>
    calc (extract senders file m').findings
      _ = requests senders file (events m') := (walk_agrees senders file m').findings
      _ = requests senders file (events m) := requests_unchanged senders file (events_veil veil)
      _ = (extract senders file m).findings := (walk_agrees senders file m).findings.symm
      _ = (extract senders file t).findings := ih

section Sample

def sampleLeaf (kind : Kind) (role : Option Role) (text : String) : Node :=
  .node kind role 0 0 0 text false []

def sampleBranch (kind : Kind) (role : Option Role) (children : List Node) : Node :=
  .node kind role 0 0 0 "" false children

def sampleString : Node :=
  sampleBranch .string none [sampleLeaf .stringFragment none "/a"]

-- The literal `{ k }`.
def sampleObject : Node :=
  sampleBranch .object none [sampleLeaf .shorthandPropertyIdentifier none "k"]

def samplePost (args : List Node) : Node :=
  sampleBranch .callExpression none
    [sampleBranch .memberExpression (some .function)
      [sampleLeaf .identifier (some .object) "axios", sampleLeaf .propertyIdentifier (some .property) "post"],
     sampleBranch .arguments (some .arguments) args]

-- The literal `('/a')`.
def veiledString : Node :=
  Node.wrapIn .parenthesizedExpression 0 0 0 [] sampleString

-- The literal `{ k } as T`.
def veiledObject : Node :=
  Node.wrapIn .asExpression 0 0 0 [sampleLeaf .typeIdentifier none "T"] sampleObject

/-- The call `axios.post(('/a'), /* c */ { k } as T)`. -/
def veiledPost : Node :=
  samplePost [veiledString, Node.remark 0 0 0 "/* c */", veiledObject]

theorem veil_samplePost {args args' : List Node}
    (veil : Veil .value (sampleBranch .arguments (some .arguments) args)
      (sampleBranch .arguments (some .arguments) args')) :
    Veil .value (samplePost args) (samplePost args') :=
  .inner [_] [] veil

-- The veiled call is found for what it is.
theorem findings_of_veiledPost :
    Relation.ReflTransGen (Veil .value) (samplePost [sampleString, sampleObject]) veiledPost ∧
    (extract .usual "a.js" veiledPost).findings =
      [{ file := "a.js", method := "POST", endpoint := some "/a", params := ["k"], encoding := .json,
         confidence := .high }] := by
  have wrapped : Veil .value (samplePost [sampleString, sampleObject]) (samplePost [veiledString, sampleObject]) :=
    veil_samplePost (.inner [] [_] (.wrap rfl _ 0 0 0 rfl rfl))
  have remarked : Veil .value (samplePost [veiledString, sampleObject])
      (samplePost [veiledString, Node.remark 0 0 0 "/* c */", sampleObject]) :=
    veil_samplePost (.remark [_] [_] 0 0 0 "/* c */")
  have asserted : Veil .value (samplePost [veiledString, Node.remark 0 0 0 "/* c */", sampleObject]) veiledPost :=
    veil_samplePost (.inner [_, _] [] (.wrap rfl _ 0 0 0 rfl rfl))
  have veiled := ((Relation.ReflTransGen.single wrapped).tail remarked).tail asserted
  refine ⟨veiled, (findings_of_veiled .usual "a.js" veiled).trans ?_⟩
  decide +kernel

end Sample

end SiteSurvey.Request
