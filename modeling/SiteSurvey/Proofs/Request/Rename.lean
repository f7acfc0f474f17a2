import Mathlib.Logic.Equiv.Basic
import SiteSurvey.Proofs.Request.Alike
import SiteSurvey.Proofs.Request.History
import SiteSurvey.Proofs.Script.Grammar
import SiteSurvey.Proofs.Script.Rename

set_option autoImplicit false

namespace SiteSurvey.Request

open SiteSurvey.Script

section Reading

variable {ρ : String → String} {n n' : Node}

theorem staticKey?_recast (recast : Recast ρ n n') : staticKey? n' = staticKey? n := by
  rw [staticKey?, staticKey?, recast.kind, recast.stringValue?]
  split
  · rename_i property
    rw [recast.text_of_ne (by rw [beq_iff_eq.mp property]; decide)]
  · rfl

theorem entryKey?_recast (recast : Recast ρ n n') : entryKey? n' = entryKey? n := by
  unfold entryKey?
  rw [recast.kind]
  split
  · rename_i shorthand
    exact absurd shorthand recast.here.noShorthand
  · exact bind_eq_of_rel (recast.child .key) staticKey?_recast
  · exact bind_eq_of_rel (recast.child .name) staticKey?_recast
  · rfl

theorem objectKeys_recast (recast : Recast ρ n n') : (objectKeys n').1 = (objectKeys n).1 :=
  filterMap_eq_of_forall₂ recast.operands entryKey?_recast

theorem literalKey?_recast (recast : Recast ρ n n') : literalKey? n' = literalKey? n := by
  have inner := recast.unwrap
  have substitution : (n'.unwrap.children.any fun c => c.kind == .templateSubstitution) =
      n.unwrap.children.any fun c => c.kind == .templateSubstitution := by
    have kinds : (n'.unwrap.children.map fun c => c.kind == .templateSubstitution) =
        n.unwrap.children.map fun c => c.kind == .templateSubstitution :=
      map_eq_of_forall₂ inner.children fun child => by rw [child.kind]
    simpa only [List.any_map, Function.id_comp] using congrArg (List.any · id) kinds
  rw [literalKey?, literalKey?]
  simp only [inner.kind, inner.stringValue?, inner.skeleton?, substitution]
  split
  · rename_i number
    rw [inner.text_of_ne (by rw [beq_iff_eq.mp number]; decide)]
  · rfl

theorem property?_recast (recast : Recast ρ n n') (name : Text) :
    Option.Rel (Recast ρ) (property? n name) (property? n' name) := by
  refine bind_rel (find?_rel recast.children fun {entry entry'} child => ?_) fun {entry entry'} child => ?_
  · rw [child.kind]
    split
    · rw [bind_eq_of_rel (child.child .key) staticKey?_recast]
    · rename_i shorthand
      exact absurd shorthand child.here.noShorthand
    · rfl
  · rw [child.kind]
    split
    · exact child.child .value
    · exact .some child

theorem requestedMethod_recast (recast : Recast ρ n n') : requestedMethod n' = requestedMethod n := by
  have explicit : ((property? n' "method").bind fun value => stringValue? value.unwrap) =
      (property? n "method").bind fun value => stringValue? value.unwrap :=
    bind_eq_of_rel (property?_recast recast "method") fun value => value.unwrap.stringValue?
  rw [requestedMethod, requestedMethod, explicit]

theorem endpoint?_recast {args args' : List Node} (related : List.Forall₂ (Recast ρ) args args') :
    endpoint? args' = endpoint? args :=
  bind_eq_of_rel (head?_rel related) fun first => by
    simp only [first.unwrap.stringValue?, first.unwrap.skeleton?]

theorem options?_recast {args args' : List Node} (related : List.Forall₂ (Recast ρ) args args') :
    Option.Rel (Recast ρ) (options? args) (options? args') := by
  have second := getElem?_rel related 1
  unfold options?
  generalize args[1]? = found at second
  generalize args'[1]? = found' at second
  cases second with
  | none => exact .none
  | some recast =>
    simp only [Option.map_some, Option.filter_some, recast.unwrap.kind]
    split
    · exact .some recast.unwrap
    · exact .none

theorem payload_recast {value value' : Option Node} (related : Option.Rel (Recast ρ) value value') :
    payload value' = (payload value).rename ρ := by
  cases related with
  | none => rfl
  | some recast =>
    have inner := recast.unwrap
    simp only [payload, Option.map_some, inner.kind]
    split
    · rw [objectKeys_recast inner]
      rfl
    · rename_i variable_
      rw [inner.text_of_eq variable_]
      rfl
    · rename_i shorthand
      exact absurd shorthand inner.here.noShorthand
    · rfl

theorem arguments?_recast (recast : Recast ρ n n') :
    Option.Rel (List.Forall₂ (Recast ρ)) (arguments? n) (arguments? n') := by
  refine bind_rel (recast.child .arguments) fun list => ?_
  rw [list.kind]
  split
  · exact .some list.operands
  · exact .none

theorem eq_iff_of_fixed {name fixed : String} (injective : Function.Injective ρ) (same : ρ fixed = fixed) :
    ρ name = fixed ↔ name = fixed := by
  constructor
  · exact fun renamed => injective (renamed.trans same.symm)
  · rintro rfl
    exact same

theorem contains_of_fixed {names : List String} (injective : Function.Injective ρ) (fixed : ∀ name ∈ names, ρ name = name)
    (name : String) : names.contains (ρ name) = names.contains name := by
  rw [Bool.eq_iff_iff, List.contains_iff_mem, List.contains_iff_mem]
  constructor
  · intro inside
    rwa [injective (fixed _ inside)] at inside
  · intro inside
    rwa [fixed name inside]

theorem seedKeys_recast (recast : Recast ρ n n') (shape : Shape) : (seedKeys shape n').1 = (seedKeys shape n).1 := by
  have seed : Option.Rel (Recast ρ) ((n.child? .arguments).bind fun args => args.operands.head?)
      ((n'.child? .arguments).bind fun args => args.operands.head?) :=
    bind_rel (recast.child .arguments) fun list => head?_rel list.operands
  unfold seedKeys
  generalize ((n.child? .arguments).bind fun args => args.operands.head?) = first at seed
  generalize ((n'.child? .arguments).bind fun args => args.operands.head?) = first' at seed
  split
  · cases seed with
    | none => rfl
    | some given =>
      have inner := given.unwrap
      simp only [inner.kind, inner.stringValue?]
      split
      · exact objectKeys_recast inner
      · rfl
  · rfl

theorem methodCall?_recast (recast : Recast ρ n n') :
    Option.Rel (MethodCall.Alike ρ (Recast ρ)) (methodCall? n) (methodCall? n') := by
  refine bind_rel (recast.child .function) fun {callee callee'} called => ?_
  refine bind_rel (arguments?_recast recast) fun args => ?_
  rw [called.kind]
  split
  · rename_i member
    refine bind_rel (called.child .object) fun object => ?_
    refine bind_rel (called.property (beq_iff_eq.mp member)) fun method => ?_
    rw [object.kind]
    split
    · rename_i variable_
      exact .some ⟨object.text_of_eq (beq_iff_eq.mp variable_), method, args⟩
    · exact .none
  · exact .none

theorem functionCall?_recast (recast : Recast ρ n n') :
    Option.Rel (FunctionCall.Alike ρ (Recast ρ)) (functionCall? n) (functionCall? n') := by
  refine bind_rel (recast.child .function) fun called => ?_
  refine bind_rel (arguments?_recast recast) fun args => ?_
  rw [called.kind]
  split
  · rename_i variable_
    exact .some ⟨called.text_of_eq (beq_iff_eq.mp variable_), args⟩
  · exact .none

end Reading

section Makers

variable {ρ : String → String} (injective : Function.Injective ρ) (form : ρ "FormData" = "FormData")
  (search : ρ "URLSearchParams" = "URLSearchParams") {n n' : Node}

include injective form search

theorem accumulator?_recast (recast : Recast ρ n n') (creation : n.kind = .newExpression) :
    accumulator? n' = accumulator? n := by
  refine bind_eq_of_rel (rel_and_eq (recast.child .constructor)) fun {maker maker'} made => ?_
  obtain ⟨made, found⟩ := made
  dsimp only
  rw [made.kind]
  rcases recast.here.maker creation maker found with variable_ | member
  · simp [variable_, made.text_of_eq variable_, eq_iff_of_fixed injective form, eq_iff_of_fixed injective search]
  · simp only [member, beq_self_eq_true, if_true]
    exact bind_eq_of_rel (made.property member) fun text => by rw [text]

theorem tracked?_recast (recast : Recast ρ n n') : tracked? n' = tracked? n := by
  have inner := recast.unwrap
  unfold tracked?
  rw [inner.kind]
  split
  · rw [objectKeys_recast inner]
  · rename_i creation
    simp only [accumulator?_recast injective form search inner creation, seedKeys_recast inner]
  · rfl

theorem reads_recast : Reads ρ (Recast ρ) where
  key := literalKey?_recast
  value := tracked?_recast injective form search
  sent := payload_recast
  endpoint := endpoint?_recast
  method related := map_eq_of_rel (options?_recast related) requestedMethod_recast
  body related := bind_rel (options?_recast related) fun recast => property?_recast recast "body"

end Makers

section Trees

variable {ρ : String → String} {n n' : Node}

theorem callOf?_recast (recast : Recast ρ n n') :
    List.Forall₂ (Event.Alike ρ (Recast ρ)) (callOf? n).toList (callOf? n').toList := by
  unfold callOf?
  rw [recast.kind]
  split
  · exact .cons (.call (methodCall?_recast recast) (functionCall?_recast recast)) .nil
  · exact .nil

theorem bindTo?_recast {target target' value value' : Option Node} (name : Option.Rel (Recast ρ) target target')
    (given : Option.Rel (Recast ρ) value value') :
    List.Forall₂ (Event.Alike ρ (Recast ρ)) (bindTo? target value).toList (bindTo? target' value').toList := by
  cases name with
  | none => exact .nil
  | some name =>
    cases given with
    | none => exact .nil
    | some given =>
      simp only [bindTo?, name.kind]
      split
      · rename_i variable_
        rw [name.text_of_eq (beq_iff_eq.mp variable_)]
        exact .cons (.bind _ given) .nil
      · exact .nil

theorem bindOf?_recast (recast : Recast ρ n n') :
    List.Forall₂ (Event.Alike ρ (Recast ρ)) (bindOf? n).toList (bindOf? n').toList := by
  unfold bindOf?
  rw [recast.kind]
  split
  · exact bindTo?_recast (recast.child .name) (recast.child .value)
  · exact bindTo?_recast (recast.child .left) (recast.child .right)
  · exact .nil

mutual

theorem events_recast (n : Node) {n' : Node} (recast : Recast ρ n n') :
    List.Forall₂ (Event.Alike ρ (Recast ρ)) (events n) (events n') := by
  rw [events_eq n, events_eq n']
  refine List.rel_append (List.rel_append (callOf?_recast recast) ?_) (bindOf?_recast recast)
  cases n with
  | node kind role start stop row text missing children => exact eventsAll_recast children recast.children

theorem eventsAll_recast (ns : List Node) {ns' : List Node} (recast : List.Forall₂ (Recast ρ) ns ns') :
    List.Forall₂ (Event.Alike ρ (Recast ρ)) (eventsAll ns) (eventsAll ns') := by
  cases recast with
  | nil => exact .nil
  | cons first others => exact List.rel_append (events_recast _ first) (eventsAll_recast _ others)

end

end Trees

/-- What is found in a tree does not depend on how its variables are called. In the tree of a source the names of
properties have kinds of their own; a tree that comes from elsewhere must not have variables in their places. -/
theorem findings_of_renamed (senders : Senders) (file : String) (ρ : String → String)
    (injective : Function.Injective ρ) (clients : ∀ name ∈ senders.clients, ρ name = name)
    (fetches : ∀ name ∈ senders.fetches, ρ name = name) (form : ρ "FormData" = "FormData")
    (search : ρ "URLSearchParams" = "URLSearchParams") {t t' : Node} (renamed : Renamed ρ t t')
    (noShorthand : ∀ n ∈ t.preorder, n.kind ≠ .shorthandPropertyIdentifier)
    (makers : ∀ n ∈ t.preorder, n.kind = .newExpression → ∀ m ∈ n.child? .constructor,
      m.kind = .identifier ∨ m.kind = .memberExpression)
    (origin : (∃ language text, t = (parse language text).root) ∨
      ∀ n ∈ t.preorder, n.kind = .memberExpression → ∀ m ∈ n.child? .property, m.kind ≠ .identifier) :
    (extract senders file t').findings = (extract senders file t).findings := by
  have properties :
      ∀ n ∈ t.preorder, n.kind = .memberExpression → ∀ m ∈ n.child? .property, m.kind ≠ .identifier := by
    rcases origin with ⟨language, text, rfl⟩ | properties
    · exact fun n inside member m found => property_parse inside member found
    · exact properties
  have recast : Recast ρ t t' :=
    ⟨renamed, fun m inside => ⟨noShorthand m inside, makers m inside, properties m inside⟩⟩
  have kept : senders.Kept ρ := ⟨contains_of_fixed injective clients, contains_of_fixed injective fetches⟩
  calc (extract senders file t').findings
    _ = requests senders file (events t') := (walk_agrees senders file t').findings
    _ = requests senders file (events t) :=
      requests_alike (reads_recast injective form search) injective kept file (events_recast t recast)
    _ = (extract senders file t).findings := (walk_agrees senders file t).findings.symm

section Sample

-- The call of a method on an object by name.
def calledOn (object method : String) (args : List Node) : Node :=
  .node .callExpression none 0 0 0 "" false
    [.node .memberExpression (some .function) 0 0 0 "" false
      [.node .identifier (some .object) 0 0 0 object false [],
       .node .propertyIdentifier (some .property) 0 0 0 method false []],
     .node .arguments (some .arguments) 0 0 0 "" false args]

def quoted (text : String) : Node :=
  .node .string none 0 0 0 "" false [.node .stringFragment none 0 0 0 text false []]

/-- The script `x = new FormData(); x.append('k', x); axios.post('/a', x)` for a variable `x`. -/
def formScript (x : String) : Node :=
  .node .program none 0 0 0 "" false
    [.node .assignmentExpression none 0 0 0 "" false
      [.node .identifier (some .left) 0 0 0 x false [],
       .node .newExpression (some .right) 0 0 0 "" false
        [.node .identifier (some .constructor) 0 0 0 "FormData" false []]],
     calledOn x "append" [quoted "k", .node .identifier none 0 0 0 x false []],
     calledOn "axios" "post" [quoted "/a", .node .identifier none 0 0 0 x false []]]

def swapNames : String → String :=
  Equiv.swap "form" "data"

theorem rename_formScript : (formScript "form").rename swapNames = formScript "data" := rfl

-- The form is found under either name.
theorem findings_of_renamed_form :
    Renamed swapNames (formScript "form") (formScript "data") ∧ swapNames "axios" = "axios" ∧
      (extract .usual "a.js" (formScript "data")).findings =
        [{ file := "a.js", method := "POST", endpoint := some "/a", params := ["k"], encoding := .formData,
           confidence := .high }] := by
  have renamed : Renamed swapNames (formScript "form") (formScript "data") :=
    rename_formScript ▸ (formScript "form").renamed_rename swapNames
  refine ⟨renamed, by decide, ?_⟩
  rw [findings_of_renamed .usual "a.js" swapNames (Equiv.injective _) (by decide) (by decide) (by decide) (by decide)
    renamed (by decide) (by decide) (.inr (by decide))]
  decide +kernel

end Sample

end SiteSurvey.Request
