import SiteSurvey.Proofs.Query
import SiteSurvey.Proofs.Request.Select

set_option autoImplicit false

namespace SiteSurvey.Request

open SiteSurvey.Script

/-- A value that makes the accumulator of a query, with its first argument if it has any. -/
structure MakesQuery (value : Node) (seed : Option Node) : Prop where
  creation : value.unwrap.kind = .newExpression
  shape : accumulator? value.unwrap = some .urlAccumulator
  first : (value.unwrap.child? .arguments).bind (fun args => args.operands.head?) = seed

/-- A call that sets a key on what a name holds. -/
structure Sets (name : String) (call : Node) (key : Text) : Prop where
  called : ∃ args, methodCall? call = some ⟨name, "set", args⟩ ∧ args.head?.bind literalKey? = some key

section Tracked

variable {value seed : Node} {query : Text}

theorem tracked?_seeded (made : MakesQuery value (some seed)) (literal : stringValue? seed.unwrap = some query) :
    tracked? value = some (.urlAccumulator, Query.distinctNames query) := by
  have string : seed.unwrap.kind = .string := by
    unfold stringValue? at literal
    split at literal
    · next same => exact beq_iff_eq.mp same
    · cases literal
  simp [tracked?, made.creation, made.shape, seedKeys, made.first, string, literal]

theorem tracked?_blank (made : MakesQuery value none) : tracked? value = some (.urlAccumulator, []) := by
  simp [tracked?, made.creation, made.shape, seedKeys, made.first]

end Tracked

section Sets

variable {p : Progress} {name : String} {shape : Shape} {keys : List Text}

theorem call_sets (senders : Senders) (file : String) {n : Node} {key : Text} (sets : Sets name n key)
    (grows : shape.isAccumulator = true) (held : p.scope.get? name = some ⟨name, shape, keys⟩) :
    (call senders file p n).scope.get? name = some ⟨name, shape, Scope.addKey true keys key⟩ := by
  obtain ⟨args, called, given⟩ := sets.called
  have known : p.scope.contains name = true := by rw [Scope.contains, held]; rfl
  have quiet : writeVerbs.contains "set" = false := by decide
  have verb : appendVerbs.contains "set" = true := by decide
  have grown := p.append_scope ⟨name, "set", args⟩
  rw [call_eq, called]
  simp only [verb, known, quiet, Bool.and_self, Bool.and_false, if_true, Bool.false_eq_true, if_false, grown, given,
    Option.toList_some, List.foldl_cons, List.foldl_nil, Scope.get?_append, held, Option.map_some, grows, and_self,
    beq_self_eq_true]

theorem calls_set (senders : Senders) (file : String) {calls : List Node} {added : List Text}
    (sets : List.Forall₂ (Sets name) calls added) (grows : shape.isAccumulator = true)
    (held : p.scope.get? name = some ⟨name, shape, keys⟩) :
    (calls.foldl (call senders file) p).scope.get? name =
      some ⟨name, shape, added.foldl (Scope.addKey true) keys⟩ := by
  induction sets generalizing p keys with
  | nil => exact held
  | cons first _ ih => exact ih (call_sets senders file first grows held)

theorem foldl_addKey (added : List Text) : added.foldl (Scope.addKey true) [] = firsts id added := by
  refine (foldl_firsts id ?_ []).trans (by simp)
  intro known key
  simp [Scope.addKey]

end Sets

/-- A query seeds the same keys as setting its names one by one: each name once, at its first place. -/
theorem seeded_keys (senders : Senders) (file : String) (p q : Progress) (name : String) (marks : Nat)
    (pairs : List (String × String)) {seeded seed blank : Node} {calls : List Node}
    (made : MakesQuery seeded (some seed))
    (literal : stringValue? seed.unwrap = some (Text.ofChars (List.replicate marks '?' ++ Query.form pairs)))
    (bare : MakesQuery blank none)
    (sets : List.Forall₂ (Sets name) calls (pairs.map fun pair => Text.ofString pair.1)) :
    let keys := firsts id (pairs.map fun pair => Text.ofString pair.1)
    (p.assign name seeded).scope.get? name = some ⟨name, .urlAccumulator, keys⟩ ∧
      (calls.foldl (call senders file) (q.assign name blank)).scope.get? name =
        some ⟨name, .urlAccumulator, keys⟩ := by
  have start : (q.assign name blank).scope.get? name = some ⟨name, .urlAccumulator, []⟩ := by
    rw [Progress.assign_scope, tracked?_blank bare, Scope.get?_bind, if_pos rfl]
  constructor
  · rw [Progress.assign_scope, tracked?_seeded made literal, Query.distinctNames_form, Scope.get?_bind, if_pos rfl]
  · rw [calls_set senders file sets rfl start, foldl_addKey]

section Sample

-- The value `new URLSearchParams(…)`.
def queryMaker (args : List Node) : Node :=
  sampleBranch .newExpression none
    [sampleLeaf .identifier (some .constructor) "URLSearchParams", sampleBranch .arguments (some .arguments) args]

def queryLiteral : Node :=
  sampleBranch .string none [sampleLeaf .stringFragment none "?a+b=1%262&%C3%A9=%3F&a+b=%25&="]

def queryPairs : List (String × String) :=
  [("a b", "1&2"), ("é", "?"), ("a b", "%"), ("", "")]

theorem makesQuery_queryMaker (args : List Node) :
    MakesQuery (queryMaker args) (sampleBranch .arguments (some .arguments) args).operands.head? := by
  have plain : (queryMaker args).unwrap = queryMaker args := by rw [Node.unwrap]; rfl
  constructor <;> rw [plain] <;> rfl

theorem sets_callOn (name key : String) : Sets name (callOn name "set" key) (Text.ofString key) := by
  have plain : (sampleBranch .string none [sampleLeaf .stringFragment none key]).unwrap =
      sampleBranch .string none [sampleLeaf .stringFragment none key] := by
    rw [Node.unwrap]
    rfl
  have value : stringValue? (sampleBranch .string none [sampleLeaf .stringFragment none key]) =
      some (Text.ofString key) :=
    congrArg some (List.append_nil _)
  refine ⟨_, rfl, ?_⟩
  show literalKey? _ = _
  rw [literalKey?, plain, value]
  rfl

theorem seeded_sample :
    stringValue? queryLiteral.unwrap = some (Text.ofChars (List.replicate 1 '?' ++ Query.form queryPairs)) ∧
    ((Progress.start.assign "x" (queryMaker [queryLiteral])).scope.get? "x").map (·.keys) = some (["a b", "é", ""].map Text.ofString) ∧
    (((queryPairs.map fun pair => callOn "x" "set" pair.1).foldl (call .usual "a.js")
      (Progress.start.assign "x" (queryMaker []))).scope.get? "x").map (·.keys) = some (["a b", "é", ""].map Text.ofString) := by
  have literal : stringValue? queryLiteral.unwrap =
      some (Text.ofChars (List.replicate 1 '?' ++ Query.form queryPairs)) := by
    rw [Node.unwrap]
    decide
  have sets : List.Forall₂ (Sets "x") (queryPairs.map fun pair => callOn "x" "set" pair.1)
      (queryPairs.map fun pair => Text.ofString pair.1) := by
    rw [List.forall₂_map_left_iff, List.forall₂_map_right_iff, List.forall₂_same]
    exact fun pair _ => sets_callOn "x" pair.1
  obtain ⟨seeded, grown⟩ := seeded_keys .usual "a.js" .start .start "x" 1 queryPairs
    (makesQuery_queryMaker [queryLiteral]) literal (makesQuery_queryMaker []) sets
  refine ⟨literal, ?_, ?_⟩
  · rw [seeded]
    decide
  · rw [grown]
    decide

end Sample

end SiteSurvey.Request
