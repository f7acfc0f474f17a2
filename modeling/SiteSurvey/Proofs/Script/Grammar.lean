import SiteSurvey.Proofs.Script.Fault
import SiteSurvey.Proofs.Script.Tidy

set_option autoImplicit false

namespace SiteSurvey.Script

open SiteSurvey.Script.Parser

def Inner.Tidy (inner : Inner) : Prop :=
  ∀ goal, (inner goal).Tidy

@[grind =] theorem Inner.tidy_iff (inner : Inner) : Inner.Tidy inner ↔ ∀ goal, (inner goal).Tidy :=
  Iff.rfl

namespace Grammar

section Literals

variable {s : Source} {i j fuel start : Nat} {kind : Kind} {parts : List Node} {acc : Array Node}

@[grind ←] theorem tidy_leafOf (ordinary : kind.Ordinary) : (leafOf s kind i j).Tidy :=
  Node.tidy_of_ordinary ordinary (by simp)

@[grind ←] theorem tidy_push (before : Content.Tidy acc.toList) (ordinary : kind.Ordinary) :
    Content.Tidy (acc.push (leafOf s kind i j)).toList := by
  rw [Array.toList_push, Content.tidy_append]
  exact ⟨before, (Content.tidy_cons _ _).mpr ⟨tidy_leafOf ordinary, Content.tidy_nil⟩⟩

@[grind →] theorem tidy_quotedParts {quote : Char} (read : quotedParts s quote fuel i acc = some (parts, j))
    (before : Content.Tidy acc.toList) : Content.Tidy parts := by
  fun_induction quotedParts s quote fuel i acc <;> grind

@[grind →] theorem tidy_templateText {escapes : Bool} (read : templateText s escapes fuel i acc = some (parts, j))
    (before : Content.Tidy acc.toList) : Content.Tidy parts := by
  fun_induction templateText s escapes fuel i acc <;> grind

@[grind →] theorem tidy_referencedText {ends : Char → Bool}
    (read : referencedText s kind ends fuel start i acc = (parts, j)) (ordinary : kind.Ordinary)
    (before : Content.Tidy acc.toList) : Content.Tidy parts := by
  fun_induction referencedText s kind ends fuel start i acc <;> grind

end Literals

section Names

variable {kind : Kind} {w : String} {i j : Nat}

@[grind ←] theorem tidy_nameAs (ordinary : kind.Ordinary) : (nameAs kind).Tidy := by
  unfold nameAs
  with_reducible repeat' first | constructor | split | intro
  all_goals grind

@[grind .] theorem tidy_identifier : identifier.Tidy :=
  tidy_nameAs (by decide)

@[grind ←] theorem tidy_anyNameAs (ordinary : kind.Ordinary) : (anyNameAs kind).Tidy := by
  unfold anyNameAs
  with_reducible repeat' first | constructor | split | intro
  all_goals grind

@[grind .] theorem tidy_privateName : privateName.Tidy := by
  unfold privateName
  with_reducible repeat' first | constructor | split | intro
  all_goals grind

@[grind .] theorem named_privateName : privateName.Gives Node.Named := by
  refine .bind .any fun c _ => .bind .any fun s _ => .bind .any fun _ _ => ?_
  split
  next => exact .bind .any fun _ _ => .leaf fun _ _ => ⟨Node.tidy_of_ordinary (by decide) (by simp), nofun⟩
  next => exact .stop

@[grind .] theorem named_anyNameAs : (anyNameAs .propertyIdentifier).Gives Node.Named :=
  .bind .any fun _ _ => .bind .any fun _ _ => .bind .any fun _ _ => .leaf fun _ _ =>
    ⟨Node.tidy_of_ordinary (by decide) (by simp), nofun⟩

@[grind .] theorem named_property : (privateName.or (anyNameAs .propertyIdentifier)).Gives Node.Named :=
  .or named_privateName named_anyNameAs

-- The mark of an optional step takes no place of its own.
theorem tidy_chain {f : Node → Parser Node} (next : ∀ chain, chain.Tidy → chain.role = none → (f chain).Tidy) :
    (leaf .optionalChain i j >>= f).Tidy := by
  refine .knowing (P := fun chain => chain.Tidy ∧ chain.role = none) (.leaf fun _ _ => ⟨?_, rfl⟩) fun chain known =>
    next chain known.1 known.2
  exact Node.tidy_of_ordinary (by decide) (by simp)

@[grind ←] theorem tidy_wordAs (ordinary : kind.Ordinary) : (wordAs kind w).Tidy := by
  unfold wordAs
  with_reducible repeat' first | constructor | split | intro
  all_goals grind

end Names

-- A rule is tidy because of how it is put together, which `constructor` finds. What it leaves is about the values at
-- hand and the rules used. A rule that one other alone uses is seen through there.
section Rules

variable {kind : Kind} {m : String} {left : Node} {start level : Nat} {escapes named : Bool} {mode : Mode}
  {part : Parser Node}

@[grind .] theorem tidy_string : string.Tidy := by
  unfold string
  with_reducible repeat' first | constructor | split | intro
  all_goals grind

@[grind .] theorem tidy_number : number.Tidy := by
  unfold number
  with_reducible repeat' first | constructor | split | intro
  all_goals grind

@[grind ←] theorem tidy_templateParts (tidy : part.Tidy) : (templateParts escapes part).Tidy := by
  unfold templateParts
  with_reducible repeat' first | constructor | split | intro
  all_goals grind

@[grind ←] theorem tidy_restPattern (tidy : part.Tidy) : (restPattern part).Tidy := by
  unfold restPattern
  with_reducible repeat' first | constructor | split | intro
  all_goals grind

@[grind .] theorem tidy_accessibility : accessibility.Tidy := by
  unfold accessibility
  with_reducible repeat' first | constructor | split | intro
  all_goals grind

@[grind ←] theorem tidy_modifier {α : Type} [Content α] {p : Parser α} (tidy : p.Tidy) : (modifier p).Tidy := by
  unfold modifier
  with_reducible repeat' first | constructor | split | intro
  all_goals grind

@[grind .] theorem tidy_importCall : importCall.Tidy := by
  unfold importCall
  with_reducible repeat' first | constructor | split | intro
  all_goals grind

@[grind ←] theorem tidy_valuePath (tidy : part.Tidy) : (valuePath part).Tidy := by
  unfold valuePath
  with_reducible repeat' first | constructor | split | intro
  all_goals grind

@[grind ←] theorem tidy_chainType (ordinary : kind.Ordinary) (tidy : part.Tidy) : (chainType kind m part).Tidy := by
  unfold chainType
  with_reducible repeat' first | constructor | split | intro
  all_goals grind

@[grind ←] theorem tidy_markupName (ordinary : kind.Ordinary) : (markupName kind).Tidy := by
  unfold markupName
  with_reducible repeat' first | constructor | split | intro
  all_goals grind

@[grind .] theorem tidy_exportName : exportName.Tidy := by
  unfold exportName
  with_reducible repeat' first | constructor | split | intro
  all_goals grind

@[grind .] theorem tidy_fromClause : fromClause.Tidy := by
  unfold fromClause
  with_reducible repeat' first | constructor | split | intro
  all_goals grind

@[grind ←] theorem tidy_specifier (ordinary : kind.Ordinary) : (specifier kind).Tidy := by
  unfold specifier
  with_reducible repeat' first | constructor | split | intro
  all_goals grind

@[grind .] theorem tidy_nestedName : nestedName.Tidy := by
  unfold nestedName
  with_reducible repeat' first | constructor | split | intro
  all_goals grind

@[grind .] theorem tidy_emptyPart : emptyPart.Tidy := by
  unfold emptyPart
  with_reducible repeat' first | constructor | split | intro
  all_goals grind

variable {inner : Inner} (ih : Inner.Tidy inner)
include ih

@[grind ←] theorem tidy_expression : (expression inner).Tidy :=
  ih _

@[grind ←] theorem tidy_expressions : (expressions inner).Tidy := by
  unfold expressions sequence
  with_reducible repeat' first | constructor | split | intro
  all_goals grind

@[grind ←] theorem tidy_initializer : (initializer inner mode).Tidy := by
  unfold initializer
  with_reducible repeat' first | constructor | split | intro
  all_goals grind

@[grind ←] theorem tidy_template : (template inner).Tidy := by
  unfold template
  with_reducible repeat' first | constructor | split | intro
  all_goals grind

@[grind ←] theorem tidy_typeAscription : (typeAscription inner).Tidy := by
  unfold typeAscription
  with_reducible repeat' first | constructor | split | intro
  all_goals grind

@[grind ←] theorem tidy_maybeAscription : (maybeAscription inner).Tidy := by
  unfold maybeAscription
  with_reducible repeat' first | constructor | split | intro
  all_goals grind

@[grind ←] theorem tidy_spread : (spread inner).Tidy := by
  unfold spread
  with_reducible repeat' first | constructor | split | intro
  all_goals grind

@[grind ←] theorem tidy_arguments : (arguments inner).Tidy := by
  unfold arguments
  with_reducible repeat' first | constructor | split | intro
  all_goals grind

@[grind ←] theorem tidy_propertyName : (propertyName inner).Tidy := by
  unfold propertyName
  with_reducible repeat' first | constructor | split | intro
  all_goals grind

@[grind ←] theorem tidy_decorators : (decorators inner).Tidy := by
  unfold decorators decorator
  with_reducible repeat' first | constructor | split | intro
  all_goals grind

@[grind ←] theorem tidy_withDefault (tidy : part.Tidy) : (withDefault inner part).Tidy := by
  unfold withDefault
  with_reducible repeat' first | constructor | split | intro
  all_goals grind

@[grind ←] theorem tidy_destructuring (tidy : part.Tidy) : (destructuring inner part).Tidy := by
  unfold destructuring arrayPattern objectPattern objectPatternMember
  with_reducible repeat' first | constructor | split | intro
  all_goals grind

@[grind ←] theorem tidy_binding : (binding inner).Tidy := by
  unfold binding
  with_reducible repeat' first | constructor | split | intro
  all_goals grind

@[grind ←] theorem tidy_target : (target inner).Tidy := by
  unfold target
  with_reducible repeat' first | constructor | split | intro
  all_goals grind

@[grind ←] theorem tidy_parameters : (parameters inner).Tidy := by
  unfold parameters typedParameter
  with_reducible repeat' first | constructor | split | intro
  all_goals grind

@[grind ←] theorem tidy_typeArguments : (typeArguments inner).Tidy := by
  unfold typeArguments
  with_reducible repeat' first | constructor | split | intro
  all_goals grind

@[grind ←] theorem tidy_maybeTypeParameters : (maybeTypeParameters inner).Tidy := by
  unfold maybeTypeParameters typeParameters typeParameter
  with_reducible repeat' first | constructor | split | intro
  all_goals grind

@[grind ←] theorem tidy_typePredicate : (typePredicate inner).Tidy := by
  unfold typePredicate
  with_reducible repeat' first | constructor | split | intro
  all_goals grind

@[grind ←] theorem tidy_asserts : (asserts inner).Tidy := by
  unfold asserts
  with_reducible repeat' first | constructor | split | intro
  all_goals grind

@[grind ←] theorem tidy_maybeReturnType : (maybeReturnType inner).Tidy := by
  unfold maybeReturnType returnType
  with_reducible repeat' first | constructor | split | intro
  all_goals grind

@[grind ←] theorem tidy_callSignature : (callSignature inner).Tidy := by
  unfold callSignature
  with_reducible repeat' first | constructor | split | intro
  all_goals grind

@[grind ←] theorem tidy_indexSignature : (indexSignature inner).Tidy := by
  unfold indexSignature mappedClause
  with_reducible repeat' first | constructor | split | intro
  all_goals grind

@[grind ←] theorem tidy_objectType (ordinary : kind.Ordinary) : (objectType inner kind).Tidy := by
  unfold objectType typeMember memberModifiers
  with_reducible repeat' first | constructor | split | intro
  all_goals grind

@[grind ←] theorem tidy_namedType : (namedType inner).Tidy := by
  unfold namedType
  refine .bind (.any _) fun start _ => .bind (.any _) fun c _ => .bind (by grind) fun first first_tidy =>
    .bind (.grow (by grind) fun names tidy => ?_) fun path path_tidy => ?_
  · with_reducible repeat' first | constructor | split | intro
    all_goals grind
  extract_lets generic
  have generic_tidy (name : Node) (tidy : name.Tidy) : (generic name).Tidy := by
    with_reducible repeat' first | constructor | split | intro
    all_goals grind
  clear_value generic
  split
  · with_reducible repeat' first | constructor | split | intro
    all_goals grind
  · exact .bind .stop generic_tidy
  next last before _ =>
    extract_lets outer
    have outer_tidy : Content.Tidy outer := by grind
    clear_value outer
    with_reducible repeat' first | constructor | split | intro
    all_goals grind

@[grind ←] theorem tidy_primaryType : (primaryType inner).Tidy := by
  unfold primaryType literalType tupleType tupleMember typeQuery templateLiteralType
  with_reducible repeat' first | constructor | split | intro
  all_goals grind

@[grind ←] theorem tidy_unionType : (unionType inner).Tidy := by
  refine tidy_chainType (by decide) (tidy_chainType (by decide) ?_)
  unfold functionType constructorType operatorType postfixType
  with_reducible repeat' first | constructor | split | intro
  all_goals grind

@[grind ←] theorem tidy_type : (type inner).Tidy := by
  unfold type
  with_reducible repeat' first | constructor | split | intro
  all_goals grind

@[grind ←] theorem tidy_methodRest : (methodRest inner).Tidy := by
  unfold methodRest
  with_reducible repeat' first | constructor | split | intro
  all_goals grind

@[grind ←] theorem tidy_object : (object inner).Tidy := by
  unfold object objectMember
  with_reducible repeat' first | constructor | split | intro
  all_goals grind

@[grind ←] theorem tidy_staticBlock : (staticBlock inner).Tidy := by
  unfold staticBlock
  with_reducible repeat' first | constructor | split | intro
  all_goals grind

@[grind ←] theorem tidy_typedMember : (typedMember inner).Tidy := by
  unfold typedMember
  refine .or (tidy_staticBlock ih) (.or ?_ ?_)
  · with_reducible repeat' first | constructor | split | intro
    all_goals grind
  refine .bind (.any _) fun start _ => .bind (tidy_decorators ih) fun marks marks_tidy => .bind (.many ?_)
    fun words words_tidy => ?_
  · with_reducible repeat' first | constructor | split | intro
    all_goals grind
  extract_lets before isAbstract
  have before_tidy : Content.Tidy before :=
    Content.tidy_map (Content.tidy_filter words_tidy) fun _ tidy => tidy.2
  clear_value before isAbstract
  with_reducible repeat' first | constructor | split | intro
  all_goals grind

@[grind ←] theorem tidy_classRest : (classRest inner named).Tidy := by
  unfold classRest classBody plainMember classHeritage
  with_reducible repeat' first | constructor | split | intro
  all_goals grind

@[grind ←] theorem tidy_classDeclaration : (classDeclaration inner).Tidy := by
  unfold classDeclaration
  with_reducible repeat' first | constructor | split | intro
  all_goals grind

@[grind ←] theorem tidy_bracedExpression : (bracedExpression inner).Tidy := by
  unfold bracedExpression
  with_reducible repeat' first | constructor | split | intro
  all_goals grind

@[grind ←] theorem tidy_element {types : Parser (List Node)} (tidy : types.Tidy) : (element inner types).Tidy := by
  unfold element elementName elementAttribute attributeString markupChild
  with_reducible repeat' first | constructor | split | intro
  all_goals grind

@[grind ←] theorem tidy_memberStep (tidy : left.Tidy) : (memberStep inner start left).Tidy := by
  unfold memberStep
  with_reducible repeat' first | constructor | split | intro
  all_goals grind

@[grind ←] theorem tidy_primary : (primary inner).Tidy := by
  unfold primary parenthesized array regex importExpression newExpression functionExpression classExpression
  with_reducible repeat' first | constructor | split | intro
  all_goals grind

@[grind ←] theorem tidy_chainStep (tidy : left.Tidy) : (chainStep inner start left).Tidy := by
  unfold chainStep
  with_reducible repeat' first | apply tidy_chain | constructor | split | intro
  all_goals grind

@[grind ←] theorem tidy_operand : (operand inner).Tidy := by
  unfold operand postfixOperand typeAssertion
  with_reducible repeat' first | constructor | split | intro
  all_goals grind

@[grind ←] theorem tidy_binary : (binary inner level mode).Tidy := by
  unfold binary infixStep
  with_reducible repeat' first | constructor | split | intro
  all_goals grind

@[grind ←] theorem tidy_assignment : (assignment inner mode).Tidy := by
  unfold assignment conditional
  with_reducible repeat' first | constructor | split | intro
  all_goals grind

@[grind ←] theorem tidy_expressionRule : (expressionRule inner mode).Tidy := by
  unfold expressionRule arrowFunction yieldExpression patternAssignment
  with_reducible repeat' first | constructor | split | intro
  all_goals grind

@[grind ←] theorem tidy_block : (block inner).Tidy := by
  unfold block
  with_reducible repeat' first | constructor | split | intro
  all_goals grind

@[grind ←] theorem tidy_declarators : (declarators inner mode).Tidy := by
  unfold declarators declarator
  with_reducible repeat' first | constructor | split | intro
  all_goals grind

@[grind ←] theorem tidy_condition : (condition inner).Tidy := by
  unfold condition
  with_reducible repeat' first | constructor | split | intro
  all_goals grind

@[grind ←] theorem tidy_importAttributes : (importAttributes inner).Tidy := by
  unfold importAttributes
  with_reducible repeat' first | constructor | split | intro
  all_goals grind

@[grind ←] theorem tidy_typedDeclaration : (typedDeclaration inner).Tidy := by
  unfold typedDeclaration importAlias enumDeclaration interfaceDeclaration typeAlias moduleDeclaration
  with_reducible repeat' first | constructor | split | intro
  all_goals grind

@[grind ←] theorem tidy_declaration : (declaration inner).Tidy := by
  unfold declaration functionDeclaration variableList
  with_reducible repeat' first | constructor | split | intro
  all_goals grind

@[grind ←] theorem tidy_importStatement : (importStatement inner).Tidy := by
  unfold importStatement importClause namedImports namespaceImport
  with_reducible repeat' first | constructor | split | intro
  all_goals grind

@[grind ←] theorem tidy_exportStatement : (exportStatement inner).Tidy := by
  unfold exportStatement exportClause
  with_reducible repeat' first | constructor | split | intro
  all_goals grind

@[grind ←] theorem tidy_forStatement : (forStatement inner).Tidy := by
  unfold forStatement overHead
  with_reducible repeat' first | constructor | split | intro
  all_goals grind

@[grind ←] theorem tidy_statement : (statement inner).Tidy := by
  unfold statement ifStatement doStatement switchBody tryStatement jump returnStatement labeledStatement
    expressionStatement markupRemark
  with_reducible repeat' first | constructor | split | intro
  all_goals grind

theorem tidy_rule : Inner.Tidy (rule inner) := by
  intro goal
  cases goal <;> unfold rule
  case markup =>
    refine tidy_element ih ?_
    with_reducible repeat' first | constructor | split | intro
    all_goals grind
  all_goals grind

end Rules

theorem tidy_reader (depth : Nat) : Inner.Tidy (reader depth) := by
  induction depth with
  | zero => exact fun _ => .stop
  | succ depth ih => exact tidy_rule ih

theorem tidy_program (depth : Nat) : (program depth).Tidy := by
  have statements := tidy_reader depth
  unfold program hashBang
  with_reducible repeat' first | constructor | split | intro
  all_goals grind

end Grammar

section Parse

variable (language : Language) (text : String)

/-- The grammar reads the whole of a source. -/
def InGrammar : Prop :=
  let s := Source.ofString language text
  ∃ items c, Grammar.program (16 * s.size + 64) s (first s) = .done items c

variable {language text}

theorem tidy_parse (inside : InGrammar language text) : (parse language text).root.Tidy := by
  obtain ⟨_, _, whole⟩ := inside
  unfold parse
  extract_lets s start program
  split
  next items c read =>
    have tidy : Content.Tidy items := (Grammar.tidy_program _).gives _ _ _ _ read
    refine Node.tidy_placeRemarks _ (fun r inside => ?_) (Node.tidy_of_ordinary (by decide) tidy)
    obtain ⟨remark, _, rfl⟩ := List.mem_map.mp inside
    exact ⟨Node.tidy_remark, rfl⟩
  next r stuck => cases stuck.symm.trans whole

-- Outside the grammar there are two nodes only, and one of them is the error.
theorem preorder_parse_of_not_inGrammar (outside : ¬InGrammar language text) :
    ∃ program error : Node, (parse language text).root.preorder = [program, error] ∧ program.kind = .program ∧
      error.kind = .error := by
  unfold parse
  extract_lets s start program
  split
  next items c read => exact absurd ⟨items, c, read⟩ outside
  next => exact ⟨_, _, rfl, rfl, rfl⟩

/-- A tree has errors exactly if its source is outside the grammar. -/
theorem hasErrors_parse_iff : (parse language text).hasErrors = true ↔ ¬InGrammar language text := by
  rw [Tree.hasErrors, Node.marked_eq_any _ fun m _ => m.coherent_hasFault, List.any_eq_true]
  constructor
  · rintro ⟨n, inside, faulty⟩ read
    rw [(tidy_parse read n inside).sound] at faulty
    cases faulty
  · intro outside
    obtain ⟨program, error, nodes, _, kind⟩ := preorder_parse_of_not_inGrammar outside
    exact ⟨error, by simp [nodes], by simp [Node.isFault, kind]⟩

/-- The properties in a source are not named by variables. -/
theorem property_parse {n property : Node} (inside : n ∈ (parse language text).root.preorder)
    (member : n.kind = .memberExpression) (found : property ∈ n.child? .property) : property.kind ≠ .identifier := by
  by_cases read : InGrammar language text
  · have place : property.role = some .property := by simpa using List.find?_some found
    exact (tidy_parse read n inside).property member property (List.mem_of_find?_eq_some found) place
  · obtain ⟨program, error, nodes, first, second⟩ := preorder_parse_of_not_inGrammar read
    rw [nodes, List.mem_cons, List.mem_singleton] at inside
    rcases inside with rfl | rfl
    · rw [first] at member
      cases member
    · rw [second] at member
      cases member

end Parse

end SiteSurvey.Script
