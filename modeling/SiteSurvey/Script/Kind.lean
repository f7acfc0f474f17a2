set_option autoImplicit false

namespace SiteSurvey.Script

/-- The kinds of node that a tree of JavaScript, TypeScript or TSX is built from. -/
inductive Kind where
  | program
  | hashBangLine
  | exportStatement
  | namespaceExport
  | exportClause
  | exportSpecifier
  | importWord
  | importStatement
  | importClause
  | namespaceImport
  | namedImports
  | importSpecifier
  | importAttribute
  | debuggerStatement
  | expressionStatement
  | functionDeclaration
  | generatorFunctionDeclaration
  | classDeclaration
  | lexicalDeclaration
  | variableDeclaration
  | variableDeclarator
  | statementBlock
  | elseClause
  | ifStatement
  | switchStatement
  | forStatement
  | forInStatement
  | whileStatement
  | doStatement
  | tryStatement
  | withStatement
  | breakStatement
  | continueStatement
  | returnStatement
  | throwStatement
  | emptyStatement
  | labeledStatement
  | statementIdentifier
  | switchBody
  | switchCase
  | switchDefault
  | catchClause
  | finallyClause
  | parenthesizedExpression
  | yieldExpression
  | object
  | pair
  | pairPattern
  | objectPattern
  | assignmentPattern
  | objectAssignmentPattern
  | array
  | arrayPattern
  | shorthandPropertyIdentifier
  | shorthandPropertyIdentifierPattern
  | jsxElement
  | jsxOpeningElement
  | jsxClosingElement
  | jsxSelfClosingElement
  | jsxExpression
  | jsxText
  | jsxAttribute
  | jsxNamespaceName
  | htmlCharacterReference
  | identifier
  | propertyIdentifier
  | privatePropertyIdentifier
  | classExpression
  | classHeritage
  | classBody
  | classStaticBlock
  | fieldDefinition
  | functionExpression
  | generatorFunction
  | arrowFunction
  | optionalChain
  | callExpression
  | newExpression
  | awaitExpression
  | memberExpression
  | subscriptExpression
  | assignmentExpression
  | augmentedAssignmentExpression
  | spreadElement
  | restPattern
  | ternaryExpression
  | binaryExpression
  | unaryExpression
  | updateExpression
  | sequenceExpression
  | string
  | stringFragment
  | escapeSequence
  | comment
  | htmlComment
  | templateString
  | templateSubstitution
  | regex
  | regexPattern
  | regexFlags
  | number
  | undefined
  | thisWord
  | superWord
  | trueWord
  | falseWord
  | nullWord
  | metaProperty
  | arguments
  | decorator
  | formalParameters
  | methodDefinition
  | computedPropertyName
  | publicFieldDefinition
  | nonNullExpression
  | asExpression
  | satisfiesExpression
  | typeAssertion
  | instantiationExpression
  | typeArguments
  | typeParameters
  | typeParameter
  | constraint
  | defaultType
  | typeAscription
  | asserts
  | assertsAscription
  | typePredicate
  | typePredicateAscription
  | requiredParameter
  | optionalParameter
  | accessibilityModifier
  | overrideModifier
  | methodSignature
  | abstractMethodSignature
  | functionSignature
  | propertySignature
  | callSignature
  | constructSignature
  | indexSignature
  | mappedTypeClause
  | omittingTypeAscription
  | addingTypeAscription
  | optingTypeAscription
  | objectType
  | interfaceBody
  | interfaceDeclaration
  | extendsTypeClause
  | extendsClause
  | implementsClause
  | enumDeclaration
  | enumBody
  | enumAssignment
  | typeAliasDeclaration
  | ambientDeclaration
  | moduleDeclaration
  | internalModule
  | nestedIdentifier
  | nestedTypeIdentifier
  | typeIdentifier
  | importAlias
  | importRequireClause
  | abstractClassDeclaration
  | predefinedType
  | genericType
  | arrayType
  | tupleType
  | optionalType
  | restType
  | readonlyType
  | unionType
  | intersectionType
  | conditionalType
  | inferType
  | functionType
  | constructorType
  | parenthesizedType
  | typeQuery
  | indexTypeQuery
  | lookupType
  | literalType
  | templateLiteralType
  | templateType
  | thisType
  | existentialType
  | flowMaybeType
  | error
  deriving DecidableEq, Repr, Inhabited

def Kind.name : Kind → String
  | .program => "program"
  | .hashBangLine => "hash_bang_line"
  | .exportStatement => "export_statement"
  | .namespaceExport => "namespace_export"
  | .exportClause => "export_clause"
  | .exportSpecifier => "export_specifier"
  | .importWord => "import"
  | .importStatement => "import_statement"
  | .importClause => "import_clause"
  | .namespaceImport => "namespace_import"
  | .namedImports => "named_imports"
  | .importSpecifier => "import_specifier"
  | .importAttribute => "import_attribute"
  | .debuggerStatement => "debugger_statement"
  | .expressionStatement => "expression_statement"
  | .functionDeclaration => "function_declaration"
  | .generatorFunctionDeclaration => "generator_function_declaration"
  | .classDeclaration => "class_declaration"
  | .lexicalDeclaration => "lexical_declaration"
  | .variableDeclaration => "variable_declaration"
  | .variableDeclarator => "variable_declarator"
  | .statementBlock => "statement_block"
  | .elseClause => "else_clause"
  | .ifStatement => "if_statement"
  | .switchStatement => "switch_statement"
  | .forStatement => "for_statement"
  | .forInStatement => "for_in_statement"
  | .whileStatement => "while_statement"
  | .doStatement => "do_statement"
  | .tryStatement => "try_statement"
  | .withStatement => "with_statement"
  | .breakStatement => "break_statement"
  | .continueStatement => "continue_statement"
  | .returnStatement => "return_statement"
  | .throwStatement => "throw_statement"
  | .emptyStatement => "empty_statement"
  | .labeledStatement => "labeled_statement"
  | .statementIdentifier => "statement_identifier"
  | .switchBody => "switch_body"
  | .switchCase => "switch_case"
  | .switchDefault => "switch_default"
  | .catchClause => "catch_clause"
  | .finallyClause => "finally_clause"
  | .parenthesizedExpression => "parenthesized_expression"
  | .yieldExpression => "yield_expression"
  | .object => "object"
  | .pair => "pair"
  | .pairPattern => "pair_pattern"
  | .objectPattern => "object_pattern"
  | .assignmentPattern => "assignment_pattern"
  | .objectAssignmentPattern => "object_assignment_pattern"
  | .array => "array"
  | .arrayPattern => "array_pattern"
  | .shorthandPropertyIdentifier => "shorthand_property_identifier"
  | .shorthandPropertyIdentifierPattern => "shorthand_property_identifier_pattern"
  | .jsxElement => "jsx_element"
  | .jsxOpeningElement => "jsx_opening_element"
  | .jsxClosingElement => "jsx_closing_element"
  | .jsxSelfClosingElement => "jsx_self_closing_element"
  | .jsxExpression => "jsx_expression"
  | .jsxText => "jsx_text"
  | .jsxAttribute => "jsx_attribute"
  | .jsxNamespaceName => "jsx_namespace_name"
  | .htmlCharacterReference => "html_character_reference"
  | .identifier => "identifier"
  | .propertyIdentifier => "property_identifier"
  | .privatePropertyIdentifier => "private_property_identifier"
  | .classExpression => "class"
  | .classHeritage => "class_heritage"
  | .classBody => "class_body"
  | .classStaticBlock => "class_static_block"
  | .fieldDefinition => "field_definition"
  | .functionExpression => "function_expression"
  | .generatorFunction => "generator_function"
  | .arrowFunction => "arrow_function"
  | .optionalChain => "optional_chain"
  | .callExpression => "call_expression"
  | .newExpression => "new_expression"
  | .awaitExpression => "await_expression"
  | .memberExpression => "member_expression"
  | .subscriptExpression => "subscript_expression"
  | .assignmentExpression => "assignment_expression"
  | .augmentedAssignmentExpression => "augmented_assignment_expression"
  | .spreadElement => "spread_element"
  | .restPattern => "rest_pattern"
  | .ternaryExpression => "ternary_expression"
  | .binaryExpression => "binary_expression"
  | .unaryExpression => "unary_expression"
  | .updateExpression => "update_expression"
  | .sequenceExpression => "sequence_expression"
  | .string => "string"
  | .stringFragment => "string_fragment"
  | .escapeSequence => "escape_sequence"
  | .comment => "comment"
  | .htmlComment => "html_comment"
  | .templateString => "template_string"
  | .templateSubstitution => "template_substitution"
  | .regex => "regex"
  | .regexPattern => "regex_pattern"
  | .regexFlags => "regex_flags"
  | .number => "number"
  | .undefined => "undefined"
  | .thisWord => "this"
  | .superWord => "super"
  | .trueWord => "true"
  | .falseWord => "false"
  | .nullWord => "null"
  | .metaProperty => "meta_property"
  | .arguments => "arguments"
  | .decorator => "decorator"
  | .formalParameters => "formal_parameters"
  | .methodDefinition => "method_definition"
  | .computedPropertyName => "computed_property_name"
  | .publicFieldDefinition => "public_field_definition"
  | .nonNullExpression => "non_null_expression"
  | .asExpression => "as_expression"
  | .satisfiesExpression => "satisfies_expression"
  | .typeAssertion => "type_assertion"
  | .instantiationExpression => "instantiation_expression"
  | .typeArguments => "type_arguments"
  | .typeParameters => "type_parameters"
  | .typeParameter => "type_parameter"
  | .constraint => "constraint"
  | .defaultType => "default_type"
  | .typeAscription => "type_annotation"
  | .asserts => "asserts"
  | .assertsAscription => "asserts_annotation"
  | .typePredicate => "type_predicate"
  | .typePredicateAscription => "type_predicate_annotation"
  | .requiredParameter => "required_parameter"
  | .optionalParameter => "optional_parameter"
  | .accessibilityModifier => "accessibility_modifier"
  | .overrideModifier => "override_modifier"
  | .methodSignature => "method_signature"
  | .abstractMethodSignature => "abstract_method_signature"
  | .functionSignature => "function_signature"
  | .propertySignature => "property_signature"
  | .callSignature => "call_signature"
  | .constructSignature => "construct_signature"
  | .indexSignature => "index_signature"
  | .mappedTypeClause => "mapped_type_clause"
  | .omittingTypeAscription => "omitting_type_annotation"
  | .addingTypeAscription => "adding_type_annotation"
  | .optingTypeAscription => "opting_type_annotation"
  | .objectType => "object_type"
  | .interfaceBody => "interface_body"
  | .interfaceDeclaration => "interface_declaration"
  | .extendsTypeClause => "extends_type_clause"
  | .extendsClause => "extends_clause"
  | .implementsClause => "implements_clause"
  | .enumDeclaration => "enum_declaration"
  | .enumBody => "enum_body"
  | .enumAssignment => "enum_assignment"
  | .typeAliasDeclaration => "type_alias_declaration"
  | .ambientDeclaration => "ambient_declaration"
  | .moduleDeclaration => "module"
  | .internalModule => "internal_module"
  | .nestedIdentifier => "nested_identifier"
  | .nestedTypeIdentifier => "nested_type_identifier"
  | .typeIdentifier => "type_identifier"
  | .importAlias => "import_alias"
  | .importRequireClause => "import_require_clause"
  | .abstractClassDeclaration => "abstract_class_declaration"
  | .predefinedType => "predefined_type"
  | .genericType => "generic_type"
  | .arrayType => "array_type"
  | .tupleType => "tuple_type"
  | .optionalType => "optional_type"
  | .restType => "rest_type"
  | .readonlyType => "readonly_type"
  | .unionType => "union_type"
  | .intersectionType => "intersection_type"
  | .conditionalType => "conditional_type"
  | .inferType => "infer_type"
  | .functionType => "function_type"
  | .constructorType => "constructor_type"
  | .parenthesizedType => "parenthesized_type"
  | .typeQuery => "type_query"
  | .indexTypeQuery => "index_type_query"
  | .lookupType => "lookup_type"
  | .literalType => "literal_type"
  | .templateLiteralType => "template_literal_type"
  | .templateType => "template_type"
  | .thisType => "this_type"
  | .existentialType => "existential_type"
  | .flowMaybeType => "flow_maybe_type"
  | .error => "ERROR"

/-- Where a child stands in its parent; only the places that the analyses look up are marked. -/
inductive Role where
  | function
  | arguments
  | object
  | property
  | constructor
  | name
  | value
  | left
  | right
  | key
  deriving DecidableEq, Repr, Inhabited

end SiteSurvey.Script
