import SiteSurvey.Script.Grammar.Literal

set_option autoImplicit false

namespace SiteSurvey.Script.Grammar

open SiteSurvey.Script.Parser

def typeAscription (inner : Inner) : Parser Node :=
  node .typeAscription do
    mark ":"
    let t ← inner .type
    pure [t]

def maybeAscription (inner : Inner) : Parser (List Node) := do
  if (← typed) && (← atMark ":") then
    let t ← typeAscription inner
    pure [t]
  else pure []

def spread (inner : Inner) : Parser Node :=
  node .spreadElement do
    mark "..."
    let e ← expression inner
    pure [e]

def arguments (inner : Inner) : Parser Node :=
  node .arguments do
    mark "("
    let items ← commaPlaces (do
      if ← atMark "..." then spread inner else expression inner)
    mark ")"
    pure items

/-- The name of a property: a word, a private name, a string, a number or a computed value. -/
def propertyName (inner : Inner) : Parser Node := do
  let c ← here
  match c.shape with
  | .word => anyNameAs .propertyIdentifier
  | .quote => string
  | .number => number
  | _ =>
      if ← atMark "[" then
        node .computedPropertyName do
          mark "["
          let e ← expression inner
          mark "]"
          pure [e]
      else privateName

def decorator (inner : Inner) : Parser Node :=
  node .decorator do
    mark "@"
    let start ← pos
    if ← atMark "(" then
      let e ← node .parenthesizedExpression do
        mark "("
        let e ← expressions inner
        mark ")"
        pure [e]
      pure [e]
    else
      let name ← identifier
      let path ← grow name fun left => do
        mark "."
        let property ← anyNameAs .propertyIdentifier
        close .memberExpression start [left.asRole .object, property.asRole .property]
      if ← atMark "(" then
        let args ← arguments inner
        let call ← close .callExpression start [path.asRole .function, args.asRole .arguments]
        pure [call]
      else pure [path]

def decorators (inner : Inner) : Parser (List Node) :=
  many (decorator inner)

def withDefault (inner : Inner) (pattern : Parser Node) : Parser Node := do
  let start ← pos
  let left ← pattern
  if ← atMark "=" then
    mark "="
    let right ← expression inner
    close .assignmentPattern start [left.asRole .left, right.asRole .right]
  else pure left

def restPattern (pattern : Parser Node) : Parser Node :=
  node .restPattern do
    mark "..."
    let p ← pattern
    pure [p]

def arrayPattern (inner : Inner) (element : Parser Node) : Parser Node :=
  node .arrayPattern do
    mark "["
    let items ← commaPlaces (do
      if ← atMark "..." then restPattern element else withDefault inner element)
    mark "]"
    pure items

def objectPatternMember (inner : Inner) (element : Parser Node) : Parser Node := do
  if ← atMark "..." then restPattern element
  else
    let start ← pos
    let c ← here
    let key ← propertyName inner
    if ← atMark ":" then
      mark ":"
      let value ← withDefault inner element
      close .pairPattern start [key.asRole .key, value.asRole .value]
    else
      guard (c.shape == .word && !reserved.contains c.head)
      let left := key.asKind .shorthandPropertyIdentifierPattern
      if ← atMark "=" then
        mark "="
        let right ← expression inner
        close .objectAssignmentPattern start [left.asRole .left, right.asRole .right]
      else pure left

def objectPattern (inner : Inner) (element : Parser Node) : Parser Node :=
  node .objectPattern do
    mark "\x7b"
    let items ← commaPlaces (objectPatternMember inner element)
    mark "\x7d"
    pure items

def destructuring (inner : Inner) (element : Parser Node) : Parser Node := do
  if ← atMark "[" then arrayPattern inner element else objectPattern inner element

def binding (inner : Inner) : Parser Node := do
  if (← atMark "[") || (← atMark "\x7b") then destructuring inner (inner .binding)
  else identifier

def target (inner : Inner) : Parser Node := do
  if (← atMark "[") || (← atMark "\x7b") then destructuring inner (inner .target)
  else
    let n ← inner .operand
    guard ([Kind.identifier, .undefined, .memberExpression, .subscriptExpression,
      .parenthesizedExpression, .nonNullExpression].contains n.kind)
    pure n

def accessibility : Parser Node := do
  let start ← pos
  let w ← oneWord ["public", "private", "protected"]
  leaf .accessibilityModifier start (start + w.length)

/-- Reads a modifier only where something else than the end of a member follows it. -/
def modifier {α : Type} (p : Parser α) : Parser α := do
  let a ← p
  let c ← here
  guard (c.shape != .finish && !(c.shape == .mark &&
    ["(", ":", "=", ";", ",", "\x7d", "?", "!", "<", ")"].contains c.head))
  pure a

def typedParameter (inner : Inner) : Parser Node := do
  let start ← pos
  let marks ← decorators inner
  let access ← perhaps ((fun n => [n]) <$> modifier accessibility)
  let overriding ← perhaps ((fun n => [n]) <$> modifier (wordAs .overrideModifier "override"))
  let _ ← maybe (modifier (word "readonly"))
  let pattern ←
    if ← atMark "..." then restPattern (inner .binding)
    else if ← atWord "this" then wordAs .thisWord "this"
    else inner .binding
  let optional ← atMark "?"
  if optional then mark "?"
  let type ← maybeAscription inner
  let value ← perhaps (initializer inner .plain)
  close (if optional then .optionalParameter else .requiredParameter) start
    (marks ++ access ++ overriding ++ pattern :: type ++ value)

def parameters (inner : Inner) : Parser Node :=
  node .formalParameters do
    mark "("
    let isTyped ← typed
    let items ← commaList (
      if isTyped then typedParameter inner
      else do
        if ← atMark "..." then restPattern (inner .binding)
        else withDefault inner (inner .binding))
    mark ")"
    pure items

end SiteSurvey.Script.Grammar
