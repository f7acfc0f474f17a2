import SiteSurvey.Script.Grammar.Binding

set_option autoImplicit false

namespace SiteSurvey.Script.Grammar

open SiteSurvey.Script.Parser

def one (p : Parser Node) : Parser (List Node) :=
  (fun n => [n]) <$> p

def typeArguments (inner : Inner) : Parser Node :=
  node .typeArguments do
    angle '<'
    let items ← commaSep (inner .type)
    let _ ← maybe (mark ",")
    angle '>'
    pure items

def typeParameter (inner : Inner) : Parser Node :=
  node .typeParameter do
    let _ ← maybe (word "const")
    let _ ← maybe (modifier (word "in"))
    let _ ← maybe (modifier (word "out"))
    let name ← nameAs .typeIdentifier
    let bound ← perhaps (one (node .constraint do
      or (word "extends") (mark ":")
      let t ← inner .type
      pure [t]))
    let value ← perhaps (one (node .defaultType do
      mark "="
      let t ← inner .type
      pure [t]))
    pure (name :: bound ++ value)

def typeParameters (inner : Inner) : Parser Node :=
  node .typeParameters do
    angle '<'
    let items ← commaSep (typeParameter inner)
    let _ ← maybe (mark ",")
    angle '>'
    pure items

def maybeTypeParameters (inner : Inner) : Parser (List Node) := do
  if (← typed) && (← atMark "<") then one (typeParameters inner) else pure []

/-- A type `x is T`, the promise that a true answer gives about an argument. -/
def typePredicate (inner : Inner) : Parser Node :=
  node .typePredicate do
    let name ← or (wordAs .thisWord "this") identifier
    guard !(← here).breaks
    word "is"
    let t ← inner .type
    pure [name, t]

def asserts (inner : Inner) : Parser Node :=
  node .asserts do
    wordHere "asserts"
    let what ← or (typePredicate inner) (or (wordAs .thisWord "this") identifier)
    pure [what]

/-- The type of a result: a type, a predicate on an argument, or an assertion. -/
def returnType (inner : Inner) : Parser Node :=
  or (node .assertsAscription (mark ":" *> one (asserts inner)))
    (or (node .typePredicateAscription (mark ":" *> one (typePredicate inner))) (typeAscription inner))

def maybeReturnType (inner : Inner) : Parser (List Node) := do
  if (← typed) && (← atMark ":") then one (returnType inner) else pure []

def callSignature (inner : Inner) : Parser (List Node) := do
  let generic ← maybeTypeParameters inner
  let params ← parameters inner
  let result ← maybeReturnType inner
  pure (generic ++ params :: result)

def functionType (inner : Inner) : Parser Node :=
  node .functionType do
    let generic ← maybeTypeParameters inner
    let params ← parameters inner
    mark "=>"
    let result ← or (asserts inner) (or (typePredicate inner) (inner .type))
    pure (generic ++ [params, result])

def constructorType (inner : Inner) : Parser Node :=
  node .constructorType do
    let _ ← maybe (word "abstract")
    word "new"
    let generic ← maybeTypeParameters inner
    let params ← parameters inner
    mark "=>"
    let result ← inner .type
    pure (generic ++ [params, result])

/-- The clause of a mapped type: `K in T as U`. -/
def mappedClause (inner : Inner) : Parser Node :=
  node .mappedTypeClause do
    let name ← nameAs .typeIdentifier
    word "in"
    let t ← inner .type
    let renamed ← perhaps (word "as" *> one (inner .type))
    pure (name :: t :: renamed)

def indexSignature (inner : Inner) : Parser Node :=
  node .indexSignature do
    let _ ← maybe (do
      let _ ← maybe (oneMark ["-", "+"])
      word "readonly")
    mark "["
    let key ← or (do
      let name ← identifier
      mark ":"
      let t ← inner .type
      pure [name, t]) (one (mappedClause inner))
    mark "]"
    let value ←
      if ← atMark "-" then
        node .omittingTypeAscription do
          mark "-"
          mark "?"
          mark ":"
          one (inner .type)
      else if ← atMark "+" then
        node .addingTypeAscription do
          mark "+"
          mark "?"
          mark ":"
          one (inner .type)
      else if ← atMark "?" then
        node .optingTypeAscription do
          mark "?"
          mark ":"
          one (inner .type)
      else typeAscription inner
    pure (key ++ [value])

def memberModifiers : Parser (List Node) := do
  let parts ← many (or (one (modifier accessibility))
    (or (one (modifier (wordAs .overrideModifier "override")))
      (modifier (oneWord ["static", "readonly", "async", "get", "set"]) *> pure [])))
  pure parts.flatten

def typeMember (inner : Inner) : Parser Node :=
  or (indexSignature inner) <|
  or (node .constructSignature do
    let _ ← maybe (word "abstract")
    word "new"
    guard ((← atMark "(") || (← atMark "<"))
    callSignature inner) <|
  or (node .callSignature (do
    guard ((← atMark "(") || (← atMark "<"))
    callSignature inner)) <| do
  let start ← pos
  let before ← memberModifiers
  let name ← propertyName inner
  let _ ← maybe (mark "?")
  if (← atMark "(") || (← atMark "<") then
    let signature ← callSignature inner
    close .methodSignature start (before ++ name.asRole .name :: signature)
  else
    let type ← maybeAscription inner
    close .propertySignature start (before ++ name.asRole .name :: type)

def objectType (inner : Inner) (kind : Kind) : Parser Node :=
  node kind do
    mark "\x7b"
    let _ ← maybe (oneMark [",", ";"])
    let items ← many (do
      let m ← typeMember inner
      or (mark ",") semicolon
      pure m)
    mark "\x7d"
    pure items

def tupleMember (inner : Inner) : Parser Node :=
  or (do
    let start ← pos
    let name ← if ← atMark "..." then restPattern identifier else identifier
    let optional ← atMark "?"
    if optional then mark "?"
    let t ← typeAscription inner
    close (if optional then .optionalParameter else .requiredParameter) start [name.asRole .name, t]) <|
  or (node .restType do
    mark "..."
    one (inner .type)) <| do
  let start ← pos
  let t ← inner .type
  if ← atMark "?" then
    mark "?"
    close .optionalType start [t]
  else pure t

def tupleType (inner : Inner) : Parser Node :=
  node .tupleType do
    mark "["
    let items ← commaList (tupleMember inner)
    mark "]"
    pure items

def importCall : Parser Node := do
  let start ← pos
  let head ← wordAs .importWord "import"
  let args ← node .arguments do
    mark "("
    let s ← string
    mark ")"
    pure [s]
  close .callExpression start [head.asRole .function, args.asRole .arguments]

def valuePath (head : Parser Node) : Parser Node := do
  let start ← pos
  let first ← head
  grow first fun left => do
    mark "."
    let property ← or privateName (anyNameAs .propertyIdentifier)
    close .memberExpression start [left.asRole .object, property.asRole .property]

def typeQuery (inner : Inner) : Parser Node :=
  node .typeQuery do
    word "typeof"
    let path ← valuePath (or importCall (or (wordAs .thisWord "this") identifier))
    let args ← perhaps (do
      guard !(← here).breaks
      one (typeArguments inner))
    pure (path :: args)

def predefined : List String :=
  ["any", "number", "boolean", "string", "symbol", "void", "unknown", "never", "object"]

def namedType (inner : Inner) : Parser Node := do
  let start ← pos
  let c ← here
  let first ← nameAs .identifier
  let path ← grow [first] fun names => do
    mark "."
    let n ← anyNameAs .identifier
    pure (n :: names)
  let name ← match path with
    | [_] =>
        if predefined.contains c.head then pure (first.asKind .predefinedType)
        else pure (first.asKind .typeIdentifier)
    | [] => stop
    | last :: before => do
        let outer := before.reverse
        match outer with
        | [] => stop
        | n :: rest =>
            let module := rest.foldl (fun left right =>
              Node.node .nestedIdentifier none start right.stop left.row "" false
                [left.asRole .object, (right.asKind .propertyIdentifier).asRole .property]) n
            close .nestedTypeIdentifier start [module, (last.asKind .typeIdentifier).asRole .name]
  let c ← here
  if (← atMark "<") && !c.breaks then
    let args ← typeArguments inner
    close .genericType start [name.asRole .name, args]
  else pure name

def literalType : Parser Node :=
  node .literalType do
    let c ← here
    match c.shape with
    | .quote => one string
    | .number => one number
    | .mark =>
        one (node .unaryExpression do
          let _ ← oneMark ["-", "+"]
          one number)
    | .word =>
        match c.head with
        | "true" => one (wordAs .trueWord "true")
        | "false" => one (wordAs .falseWord "false")
        | "null" => one (wordAs .nullWord "null")
        | "undefined" => one (wordAs .undefined "undefined")
        | _ => stop
    | _ => stop

def templateLiteralType (inner : Inner) : Parser Node := do
  let c ← here
  guard (c.shape == .backtick)
  take (c.pos + 1)
  let parts ← templateParts false (inner .type)
  close .templateLiteralType c.pos parts

def primaryType (inner : Inner) : Parser Node := do
  let c ← here
  match c.shape with
  | .quote | .number => literalType
  | .backtick => templateLiteralType inner
  | .mark =>
      match c.head with
      | "(" =>
          node .parenthesizedType do
            mark "("
            let t ← inner .type
            mark ")"
            pure [t]
      | "[" => tupleType inner
      | "\x7b" => objectType inner .objectType
      | "*" =>
          mark "*"
          leaf .existentialType c.pos (c.pos + 1)
      | "?" =>
          node .flowMaybeType do
            mark "?"
            one (inner .type)
      | _ => literalType
  | .word =>
      match c.head with
      | "true" | "false" | "null" | "undefined" => literalType
      | "void" => wordAs .predefinedType "void"
      | "this" => wordAs .thisType "this"
      | "const" => wordAs .predefinedType "const"
      | "typeof" => typeQuery inner
      | "import" => do
          let start ← pos
          let path ← valuePath importCall
          if ← atMark "<" then
            let args ← typeArguments inner
            close .genericType start [path.asRole .name, args]
          else pure path
      | "infer" =>
          or (node .inferType do
            word "infer"
            let name ← nameAs .typeIdentifier
            let bound ← perhaps (do
              word "extends"
              let t ← inner .type
              guard !(← atMark "?")
              pure [t])
            pure (name :: bound)) (namedType inner)
      | "unique" =>
          or (node .predefinedType (word "unique" *> word "symbol" *> pure [])) (namedType inner)
      | _ => namedType inner
  | _ => stop

def postfixType (inner : Inner) : Parser Node := do
  let start ← pos
  let t ← primaryType inner
  grow t fun left => do
    guard !(← here).breaks
    mark "["
    if ← atMark "]" then
      mark "]"
      close .arrayType start [left]
    else
      let key ← inner .type
      mark "]"
      close .lookupType start [left, key]

def operatorType (inner : Inner) : Parser Node := do
  let words ← many (do
    let start ← pos
    let w ← oneWord ["readonly", "keyof"]
    let c ← here
    guard (c.shape == .word || c.shape == .quote || c.shape == .number || c.shape == .backtick ||
      (c.shape == .mark && ["(", "[", "\x7b"].contains c.head))
    pure (start, w))
  let t ← postfixType inner
  let s ← source
  pure (words.foldr (fun (start, w) t =>
    Node.node (if w == "readonly" then .readonlyType else .indexTypeQuery) none start t.stop
      (s.row start) "" false [t]) t)

/-- Alternatives or parts of a type with one mark between them, grouped to the left. -/
def chainType (kind : Kind) (m : String) (part : Parser Node) : Parser Node := do
  let start ← pos
  let first ←
    if ← atMark m then
      mark m
      let t ← part
      close kind start [t]
    else part
  grow first fun left => do
    mark m
    let right ← part
    close kind start [left, right]

def unionType (inner : Inner) : Parser Node :=
  chainType .unionType "|" (chainType .intersectionType "&"
    (or (functionType inner) (or (constructorType inner) (operatorType inner))))

def type (inner : Inner) : Parser Node := do
  let start ← pos
  let left ← unionType inner
  if (← atWord "extends") && !(← here).breaks then
    or (do
      word "extends"
      let right ← unionType inner
      mark "?"
      let yes ← inner .type
      mark ":"
      let no ← inner .type
      close .conditionalType start [left.asRole .left, right.asRole .right, yes, no]) (pure left)
  else pure left

end SiteSurvey.Script.Grammar
