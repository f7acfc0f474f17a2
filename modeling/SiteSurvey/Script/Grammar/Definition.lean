import SiteSurvey.Script.Grammar.Types

set_option autoImplicit false

namespace SiteSurvey.Script.Grammar

open SiteSurvey.Script.Parser

/-- The head of a function: `async`, `function` and the star of a generator. -/
def functionHead : Parser Bool := do
  let _ ← maybe (wordHere "async")
  word "function"
  if ← atMark "*" then
    mark "*"
    pure true
  else pure false

def functionExpression (inner : Inner) : Parser Node := do
  let start ← pos
  let generator ← functionHead
  let name ← perhaps (one identifier)
  let signature ← callSignature inner
  let body ← inner .block
  close (if generator then .generatorFunction else .functionExpression) start
    (name.map (·.asRole .name) ++ signature ++ [body])

def functionDeclaration (inner : Inner) : Parser Node := do
  let start ← pos
  let generator ← functionHead
  let name ← identifier
  let signature ← callSignature inner
  let head := name.asRole .name :: signature
  if ← atMark "\x7b" then
    let body ← inner .block
    close (if generator then .generatorFunctionDeclaration else .functionDeclaration) start
      (head ++ [body])
  else
    whenTyped
    semicolon
    close .functionSignature start head

def arrowFunction (inner : Inner) (mode : Mode) : Parser Node := do
  let start ← pos
  let head : Parser (List Node) := do
    let c ← here
    if c.shape == .word then one identifier
    else
      let generic ← maybeTypeParameters inner
      let params ← parameters inner
      let result ← if mode.returns then maybeReturnType inner else pure []
      pure (generic ++ params :: result)
  let arrow : Parser (List Node) := do
    let children ← head
    guard !(← here).breaks
    mark "=>"
    pure children
  let children ← or (wordHere "async" *> arrow) arrow
  let body ← if ← atMark "\x7b" then inner .block else inner (.expression mode)
  close .arrowFunction start (children ++ [body])

def methodRest (inner : Inner) : Parser (List Node) := do
  let signature ← callSignature inner
  let body ← inner .block
  pure (signature ++ [body])

def objectMember (inner : Inner) : Parser Node := do
  if ← atMark "..." then spread inner
  else
    let start ← pos
    let _ ← maybe (modifier (word "async"))
    let _ ← maybe (or (mark "*") (modifier (oneWord ["get", "set"]) *> pure ()))
    let prefixed := start < (← pos)
    let c ← here
    let key ← propertyName inner
    if (← atMark "(") || ((← typed) && (← atMark "<")) then
      let rest ← methodRest inner
      close .methodDefinition start (key.asRole .name :: rest)
    else
      guard !prefixed
      if ← atMark ":" then
        mark ":"
        let value ← expression inner
        close .pair start [key.asRole .key, value.asRole .value]
      else
        guard (c.shape == .word && !reserved.contains c.head)
        pure (key.asKind .shorthandPropertyIdentifier)

def object (inner : Inner) : Parser Node :=
  node .object do
    mark "\x7b"
    let items ← commaPlaces (objectMember inner)
    mark "\x7d"
    pure items

def staticBlock (inner : Inner) : Parser Node :=
  node .classStaticBlock do
    word "static"
    let body ← inner .block
    pure [body]

def plainMember (inner : Inner) : Parser Node :=
  or (staticBlock inner) do
    let start ← pos
    let marks ← decorators inner
    let _ ← maybe (modifier (word "static"))
    let _ ← maybe (modifier (word "async"))
    let _ ← maybe (or (mark "*") (modifier (oneWord ["get", "set"]) *> pure ()))
    let name ← propertyName inner
    if ← atMark "(" then
      let rest ← methodRest inner
      let n ← close .methodDefinition start (marks ++ name.asRole .name :: rest)
      let _ ← maybe (mark ";")
      pure n
    else
      let value ← perhaps (initializer inner .plain)
      let n ← close .fieldDefinition start (marks ++ name.asRole .property :: value)
      semicolon
      pure n

def typedMember (inner : Inner) : Parser Node :=
  or (staticBlock inner) <|
  or (do
    let _ ← many (modifier (oneWord ["static", "declare", "public", "private", "protected"]))
    let n ← indexSignature inner
    or (mark ",") semicolon
    pure n) do
  let start ← pos
  let marks ← decorators inner
  let words ← many (do
    let at_ ← pos
    let w ← modifier (oneWord ["declare", "public", "private", "protected", "static", "override",
      "readonly", "abstract", "accessor", "async"])
    let n ← leaf (if w == "override" then .overrideModifier else .accessibilityModifier) at_
      (at_ + w.length)
    pure (w, n))
  let before := (words.filter fun (w, _) =>
    ["public", "private", "protected", "override"].contains w).map (·.2)
  let isAbstract := words.any (·.1 == "abstract")
  let _ ← maybe (or (mark "*") (modifier (oneWord ["get", "set"]) *> pure ()))
  let name ← propertyName inner
  let _ ← maybe (oneMark ["?", "!"])
  if (← atMark "(") || (← atMark "<") then
    let signature ← callSignature inner
    let children := before ++ name.asRole .name :: signature
    if ← atMark "\x7b" then
      let body ← inner .block
      let n ← close .methodDefinition start (marks ++ children ++ [body])
      let _ ← maybe (mark ";")
      pure n
    else
      let n ← close (if isAbstract then .abstractMethodSignature else .methodSignature) start
        (marks ++ children)
      or (mark ",") semicolon
      pure n
  else
    let type ← maybeAscription inner
    let value ← perhaps (initializer inner .plain)
    let n ← close .publicFieldDefinition start (marks ++ before ++ name.asRole .name :: type ++ value)
    or (mark ",") semicolon
    pure n

def classBody (inner : Inner) : Parser Node :=
  node .classBody do
    mark "\x7b"
    let isTyped ← typed
    let items ← many (or (mark ";" *> pure [])
      (one (if isTyped then typedMember inner else plainMember inner)))
    mark "\x7d"
    pure items.flatten

def classHeritage (inner : Inner) : Parser Node :=
  node .classHeritage do
    if ← typed then
      let extended ← perhaps (one (node .extendsClause do
        word "extends"
        let items ← commaSep (do
          let start ← pos
          let value ← inner .operand
          if ← atMark "<" then
            let args ← typeArguments inner
            close .genericType start [value.asRole .value, args]
          else pure (value.asRole .value))
        pure (items.flatMap fun n => if n.kind == .genericType then n.children else [n])))
      let implemented ← perhaps (one (node .implementsClause do
        word "implements"
        commaSep (inner .type)))
      guard !(extended.isEmpty && implemented.isEmpty)
      pure (extended ++ implemented)
    else
      word "extends"
      one (inner .operand)

/-- A class from the word `class` on; its name is needed where it is a declaration. -/
def classRest (inner : Inner) (named : Bool) : Parser (List Node) := do
  word "class"
  let name ←
    if named then one identifier
    else perhaps (do
      guard !((← atWord "implements") && (← typed))
      one identifier)
  let generic ← maybeTypeParameters inner
  let heritage ← perhaps (one (classHeritage inner))
  let body ← classBody inner
  pure (name.map (·.asRole .name) ++ generic ++ heritage ++ [body])

def classExpression (inner : Inner) : Parser Node := do
  let start ← pos
  let marks ← decorators inner
  let rest ← classRest inner false
  close .classExpression start (marks ++ rest)

def classDeclaration (inner : Inner) : Parser Node := do
  let start ← pos
  let marks ← decorators inner
  let isAbstract ← if (← typed) && (← atWord "abstract") then word "abstract" *> pure true
    else pure false
  let rest ← classRest inner true
  close (if isAbstract then .abstractClassDeclaration else .classDeclaration) start (marks ++ rest)

end SiteSurvey.Script.Grammar
