import SiteSurvey.Script.Grammar.Expression

set_option autoImplicit false

namespace SiteSurvey.Script.Grammar

open SiteSurvey.Script.Parser

def block (inner : Inner) : Parser Node :=
  node .statementBlock do
    mark "\x7b"
    let items ← many (inner .statement)
    mark "\x7d"
    pure items

def declarator (inner : Inner) (mode : Mode) : Parser Node :=
  node .variableDeclarator do
    let name ← binding inner
    let isTyped ← typed
    if isTyped && (← atMark "!") then
      mark "!"
      let type ← typeAscription inner
      pure [name.asRole .name, type]
    else
      let type ← maybeAscription inner
      let value ← perhaps (initializer inner mode)
      pure (name.asRole .name :: type ++ value)

def declarators (inner : Inner) (mode : Mode) : Parser (Kind × List Node) := do
  let w ← oneWord ["var", "let", "const"]
  let items ← commaSep (declarator inner mode)
  pure (if w == "var" then .variableDeclaration else .lexicalDeclaration, items)

def variableList (inner : Inner) : Parser Node := do
  let start ← pos
  let (kind, items) ← declarators inner .plain
  semicolon
  close kind start items

def atLet : Parser Bool :=
  ahead (do
    word "let"
    let c ← here
    guard ((c.shape == .word && c.head != "in" && c.head != "instanceof") ||
      (c.shape == .mark && (c.head == "[" || c.head == "\x7b"))))

def condition (inner : Inner) : Parser Node :=
  node .parenthesizedExpression do
    mark "("
    let e ← expressions inner
    mark ")"
    pure [e]

def ifStatement (inner : Inner) : Parser Node :=
  node .ifStatement do
    word "if"
    let test ← condition inner
    let yes ← inner .statement
    let no ← perhaps (one (node .elseClause do
      word "else"
      one (inner .statement)))
    pure (test :: yes :: no)

def overHead (inner : Inner) : Parser (List Node) := do
  let side : Parser (List Node) := do
    if (← atWord "var") || (← atWord "const") || (← atLet) then
      let w ← oneWord ["var", "let", "const"]
      let left ← binding inner
      let type ← maybeAscription inner
      let value ← if w == "var" then perhaps (initializer inner { Mode.plain with relations := false })
        else pure []
      pure (left.asRole .left :: type ++ value)
    else if (← atMark "[") || (← atMark "\x7b") then
      or (do
        let left ← destructuring inner (inner .target)
        guard ((← atWord "in") || (← atWord "of"))
        pure [left.asRole .left]) ((fun n => [n.asRole .left]) <$> target inner)
    else (fun n => [n.asRole .left]) <$> target inner
  mark "("
  let left ← side
  let w ← oneWord ["in", "of"]
  let right ← if w == "in" then expressions inner else expressions inner
  mark ")"
  pure (left ++ [right.asRole .right])

/-- A semicolon that stands for a missing part of a loop's head. -/
def emptyPart : Parser Node :=
  node .emptyStatement (mark ";" *> pure [])

def forStatement (inner : Inner) : Parser Node := do
  let start ← pos
  word "for"
  let waits ← maybe (word "await")
  or (do
    let head ← overHead inner
    let body ← inner .statement
    close .forInStatement start (head ++ [body])) do
  guard waits.isNone
  mark "("
  let initial ←
    if ← atMark ";" then emptyPart
    else if (← atWord "var") || (← atWord "const") || (← atLet) then do
      let at_ ← pos
      let (kind, items) ← declarators inner .plain
      mark ";"
      close kind at_ items
    else do
      let e ← expressions inner
      mark ";"
      pure e
  let test ←
    if ← atMark ";" then emptyPart
    else do
      let e ← expressions inner
      mark ";"
      pure e
  let next ← if ← atMark ")" then pure [] else one (expressions inner)
  mark ")"
  let body ← inner .statement
  close .forStatement start (initial :: test :: next ++ [body])

def doStatement (inner : Inner) : Parser Node :=
  node .doStatement do
    word "do"
    let body ← inner .statement
    word "while"
    let test ← condition inner
    let _ ← maybe (mark ";")
    pure [body, test]

def switchBody (inner : Inner) : Parser Node :=
  node .switchBody do
    mark "\x7b"
    let cases ← many (or (node .switchCase do
      word "case"
      let value ← expressions inner
      mark ":"
      let body ← many (inner .statement)
      pure (value.asRole .value :: body)) (node .switchDefault do
      word "default"
      mark ":"
      many (inner .statement)))
    mark "\x7d"
    pure cases

def tryStatement (inner : Inner) : Parser Node :=
  node .tryStatement do
    word "try"
    let body ← inner .block
    let handler ← perhaps (one (node .catchClause do
      word "catch"
      let parameter ← perhaps (do
        mark "("
        let p ← binding inner
        let type ← maybeAscription inner
        mark ")"
        pure (p :: type))
      let body ← inner .block
      pure (parameter ++ [body])))
    let final ← perhaps (one (node .finallyClause do
      word "finally"
      one (inner .block)))
    pure (body :: handler ++ final)

/-- Statements `break` and `continue`, with the label they may name. -/
def jump (kind : Kind) (w : String) : Parser Node :=
  node kind do
    word w
    let label ← if (← here).breaks then pure [] else perhaps (one (nameAs .statementIdentifier))
    semicolon
    pure label

def returnStatement (inner : Inner) : Parser Node :=
  node .returnStatement do
    word "return"
    or (do
      if (← here).breaks then
        semicolon
        pure []
      else stop) <|
    or (do
      let e ← expressions inner
      semicolon
      pure [e]) (semicolon *> pure [])

def exportName : Parser Node := do
  let c ← here
  if c.shape == .quote then string else anyNameAs .identifier

def fromClause : Parser Node := do
  word "from"
  string

/-- Attributes `with { … }` behind the name of a module. -/
def importAttributes (inner : Inner) : Parser (List Node) :=
  perhaps (one (node .importAttribute do
    or (word "with") (wordHere "assert")
    one (object inner)))

def specifier (kind : Kind) : Parser Node :=
  node kind do
    let _ ← maybe (do
      whenTyped
      let _ ← oneWord ["type", "typeof"]
      let c ← here
      guard ((c.shape == .word && c.head != "as") || c.shape == .quote))
    let name ← exportName
    let renamed ← perhaps (word "as" *> one exportName)
    pure (name.asRole .name :: renamed)

def namespaceImport : Parser Node :=
  node .namespaceImport do
    mark "*"
    word "as"
    one identifier

def namedImports : Parser Node :=
  node .namedImports do
    mark "\x7b"
    let items ← commaList (specifier .importSpecifier)
    mark "\x7d"
    pure items

def importClause : Parser Node :=
  node .importClause (
    or (one namespaceImport) <|
    or (one namedImports) do
    let name ← identifier
    let more ← perhaps (mark "," *> one (or namespaceImport namedImports))
    pure (name :: more))

def importStatement (inner : Inner) : Parser Node :=
  node .importStatement do
    word "import"
    let body : Parser (List Node) :=
      or (one string) <|
      or (do
        let clause ← importClause
        let origin ← fromClause
        pure [clause, origin]) do
      whenTyped
      let clause ← node .importRequireClause do
        let name ← identifier
        mark "="
        word "require"
        mark "("
        let origin ← string
        mark ")"
        pure [name, origin]
      pure [clause]
    let children ← or (do
      whenTyped
      let _ ← oneWord ["type", "typeof"]
      guard !(← atWord "from")
      body) body
    let attributes ← importAttributes inner
    semicolon
    pure (children ++ attributes)

def nestedName : Parser Node := do
  let start ← pos
  let first ← identifier
  grow first fun left => do
    mark "."
    let property ← anyNameAs .propertyIdentifier
    close .nestedIdentifier start [left.asRole .object, property.asRole .property]

def importAlias : Parser Node :=
  node .importAlias do
    word "import"
    let _ ← maybe (do
      word "type"
      guard !(← atMark "="))
    let name ← identifier
    mark "="
    let path ← nestedName
    semicolon
    pure [name, path]

def exportClause : Parser Node :=
  node .exportClause do
    mark "\x7b"
    let items ← commaList (specifier .exportSpecifier)
    mark "\x7d"
    pure items

def enumDeclaration (inner : Inner) : Parser Node :=
  node .enumDeclaration do
    let _ ← maybe (word "const")
    word "enum"
    let name ← identifier
    let body ← node .enumBody do
      mark "\x7b"
      let items ← commaList (do
        let start ← pos
        let member ← propertyName inner
        if ← atMark "=" then
          let value ← initializer inner .plain
          close .enumAssignment start (member.asRole .name :: value)
        else pure (member.asRole .name))
      mark "\x7d"
      pure items
    pure [name.asRole .name, body]

def interfaceDeclaration (inner : Inner) : Parser Node :=
  node .interfaceDeclaration do
    word "interface"
    let name ← nameAs .typeIdentifier
    let generic ← maybeTypeParameters inner
    let extended ← perhaps (one (node .extendsTypeClause do
      word "extends"
      commaSep (inner .type)))
    let body ← objectType inner .interfaceBody
    pure (name.asRole .name :: generic ++ extended ++ [body])

def typeAlias (inner : Inner) : Parser Node :=
  node .typeAliasDeclaration do
    word "type"
    let name ← nameAs .typeIdentifier
    let generic ← maybeTypeParameters inner
    mark "="
    let value ← inner .type
    semicolon
    pure (name.asRole .name :: generic ++ [value.asRole .value])

def moduleDeclaration (inner : Inner) : Parser Node := do
  let start ← pos
  let w ← oneWord ["module", "namespace"]
  let c ← here
  guard !c.breaks
  let name ← if c.shape == .quote then string else nestedName
  let body ← perhaps (one (inner .block))
  guard (!body.isEmpty || c.shape == .quote)
  if body.isEmpty then semicolon
  close (if w == "module" then .moduleDeclaration else .internalModule) start
    (name.asRole .name :: body)

/-- The declarations that only a language with types has. -/
def typedDeclaration (inner : Inner) : Parser Node := do
  whenTyped
  let c ← here
  guard (c.shape == .word)
  match c.head with
  | "interface" => interfaceDeclaration inner
  | "type" => typeAlias inner
  | "enum" | "const" => enumDeclaration inner
  | "abstract" => classDeclaration inner
  | "module" | "namespace" => moduleDeclaration inner
  | "import" => importAlias
  | "declare" =>
      node .ambientDeclaration do
        wordHere "declare"
        if ← atWord "global" then
          word "global"
          one (inner .block)
        else one (inner .statement)
  | _ => stop

def declaration (inner : Inner) : Parser Node :=
  or (typedDeclaration inner) do
    let c ← here
    if c.shape == .mark && c.head == "@" then classDeclaration inner
    else
      guard (c.shape == .word)
      match c.head with
      | "function" => functionDeclaration inner
      | "async" => functionDeclaration inner
      | "class" => classDeclaration inner
      | "var" | "const" => variableList inner
      | "let" =>
          guard (← atLet)
          variableList inner
      | _ => stop

def exportStatement (inner : Inner) : Parser Node :=
  node .exportStatement do
    let marks ← decorators inner
    word "export"
    let rest : Parser (List Node) :=
      or (do
        mark "*"
        let origin ← fromClause
        let attributes ← importAttributes inner
        semicolon
        pure (origin :: attributes)) <|
      or (do
        let all ← node .namespaceExport do
          mark "*"
          word "as"
          one exportName
        let origin ← fromClause
        let attributes ← importAttributes inner
        semicolon
        pure (all :: origin :: attributes)) <|
      or (do
        let _ ← maybe (do
          whenTyped
          word "type")
        let clause ← exportClause
        let origin ← perhaps (do
          let origin ← fromClause
          let attributes ← importAttributes inner
          pure (origin :: attributes))
        semicolon
        pure (clause :: origin)) <|
      or (do
        word "default"
        or (one (declaration inner)) do
          let e ← expression inner
          semicolon
          pure [e.asRole .value]) <|
      or (do
        whenTyped
        mark "="
        let e ← expression inner
        semicolon
        pure [e]) <|
      or (do
        whenTyped
        word "as"
        word "namespace"
        let name ← identifier
        semicolon
        pure [name]) (one (declaration inner))
    let children ← rest
    pure (marks ++ children)

def labeledStatement (inner : Inner) : Parser Node :=
  node .labeledStatement do
    let label ← nameAs .statementIdentifier
    mark ":"
    let body ← inner .statement
    pure [label, body]

def expressionStatement (inner : Inner) : Parser Node :=
  node .expressionStatement do
    let e ← expressions inner
    semicolon
    pure [e]

/-- A comment in the manner of markup, which may stand before a statement. -/
def markupRemark : Parser Node := do
  let c ← here
  let s ← source
  guard (s.startsWith c.pos "<!--".toList || s.startsWith c.pos "-->".toList)
  let j := s.spanWhile (fun c => !isBreak c && c != '\r') c.pos
  take j
  leaf .htmlComment c.pos j

def statement (inner : Inner) : Parser Node := do
  let c ← here
  match c.shape with
  | .mark =>
      match c.head with
      | "\x7b" => or (block inner) (expressionStatement inner)
      | ";" => emptyPart
      | "@" => or (exportStatement inner) (declaration inner)
      | _ => or (expressionStatement inner) markupRemark
  | .word =>
      match c.head with
      | "if" => ifStatement inner
      | "for" => forStatement inner
      | "while" =>
          node .whileStatement do
            word "while"
            let test ← condition inner
            let body ← inner .statement
            pure [test, body]
      | "do" => doStatement inner
      | "switch" =>
          node .switchStatement do
            word "switch"
            let value ← condition inner
            let body ← switchBody inner
            pure [value.asRole .value, body]
      | "try" => tryStatement inner
      | "with" =>
          node .withStatement do
            word "with"
            let value ← condition inner
            let body ← inner .statement
            pure [value.asRole .object, body]
      | "break" => jump .breakStatement "break"
      | "continue" => jump .continueStatement "continue"
      | "return" => returnStatement inner
      | "throw" =>
          node .throwStatement do
            word "throw"
            let e ← expressions inner
            semicolon
            pure [e]
      | "debugger" =>
          node .debuggerStatement do
            word "debugger"
            semicolon
            pure []
      | "import" =>
          or (importStatement inner) (or (typedDeclaration inner) (expressionStatement inner))
      | "export" => exportStatement inner
      | "function" | "class" | "var" | "const" => declaration inner
      | _ => or (labeledStatement inner) (or (declaration inner) (expressionStatement inner))
  | _ => expressionStatement inner

end SiteSurvey.Script.Grammar
