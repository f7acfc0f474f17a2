import SiteSurvey.Pattern.Cursor
import SiteSurvey.Text.Integer
import SiteSurvey.Unicode.Identifier
import SiteSurvey.Unicode.Letter
import SiteSurvey.Unicode.Name

set_option autoImplicit false

namespace SiteSurvey.Pattern

namespace Reading

def isHex (c : Char) : Bool :=
  c.isDigit || ('a' ≤ c && c ≤ 'f') || ('A' ≤ c && c ≤ 'F')

def isOctal (c : Char) : Bool :=
  '0' ≤ c && c ≤ '7'

def hexNumber (cs : List Char) : Nat :=
  cs.foldl (fun n c =>
    n * 16 + (if c.isDigit then c.toNat - 0x30 else if 'a' ≤ c then c.toNat - 0x57 else c.toNat - 0x37)) 0

def octalNumber (cs : List Char) : Nat :=
  cs.foldl (fun n c => n * 8 + (c.toNat - 0x30)) 0

def decimalNumber (cs : List Char) : Nat :=
  cs.foldl (fun n c => n * 10 + (c.toNat - 0x30)) 0

def escapeText (cs : List Char) : String :=
  String.ofList ('\\' :: cs)

def control? (c : Char) : Option Nat :=
  match c with
  | 'a' => some 7
  | 'b' => some 8
  | 'f' => some 12
  | 'n' => some 10
  | 'r' => some 13
  | 't' => some 9
  | 'v' => some 11
  | '\\' => some 92
  | _ => none

def property? (c : Char) : Option Member :=
  match c with
  | 'd' => some (.property .digit false)
  | 'D' => some (.property .digit true)
  | 's' => some (.property .blank false)
  | 'S' => some (.property .blank true)
  | 'w' => some (.property .word false)
  | 'W' => some (.property .word true)
  | _ => none

def place? (c : Char) : Option Place :=
  match c with
  | 'A' => some .textStart
  | 'b' => some .boundary
  | 'B' => some .inner
  | 'Z' => some .textFinish
  | _ => none

def fixedHex (c : Char) (count : Nat) : Reading Nat := do
  let digits ← takeSome isHex count
  if digits.length != count then
    fail (.incompleteEscape (escapeText (c :: digits))) (digits.length + 2)
  else
    let n := hexNumber digits
    if 0x10FFFF < n then fail (.badEscape (escapeText (c :: digits))) (digits.length + 2)
    else return n

def namedPoint : Reading Nat := do
  if !(← skip '\x7b') then fail .missingBrace 0
  else
    let name := String.ofList (← takeUntil '\x7d' "character name")
    match Unicode.named? name with
    | some n => return n
    | none => fail (.unknownCharacter name) (name.length + 4)

def pointEscape? (c : Char) : Option (Reading Nat) :=
  match c with
  | 'x' => some (fixedHex c 2)
  | 'u' => some (fixedHex c 4)
  | 'U' => some (fixedHex c 8)
  | 'N' => some namedPoint
  | _ => none

/-- An escape without a meaning of its own stands for the character, which cannot be a letter or a
digit. -/
def plainEscape (c : Char) : Reading Nat :=
  if c.isAlphanum then fail (.badEscape (escapeText [c])) 2 else return c.toNat

def setEscape (c : Char) : Reading Member := do
  match control? c, property? c, pointEscape? c with
  | some n, _, _ => return .point n
  | none, some m, _ => return m
  | none, none, some read => return .point (← read)
  | none, none, none =>
      if isOctal c then
        let digits := c :: (← takeSome isOctal 2)
        let n := octalNumber digits
        if 0o377 < n then fail (.octalTooLarge (escapeText digits)) (digits.length + 1)
        else return .point n
      else return .point (← plainEscape c)

def reference (digits : List Char) : Reading Item := do
  let number := decimalNumber digits
  if number < (← groups) then
    if !(← isClosed number) then fail .openGroup (digits.length + 1)
    else
      checkLookbehind number
      return .same number
  else fail (.unknownGroup number) digits.length

/-- An escape that starts with a digit other than zero: three octal digits are a code point, and
anything else refers to a group. -/
def digitEscape (c : Char) : Reading Item := do
  match ← peek with
  | some (.plain d) =>
      if d.isDigit then
        advance
        match ← peek with
        | some (.plain e) =>
            if isOctal c && isOctal d && isOctal e then
              advance
              let n := octalNumber [c, d, e]
              if 0o377 < n then fail (.octalTooLarge (escapeText [c, d, e])) 4
              else return .literal n
            else reference [c, d]
        | _ => reference [c, d]
      else reference [c]
  | _ => reference [c]

def itemEscape (c : Char) : Reading Item := do
  match place? c, property? c, control? c, pointEscape? c with
  | some p, _, _, _ => return .place p
  | none, some m, _, _ => return .set false [m]
  | none, none, some n, _ => return .literal n
  | none, none, none, some read => return .literal (← read)
  | none, none, none, none =>
      if c == '0' then return .literal (octalNumber (c :: (← takeSome isOctal 2)))
      else if c.isDigit then digitEscape c
      else return .literal (← plainEscape c)

def setToken : Token → Reading Member
  | .escape c => setEscape c
  | .plain c => return .point c.toNat

def setMembers (start : Nat) : Nat → List Member → Reading (List Member)
  | 0, known => return known
  | fuel + 1, known => do
      match ← take with
      | none => fail .unterminatedSet ((← tell) - start)
      | some this =>
          if this == .plain ']' && !known.isEmpty then return known
          else
            let low ← setToken this
            if ← skip '-' then
              match ← take with
              | none => fail .unterminatedSet ((← tell) - start)
              | some that =>
                  if that == .plain ']' then return known ++ [low, .point '-'.toNat]
                  else
                    let high ← setToken that
                    let bad : Reading (List Member) :=
                      fail (.badRange this.text that.text) (this.chars.length + 1 + that.chars.length)
                    match low, high with
                    | .point l, .point h =>
                        if h < l then bad else setMembers start fuel (known ++ [.range l h])
                    | _, _ => bad
            else setMembers start fuel (known ++ [low])

/-- A set after its opening bracket. A set of one character is that character. -/
def characterSet : Reading Item := do
  let start := (← tell) - 1
  let negated ← skip '^'
  let members ← setMembers start (← bound) []
  match members.foldl Item.addMember [] with
  | [.point n] => return if negated then .except n else .literal n
  | distinct => return .set negated distinct

/-- The numbers of repetitions start to be too large here. -/
def repeatCeiling : Nat := 4294967295

/-- The bounds between braces, or nothing if what follows the opening brace is not of that form. -/
def braceBounds : Reading (Option (Nat × Option Nat)) := do
  let d ← get
  let start ← tell
  if (← peek) == some (.plain '\x7d') then return none
  else
    let low ← takeAll Char.isDigit
    let high ← if ← skip ',' then takeAll Char.isDigit else pure low
    if !(← skip '\x7d') then
      set d
      return none
    else
      let least := decimalNumber low
      let most := if high.isEmpty then none else some (decimalNumber high)
      if repeatCeiling ≤ least || repeatCeiling ≤ most.getD 0 then
        refuse { flaw := .repeatTooLarge, position := none }
      else if most.getD least < least then fail .boundsReversed ((← tell) - start)
      else return some (least, most)

def bounds (c : Char) : Reading (Option (Nat × Option Nat)) := do
  match c with
  | '?' => return some (0, some 1)
  | '*' => return some (0, none)
  | '+' => return some (1, none)
  | _ => braceBounds

def greed : Reading Greed := do
  if ← skip '?' then return .lazy
  else if ← skip '+' then return .possessive
  else return .greedy

/-- The items so far, in reverse, after a repetition of the last of them. `start` is the offset behind
the character that the repetition starts with. -/
def repeated (start : Nat) (least : Nat) (most : Option Nat) (items : List Item) :
    Reading (List Item) := do
  match items with
  | [] | .place _ :: _ => fail .nothingToRepeat ((← tell) - start + 1)
  | .loop _ _ _ _ :: _ => fail .repeatedRepeat ((← tell) - start + 1)
  | item :: before => return .loop (← greed) least most (.ofList item.unpacked) :: before

def letterFlag (c : Char) : Option Flags :=
  Flags.ofLetter? c

/-- A token that is no flag is called unknown if it is a letter. -/
def flagFlaw (t : Token) (otherwise : Flaw) : Flaw :=
  match t with
  | .plain c => if Unicode.isLetter c.toNat then .unknownFlag else otherwise
  | .escape _ => otherwise

def flagsOn : Nat → Char → Flags → Reading (Flags × Char)
  | 0, c, on => return (on, c)
  | fuel + 1, c, on => do
      if c == 'L' then fail .localeFlag 0
      else
        let on := on.union ((letterFlag c).getD .none)
        if on.ascii && on.unicode && (c == 'a' || c == 'u') then fail .clashingTypeFlags 0
        else
          match ← take with
          | none => fail .missingFlagsEnd 0
          | some (.plain d) =>
              if d == ')' || d == '-' || d == ':' then return (on, d)
              else if d == 'L' || (letterFlag d).isSome then flagsOn fuel d on
              else fail (flagFlaw (.plain d) .missingFlagsEnd) 1
          | some t => fail (flagFlaw t .missingFlagsEnd) t.chars.length

def flagsOff : Nat → Char → Flags → Reading Flags
  | 0, _, off => return off
  | fuel + 1, c, off => do
      if c == 'a' || c == 'u' || c == 'L' then fail .typeFlagOff 0
      else
        let off := off.union ((letterFlag c).getD .none)
        match ← take with
        | none => fail .missingColon 0
        | some (.plain d) =>
            if d == ':' then return off
            else if d == 'L' || (letterFlag d).isSome then flagsOff fuel d off
            else fail (flagFlaw (.plain d) .missingColon) 1
        | some t => fail (flagFlaw t .missingColon) t.chars.length

/-- The flags of a group, from their first character on: those for the whole pattern, which are
settled at once, or those that the group turns on and off. -/
def groupFlags (c : Char) : Reading (Option (Flags × Flags)) := do
  let (on, ending) ← if c == '-' then pure (Flags.none, '-') else flagsOn (← bound) c .none
  if ending == ')' then
    modify fun d => { d with flags := d.flags.union on }
    return none
  else if on.template then fail .globalFlagOn 1
  else
    let off ←
      if ending == '-' then
        match ← take with
        | none => fail .missingFlag 0
        | some (.plain d) =>
            if d == 'L' || (letterFlag d).isSome then flagsOff (← bound) d .none
            else fail (flagFlaw (.plain d) .missingFlag) 1
        | some t => fail (flagFlaw t .missingFlag) t.chars.length
      else pure .none
    if off.template then fail .globalFlagOff 1
    else if on.meets off then fail .flagOnAndOff 1
    else return some (on, off)

def isIdentifier (name : List Char) : Bool :=
  Unicode.isIdentifier (name.map Char.toNat)

def groupName (terminator : Char) : Reading String := do
  let name ← takeUntil terminator "group name"
  if isIdentifier name then return String.ofList name
  else fail (.badGroupName (String.ofList name)) (name.length + 1)

def numberOf? (name : String) : Reading (Option Nat) := do
  return ((← get).names.find? fun n => n.1 == name).map (·.2)

def namedReference : Reading Item := do
  let name ← groupName ')'
  match ← numberOf? name with
  | none => fail (.unknownGroupName name) (name.length + 1)
  | some number =>
      if !(← isClosed number) then fail .openGroup (name.length + 1)
      else
        checkLookbehind number
        return .same number

/-- Numbers of groups start to be too large here. -/
def groupCeiling : Nat := 1073741823

def conditionGroup : Reading Nat := do
  let name ← takeUntil ')' "group name"
  let back := name.length + 1
  if isIdentifier name then
    match ← numberOf? (String.ofList name) with
    | none => fail (.unknownGroupName (String.ofList name)) back
    | some number => return number
  else
    match Text.integer (Text.ofChars name) with
    | .ok (.ofNat 0) => fail .groupZero back
    | .ok (.ofNat number) =>
        if groupCeiling ≤ number then fail (.unknownGroup number) back
        else
          let at_ := (← tell) - back
          modify fun d =>
            if d.conditions.any fun c => c.1 == number then d
            else { d with conditions := d.conditions ++ [(number, at_)] }
          return number
    | _ => fail (.badGroupName (String.ofList name)) back

def isVerboseBlank (c : Char) : Bool :=
  c == ' ' || c == '\t' || c == '\n' || c == '\r' || c.toNat == 11 || c.toNat == 12

inductive Opening where
  | capture (name : Option String)
  | plain (on off : Flags)
  | atomic
  | look (ahead negated : Bool)
  | condition
  | finished (item : Option Item)
  | settled

def opening (start : Nat) : Reading Opening := do
  if !(← skip '?') then return .capture none
  else
    match ← take with
    | none => fail .unexpectedEnd 0
    | some t =>
        match t with
        | .plain 'P' =>
            if ← skip '<' then return .capture (some (← groupName '>'))
            else if ← skip '=' then return .finished (some (← namedReference))
            else
              match ← take with
              | none => fail .unexpectedEnd 0
              | some u => fail (.unknownExtension ("P" ++ u.text)) (u.chars.length + 2)
        | .plain ':' => return .plain .none .none
        | .plain '#' =>
            if ← skipPast ')' (← bound) then return .finished none
            else fail .unterminatedComment ((← tell) - start)
        | .plain '=' => return .look true false
        | .plain '!' => return .look true true
        | .plain '<' =>
            match ← take with
            | none => fail .unexpectedEnd 0
            | some (.plain '=') => return .look false false
            | some (.plain '!') => return .look false true
            | some u => fail (.unknownExtension ("<" ++ u.text)) (u.chars.length + 2)
        | .plain '(' => return .condition
        | .plain '>' => return .atomic
        | .plain c =>
            if c == '-' || c == 'L' || (letterFlag c).isSome then
              match ← groupFlags c with
              | none => return .settled
              | some (on, off) => return .plain on off
            else fail (.unknownExtension t.text) 2
        | .escape _ => fail (.unknownExtension t.text) 3

def closing (start : Nat) : Reading Unit := do
  if !(← skip ')') then fail .unterminatedGroup ((← tell) - start)

mutual

/-- Alternatives from one of them on. Those of the whole pattern are verbose as its flags say. -/
def alternatives (whole : Bool) : Nat → Bool → List (List Item) → Reading Item
  | 0, _, _ => return .empty
  | fuel + 1, verbose, before => do
      let items ← sequence (whole && before.isEmpty) fuel verbose []
      if ← skip '|' then
        let flags := (← get).flags
        alternatives whole fuel (if whole then flags.verbose else verbose) (before ++ [items])
      else return .ofList (Item.branch (before ++ [items]))

/-- Items up to the end of an alternative, after some that are given in reverse. `first` says that
nothing at all stands before them. -/
def sequence (first : Bool) : Nat → Bool → List Item → Reading (List Item)
  | 0, _, items => return items.reverse.flatMap Item.unpacked
  | fuel + 1, verbose, items => do
      let done : Reading (List Item) := return items.reverse.flatMap Item.unpacked
      match ← peek with
      | none => done
      | some (.plain '|') | some (.plain ')') => done
      | some this =>
          advance
          match this with
          | .escape c => sequence first fuel verbose ((← itemEscape c) :: items)
          | .plain c =>
              if verbose && isVerboseBlank c then sequence first fuel verbose items
              else if verbose && c == '#' then
                let _ ← skipPast '\n' (← bound)
                sequence first fuel verbose items
              else
                match c with
                | '[' => sequence first fuel verbose ((← characterSet) :: items)
                | '.' => sequence first fuel verbose (.any :: items)
                | '^' => sequence first fuel verbose (.place .lineStart :: items)
                | '$' => sequence first fuel verbose (.place .lineFinish :: items)
                | '*' | '+' | '?' | '\x7b' =>
                    let start ← tell
                    match ← bounds c with
                    | none => sequence first fuel verbose (.literal c.toNat :: items)
                    | some (least, most) =>
                        sequence first fuel verbose (← repeated start least most items)
                | '(' =>
                    let start := (← tell) - 1
                    match ← opening start with
                    | .finished none => sequence first fuel verbose items
                    | .finished (some item) => sequence first fuel verbose (item :: items)
                    | .settled =>
                        if first && items.isEmpty then
                          sequence first fuel (← get).flags.verbose items
                        else fail .lateFlags ((← tell) - start)
                    | o => sequence first fuel verbose ((← group start fuel verbose o) :: items)
                | _ => sequence first fuel verbose (.literal c.toNat :: items)

def group (start : Nat) : Nat → Bool → Opening → Reading Item
  | 0, _, _ => return .empty
  | fuel + 1, verbose, o => do
      match o with
      | .capture name =>
          let number ← openGroup name
          let body ← alternatives false fuel verbose []
          closing start
          closeGroup number body
          return .group (some number) .none .none body
      | .plain on off =>
          let body ← alternatives false fuel ((verbose || on.verbose) && !off.verbose) []
          closing start
          return .group none on off body
      | .atomic =>
          let body ← alternatives false fuel verbose []
          closing start
          return .atomic body
      | .look ahead negated =>
          let outer := (← get).lookbehind
          if !ahead && outer.isNone then
            modify fun d => { d with lookbehind := some d.widths.length }
          let body ← alternatives false fuel verbose []
          if !ahead && outer.isNone then
            modify fun d => { d with lookbehind := none }
          closing start
          return .look ahead negated body
      | .condition =>
          let number ← conditionGroup
          checkLookbehind number
          let yes ← sequence false fuel verbose []
          let no ←
            if ← skip '|' then
              let no ← sequence false fuel verbose []
              if (← peek) == some (.plain '|') then fail .tooManyBranches 0 else pure no
            else pure []
          closing start
          return .whether number (.ofList yes) (.ofList no)
      | .finished _ | .settled => return .empty

end

def whole (verbose : Bool) (fuel : Nat) : Reading Item := do
  let item ← alternatives true fuel verbose []
  if (← get).flags.ascii && (← get).flags.unicode then
    refuse { flaw := .asciiAndUnicode, position := none }
  else
    match ← peek with
    | some _ => fail .unbalanced 0
    | none =>
        let d ← get
        match d.conditions.find? fun c => d.widths.length ≤ c.1 with
        | some (number, at_) => refuse { flaw := .unknownGroup number, position := some at_ }
        | none => return item

end Reading

/-- Reads a pattern. The answer is the item and the draft it leaves, with the flags and the groups. -/
def readPattern (flags : Flags) (pattern : List Char) : Except Problem (Item × Draft) := do
  let cursor ← Reading.step { next := none, rest := pattern, index := 0 }
  let start : Draft :=
    { cursor, flags, names := [], widths := [none], lookbehind := none, conditions := [] }
  (Reading.whole flags.verbose (6 * pattern.length + 16)).run start

end SiteSurvey.Pattern
