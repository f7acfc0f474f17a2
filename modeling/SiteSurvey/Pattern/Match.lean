import SiteSurvey.Pattern.Regex

set_option autoImplicit false

namespace SiteSurvey.Pattern

/-- How far a match has come: its place in the text, and where each group begins and ends. The marks
of group `n` are at `2 * n` and `2 * n + 1`. -/
structure State where
  position : Nat
  marks : Array (Option Nat)
  deriving DecidableEq, Repr, Inhabited

namespace State

def forward (st : State) (n : Nat) : State :=
  { st with position := st.position + n }

def mark (st : State) (i : Nat) : State :=
  { st with marks := st.marks.setIfInBounds i (some st.position) }

def span? (st : State) (group : Nat) : Option (Nat × Nat) :=
  match st.marks[2 * group]?, st.marks[2 * group + 1]? with
  | some (some start), some (some stop) => if start ≤ stop then some (start, stop) else none
  | _, _ => none

end State

/-- What remains to be matched, as a function of how far the match has come. -/
abbrev Goal := State → Option State

def codeAt (text : Array Char) (i : Nat) : Option Nat :=
  text[i]?.map Char.toNat

def isWordAt (ascii : Bool) (text : Array Char) (i : Nat) : Bool :=
  match codeAt text i with
  | some n => Property.word.holds ascii n
  | none => false

def isWordBefore (ascii : Bool) (text : Array Char) (i : Nat) : Bool :=
  0 < i && isWordAt ascii text (i - 1)

def isLineFeedAt (text : Array Char) (i : Nat) : Bool :=
  codeAt text i == some 10

/-- An offset of a text is at a spot. An empty text has neither boundaries nor places inside of words
or gaps. -/
def Spot.holds (text : Array Char) (i : Nat) : Spot → Bool
  | textStart => i == 0
  | lineStart => i == 0 || isLineFeedAt text (i - 1)
  | textFinish => i == text.size
  | lineFinish => i == text.size || isLineFeedAt text i
  | lastLineFinish => i == text.size || (i + 1 == text.size && isLineFeedAt text i)
  | boundary ascii => text.size != 0 && isWordBefore ascii text i != isWordAt ascii text i
  | inner ascii => text.size != 0 && isWordBefore ascii text i == isWordAt ascii text i

def allows (most : Option Nat) (count : Nat) : Bool :=
  match most with
  | none => true
  | some n => count < n

/-- Repeats as often as possible before going on. A repetition past the least number begins only where
the one before did not begin. -/
def greedyLoop (body : State → Goal → Option State) (least : Nat) (most : Option Nat) (next : Goal) :
    Nat → Nat → Option Nat → State → Option State
  | 0, _, _, st => next st
  | fuel + 1, count, last, st =>
      if count < least then body st (greedyLoop body least most next fuel (count + 1) last)
      else
        let more :=
          if allows most count && last != some st.position then
            body st (greedyLoop body least most next fuel (count + 1) (some st.position))
          else none
        match more with
        | some answer => some answer
        | none => next st

def lazyLoop (body : State → Goal → Option State) (least : Nat) (most : Option Nat) (next : Goal) :
    Nat → Nat → Option Nat → State → Option State
  | 0, _, _, st => next st
  | fuel + 1, count, last, st =>
      if count < least then body st (lazyLoop body least most next fuel (count + 1) last)
      else
        match next st with
        | some answer => some answer
        | none =>
            if allows most count && last != some st.position then
              body st (lazyLoop body least most next fuel (count + 1) (some st.position))
            else none

def possessiveLoop (body : State → Goal → Option State) (least : Nat) (most : Option Nat) :
    Nat → Nat → Option Nat → State → Option State
  | 0, _, _, st => some st
  | fuel + 1, count, last, st =>
      if count < least then
        match body st some with
        | some st' => possessiveLoop body least most fuel (count + 1) last st'
        | none => none
      else if allows most count && last != some st.position then
        match body st some with
        | some st' => possessiveLoop body least most fuel (count + 1) (some st.position) st'
        | none => some st
      else some st

def runLength (text : Array Char) (c : Class) (most : Option Nat) : Nat → Nat → Nat → Nat
  | 0, _, count => count
  | fuel + 1, i, count =>
      match codeAt text i with
      | some n =>
          if allows most count && c.holds n then runLength text c most fuel (i + 1) (count + 1) else count
      | none => count

/-- Goes on after so many characters, or after fewer, but not after fewer than the least. -/
def backOff (next : Goal) (st : State) (least : Nat) : Nat → Option State
  | 0 => next st
  | n + 1 =>
      match next (st.forward (n + 1)) with
      | some answer => some answer
      | none => if least ≤ n then backOff next st least n else none

/-- Goes on after so many characters, or after more of those that follow. -/
def stretch (next : Goal) (st : State) (longest : Nat) : Nat → Nat → Option State
  | 0, _ => none
  | fuel + 1, n =>
      match next (st.forward n) with
      | some answer => some answer
      | none => if n < longest then stretch next st longest fuel (n + 1) else none

def characterLoop (text : Array Char) (c : Class) (greed : Greed) (least : Nat) (most : Option Nat)
    (next : Goal) (st : State) : Option State :=
  let longest := runLength text c most (text.size - st.position) st.position 0
  if longest < least then none
  else
    match greed with
    | .greedy => backOff next st least longest
    | .lazy => stretch next st longest (longest - least + 1) least
    | .possessive => next (st.forward longest)

def sameText (text : Array Char) (fold : Fold) (i : Nat) : Nat → Nat → Bool
  | _, 0 => true
  | j, n + 1 =>
      match codeAt text i, codeAt text j with
      | some a, some b => fold.apply a == fold.apply b && sameText text fold (i + 1) (j + 1) n
      | _, _ => false
  termination_by _ n => n

/-- Matches a pattern from where a match has come to, and then what remains. Of all ways to do so the
first one is taken, in the order of preference that the pattern gives. -/
def Regex.match (text : Array Char) : Regex → State → Goal → Option State
  | empty, st, next => next st
  | sequence first rest, st, next => first.match text st fun st' => rest.match text st' next
  | either first second, st, next =>
      match first.match text st next with
      | some answer => some answer
      | none => second.match text st next
  | character c, st, next =>
      match codeAt text st.position with
      | some n => if c.holds n then next (st.forward 1) else none
      | none => none
  | spot s, st, next => if s.holds text st.position then next st else none
  | group number body, st, next =>
      body.match text (st.mark (2 * number)) fun st' => next (st'.mark (2 * number + 1))
  | loop greed least most (character c), st, next => characterLoop text c greed least most next st
  | loop greed least most body, st, next =>
      let fuel := least + (text.size - st.position) + 2
      match greed with
      | .greedy => greedyLoop (body.match text) least most next fuel 0 none st
      | .lazy => lazyLoop (body.match text) least most next fuel 0 none st
      | .possessive =>
          match possessiveLoop (body.match text) least most fuel 0 none st with
          | some st' => next st'
          | none => none
  | atomic body, st, next =>
      match body.match text st some with
      | some st' => next st'
      | none => none
  | lookAhead negated body, st, next =>
      match body.match text st some with
      | some st' => if negated then none else next { st' with position := st.position }
      | none => if negated then next st else none
  | lookBehind negated width body, st, next =>
      let found :=
        if st.position < width then none
        else body.match text { st with position := st.position - width } some
      match found with
      | some st' => if negated then none else next { st' with position := st.position }
      | none => if negated then next st else none
  | same number fold, st, next =>
      match st.span? number with
      | some (start, stop) =>
          if sameText text fold start st.position (stop - start) then next (st.forward (stop - start))
          else none
      | none => none
  | whether number yes no, st, next =>
      if (st.span? number).isSome then yes.match text st next else no.match text st next

end SiteSurvey.Pattern
