import SiteSurvey.Proofs.Json.Reals
import SiteSurvey.Proofs.Json.Strings

set_option autoImplicit false

namespace SiteSurvey.Json

mutual

/-- The values whose document says everything about them: whole numbers only that are not too long, each key of an
object once, and strings that the layout keeps. -/
def Faithful (l : Layout) : Json → Prop
  | .null | .bool _ => True
  | .int n => (digits n.natAbs).length ≤ Text.maxDigits
  | .real _ => False
  | .string s => Keeps l.ascii s
  | .array items => FaithfulItems l items
  | .object members => (members.map (·.1)).Nodup ∧ FaithfulMembers l members

def FaithfulItems (l : Layout) : List Json → Prop
  | [] => True
  | v :: rest => Faithful l v ∧ FaithfulItems l rest

def FaithfulMembers (l : Layout) : List (Text × Json) → Prop
  | [] => True
  | (k, v) :: rest => Keeps l.ascii k ∧ Faithful l v ∧ FaithfulMembers l rest

end

mutual

/-- The values whose document can be read. What is read from it is the value as it has settled. -/
def Legible (l : Layout) : Json → Prop
  | .null | .bool _ | .real _ => True
  | .int n => (digits n.natAbs).length ≤ Text.maxDigits
  | .string s => Keeps l.ascii s
  | .array items => LegibleItems l items
  | .object members => (members.map (·.1)).Nodup ∧ LegibleMembers l members

def LegibleItems (l : Layout) : List Json → Prop
  | [] => True
  | v :: rest => Legible l v ∧ LegibleItems l rest

def LegibleMembers (l : Layout) : List (Text × Json) → Prop
  | [] => True
  | (k, v) :: rest => Keeps l.ascii k ∧ Legible l v ∧ LegibleMembers l rest

end

mutual

def settled : Json → Json
  | .real r => .real r.settled
  | .array items => .array (settledItems items)
  | .object members => .object (settledMembers members)
  | .null => .null
  | .bool b => .bool b
  | .int n => .int n
  | .string s => .string s

def settledItems : List Json → List Json
  | [] => []
  | v :: rest => v.settled :: settledItems rest

def settledMembers : List (Text × Json) → List (Text × Json)
  | [] => []
  | (k, v) :: rest => (k, v.settled) :: settledMembers rest

end

mutual

theorem Faithful.legible {l : Layout} : ∀ {v : Json}, Faithful l v → Legible l v ∧ v.settled = v
  | .null, _ | .bool _, _ => ⟨trivial, rfl⟩
  | .int _, short => ⟨short, rfl⟩
  | .string _, kept => ⟨kept, rfl⟩
  | .array _, faithful => by
    obtain ⟨legible, same⟩ := FaithfulItems.legible faithful
    exact ⟨legible, by rw [settled, same]⟩
  | .object _, ⟨distinct, faithful⟩ => by
    obtain ⟨legible, same⟩ := FaithfulMembers.legible faithful
    exact ⟨⟨distinct, legible⟩, by rw [settled, same]⟩

theorem FaithfulItems.legible {l : Layout} :
    ∀ {items : List Json}, FaithfulItems l items → LegibleItems l items ∧ settledItems items = items
  | [], _ => ⟨trivial, rfl⟩
  | _ :: _, ⟨first, others⟩ => by
    obtain ⟨legible, same⟩ := first.legible
    obtain ⟨legibles, sames⟩ := FaithfulItems.legible others
    exact ⟨⟨legible, legibles⟩, by rw [settledItems, same, sames]⟩

theorem FaithfulMembers.legible {l : Layout} :
    ∀ {members : List (Text × Json)}, FaithfulMembers l members →
      LegibleMembers l members ∧ settledMembers members = members
  | [], _ => ⟨trivial, rfl⟩
  | (_, _) :: _, ⟨kept, first, others⟩ => by
    obtain ⟨legible, same⟩ := first.legible
    obtain ⟨legibles, sames⟩ := FaithfulMembers.legible others
    exact ⟨⟨kept, legible, legibles⟩, by rw [settledMembers, same, sames]⟩

end

theorem keys_settledMembers (members : List (Text × Json)) :
    (settledMembers members).map (·.1) = members.map (·.1) := by
  induction members with
  | nil => rfl
  | cons m rest ih => rw [settledMembers, List.map_cons, List.map_cons, ih]

theorem faithfulItems_iff {l : Layout} {items : List Json} :
    FaithfulItems l items ↔ ∀ v ∈ items, Faithful l v := by
  induction items with
  | nil => simp [FaithfulItems]
  | cons v rest ih => simp [FaithfulItems, ih]

theorem isSpace_edge (l : Layout) (depth : Nat) : ∀ c ∈ l.edge depth, isSpace c = true := by
  intro c found
  unfold Layout.edge at found
  split at found
  · rcases List.mem_append.mp found with newline | blank
    · rw [List.mem_singleton.mp newline]
      rfl
    · obtain ⟨d, inside, rfl⟩ := List.mem_map.mp blank
      rw [String.toList_ofList] at inside
      rw [List.eq_of_mem_replicate inside]
      rfl
  · simp at found

theorem separator_eq (l : Layout) (depth : Nat) :
    ∃ blanks, l.separator depth = CodePoint.ofChar ',' :: blanks ∧ ∀ c ∈ blanks, isSpace c = true := by
  unfold Layout.separator
  split
  · rename_i indented
    refine ⟨l.edge depth, ?_, isSpace_edge l depth⟩
    rw [Layout.edge, if_pos indented]
    rfl
  · refine ⟨[CodePoint.ofChar ' '], rfl, ?_⟩
    intro c found
    rw [List.mem_singleton.mp found]
    rfl

theorem skip_blanks {blanks t : Text} {c : CodePoint} (offset : Nat)
    (allBlank : ∀ d ∈ blanks, isSpace d = true) (stops : isSpace c = false) :
    ∃ offset', Rest.skip { text := blanks ++ c :: t, offset } = { text := c :: t, offset := offset' } := by
  refine ⟨offset + blanks.length, ?_⟩
  simp [Rest.skip, List.dropWhile_append_of_pos allBlank, List.takeWhile_append_of_pos allBlank, stops]

theorem skip_none {t : Text} {c : CodePoint} (offset : Nat) (stops : isSpace c = false) :
    Rest.skip { text := c :: t, offset } = { text := c :: t, offset } := by
  simp [Rest.skip, stops]

theorem isSpace_of_isDigit {c : CodePoint} (digit : isDigit c = true) : isSpace c = false := by
  have isNot : ∀ d : Char, d.isDigit = false → c.is d = false := fun d => is_false_of_isDigit digit
  simp [isSpace, isNot ' ' rfl, isNot '\t' rfl, isNot '\n' rfl, isNot '\r' rfl]

theorem text_numeral_head (n : Numeral) :
    ∃ c t, n.text = c :: t ∧ isSpace c = false ∧ c.is ']' = false ∧ c.val ≠ 0xFEFF := by
  obtain ⟨c, t, split, digit | rfl⟩ := n.text_head
  · refine ⟨c, t, split, isSpace_of_isDigit digit, is_false_of_isDigit digit rfl, ?_⟩
    simp only [isDigit, Bool.and_eq_true, decide_eq_true_eq] at digit
    omega
  · exact ⟨_, t, split, rfl, rfl, by decide⟩

/-- A document begins with its value: not with a blank, and not as an array or a document ends or as a
byte order mark does. -/
theorem printAt_head (l : Layout) (depth : Nat) (v : Json) :
    ∃ c t, printAt l depth v = c :: t ∧ isSpace c = false ∧ c.is ']' = false ∧ c.val ≠ 0xFEFF := by
  cases v with
  | null => exact ⟨_, _, by rw [printAt]; rfl, rfl, rfl, by decide⟩
  | bool b =>
    cases b with
    | true => exact ⟨_, _, by rw [printAt]; rfl, rfl, rfl, by decide⟩
    | false => exact ⟨_, _, by rw [printAt]; rfl, rfl, rfl, by decide⟩
  | int n =>
    rw [printAt, ← Numeral.text_ofInt]
    exact text_numeral_head _
  | real r =>
    cases r with
    | decimal negative mantissa exponent =>
      obtain ⟨n, text, _⟩ := numeral_decimal negative mantissa exponent
      rw [printAt, ← text]
      exact text_numeral_head n
    | infinite negative =>
      cases negative with
      | false => exact ⟨_, _, by rw [printAt]; rfl, rfl, rfl, by decide⟩
      | true => exact ⟨_, _, by rw [printAt]; rfl, rfl, rfl, by decide⟩
    | undefined => exact ⟨_, _, by rw [printAt]; rfl, rfl, rfl, by decide⟩
  | string s => exact ⟨_, _, by rw [printAt, quoted_eq], rfl, rfl, by decide⟩
  | array items =>
    cases items with
    | nil => exact ⟨_, _, by rw [printAt]; rfl, rfl, rfl, by decide⟩
    | cons v rest => exact ⟨_, _, by rw [printAt]; rfl, rfl, rfl, by decide⟩
  | object members =>
    cases members with
    | nil => exact ⟨_, _, by rw [printAt]; rfl, rfl, rfl, by decide⟩
    | cons m rest => exact ⟨_, _, by rw [printAt]; rfl, rfl, rfl, by decide⟩

section Steps

variable {fuel offset : Nat} {rest t : Text} {c : CodePoint}

theorem readValue_quoted {ascii : Bool} {s : Text} (kept : Keeps ascii s) :
    ∃ offset', readValue (fuel + 1) { text := quoted ascii s ++ rest, offset } =
      .ok (.string s, { text := rest, offset := offset' }) := by
  have quote : (CodePoint.ofChar '"').is '"' = true := rfl
  have enough := length_le_flatMap_escaped ascii s
  have fuel : s.length < (s.flatMap (escaped ascii) ++ CodePoint.ofChar '"' :: rest).length + 1 := by
    rw [List.length_append]
    omega
  obtain ⟨last, run⟩ := readString_flatMap offset (offset + 1) [] rest kept fuel
  refine ⟨last, ?_⟩
  rw [quoted_eq, List.cons_append, List.append_assoc, List.singleton_append]
  simp only [readValue, quote, if_true, run, List.reverse_nil, List.nil_append]

theorem readValue_numeral (n : Numeral) (ends : Ends rest)
    (fits : excess? { text := n.text ++ rest, offset } { text := rest, offset := offset + n.text.length } n.value =
      none) :
    ∃ offset', readValue (fuel + 1) { text := n.text ++ rest, offset } =
      .ok (n.value, { text := rest, offset := offset' }) := by
  have run := n.readNumber_text offset ends
  have noWord := n.word_ne_text rest offset
  obtain ⟨c, t, split, head⟩ := n.text_head
  have isNot : ∀ d : Char, d.isDigit = false → d ≠ '-' → c.is d = false := by
    intro d notDigit notMinus
    rcases head with digit | rfl
    · exact is_false_of_isDigit digit notDigit
    · rw [Bool.eq_false_iff]
      intro same
      apply notMinus
      simpa using (congrArg CodePoint.char? (CodePoint.is_iff.mp same)).symm
  refine ⟨offset + n.text.length, ?_⟩
  rw [split, List.cons_append] at run noWord fits ⊢
  simp only [readValue, isNot '"' rfl (by decide), isNot '\x7b' rfl (by decide), isNot '[' rfl (by decide),
    Bool.false_eq_true, if_false, noWord, run, fits]

theorem readValue_ofInt {n : Int} (short : (digits n.natAbs).length ≤ Text.maxDigits) (ends : Ends rest) :
    ∃ offset', readValue (fuel + 1) { text := Text.ofInt n ++ rest, offset } =
      .ok (.int n, { text := rest, offset := offset' }) := by
  have sign : Rest.starts { text := Text.ofInt n ++ rest, offset } "-" = decide (n < 0) := by
    rw [← Numeral.text_ofInt]
    exact (Numeral.ofInt n).starts_minus rest offset
  have count : offset + (Text.ofInt n).length - offset - (if decide (n < 0) then 1 else 0) =
      (digits n.natAbs).length := by
    rw [ofInt_eq]
    by_cases negative : n < 0
    · simp [negative]
    · simp [negative]
  rw [← Numeral.text_ofInt, ← Numeral.value_ofInt]
  refine readValue_numeral (Numeral.ofInt n) ends ?_
  rw [Numeral.value_ofInt, Numeral.text_ofInt]
  simp only [excess?, sign, count, if_neg (Nat.not_lt.mpr short)]

theorem readValue_jsonText (r : Real) (ends : Ends rest) :
    ∃ offset', readValue (fuel + 1) { text := Text.ofString r.jsonText ++ rest, offset } =
      .ok (.real r.settled, { text := rest, offset := offset' }) := by
  cases r with
  | decimal negative mantissa exponent =>
    obtain ⟨n, text, value⟩ := numeral_decimal negative mantissa exponent
    rw [← text, ← value]
    exact readValue_numeral n ends (by rw [value]; rfl)
  | infinite negative =>
    cases negative with
    | false => exact ⟨offset + 8, rfl⟩
    | true => exact ⟨offset + 9, rfl⟩
  | undefined => exact ⟨offset + 3, rfl⟩

theorem readValue_array (fuel offset : Nat) (t : Text) {edge : Text} (blank : ∀ d ∈ edge, isSpace d = true)
    (stops : isSpace c = false) (opens : c.is ']' = false) :
    ∃ offset', readValue (fuel + 1) { text := CodePoint.ofChar '[' :: (edge ++ c :: t), offset } =
      readItems fuel { text := c :: t, offset := offset' } [] := by
  obtain ⟨next, skipped⟩ := skip_blanks (t := t) (offset + 1) blank stops
  have notQuote : (CodePoint.ofChar '[').is '"' = false := rfl
  have notBrace : (CodePoint.ofChar '[').is '\x7b' = false := rfl
  have bracket : (CodePoint.ofChar '[').is '[' = true := rfl
  refine ⟨next, ?_⟩
  simp only [readValue, notQuote, notBrace, bracket, Bool.false_eq_true, if_false, if_true, skipped,
    starts_single "]" ']' rfl, opens]

theorem readValue_object (fuel offset : Nat) (t : Text) {edge : Text} (blank : ∀ d ∈ edge, isSpace d = true) :
    ∃ offset', readValue (fuel + 1)
        { text := CodePoint.ofChar '\x7b' :: (edge ++ CodePoint.ofChar '"' :: t), offset } =
      readMembers fuel { text := CodePoint.ofChar '"' :: t, offset := offset' } [] := by
  have stops : isSpace (CodePoint.ofChar '"') = false := rfl
  obtain ⟨next, skipped⟩ := skip_blanks (t := t) (offset + 1) blank stops
  have notQuote : (CodePoint.ofChar '\x7b').is '"' = false := rfl
  have brace : (CodePoint.ofChar '\x7b').is '\x7b' = true := rfl
  have opens : (CodePoint.ofChar '"').is '\x7d' = false := rfl
  refine ⟨next, ?_⟩
  simp only [readValue, notQuote, brace, Bool.false_eq_true, if_false, if_true, skipped,
    starts_single "\x7d" '\x7d' rfl, opens]

theorem readItems_last {v : Json} {acc : List Json} {r : Rest} {edge : Text}
    (blank : ∀ d ∈ edge, isSpace d = true)
    (run : readValue fuel r = .ok (v, { text := edge ++ CodePoint.ofChar ']' :: rest, offset })) :
    ∃ offset', readItems (fuel + 1) r acc =
      .ok (.array (v :: acc).reverse, { text := rest, offset := offset' }) := by
  obtain ⟨next, skipped⟩ := skip_blanks (t := rest) (c := CodePoint.ofChar ']') offset blank rfl
  have closes : (CodePoint.ofChar ']').is ']' = true := rfl
  refine ⟨next + 1, ?_⟩
  simp only [readItems, run, skipped, starts_single "]" ']' rfl, closes, if_true, Rest.drop,
    List.drop_succ_cons, List.drop_zero]

theorem readItems_more (acc : List Json) {v : Json} {r : Rest} {blanks : Text}
    (blank : ∀ d ∈ blanks, isSpace d = true) (stops : isSpace c = false)
    (run : readValue fuel r = .ok (v, { text := CodePoint.ofChar ',' :: (blanks ++ c :: t), offset })) :
    ∃ offset', readItems (fuel + 1) r acc =
      readItems fuel { text := c :: t, offset := offset' } (v :: acc) := by
  obtain ⟨next, skipped⟩ := skip_blanks (t := t) (offset + 1) blank stops
  have notEnd : (CodePoint.ofChar ',').is ']' = false := rfl
  have comma : (CodePoint.ofChar ',').is ',' = true := rfl
  refine ⟨next, ?_⟩
  simp only [readItems, run, skip_none (c := CodePoint.ofChar ',') offset rfl,
    starts_single "]" ']' rfl, starts_single "," ',' rfl, notEnd, comma, Bool.false_eq_true,
    if_false, if_true, Rest.drop, List.drop_succ_cons, List.drop_zero, skipped]

theorem map_fst_put {α : Type} (members : List (Text × α)) (key : Text) (value : α) :
    (put members key value).map (·.1) =
      if key ∈ members.map (·.1) then members.map (·.1) else members.map (·.1) ++ [key] := by
  induction members with
  | nil => simp [put]
  | cons m rest ih =>
    obtain ⟨k, old⟩ := m
    rw [put]
    by_cases same : k = key
    · simp [same]
    · rw [if_neg same, List.map_cons, ih]
      by_cases later : key ∈ rest.map (·.1)
      · simp [later]
      · simp [later, Ne.symm same]

theorem put_new {α : Type} {members : List (Text × α)} {key : Text} (value : α)
    (new : key ∉ members.map (·.1)) : put members key value = members ++ [(key, value)] := by
  induction members with
  | nil => rfl
  | cons m rest ih =>
    rw [List.map_cons, List.mem_cons, not_or] at new
    rw [put, if_neg (Ne.symm new.1), ih new.2, List.cons_append]

/-- A member is read up to the end of its value, and what follows says whether it is the last one. -/
theorem readMembers_member (offset : Nat) {ascii : Bool} {k after : Text} {v : Json} {acc : List (Text × Json)}
    (kept : Keeps ascii k) (new : k ∉ acc.map (·.1)) (stops : isSpace c = false)
    (run : ∀ offset, ∃ offset', readValue fuel { text := c :: t, offset } =
      .ok (v, { text := after, offset := offset' })) :
    ∃ r : Rest, r.text = after ∧
      readMembers (fuel + 1) { text := quoted ascii k ++ (Text.ofString ": " ++ c :: t), offset } acc =
        (if r.skip.starts "\x7d" then .ok (.object (acc ++ [(k, v)]), r.skip.drop 1)
          else if r.skip.starts "," then readMembers fuel (r.skip.drop 1).skip (acc ++ [(k, v)])
          else .error { complaint := .comma, at_ := r.skip.offset }) := by
  have quote : (CodePoint.ofChar '"').is '"' = true := rfl
  have colon : (CodePoint.ofChar ':').is ':' = true := rfl
  have enough := length_le_flatMap_escaped ascii k
  have shape : quoted ascii k ++ (Text.ofString ": " ++ c :: t) =
      CodePoint.ofChar '"' :: (k.flatMap (escaped ascii) ++
        CodePoint.ofChar '"' :: CodePoint.ofChar ':' :: CodePoint.ofChar ' ' :: c :: t) := by
    rw [quoted_eq, List.cons_append, List.append_assoc, List.singleton_append]
    rfl
  rw [shape]
  have enough' : k.length < (CodePoint.ofChar '"' :: (k.flatMap (escaped ascii) ++
      CodePoint.ofChar '"' :: CodePoint.ofChar ':' :: CodePoint.ofChar ' ' :: c :: t)).length + 1 := by
    rw [List.length_cons, List.length_append]
    omega
  obtain ⟨middle, key⟩ := readString_flatMap offset (offset + 1) []
    (CodePoint.ofChar ':' :: CodePoint.ofChar ' ' :: c :: t) kept enough'
  have blank : ∀ d ∈ [CodePoint.ofChar ' '], isSpace d = true := by
    intro d found
    rw [List.mem_singleton.mp found]
    rfl
  obtain ⟨next, skipped⟩ := skip_blanks (t := t) (middle + 1) blank stops
  rw [List.singleton_append] at skipped
  rw [List.reverse_nil, List.nil_append] at key
  obtain ⟨last, value⟩ := run next
  refine ⟨{ text := after, offset := last }, rfl, ?_⟩
  rw [readMembers]
  simp only [starts_single "\"" '"' rfl, quote, if_true, Rest.drop, List.drop_succ_cons,
    List.drop_zero, key, skip_none (c := CodePoint.ofChar ':') middle rfl,
    starts_single ":" ':' rfl, colon, skipped, value, put_new v new]

theorem readMembers_last {ascii : Bool} {k edge : Text} {v : Json} {acc : List (Text × Json)}
    (kept : Keeps ascii k) (new : k ∉ acc.map (·.1)) (stops : isSpace c = false)
    (blank : ∀ d ∈ edge, isSpace d = true)
    (run : ∀ offset, ∃ offset', readValue fuel { text := c :: t, offset } =
      .ok (v, { text := edge ++ CodePoint.ofChar '\x7d' :: rest, offset := offset' })) :
    ∃ offset', readMembers (fuel + 1)
        { text := quoted ascii k ++ (Text.ofString ": " ++ c :: t), offset } acc =
      .ok (.object (acc ++ [(k, v)]), { text := rest, offset := offset' }) := by
  obtain ⟨⟨_, last⟩, rfl, step⟩ := readMembers_member offset kept new stops run
  obtain ⟨next, skipped⟩ := skip_blanks (t := rest) (c := CodePoint.ofChar '\x7d') last blank rfl
  have closes : (CodePoint.ofChar '\x7d').is '\x7d' = true := rfl
  refine ⟨next + 1, ?_⟩
  rw [step]
  simp only [skipped, starts_single "\x7d" '\x7d' rfl, closes, if_true, Rest.drop, List.drop_succ_cons,
    List.drop_zero]

theorem readMembers_more (offset : Nat) {ascii : Bool} {k blanks t' : Text} {c' : CodePoint} {v : Json}
    {acc : List (Text × Json)} (kept : Keeps ascii k) (new : k ∉ acc.map (·.1)) (stops : isSpace c = false)
    (blank : ∀ d ∈ blanks, isSpace d = true) (stops' : isSpace c' = false)
    (run : ∀ offset, ∃ offset', readValue fuel { text := c :: t, offset } =
      .ok (v, { text := CodePoint.ofChar ',' :: (blanks ++ c' :: t'), offset := offset' })) :
    ∃ offset', readMembers (fuel + 1)
        { text := quoted ascii k ++ (Text.ofString ": " ++ c :: t), offset } acc =
      readMembers fuel { text := c' :: t', offset := offset' } (acc ++ [(k, v)]) := by
  obtain ⟨⟨_, last⟩, rfl, step⟩ := readMembers_member offset kept new stops run
  obtain ⟨next, skipped⟩ := skip_blanks (t := t') (last + 1) blank stops'
  have notEnd : (CodePoint.ofChar ',').is '\x7d' = false := rfl
  have comma : (CodePoint.ofChar ',').is ',' = true := rfl
  refine ⟨next, ?_⟩
  rw [step]
  simp only [skip_none (c := CodePoint.ofChar ',') last rfl, starts_single "\x7d" '\x7d' rfl,
    starts_single "," ',' rfl, notEnd, comma, Bool.false_eq_true, if_false, if_true, Rest.drop,
    List.drop_succ_cons, List.drop_zero, skipped]

end Steps

theorem ends_blanks {blanks t : Text} {c : CodePoint} (blank : ∀ d ∈ blanks, isSpace d = true)
    (ends : Ends (c :: t)) : Ends (blanks ++ c :: t) := by
  cases blanks with
  | nil => exact ends
  | cons d blanks =>
    intro e found
    have same : d = e := by simpa using found
    subst same
    have space := blank d List.mem_cons_self
    simp only [isSpace, Bool.or_eq_true] at space
    rcases space with ((blank | tab) | newline) | carriage
    · rw [CodePoint.is_iff.mp blank]
      decide
    · rw [CodePoint.is_iff.mp tab]
      decide
    · rw [CodePoint.is_iff.mp newline]
      decide
    · rw [CodePoint.is_iff.mp carriage]
      decide

theorem ends_ofChar {d : Char} {t : Text}
    (other : isDigit (CodePoint.ofChar d) = false ∧ (CodePoint.ofChar d).is '.' = false ∧
      (CodePoint.ofChar d).is 'e' = false ∧ (CodePoint.ofChar d).is 'E' = false) :
    Ends (CodePoint.ofChar d :: t) := by
  intro c found
  have same : CodePoint.ofChar d = c := by simpa using found
  rw [← same]
  exact other

theorem new_of_distinct {α : Type} {acc members : List (Text × α)} {k : Text} {v : α}
    (distinct : ((acc ++ (k, v) :: members).map (·.1)).Nodup) : k ∉ acc.map (·.1) := by
  rw [List.map_append, List.map_cons, List.nodup_append] at distinct
  intro found
  exact distinct.2.2 k found k List.mem_cons_self rfl

/-- A value is read from its document at a depth as it has settled, whatever follows. -/
def Reads (l : Layout) (depth : Nat) (v : Json) : Prop :=
  ∀ (fuel offset : Nat) (rest : Text), Ends rest → (printAt l depth v).length < fuel →
    ∃ offset', readValue fuel { text := printAt l depth v ++ rest, offset } =
      .ok (v.settled, { text := rest, offset := offset' })

mutual

theorem reads_printAt (l : Layout) (depth : Nat) : ∀ {v : Json}, Legible l v → Reads l depth v
  | .null, _, fuel + 1, offset, rest, _, _ => ⟨offset + 4, rfl⟩
  | .bool true, _, fuel + 1, offset, rest, _, _ => ⟨offset + 4, rfl⟩
  | .bool false, _, fuel + 1, offset, rest, _, _ => ⟨offset + 5, rfl⟩
  | .int n, short, fuel + 1, offset, rest, ends, _ => readValue_ofInt short ends
  | .real r, _, fuel + 1, offset, rest, ends, _ => readValue_jsonText r ends
  | .string s, kept, fuel + 1, offset, rest, _, _ => readValue_quoted kept
  | .array [], _, fuel + 1, offset, rest, _, _ => ⟨offset + 2, rfl⟩
  | .array (v :: items), ⟨first, others⟩, fuel + 1, offset, rest, _, enough => by
    obtain ⟨c, t, head, stops, opens, _⟩ := printAt_head l (depth + 1) v
    have shape : printAt l depth (.array (v :: items)) ++ rest =
        CodePoint.ofChar '[' :: (l.edge (depth + 1) ++ (printAt l (depth + 1) v ++
          (printItems l (depth + 1) items ++ (l.edge depth ++ CodePoint.ofChar ']' :: rest)))) := by
      rw [printAt]
      simp only [List.append_assoc]
      rfl
    have length := congrArg List.length shape
    simp only [List.length_append, List.length_cons] at length
    obtain ⟨next, step⟩ := readValue_array fuel offset
      (t ++ (printItems l (depth + 1) items ++ (l.edge depth ++ CodePoint.ofChar ']' :: rest)))
      (isSpace_edge l (depth + 1)) stops opens
    obtain ⟨last, run⟩ := readItems_printItems l (depth + 1) others first
      (reads_printAt l (depth + 1) first) fuel next [] rest (isSpace_edge l depth) (by omega)
    rw [head, List.cons_append] at run shape
    exact ⟨last, by rw [shape, step, run]; rfl⟩
  | .object [], _, fuel + 1, offset, rest, _, _ => ⟨offset + 2, rfl⟩
  | .object ((k, v) :: members), ⟨distinct, kept, first, others⟩, fuel + 1, offset, rest, _, enough => by
    have shape : printAt l depth (.object ((k, v) :: members)) ++ rest =
        CodePoint.ofChar '\x7b' :: (l.edge (depth + 1) ++ (quoted l.ascii k ++ (Text.ofString ": " ++
          (printAt l (depth + 1) v ++ (printMembers l (depth + 1) members ++
            (l.edge depth ++ CodePoint.ofChar '\x7d' :: rest)))))) := by
      rw [printAt]
      simp only [List.append_assoc]
      rfl
    have length := congrArg List.length shape
    simp only [List.length_append, List.length_cons] at length
    obtain ⟨next, step⟩ := readValue_object fuel offset
      (k.flatMap (escaped l.ascii) ++ [CodePoint.ofChar '"'] ++ (Text.ofString ": " ++
          (printAt l (depth + 1) v ++ (printMembers l (depth + 1) members ++
            (l.edge depth ++ CodePoint.ofChar '\x7d' :: rest)))))
      (isSpace_edge l (depth + 1))
    obtain ⟨last, run⟩ := readMembers_printMembers l (depth + 1) others kept first
      (reads_printAt l (depth + 1) first) fuel next [] rest
      (by rw [List.nil_append, List.map_cons, keys_settledMembers]; exact distinct) (isSpace_edge l depth) (by omega)
    rw [quoted_eq, List.cons_append] at run shape
    exact ⟨last, by rw [shape, step, run]; rfl⟩

theorem readItems_printItems (l : Layout) (depth : Nat) :
    ∀ {items : List Json}, LegibleItems l items → ∀ {v : Json}, Legible l v → Reads l depth v →
      ∀ (fuel offset : Nat) (acc : List Json) {edge : Text} (rest : Text), (∀ d ∈ edge, isSpace d = true) →
      (printAt l depth v).length + (printItems l depth items).length + 1 < fuel →
      ∃ offset', readItems fuel
          { text := printAt l depth v ++ (printItems l depth items ++
              (edge ++ CodePoint.ofChar ']' :: rest)), offset } acc =
        .ok (.array (acc.reverse ++ v.settled :: settledItems items), { text := rest, offset := offset' })
  | [], _, v, _, reads, fuel + 1, offset, acc, edge, rest, blank, enough => by
    obtain ⟨next, run⟩ := reads fuel offset (edge ++ CodePoint.ofChar ']' :: rest)
      (ends_blanks blank (ends_ofChar (by decide))) (by omega)
    simpa [printItems, settledItems] using readItems_last blank run
  | w :: items, ⟨second, others⟩, v, _, reads, fuel + 1, offset, acc, edge, rest, blank, enough => by
    obtain ⟨blanks, separator, between⟩ := separator_eq l depth
    obtain ⟨c, t, head, stops, _, _⟩ := printAt_head l depth w
    have shape : printItems l depth (w :: items) ++ (edge ++ CodePoint.ofChar ']' :: rest) =
        CodePoint.ofChar ',' :: (blanks ++ (printAt l depth w ++ (printItems l depth items ++
          (edge ++ CodePoint.ofChar ']' :: rest)))) := by
      rw [printItems, separator]
      simp only [List.append_assoc, List.cons_append]
    have length := congrArg List.length shape
    simp only [List.length_append, List.length_cons] at length
    obtain ⟨next, value⟩ := reads fuel offset
      (printItems l depth (w :: items) ++ (edge ++ CodePoint.ofChar ']' :: rest))
      (by rw [shape]; exact ends_ofChar (by decide)) (by omega)
    rw [shape, head, List.cons_append] at value
    obtain ⟨after, step⟩ := readItems_more acc between stops value
    obtain ⟨last, run⟩ := readItems_printItems l depth others second (reads_printAt l depth second)
      fuel after (v.settled :: acc) rest blank (by omega)
    rw [head, List.cons_append] at run shape
    refine ⟨last, ?_⟩
    rw [shape, step, run]
    simp [settledItems]

theorem readMembers_printMembers (l : Layout) (depth : Nat) :
    ∀ {members : List (Text × Json)}, LegibleMembers l members →
      ∀ {k : Text} {v : Json}, Keeps l.ascii k → Legible l v → Reads l depth v →
      ∀ (fuel offset : Nat) (acc : List (Text × Json)) {edge : Text} (rest : Text),
      ((acc ++ (k, v.settled) :: settledMembers members).map (·.1)).Nodup → (∀ d ∈ edge, isSpace d = true) →
      (printAt l depth v).length + (printMembers l depth members).length + 1 < fuel →
      ∃ offset', readMembers fuel
          { text := quoted l.ascii k ++ (Text.ofString ": " ++ (printAt l depth v ++
              (printMembers l depth members ++ (edge ++ CodePoint.ofChar '\x7d' :: rest)))), offset } acc =
        .ok (.object (acc ++ (k, v.settled) :: settledMembers members), { text := rest, offset := offset' })
  | [], _, k, v, kept, first, reads, fuel + 1, offset, acc, edge, rest, distinct, blank, enough => by
    obtain ⟨c, t, head, stops, _, _⟩ := printAt_head l depth v
    have run : ∀ offset, ∃ offset', readValue fuel
        { text := c :: (t ++ (edge ++ CodePoint.ofChar '\x7d' :: rest)), offset } =
          .ok (v.settled, { text := edge ++ CodePoint.ofChar '\x7d' :: rest, offset := offset' }) := by
      intro offset
      rw [← List.cons_append, ← head]
      exact reads fuel offset _ (ends_blanks blank (ends_ofChar (by decide))) (by omega)
    rw [printMembers, List.nil_append, head, List.cons_append]
    exact readMembers_last kept (new_of_distinct distinct) stops blank run
  | (k', w) :: members, ⟨kept', second, others⟩, k, v, kept, first, reads, fuel + 1, offset, acc, edge,
      rest, distinct, blank, enough => by
    obtain ⟨blanks, separator, between⟩ := separator_eq l depth
    obtain ⟨c, t, head, stops, _, _⟩ := printAt_head l depth v
    have shape : printMembers l depth ((k', w) :: members) ++ (edge ++ CodePoint.ofChar '\x7d' :: rest) =
        CodePoint.ofChar ',' :: (blanks ++ (quoted l.ascii k' ++ (Text.ofString ": " ++
          (printAt l depth w ++ (printMembers l depth members ++
            (edge ++ CodePoint.ofChar '\x7d' :: rest)))))) := by
      rw [printMembers, separator]
      simp only [List.append_assoc, List.cons_append]
    have length := congrArg List.length shape
    simp only [List.length_append, List.length_cons] at length
    have value : ∀ offset, ∃ offset', readValue fuel
        { text := c :: (t ++ (printMembers l depth ((k', w) :: members) ++
            (edge ++ CodePoint.ofChar '\x7d' :: rest))), offset } =
          .ok (v.settled, { text := CodePoint.ofChar ',' :: (blanks ++ (quoted l.ascii k' ++ (Text.ofString ": " ++
            (printAt l depth w ++ (printMembers l depth members ++
              (edge ++ CodePoint.ofChar '\x7d' :: rest)))))), offset := offset' }) := by
      intro offset
      rw [← List.cons_append, ← head, ← shape]
      exact reads fuel offset _ (by rw [shape]; exact ends_ofChar (by decide)) (by omega)
    simp only [quoted_eq l.ascii k', List.cons_append] at value
    obtain ⟨after, step⟩ := readMembers_more offset kept (new_of_distinct distinct) stops between
      rfl value
    obtain ⟨last, run⟩ := readMembers_printMembers l depth others kept' second (reads_printAt l depth second)
      fuel after (acc ++ [(k, v.settled)]) rest (by simpa [settledMembers] using distinct) blank (by omega)
    rw [quoted_eq, List.cons_append] at run
    refine ⟨last, ?_⟩
    rw [head, List.cons_append, step, run]
    simp [settledMembers]

end

/-- A document is read as the value that it was made from, with its numbers settled. -/
theorem read_print_settled {l : Layout} {v : Json} (legible : Legible l v) : read (print l v) = .ok v.settled := by
  obtain ⟨c, t, head, stops, _, noMark⟩ := printAt_head l 0 v
  obtain ⟨last, run⟩ := reads_printAt l 0 legible ((printAt l 0 v).length + 1) 0 [] ends_nil (by omega)
  have noMark' : (c.val == 0xFEFF) = false := by simpa using noMark
  rw [List.append_nil] at run
  rw [head] at run
  rw [print, head]
  simp only [read, noMark', Bool.false_eq_true, if_false, skip_none 0 stops, run]
  rfl

/-- A document is read back to the value that it was made from. -/
theorem read_print {l : Layout} {v : Json} (faithful : Faithful l v) : read (print l v) = .ok v := by
  obtain ⟨legible, same⟩ := faithful.legible
  rw [read_print_settled legible, same]

end SiteSurvey.Json
