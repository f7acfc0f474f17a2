import SiteSurvey.Proofs.Json.RoundTrip

set_option autoImplicit false

namespace SiteSurvey.Json

mutual

/-- What the strings and the keys of a value hold, one after the other. -/
def letters : Json → Text
  | .null | .bool _ | .int _ | .real _ => []
  | .string s => s
  | .array items => lettersOfItems items
  | .object members => lettersOfMembers members

def lettersOfItems : List Json → Text
  | [] => []
  | v :: rest => letters v ++ lettersOfItems rest

def lettersOfMembers : List (Text × Json) → Text
  | [] => []
  | (k, v) :: rest => k ++ letters v ++ lettersOfMembers rest

end

theorem lettersOfItems_eq (items : List Json) : lettersOfItems items = items.flatMap letters := by
  induction items with
  | nil => rfl
  | cons v rest ih => rw [lettersOfItems, ih, List.flatMap_cons]

/-- What a layout without escapes never writes by itself. -/
def isForeign (c : CodePoint) : Bool :=
  0x80 ≤ c.val || c.is '\r'

def isBeyondAscii (c : CodePoint) : Bool :=
  0x80 ≤ c.val

theorem isForeign_eq_false {c : CodePoint} (ascii : c.val < 0x80) (notCarriage : c.val ≠ 0xD) :
    isForeign c = false := by
  have small : decide (0x80 ≤ c.val) = false := by simpa using ascii
  have other : c.is '\r' = false := by simpa [CodePoint.is] using notCarriage
  rw [isForeign, small, other, Bool.or_false]

theorem filter_hexDigits (n : Nat) : (hexDigits n).filter isForeign = [] := by
  have digit : ∀ m, isForeign (hexDigit (m % 16)) = false := by
    intro m
    have value : (hexDigit (m % 16)).val = if m % 16 < 10 then 0x30 + m % 16 else 0x61 + (m % 16 - 10) := by
      rw [hexDigit, CodePoint.ofNat, dif_pos (by split <;> omega)]
    apply isForeign_eq_false
    · rw [value]
      split <;> omega
    · rw [value]
      split <;> omega
  simp [hexDigits, digit]

theorem filter_escaped (c : CodePoint) :
    (escaped false c).filter isForeign = [c].filter isBeyondAscii := by
  unfold escaped
  split
  case h_8 _ _ _ notCarriage _ _ _ =>
    by_cases control : c.val < 0x20
    · have ascii : isBeyondAscii c = false := by
        simp only [isBeyondAscii, decide_eq_false_iff_not]
        omega
      rw [if_pos control, unicodeUnit_eq]
      simp only [List.filter_cons, List.filter_nil, filter_hexDigits, ascii]
      rfl
    · have other : c.is '\r' = false := by
        rw [Bool.eq_false_iff]
        intro same
        exact notCarriage (CodePoint.char?_eq_some_iff.mpr (CodePoint.is_iff.mp same))
      rw [if_neg control, Bool.false_and, if_neg Bool.false_ne_true]
      simp only [List.filter_cons, List.filter_nil, isForeign, isBeyondAscii, other, Bool.or_false]
      rfl
  all_goals
    rename_i found
    rw [CodePoint.char?_eq_some_iff] at found
    rw [found]
    rfl

theorem filter_quoted (t : Text) : (quoted false t).filter isForeign = t.filter isBeyondAscii := by
  have body : (t.flatMap (escaped false)).filter isForeign = t.filter isBeyondAscii := by
    induction t with
    | nil => rfl
    | cons c t ih =>
      rw [List.flatMap_cons, List.filter_append, filter_escaped, ih, ← List.filter_append,
        List.singleton_append]
  rw [quoted_eq, List.filter_cons, List.filter_append, body]
  exact List.append_nil _

theorem filter_edge (l : Layout) (depth : Nat) : (l.edge depth).filter isForeign = [] := by
  rw [List.filter_eq_nil_iff]
  intro c found
  unfold Layout.edge at found
  split at found
  · rcases List.mem_append.mp found with newline | blank
    · rw [List.mem_singleton.mp newline]
      decide
    · obtain ⟨d, inside, rfl⟩ := List.mem_map.mp blank
      rw [String.toList_ofList] at inside
      rw [List.eq_of_mem_replicate inside]
      decide
  · simp at found

theorem filter_separator (l : Layout) (depth : Nat) : (l.separator depth).filter isForeign = [] := by
  unfold Layout.separator
  split
  · rename_i indented
    have edge := filter_edge l depth
    rw [Layout.edge, if_pos indented] at edge
    exact edge
  · rfl

theorem filter_ofInt (n : Int) : (Text.ofInt n).filter isForeign = [] := by
  have digit : ∀ c ∈ digits n.natAbs, ¬isForeign c = true := by
    intro c found
    have value := isDigit_of_mem_digits found
    simp only [isDigit, Bool.and_eq_true, decide_eq_true_eq] at value
    rw [isForeign_eq_false (by omega) (by omega)]
    exact Bool.false_ne_true
  have all := List.filter_eq_nil_iff.mpr digit
  rw [ofInt_eq]
  split
  · rw [List.filter_cons, all]
    rfl
  · exact all

theorem filter_bracket : (Text.ofString "[").filter isForeign = [] := rfl

theorem filter_bracketEnd : (Text.ofString "]").filter isForeign = [] := rfl

theorem filter_brace : (Text.ofString "\x7b").filter isForeign = [] := rfl

theorem filter_braceEnd : (Text.ofString "\x7d").filter isForeign = [] := rfl

theorem filter_colon : (Text.ofString ": ").filter isForeign = [] := rfl

mutual

/-- A document without escapes holds beyond ASCII just what the strings of its value hold, in the same
order. It holds no carriage return, because a string is written with an escape in its place. -/
theorem filter_printAt {l : Layout} (direct : l.ascii = false) : ∀ {depth : Nat} {v : Json}, Faithful l v →
    (printAt l depth v).filter isForeign = v.letters.filter isBeyondAscii
  | depth, .null, _ => rfl
  | depth, .bool true, _ => rfl
  | depth, .bool false, _ => rfl
  | depth, .int n, _ => by
    rw [printAt, letters, filter_ofInt]
    rfl
  | depth, .string s, _ => by rw [printAt, letters, direct, filter_quoted]
  | depth, .array [], _ => rfl
  | depth, .array (v :: items), ⟨first, others⟩ => by
    rw [printAt, letters, lettersOfItems]
    simp only [List.filter_append, filter_bracket, filter_bracketEnd, filter_edge,
      filter_printAt direct first, filter_printItems direct others, List.nil_append, List.append_nil]
  | depth, .object [], _ => rfl
  | depth, .object ((k, v) :: members), ⟨_, _, first, others⟩ => by
    rw [printAt, letters, lettersOfMembers, direct]
    simp only [List.filter_append, filter_brace, filter_braceEnd, filter_edge, filter_quoted, filter_colon,
      filter_printAt direct first, filter_printMembers direct others, List.nil_append, List.append_nil]

theorem filter_printItems {l : Layout} (direct : l.ascii = false) :
    ∀ {depth : Nat} {items : List Json}, FaithfulItems l items →
      (printItems l depth items).filter isForeign = (lettersOfItems items).filter isBeyondAscii
  | depth, [], _ => rfl
  | depth, v :: items, ⟨first, others⟩ => by
    rw [printItems, lettersOfItems]
    simp only [List.filter_append, filter_separator, filter_printAt direct first,
      filter_printItems direct others, List.nil_append]

theorem filter_printMembers {l : Layout} (direct : l.ascii = false) :
    ∀ {depth : Nat} {members : List (Text × Json)}, FaithfulMembers l members →
      (printMembers l depth members).filter isForeign = (lettersOfMembers members).filter isBeyondAscii
  | depth, [], _ => rfl
  | depth, (k, v) :: members, ⟨_, first, others⟩ => by
    rw [printMembers, lettersOfMembers, direct]
    simp only [List.filter_append, filter_separator, filter_quoted, filter_colon,
      filter_printAt direct first, filter_printMembers direct others, List.nil_append, List.append_nil]

end

theorem hasSurrogate_filter {test : CodePoint → Bool} (t : Text)
    (keeps : ∀ c : CodePoint, c.isSurrogate = true → test c = true) :
    Text.hasSurrogate (t.filter test) = t.hasSurrogate := by
  induction t with
  | nil => rfl
  | cons c t ih =>
    rw [List.filter_cons, Text.hasSurrogate_cons]
    split
    · rw [Text.hasSurrogate_cons, ih]
    · rename_i dropped
      have whole : c.isSurrogate = false := by
        rw [Bool.eq_false_iff]
        exact fun surrogate => dropped (keeps c surrogate)
      rw [ih, whole, Bool.false_or]

theorem val_of_isSurrogate {c : CodePoint} (surrogate : c.isSurrogate = true) : 0x80 ≤ c.val := by
  simp only [CodePoint.isSurrogate, Bool.and_eq_true, decide_eq_true_eq] at surrogate
  omega

/-- A report cannot be encoded just when a string in it cannot. -/
theorem hasSurrogate_print {v : Json} (faithful : Faithful .report v) :
    (print .report v).hasSurrogate = v.letters.hasSurrogate := by
  have foreign : ∀ c : CodePoint, c.isSurrogate = true → isForeign c = true := by
    intro c surrogate
    simp [isForeign, val_of_isSurrogate surrogate]
  have beyond : ∀ c : CodePoint, c.isSurrogate = true → isBeyondAscii c = true := by
    intro c surrogate
    simp [isBeyondAscii, val_of_isSurrogate surrogate]
  rw [← hasSurrogate_filter _ foreign, print, filter_printAt rfl faithful, hasSurrogate_filter _ beyond]

theorem no_carriage_print {v : Json} (faithful : Faithful .report v) :
    ∀ c ∈ print .report v, c.is '\r' = false := by
  intro c found
  rw [Bool.eq_false_iff]
  intro carriage
  have kept : c ∈ (print .report v).filter isForeign := by
    rw [List.mem_filter]
    exact ⟨found, by simp [isForeign, carriage]⟩
  rw [print, filter_printAt rfl faithful, List.mem_filter] at kept
  have large : 0x80 ≤ c.val := by simpa [isBeyondAscii] using kept.2
  rw [CodePoint.is_iff.mp carriage] at large
  exact absurd large (by decide)

end SiteSurvey.Json
