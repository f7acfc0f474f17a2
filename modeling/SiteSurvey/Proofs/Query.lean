import SiteSurvey.Proofs.Listing
import SiteSurvey.Proofs.Text.Utf8
import SiteSurvey.Query

set_option autoImplicit false

namespace SiteSurvey.Query

/-- Letters, digits and the few marks that stand for themselves in a query. -/
def isBare (c : Char) : Bool :=
  c.isAlphanum || ['_', '.', '-', '~'].contains c

def hexDigit (n : Nat) : Char :=
  Char.ofNat (if n < 10 then 0x30 + n else 0x37 + n)

def escapeByte (b : UInt8) : List Char :=
  if isBare (Char.ofNat b.toNat) then [Char.ofNat b.toNat]
  else if b = 0x20 then ['+']
  else ['%', hexDigit (b.toNat / 16), hexDigit (b.toNat % 16)]

def escape (s : String) : List Char :=
  (s.toList.flatMap fun c => Utf8.encodeOne c.toNat).flatMap escapeByte

def field (pair : String × String) : List Char :=
  escape pair.1 ++ '=' :: escape pair.2

/-- The query that gives some names their values. -/
def form (pairs : List (String × String)) : List Char :=
  ['&'].intercalate (pairs.map field)

example : form [("a b", "1&2"), ("é", "~"), ("", "")] = "a+b=1%262&%C3%A9=~&=".toList := by decide

section Escape

variable {b : UInt8} {c : Char}

theorem isBare_ascii (bare : isBare c = true) : c.toNat < 0x80 := by
  have marks : (['_', '.', '-', '~'].all fun d => decide (d.toNat < 0x80)) = true := by decide
  rw [isBare, Bool.or_eq_true, List.contains_iff_mem] at bare
  rcases bare with letter | mark
  · rw [isAlphanum_iff, isUpper_iff, isLower_iff, isDigit_iff] at letter
    omega
  · exact decide_eq_true_iff.mp (List.all_eq_true.mp marks c mark)

theorem not_mem_of_isBare (bare : isBare c = true) : c ∉ ['&', '=', '?', '+', '%'] := by
  have special : (['&', '=', '?', '+', '%'].all fun d => !isBare d) = true := by decide
  intro inside
  have other := List.all_eq_true.mp special c inside
  rw [bare] at other
  exact Bool.false_ne_true other

theorem mem_escapeByte (inside : c ∈ escapeByte b) : c.toNat < 0x80 ∧ c ∉ ['&', '=', '?'] := by
  have hex : ∀ n < 16, (hexDigit n).toNat < 0x80 ∧ hexDigit n ∉ ['&', '=', '?'] := by decide
  have small := b.toNat_lt
  unfold escapeByte at inside
  split at inside
  · next bare =>
    rw [List.mem_singleton] at inside
    rw [← inside] at bare
    have other := not_mem_of_isBare bare
    refine ⟨isBare_ascii bare, ?_⟩
    simp only [List.mem_cons, List.not_mem_nil, or_false, not_or] at other ⊢
    exact ⟨other.1, other.2.1, other.2.2.1⟩
  · split at inside
    · rw [List.mem_singleton] at inside
      subst inside
      decide
    · simp only [List.mem_cons, List.not_mem_nil, or_false] at inside
      rcases inside with rfl | rfl | rfl
      · decide
      · exact hex _ (by omega)
      · exact hex _ (by omega)

theorem mem_escape {s : String} (inside : c ∈ escape s) : c.toNat < 0x80 ∧ c ∉ ['&', '=', '?'] := by
  obtain ⟨b, -, written⟩ := List.mem_flatMap.mp inside
  exact mem_escapeByte written

end Escape

section Decode

def blanked (c : Char) : Char :=
  if c = '+' then ' ' else c

theorem map_blanked (cs : List Char) :
    (Text.ofChars cs).map (fun c => if c.is '+' then CodePoint.ofChar ' ' else c) = Text.ofChars (cs.map blanked) := by
  simp only [Text.ofChars, List.map_map]
  refine List.map_congr_left fun c _ => ?_
  simp only [Function.comp_apply, CodePoint.is_ofChar, beq_iff_eq, blanked]
  split <;> rfl

theorem percentBytes_cons {c : CodePoint} (other : c.is '%' = false) (rest : Text) :
    percentBytes (c :: rest) = c.val.toUInt8 :: percentBytes rest := by
  rcases rest with _ | ⟨d, _ | ⟨e, rest⟩⟩
  · rfl
  · rfl
  · rw [percentBytes, other]
    rfl

theorem percentBytes_hex (b : UInt8) (rest : Text) :
    percentBytes (Text.ofChars ['%', hexDigit (b.toNat / 16), hexDigit (b.toNat % 16)] ++ rest) =
      b :: percentBytes rest := by
  have value : ∀ n < 16, Json.hexValue (CodePoint.ofChar (hexDigit n)) = some n := by decide
  have small := b.toNat_lt
  have same : (b.toNat / 16 * 16 + b.toNat % 16).toUInt8 = b := by
    rw [Nat.div_add_mod', Nat.toUInt8, UInt8.ofNat_toNat]
  simp only [Text.ofChars_cons, List.cons_append]
  rw [percentBytes, CodePoint.is_ofChar, beq_self_eq_true, if_pos rfl, value _ (by omega), value _ (by omega)]
  simp only [same]
  rfl

theorem percentBytes_escapeByte (b : UInt8) (rest : Text) :
    percentBytes (Text.ofChars ((escapeByte b).map blanked) ++ rest) = b :: percentBytes rest := by
  have small := b.toNat_lt
  unfold escapeByte
  split
  · next bare =>
    have other := not_mem_of_isBare bare
    simp only [List.mem_cons, List.not_mem_nil, or_false, not_or] at other
    have kept : blanked (Char.ofNat b.toNat) = Char.ofNat b.toNat := if_neg other.2.2.2.1
    have value : (Char.ofNat b.toNat).toNat = b.toNat := by
      rw [Char.ofNat, dif_pos (Or.inl (by omega))]
      rfl
    have mark : (CodePoint.ofChar (Char.ofNat b.toNat)).is '%' = false := by
      rw [CodePoint.is_ofChar]
      exact beq_eq_false_iff_ne.mpr other.2.2.2.2
    rw [List.map_singleton, kept, Text.ofChars_cons, List.cons_append, percentBytes_cons mark, CodePoint.val_ofChar,
      value, Nat.toUInt8, UInt8.ofNat_toNat]
    rfl
  · split
    · next blank =>
      subst blank
      rw [List.map_singleton, Text.ofChars_cons, List.cons_append, percentBytes_cons (by decide)]
      rfl
    · have kept : ['%', hexDigit (b.toNat / 16), hexDigit (b.toNat % 16)].map blanked =
          ['%', hexDigit (b.toNat / 16), hexDigit (b.toNat % 16)] := by
        have hex : ∀ n < 16, blanked (hexDigit n) = hexDigit n := by decide
        rw [List.map_cons, List.map_cons, List.map_singleton, hex _ (by omega), hex _ (by omega)]
        rfl
      rw [kept, percentBytes_hex]

theorem percentBytes_escape (bytes : List UInt8) :
    percentBytes (Text.ofChars ((bytes.flatMap escapeByte).map blanked)) = bytes := by
  induction bytes with
  | nil => rfl
  | cons b bytes ih =>
    rw [List.flatMap_cons, List.map_append, Text.ofChars_append, percentBytes_escapeByte, ih]

theorem decodeFrom_ascii {t : Text} (ascii : ∀ c ∈ t, c.val < 0x80) (before : Text) :
    decodeFrom before t = decodeAscii (before.reverse ++ t) := by
  induction t generalizing before with
  | nil => rw [decodeFrom, List.append_nil]
  | cons c t ih =>
    rw [decodeFrom, if_pos (ascii c List.mem_cons_self), ih fun d inside => ascii d (List.mem_cons_of_mem c inside)]
    simp

theorem decode_escape (s : String) : decode (Text.ofChars (escape s)) = Text.ofString s := by
  have ascii : ∀ c ∈ Text.ofChars ((escape s).map blanked), c.val < 0x80 := by
    intro c inside
    obtain ⟨d, found, rfl⟩ := List.mem_map.mp inside
    obtain ⟨e, written, rfl⟩ := List.mem_map.mp found
    rw [CodePoint.val_ofChar, blanked]
    split
    · decide
    · exact (mem_escape written).1
  rw [decode, map_blanked, decodeFrom_ascii ascii, List.reverse_nil, List.nil_append, decodeAscii, escape,
    percentBytes_escape, Utf8.decodeLossy_encode List.toList_toArray, List.toList_toArray]
  rfl

end Decode

section Fields

variable {at_ : Char} {t : Text}

theorem splitAt_append (absent : ∀ c ∈ t, c.is at_ = false) (rest : Text) :
    splitAt at_ (t ++ CodePoint.ofChar at_ :: rest) = t :: splitAt at_ rest := by
  induction t with
  | nil => rw [List.nil_append, splitAt, if_pos (CodePoint.is_iff.mpr rfl)]
  | cons c t ih =>
    have here := absent c List.mem_cons_self
    rw [List.cons_append, splitAt, here, ih fun d inside => absent d (List.mem_cons_of_mem c inside)]
    rfl

theorem splitAt_eq_self (absent : ∀ c ∈ t, c.is at_ = false) : splitAt at_ t = [t] := by
  induction t with
  | nil => rfl
  | cons c t ih =>
    have here := absent c List.mem_cons_self
    rw [splitAt, here, ih fun d inside => absent d (List.mem_cons_of_mem c inside)]
    rfl

theorem splitAt_intercalate {part : List Char} {parts : List (List Char)} (absent : ∀ p ∈ part :: parts, at_ ∉ p) :
    splitAt at_ (Text.ofChars ([at_].intercalate (part :: parts))) = (part :: parts).map Text.ofChars := by
  have clear : ∀ p ∈ part :: parts, ∀ c ∈ Text.ofChars p, c.is at_ = false := by
    intro p found c inside
    obtain ⟨d, there, rfl⟩ := List.mem_map.mp inside
    rw [CodePoint.is_ofChar]
    exact beq_eq_false_iff_ne.mpr fun same => absent p found (same ▸ there)
  induction parts generalizing part with
  | nil =>
    rw [List.intercalate_singleton, splitAt_eq_self (clear part List.mem_cons_self)]
    rfl
  | cons next parts ih =>
    have later := ih (fun p found => absent p (List.mem_cons_of_mem part found))
      (fun p found => clear p (List.mem_cons_of_mem part found))
    rw [List.intercalate_cons_cons, List.append_assoc, List.singleton_append, Text.ofChars_append,
      Text.ofChars_cons, splitAt_append (clear part List.mem_cons_self), later]
    rfl

theorem mem_field {pair : String × String} {c : Char} (inside : c ∈ field pair) : c ∉ ['&', '?'] := by
  intro found
  have special : c ∈ ['&', '=', '?'] ∧ c ≠ '=' := by
    simp only [List.mem_cons, List.not_mem_nil, or_false] at found
    rcases found with rfl | rfl <;> decide
  rcases List.mem_append.mp inside with name | value
  · exact (mem_escape name).2 special.1
  · rcases List.mem_cons.mp value with mark | value
    · exact special.2 mark
    · exact (mem_escape value).2 special.1

theorem fieldName_field (pair : String × String) : fieldName (Text.ofChars (field pair)) = Text.ofString pair.1 := by
  have before : ∀ c ∈ Text.ofChars (escape pair.1), (!c.is '=') = true := by
    intro c inside
    obtain ⟨d, found, rfl⟩ := List.mem_map.mp inside
    have other := (mem_escape found).2
    simp only [List.mem_cons, not_or] at other
    rw [CodePoint.is_ofChar, beq_eq_false_iff_ne.mpr other.2.1]
    rfl
  have stop : (!(CodePoint.ofChar '=').is '=') = false := by decide
  rw [fieldName, field, Text.ofChars_append, Text.ofChars_cons, List.takeWhile_append_of_pos before,
    List.takeWhile_cons_of_neg (by rw [stop]; exact Bool.false_ne_true), List.append_nil, decode_escape]

theorem names_form (pairs : List (String × String)) :
    names (Text.ofChars (form pairs)) = pairs.map fun pair => Text.ofString pair.1 := by
  cases pairs with
  | nil => rfl
  | cons pair pairs =>
    have clear : ∀ p ∈ (pair :: pairs).map field, '&' ∉ p := by
      intro p found inside
      obtain ⟨q, -, rfl⟩ := List.mem_map.mp found
      exact mem_field inside (by decide)
    have full : ((pair :: pairs).map fun q => Text.ofChars (field q)).filter (fun f => !f.isEmpty) =
        (pair :: pairs).map fun q => Text.ofChars (field q) := by
      rw [List.filter_eq_self]
      intro f found
      obtain ⟨q, -, rfl⟩ := List.mem_map.mp found
      simp [Text.ofChars, field]
    have parts : splitAt '&' (Text.ofChars (form (pair :: pairs))) =
        (pair :: pairs).map fun q => Text.ofChars (field q) := by
      rw [form, List.map_cons, splitAt_intercalate clear, ← List.map_cons, List.map_map]
      rfl
    rw [names, parts, full, List.map_map]
    refine List.map_congr_left fun q _ => ?_
    rw [Function.comp_apply, fieldName_field]

theorem mark_not_mem_form (pairs : List (String × String)) : '?' ∉ form pairs := by
  unfold form
  induction pairs with
  | nil => exact List.not_mem_nil
  | cons pair pairs ih =>
    have here : '?' ∉ field pair := fun inside => mem_field inside (by decide)
    cases pairs with
    | nil =>
      rw [List.map_singleton, List.intercalate_singleton]
      exact here
    | cons next pairs =>
      rw [List.map_cons, List.map_cons, List.intercalate_cons_cons, ← List.map_cons]
      simp only [List.mem_append, not_or]
      exact ⟨⟨here, by decide⟩, ih⟩

/-- A query is read back as the names that were put into it, with or without question marks before it. -/
theorem distinctNames_form (marks : Nat) (pairs : List (String × String)) :
    distinctNames (Text.ofChars (List.replicate marks '?' ++ form pairs)) =
      firsts id (pairs.map fun pair => Text.ofString pair.1) := by
  have marked : ∀ c ∈ Text.ofChars (List.replicate marks '?'), c.is '?' = true := by
    intro c inside
    obtain ⟨d, found, rfl⟩ := List.mem_map.mp inside
    rw [List.eq_of_mem_replicate found, CodePoint.is_ofChar, beq_self_eq_true]
  have unmarked : (Text.ofChars (form pairs)).dropWhile (fun c => c.is '?') = Text.ofChars (form pairs) := by
    have absent := mark_not_mem_form pairs
    generalize form pairs = query at absent ⊢
    cases query with
    | nil => rfl
    | cons c cs =>
      refine List.dropWhile_cons_of_neg ?_
      rw [CodePoint.is_ofChar, beq_iff_eq]
      exact fun same => absent (same ▸ List.mem_cons_self)
  rw [distinctNames, Text.ofChars_append, List.dropWhile_append_of_pos marked, unmarked, names_form]
  refine (foldl_firsts id ?_ []).trans (by simp)
  intro known name
  simp [addNew]

end Fields

end SiteSurvey.Query
