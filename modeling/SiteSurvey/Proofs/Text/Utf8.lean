import SiteSurvey.Proofs.Text.CodePoint
import SiteSurvey.Text.Utf8

set_option autoImplicit false

namespace SiteSurvey.Utf8

theorem getElem?_eq_toList (bytes : ByteArray) (i : Nat) : bytes[i]? = bytes.data.toList[i]? := by
  rw [Array.getElem?_toList]
  by_cases inside : i < bytes.size
  · rw [getElem?_pos bytes i inside, getElem?_pos bytes.data i inside]
    rfl
  · rw [getElem?_neg bytes i inside, getElem?_neg bytes.data i inside]

theorem toList_foldl_push (bs : List UInt8) (bytes : ByteArray) :
    (bs.foldl ByteArray.push bytes).data.toList = bytes.data.toList ++ bs := by
  induction bs generalizing bytes with
  | nil => simp
  | cons b bs ih => simp [ih]

theorem toList_encode (t : Text) :
    (encode t).data.toList = t.flatMap fun c => encodeOne c.val := by
  have from_ : ∀ bytes : ByteArray,
      (t.foldl (fun bytes c => (encodeOne c.val).foldl ByteArray.push bytes) bytes).data.toList =
        bytes.data.toList ++ t.flatMap fun c => encodeOne c.val := by
    induction t with
    | nil => simp
    | cons c t ih =>
      intro bytes
      rw [List.foldl_cons, ih, toList_foldl_push, List.flatMap_cons, List.append_assoc]
  exact from_ ByteArray.empty

theorem toNat_toUInt8 {n : Nat} (small : n < 256) : n.toUInt8.toNat = n := by
  simp [small]

theorem getElem?_of_drop {bytes : ByteArray} {i : Nat} {bs : List UInt8}
    (stands : bytes.data.toList.drop i = bs) (j : Nat) : bytes[i + j]? = bs[j]? := by
  rw [getElem?_eq_toList, ← stands, List.getElem?_drop]

theorem isTail_toUInt8 (n : Nat) : isTail (0x80 + n % 0x40).toUInt8 = true := by
  have value : (0x80 + n % 0x40).toUInt8.toNat = 0x80 + n % 0x40 := toNat_toUInt8 (by omega)
  simp only [isTail, Bool.and_eq_true, decide_eq_true_eq, UInt8.le_iff_toNat_le, value]
  simp only [UInt8.toNat_ofNat]
  omega

theorem lengthOf_eq (first : UInt8) :
    lengthOf first =
      if first.toNat < 0x80 then some 1
      else if 0xC2 ≤ first.toNat ∧ first.toNat ≤ 0xDF then some 2
      else if 0xE0 ≤ first.toNat ∧ first.toNat ≤ 0xEF then some 3
      else if 0xF0 ≤ first.toNat ∧ first.toNat ≤ 0xF4 then some 4
      else none := by
  simp only [lengthOf, Bool.and_eq_true, decide_eq_true_eq, UInt8.le_iff_toNat_le,
    UInt8.lt_iff_toNat_lt, UInt8.toNat_ofNat]

theorem secondBounds_le {first b : UInt8}
    (tail : 0x80 ≤ b.toNat ∧ b.toNat ≤ 0xBF)
    (noLong : first.toNat = 0xE0 → 0xA0 ≤ b.toNat)
    (noSurrogate : first.toNat = 0xED → b.toNat ≤ 0x9F)
    (noLonger : first.toNat = 0xF0 → 0x90 ≤ b.toNat)
    (inRange : first.toNat = 0xF4 → b.toNat ≤ 0x8F) :
    (decide ((secondBounds first).1 ≤ b) && decide (b ≤ (secondBounds first).2)) = true := by
  simp only [secondBounds, beq_iff_eq, ← UInt8.toNat_inj, UInt8.toNat_ofNat]
  simp only [Bool.and_eq_true, decide_eq_true_eq, UInt8.le_iff_toNat_le]
  repeat' split
  all_goals
    simp only [UInt8.toNat_ofNat]
    omega

section Sequences

variable {bytes : ByteArray} {i : Nat} {first second third fourth : UInt8}

theorem next_one (small : first.toNat < 0x80) : next bytes i first = (.inl first.toNat, 1) := by
  rw [next, lengthOf_eq, if_pos small]
  rfl

theorem next_two (two : 0xC2 ≤ first.toNat ∧ first.toNat ≤ 0xDF) (at1 : bytes[i + 1]? = some second)
    (bounds : (decide ((secondBounds first).1 ≤ second) && decide (second ≤ (secondBounds first).2)) = true) :
    next bytes i first = (.inl (first.toNat % 0x20 * 0x40 + second.toNat % 0x40), 2) := by
  have length : lengthOf first = some 2 := by
    rw [lengthOf_eq, if_neg (by omega), if_pos two]
  have tail : tailLength bytes i first 2 = 1 := by
    simp only [tailLength, at1, bounds]
    rfl
  simp [next, length, tail, sequenceValue, tailValue, at1]

theorem next_three (three : 0xE0 ≤ first.toNat ∧ first.toNat ≤ 0xEF)
    (at1 : bytes[i + 1]? = some second) (at2 : bytes[i + 2]? = some third)
    (bounds : (decide ((secondBounds first).1 ≤ second) && decide (second ≤ (secondBounds first).2)) = true)
    (thirdTail : isTail third = true) :
    next bytes i first =
      (.inl ((first.toNat % 0x10 * 0x40 + second.toNat % 0x40) * 0x40 + third.toNat % 0x40), 3) := by
  have length : lengthOf first = some 3 := by
    rw [lengthOf_eq, if_neg (by omega), if_neg (by omega), if_pos three]
  have tail : tailLength bytes i first 3 = 2 := by
    simp only [tailLength, at1, at2, bounds, thirdTail]
    rfl
  simp [next, length, tail, sequenceValue, tailValue, at1, at2]

theorem next_four (four : 0xF0 ≤ first.toNat ∧ first.toNat ≤ 0xF4)
    (at1 : bytes[i + 1]? = some second) (at2 : bytes[i + 2]? = some third)
    (at3 : bytes[i + 3]? = some fourth)
    (bounds : (decide ((secondBounds first).1 ≤ second) && decide (second ≤ (secondBounds first).2)) = true)
    (thirdTail : isTail third = true) (fourthTail : isTail fourth = true) :
    next bytes i first =
      (.inl (((first.toNat % 0x08 * 0x40 + second.toNat % 0x40) * 0x40 + third.toNat % 0x40) * 0x40 +
        fourth.toNat % 0x40), 4) := by
  have length : lengthOf first = some 4 := by
    rw [lengthOf_eq, if_neg (by omega), if_neg (by omega), if_neg (by omega), if_pos four]
  have tail : tailLength bytes i first 4 = 3 := by
    simp only [tailLength, at1, at2, at3, bounds, thirdTail, fourthTail]
    rfl
  simp [next, length, tail, sequenceValue, tailValue, at1, at2, at3]

end Sequences

theorem next_encodeOne {bytes : ByteArray} {i n : Nat} {rest : List UInt8}
    (whole : n < 0xD800 ∨ 0xDFFF < n) (inRange : n < 0x110000)
    (stands : bytes.data.toList.drop i = encodeOne n ++ rest) :
    ∃ first, bytes[i]? = some first ∧ next bytes i first = (.inl n, (encodeOne n).length) := by
  have byte := getElem?_of_drop stands
  have zeroth := byte 0
  rw [Nat.add_zero] at zeroth
  have last := toNat_toUInt8 (show 0x80 + n % 0x40 < 256 by omega)
  have middle := toNat_toUInt8 (show 0x80 + n / 0x40 % 0x40 < 256 by omega)
  unfold encodeOne at byte zeroth ⊢
  by_cases one : n < 0x80
  · simp only [if_pos one] at byte zeroth ⊢
    have first := toNat_toUInt8 (show n < 256 by omega)
    refine ⟨_, zeroth, ?_⟩
    rw [next_one (by omega), first]
    rfl
  by_cases two : n < 0x800
  · simp only [if_neg one, if_pos two] at byte zeroth ⊢
    have first := toNat_toUInt8 (show 0xC0 + n / 0x40 < 256 by omega)
    refine ⟨_, zeroth, ?_⟩
    rw [next_two (by omega) (byte 1) (secondBounds_le (by omega) (by omega) (by omega) (by omega) (by omega)),
      first, last, show (0xC0 + n / 0x40) % 0x20 * 0x40 + (0x80 + n % 0x40) % 0x40 = n by omega]
    rfl
  by_cases three : n < 0x10000
  · simp only [if_neg one, if_neg two, if_pos three] at byte zeroth ⊢
    have first := toNat_toUInt8 (show 0xE0 + n / 0x1000 < 256 by omega)
    refine ⟨_, zeroth, ?_⟩
    rw [next_three (by omega) (byte 1) (byte 2)
        (secondBounds_le (by omega) (by omega) (by omega) (by omega) (by omega)) (isTail_toUInt8 n),
      first, middle, last,
      show ((0xE0 + n / 0x1000) % 0x10 * 0x40 + (0x80 + n / 0x40 % 0x40) % 0x40) * 0x40 +
        (0x80 + n % 0x40) % 0x40 = n by omega]
    rfl
  · simp only [if_neg one, if_neg two, if_neg three] at byte zeroth ⊢
    have first := toNat_toUInt8 (show 0xF0 + n / 0x40000 < 256 by omega)
    have second := toNat_toUInt8 (show 0x80 + n / 0x1000 % 0x40 < 256 by omega)
    refine ⟨_, zeroth, ?_⟩
    rw [next_four (by omega) (byte 1) (byte 2) (byte 3)
        (secondBounds_le (by omega) (by omega) (by omega) (by omega) (by omega)) (isTail_toUInt8 _)
        (isTail_toUInt8 n),
      first, second, middle, last,
      show (((0xF0 + n / 0x40000) % 0x08 * 0x40 + (0x80 + n / 0x1000 % 0x40) % 0x40) * 0x40 +
        (0x80 + n / 0x40 % 0x40) % 0x40) * 0x40 + (0x80 + n % 0x40) % 0x40 = n by omega]
    rfl

theorem encodeOne_ne_nil (n : Nat) : encodeOne n ≠ [] := by
  unfold encodeOne
  repeat' split
  all_goals simp

theorem decodeFrom_encode {bytes : ByteArray} {t : Text} (whole : t.hasSurrogate = false)
    {fuel i : Nat} {acc : List CodePoint}
    (stands : bytes.data.toList.drop i = t.flatMap fun c => encodeOne c.val)
    (enough : (t.flatMap fun c => encodeOne c.val).length ≤ fuel) :
    decodeFrom bytes fuel i acc = .ok (acc.reverse ++ t) := by
  induction t generalizing fuel i acc with
  | nil =>
    have atEnd : bytes[i]? = none := by
      simpa using getElem?_of_drop stands 0
    cases fuel with
    | zero => simp [decodeFrom]
    | succ fuel => simp [decodeFrom, atEnd]
  | cons c t ih =>
    simp only [Text.hasSurrogate_cons, Bool.or_eq_false_iff] at whole
    rw [List.flatMap_cons] at stands enough
    rw [List.length_append] at enough
    have positive := List.length_pos_iff.mpr (encodeOne_ne_nil c.val)
    obtain ⟨fuel, rfl⟩ : ∃ k, fuel = k + 1 := ⟨fuel - 1, by omega⟩
    have apart : c.val < 0xD800 ∨ 0xDFFF < c.val := by
      have outside := whole.1
      simp only [CodePoint.isSurrogate, Bool.and_eq_false_iff, decide_eq_false_iff_not] at outside
      omega
    obtain ⟨first, here, step⟩ := next_encodeOne apart c.isLt stands
    have others : bytes.data.toList.drop (i + (encodeOne c.val).length) =
        t.flatMap fun c => encodeOne c.val := by
      rw [← List.drop_drop, stands, List.drop_left]
    simp only [decodeFrom, here, step]
    rw [ih whole.2 others (by omega), CodePoint.ofNat_val]
    simp

theorem decodeLossyFrom_encode {bytes : ByteArray} {cs : List Char} {fuel i : Nat} {acc : Array Char}
    (stands : bytes.data.toList.drop i = cs.flatMap fun c => encodeOne c.toNat)
    (enough : (cs.flatMap fun c => encodeOne c.toNat).length ≤ fuel) :
    decodeLossyFrom bytes fuel i acc = acc ++ cs.toArray := by
  induction cs generalizing fuel i acc with
  | nil =>
    have atEnd : bytes[i]? = none := by
      simpa using getElem?_of_drop stands 0
    cases fuel with
    | zero => simp [decodeLossyFrom]
    | succ fuel => simp [decodeLossyFrom, atEnd]
  | cons c cs ih =>
    rw [List.flatMap_cons] at stands enough
    rw [List.length_append] at enough
    have positive := List.length_pos_iff.mpr (encodeOne_ne_nil c.toNat)
    obtain ⟨fuel, rfl⟩ : ∃ k, fuel = k + 1 := ⟨fuel - 1, by omega⟩
    have bounds := CodePoint.toNat_bounds c
    obtain ⟨first, here, step⟩ := next_encodeOne (by omega) (by omega) stands
    have others : bytes.data.toList.drop (i + (encodeOne c.toNat).length) = cs.flatMap fun c => encodeOne c.toNat := by
      rw [← List.drop_drop, stands, List.drop_left]
    simp only [decodeLossyFrom, here, step]
    rw [ih others (by omega), Char.ofNat_toNat]
    simp

/-- Bytes that encode some characters are read as these, even where faults would be passed over. -/
theorem decodeLossy_encode {bytes : ByteArray} {cs : List Char}
    (all : bytes.data.toList = cs.flatMap fun c => encodeOne c.toNat) : decodeLossy bytes = cs.toArray := by
  have size : bytes.size = (cs.flatMap fun c => encodeOne c.toNat).length := by
    rw [← all, Array.length_toList]
    rfl
  rw [decodeLossy, decodeLossyFrom_encode (by rw [List.drop_zero, all]) (by omega)]
  simp

theorem firstSurrogates?_eq_none_iff {t : Text} :
    firstSurrogates? t = none ↔ t.hasSurrogate = false := by
  have dropped : t.dropWhile (fun c => !c.isSurrogate) = [] ↔ t.hasSurrogate = false := by
    induction t with
    | nil => simp [Text.hasSurrogate]
    | cons c t ih => cases surrogate : c.isSurrogate <;> simp [surrogate, ih]
  rw [← dropped, firstSurrogates?]
  split
  · rename_i empty
    simp [empty]
  · rename_i more
    simpa using more

/-- A text without surrogates is read back from its bytes. -/
theorem decode_encode {t : Text} (whole : t.hasSurrogate = false) : decode (encode t) = .ok t := by
  have all := toList_encode t
  have size : (encode t).size = (t.flatMap fun c => encodeOne c.val).length := by
    rw [← all, Array.length_toList]
    rfl
  rw [decode, decodeFrom_encode whole (by rw [List.drop_zero, all]) (by omega)]
  rfl

end SiteSurvey.Utf8
