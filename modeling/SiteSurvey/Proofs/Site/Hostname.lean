import SiteSurvey.Config
import SiteSurvey.Proofs.Path
import SiteSurvey.Proofs.Text.CodePoint

set_option autoImplicit false

namespace SiteSurvey

namespace Unicode

theorem lowerOne_cases (n : Nat) : lowerOne n = n ∨ 0x61 ≤ lowerOne n := by
  have targets : ∀ s ∈ lowerShifts, 0x61 ≤ s.target := by decide +kernel
  unfold lowerOne
  split
  · split
    · rename_i capital
      simp only [Bool.and_eq_true, decide_eq_true_eq] at capital
      omega
    · exact .inl rfl
  · split
    · omega
    · cases found : shift? lowerShifts n with
      | none => exact .inl rfl
      | some m =>
        obtain ⟨s, first, rfl⟩ := Option.map_eq_some_iff.mp found
        have target := targets s (List.mem_of_find?_eq_some first)
        simp only [Option.getD_some]
        omega

theorem mem_lowerAll {m n : Nat} (found : m ∈ lowerAll n) : m = n ∨ 0x61 ≤ m := by
  unfold lowerAll at found
  split at found
  · simp only [List.mem_cons, List.not_mem_nil, or_false] at found
    omega
  · rw [List.mem_singleton] at found
    subst found
    exact lowerOne_cases n

theorem mem_lowerFrom {m : Nat} {before ns : List Nat} (found : m ∈ lowerFrom before ns) : m ∈ ns ∨ 0x61 ≤ m := by
  induction ns generalizing before with
  | nil => cases found
  | cons n ns ih =>
    rw [lowerFrom, List.mem_append] at found
    rcases found with first | later
    · split at first
      · -- Both forms of the small sigma are far from the capitals.
        rw [List.mem_singleton] at first
        split at first
        · omega
        · omega
      · rcases mem_lowerAll first with rfl | small
        · exact .inl List.mem_cons_self
        · exact .inr small
    · exact (ih later).imp_left (List.mem_cons_of_mem n)

end Unicode

namespace Text

/-- What stands before the small letters, such as a slash, comes into a text by no lowering. -/
theorem mem_of_mem_lower {c : CodePoint} {t : Text} (early : c.val < 0x61) (found : c ∈ lower t) : c ∈ t := by
  obtain ⟨n, inside, rfl⟩ := List.mem_map.mp found
  by_cases range : n < 0x110000
  · have same : (CodePoint.ofNat n).val = n := by simp [CodePoint.ofNat, range]
    rw [same] at early
    rcases Unicode.mem_lowerFrom inside with before | late
    · obtain ⟨c, there, rfl⟩ := List.mem_map.mp before
      rw [CodePoint.ofNat_val]
      exact there
    · omega
  · have other : (CodePoint.ofNat n).val = 0xFFFD := by simp [CodePoint.ofNat, range]
    omega

theorem mem_of_mem_toString {d : Char} {t : Text} (other : d ≠ '�') (found : d ∈ t.toString.toList) :
    CodePoint.ofChar d ∈ t := by
  rw [toString, String.toList_ofList] at found
  obtain ⟨c, inside, same⟩ := List.mem_map.mp found
  cases char : c.char? with
  | none =>
    rw [char] at same
    exact absurd same.symm other
  | some e =>
    rw [char, Option.getD_some] at same
    subst same
    rw [← CodePoint.char?_eq_some_iff.mp char]
    exact inside

theorem mem_ofChars {d : Char} {cs : List Char} (found : CodePoint.ofChar d ∈ ofChars cs) : d ∈ cs := by
  obtain ⟨e, inside, same⟩ := List.mem_map.mp found
  have chars := congrArg CodePoint.char? same
  rw [CodePoint.char?_ofChar, CodePoint.char?_ofChar] at chars
  exact Option.some.inj chars ▸ inside

theorem eq_ofString_of_toString {t : Text} {s : String} (clear : '�' ∉ s.toList) (same : t.toString = s) :
    t = ofString s := by
  have chars : toChars t = s.toList := by rw [← same, toString, String.toList_ofList]
  have whole : t.hasSurrogate = false := by
    rw [Bool.eq_false_iff]
    intro broken
    obtain ⟨c, inside, surrogate⟩ := List.any_eq_true.mp broken
    refine clear (chars ▸ List.mem_map.mpr ⟨c, inside, ?_⟩)
    simp [CodePoint.char?, surrogate]
  rw [ofString, ← chars, ofChars_toChars whole]

end Text

namespace Site

theorem mem_of_mem_before {mark c : Char} {cs : List Char} (found : c ∈ before mark cs) : c ∈ cs :=
  (List.takeWhile_prefix _).subset found

theorem mem_of_mem_after {mark c : Char} {cs : List Char} (found : c ∈ after mark cs) : c ∈ cs :=
  (List.dropWhile_suffix _).subset (List.mem_of_mem_drop found)

theorem mem_of_mem_afterLast {mark c : Char} {cs : List Char} (found : c ∈ afterLast mark cs) : c ∈ cs := by
  rw [afterLast, List.mem_reverse] at found
  exact List.mem_reverse.mp ((List.takeWhile_prefix _).subset found)

theorem not_mem_before (mark : Char) (cs : List Char) : mark ∉ before mark cs := by
  intro found
  have other := List.all_eq_true.mp List.all_takeWhile _ found
  simp at other

/-- The host ends before the first slash after the two that lead to it. -/
theorem slash_not_mem_authority (cs : List Char) : '/' ∉ authority cs := by
  intro found
  simp only [authority] at found
  split at found
  · have inside := List.all_eq_true.mp List.all_takeWhile _ found
    simp [endsAuthority] at inside
  · cases found

theorem mem_of_mem_hostPart {c : Char} {cs : List Char} (found : c ∈ hostPart cs) : c ∈ cs := by
  simp only [hostPart] at found
  split at found
  · exact mem_of_mem_afterLast (mem_of_mem_after (mem_of_mem_before found))
  · exact mem_of_mem_afterLast (mem_of_mem_before found)

theorem mem_of_mem_lowerHost {d : Char} {cs : List Char} (early : d.toNat < 0x61)
    (found : CodePoint.ofChar d ∈ lowerHost cs) : d ∈ cs := by
  rcases List.mem_append.mp found with name | zone
  · exact mem_of_mem_before (Text.mem_ofChars (Text.mem_of_mem_lower early name))
  · exact (List.dropWhile_suffix _).subset (Text.mem_ofChars zone)

theorem slash_not_mem_addressHost {cs : List Char} {host : Text} (read : addressHost cs = .ok host) :
    CodePoint.ofChar '/' ∉ host := by
  simp only [addressHost] at read
  intro found
  split at read
  · cases read
  · cases read
    exact slash_not_mem_authority cs (mem_of_mem_hostPart (mem_of_mem_lowerHost (by decide) found))

/-- A hostname is a single name, and the name of a folder of its own. -/
theorem hostname_eq_ok {site host : String} (named : hostname site = .ok host) :
    host ≠ "" ∧ '/' ∉ host.toList ∧ '\\' ∉ host.toList ∧ host ≠ "." ∧ host ≠ ".." := by
  simp only [hostname] at named
  split at named
  · cases named
  · rename_i found read
    split at named
    · rename_i fit
      cases named
      have noSlash : CodePoint.ofChar '/' ∉ found := by
        split at read
        · exact slash_not_mem_addressHost read
        · cases read
          intro inside
          exact not_mem_before '/' _ (mem_of_mem_before (Text.mem_ofChars inside))
      simp only [isFolderName, Bool.and_eq_true, Bool.not_eq_true', bne_iff_ne, List.isEmpty_eq_false_iff,
        List.any_eq_false] at fit
      obtain ⟨⟨⟨some_, notDot⟩, notUp⟩, noBackslash⟩ := fit
      refine ⟨fun same => ?_, fun inside => ?_, fun inside => ?_, fun same => ?_, fun same => ?_⟩
      · exact some_ (Text.eq_ofString_of_toString (by decide) same)
      · exact noSlash (Text.mem_of_mem_lower (by decide) (Text.mem_of_mem_toString (by decide) inside))
      · exact noBackslash _ (Text.mem_of_mem_toString (by decide) inside) (CodePoint.is_iff.mpr rfl)
      · exact notDot (Text.eq_ofString_of_toString (by decide) same)
      · exact notUp (Text.eq_ofString_of_toString (by decide) same)
    · cases named

end Site

theorem Config.analysisFolder_eq {site host : String} (c : Config) (named : Site.hostname site = .ok host) :
    c.analysisFolder site = .ok ((c.outputRoot.child host).child "analysis") := by
  obtain ⟨some_, noSlash, _, notDot, _⟩ := Site.hostname_eq_ok named
  have isName : Path.isName host.toList = true := by
    simp only [Path.isName, Bool.and_eq_true, Bool.not_eq_true', bne_iff_ne, List.isEmpty_eq_false_iff]
    constructor
    · intro empty
      exact some_ (String.toList_inj.mp empty)
    · intro dot
      exact notDot (String.toList_inj.mp dot)
  have last : Path.ofString "analysis" = ⟨.relative, ["analysis"]⟩ := rfl
  unfold Config.analysisFolder
  rw [named]
  simp only [Path.div_eq_child (Path.ofString_eq noSlash isName), Path.div_eq_child last]

end SiteSurvey
