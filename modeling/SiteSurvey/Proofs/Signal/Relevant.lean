import SiteSurvey.Proofs.Listing
import SiteSurvey.Proofs.Text.CodePoint
import SiteSurvey.Survey.Triage

set_option autoImplicit false

namespace SiteSurvey

namespace Text

/-- A text is shown as a string that holds no replacement character only if it is the text of that string. -/
theorem toString_eq_iff {t : Text} {s : String} (plain : '�' ∉ s.toList) : toString t = s ↔ t = ofString s := by
  constructor
  · rintro rfl
    rw [toString, String.toList_ofList] at plain
    have whole : hasSurrogate t = false := by
      rw [hasSurrogate, List.any_eq_false]
      intro c found half
      refine plain (List.mem_map.mpr ⟨c, found, ?_⟩)
      rw [CodePoint.char?, if_pos half]
      rfl
    rw [toString, ofString, String.toList_ofList, ofChars_toChars whole]
  · rintro rfl
    rw [toString, ofString, toChars_ofChars, String.ofList_toList]

end Text

namespace Signal

/-- A match that is worth a look, in the words of the rules for it. -/
structure Relevant (t : Text) : Prop where
  long : 3 < t.length
  unlisted : ∀ word ∈ stopList, Text.lower t ≠ Text.ofString word
  worded : ∃ c ∈ t, ¬(0x30 ≤ c.val ∧ c.val ≤ 0x39)

theorem contains_stopList {t : Text} :
    stopList.contains t.toString = true ↔ ∃ word ∈ stopList, t = Text.ofString word := by
  have plain : ∀ word ∈ stopList, '�' ∉ word.toList := by decide
  rw [List.contains_iff_mem]
  constructor
  · intro listed
    exact ⟨_, listed, (Text.toString_eq_iff (plain _ listed)).mp rfl⟩
  · rintro ⟨word, listed, same⟩
    rwa [(Text.toString_eq_iff (plain word listed)).mpr same]

theorem isWorthy_iff {t : Text} : isWorthy t = true ↔ Relevant t := by
  have unlisted : stopList.contains (Text.lower t).toString = false ↔
      ∀ word ∈ stopList, Text.lower t ≠ Text.ofString word := by
    rw [← Bool.not_eq_true, contains_stopList]
    simp
  have worded : t.all isAsciiDigit = false ↔ ∃ c ∈ t, ¬(0x30 ≤ c.val ∧ c.val ≤ 0x39) := by
    rw [List.all_eq_false]
    simp [isAsciiDigit]
  rw [isWorthy, Bool.and_eq_true, Bool.and_eq_true, Bool.not_eq_true', Bool.not_eq_true', decide_eq_true_eq, unlisted,
    worded]
  exact ⟨fun ⟨⟨long, unlisted⟩, worded⟩ => ⟨long, unlisted, worded⟩,
    fun ⟨long, unlisted, worded⟩ => ⟨⟨long, unlisted⟩, worded⟩⟩

/-- What is said of a member: nothing if it is missing or counts as nothing, and else its text. -/
inductive Tells (members : List (Text × Json)) (key : String) : Text → Prop
  | missing (absent : Json.lookup members (Text.ofString key) = none) : Tells members key []
  | nothing {v : Json} (found : Json.lookup members (Text.ofString key) = some v) (empty : v.isNothing = true) :
      Tells members key []
  | shown {v : Json} (found : Json.lookup members (Text.ofString key) = some v) (filled : v.isNothing = false) :
      Tells members key v.display

theorem tells_iff {members : List (Text × Json)} {key : String} {t : Text} :
    Tells members key t ↔ t = memberText members key := by
  rw [memberText]
  cases found : Json.lookup members (Text.ofString key) with
  | none =>
    constructor
    · rintro (_ | ⟨found', _⟩ | ⟨found', _⟩)
      · rfl
      · cases found.symm.trans found'
      · cases found.symm.trans found'
    · rintro rfl
      exact .missing found
  | some v =>
    constructor
    · rintro (absent | ⟨found', empty⟩ | ⟨found', filled⟩)
      · cases found.symm.trans absent
      · cases found.symm.trans found'
        simp [empty]
      · cases found.symm.trans found'
        simp [filled]
    · rintro rfl
      dsimp only
      split
      · next empty => exact .nothing found empty
      · next filled => exact .shown found (by simpa using filled)

/-- The signal that a record gives by one of its findings: `Gives v j s` if `v` is an object with a list of
findings, and the one with number `j` is an object whose match is a relevant text. -/
inductive Gives : Json → Nat → Signal → Prop
  | mk {record finding : List (Text × Json)} {findings : List Json} {j : Nat} {file detector matched context : Text}
      (lists : Json.lookup record (Text.ofString "findings") = some (.array findings))
      (listed : findings[j]? = some (.object finding))
      (hit : Json.lookup finding (Text.ofString "match") = some (.string matched)) (relevant : Relevant matched)
      (fileTold : Tells record "file" file) (detectorTold : Tells record "regex" detector)
      (contextTold : Tells finding "context" context) :
      Gives (.object record) j { file, detector, matched, context }

theorem ofFinding_eq_some_iff {file detector : Text} {v : Json} {s : Signal} :
    ofFinding file detector v = some s ↔
      ∃ finding matched, v = .object finding ∧
        Json.lookup finding (Text.ofString "match") = some (.string matched) ∧ Relevant matched ∧
        s = { file, detector, matched, context := memberText finding "context" } := by
  constructor
  · intro made
    unfold ofFinding at made
    split at made
    · next finding =>
      split at made
      · next matched hit =>
        split at made
        · next worthy => exact ⟨finding, matched, rfl, hit, isWorthy_iff.mp worthy, (Option.some.inj made).symm⟩
        · cases made
      · cases made
    · cases made
  · rintro ⟨finding, matched, rfl, hit, relevant, rfl⟩
    simp only [ofFinding, hit, isWorthy_iff.mpr relevant, if_true]

/-- The signals of an entry of a report, which need not be a record. -/
def keptOf : Json → List Signal
  | .object members => ofRecord members
  | _ => []

theorem inOrder_keptOf (v : Json) : InOrder (· < ·) (Gives v) (keptOf v) := by
  cases v with
  | object record =>
    rw [keptOf, ofRecord]
    split
    · next findings lists =>
      refine (inOrder_filterMap _ findings).congr fun j s => ?_
      simp only [ofFinding_eq_some_iff]
      constructor
      · rintro ⟨lists', listed, hit, relevant, fileTold, detectorTold, contextTold⟩
        cases lists.symm.trans lists'
        rw [tells_iff] at fileTold detectorTold contextTold
        exact ⟨_, listed, _, _, rfl, hit, relevant, by rw [fileTold, detectorTold, contextTold]⟩
      · rintro ⟨_, listed, finding, matched, rfl, hit, relevant, rfl⟩
        exact .mk lists listed hit relevant (tells_iff.mpr rfl) (tells_iff.mpr rfl) (tells_iff.mpr rfl)
    · next other =>
      refine .nil fun j s given => ?_
      cases given with
      | mk lists => exact other _ lists
  | _ => exact .nil fun j s given => by cases given

def kept (records : List Json) : List Signal :=
  records.flatMap keptOf

theorem kept_append (records more : List Json) : kept (records ++ more) = kept records ++ kept more :=
  List.flatMap_append

/-- Whatever the entries of a report are, signals can be taken from those that are records. -/
theorem ofRecords_eq (records : List Json) : ofRecords (records.filter isObject) = .ok (kept records) := by
  induction records with
  | nil => rfl
  | cons v records ih =>
    cases v with
    | object members =>
      rw [List.filter_cons_of_pos rfl, ofRecords, ih]
      rfl
    | _ => exact ih

theorem inOrder_kept (records : List Json) :
    InOrder RowWise (fun i s => ∃ v, records[i.1]? = some v ∧ Gives v i.2 s) (kept records) :=
  inOrder_flatMap inOrder_keptOf records

end Signal

end SiteSurvey
