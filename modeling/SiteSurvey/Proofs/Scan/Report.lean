import SiteSurvey.Proofs.Scan.Context
import SiteSurvey.Scan.Record

set_option autoImplicit false

namespace SiteSurvey

namespace Text

def IsLine (t : Text) : Prop :=
  CodePoint.ofChar '\n' ∉ t

instance (t : Text) : Decidable t.IsLine :=
  inferInstanceAs (Decidable (_ ∉ t))

theorem IsLine.append {t u : Text} (first : t.IsLine) (second : u.IsLine) : (t ++ u).IsLine := by
  rw [IsLine, List.mem_append, not_or]
  exact ⟨first, second⟩

theorem join_eq_intercalate (between : Text) (ts : List Text) : join between ts = between.intercalate ts := by
  induction ts with
  | nil => rfl
  | cons t rest ih =>
    cases rest with
    | nil => rw [join, List.intercalate_singleton]
    | cons u rest =>
      rw [List.intercalate_cons_cons, ← ih]
      rfl

theorem splitOn_join {lines : List Text} (some_ : lines ≠ []) (all : ∀ t ∈ lines, t.IsLine) :
    (join "\n" lines).splitOn (CodePoint.ofChar '\n') = lines := by
  rw [join_eq_intercalate]
  exact List.splitOn_intercalate _ all some_

end Text

namespace Scan

/-- A record that takes up a line for each of its texts. -/
structure Record.IsLined (r : Record) : Prop where
  file : r.file.IsLine
  detector : r.detector.IsLine
  matched : ∀ h ∈ r.hits, h.matched.IsLine
  context : ∀ h ∈ r.hits, h.context.IsLine

theorem isLine_context (text : Array Char) (start stop radius : Int) : (context text start stop radius).IsLine := by
  rw [context, Text.trim_squeeze]
  intro found
  have space := (Text.tidy_spaced _).spaces _ found rfl
  exact absurd space (by decide)

theorem isLine_hitLines {h : Hit} (matched : h.matched.IsLine) (context : h.context.IsLine) :
    ∀ t ∈ hitLines h, t.IsLine := by
  simp only [hitLines, List.mem_cons, List.not_mem_nil, or_false, forall_eq_or_imp, forall_eq]
  exact ⟨.append (by decide) matched, .append (by decide) context⟩

theorem Record.IsLined.lines {r : Record} (lined : r.IsLined) : ∀ t ∈ recordLines r, t.IsLine := by
  have hits : ∀ t ∈ r.hits.flatMap hitLines, t.IsLine := by
    intro t found
    obtain ⟨h, listed, inside⟩ := List.mem_flatMap.mp found
    exact isLine_hitLines (lined.matched h listed) (lined.context h listed) t inside
  simp only [recordLines, List.mem_append, List.mem_cons, List.not_mem_nil, or_false]
  rintro t (((rfl | rfl | rfl) | inside) | rfl)
  · exact .append (by decide) lined.file
  · exact .append (by decide) lined.detector
  · decide
  · exact hits t inside
  · decide

def lineText? (opening : String) (line : Text) : Option Text :=
  line.dropPrefix? (Text.ofString opening)

theorem lineText?_append (opening : String) (t : Text) : lineText? opening (Text.ofString opening ++ t) = some t :=
  List.dropPrefix?_append_of_beq t (beq_self_eq_true _)

mutual

def readRecords : List Text → Option (List Record)
  | [] => some []
  | first :: second :: title :: rest => do
      let file ← lineText? "File: " first
      let detector ← lineText? "Regex: " second
      if title = Text.ofString "Findings:" then readHits file detector [] rest else none
  | _ => none

/-- The records that some lines stand for, in the midst of the hits of the first one. An empty line ends them. -/
def readHits (file detector : Text) (hits : List Hit) : List Text → Option (List Record)
  | [] :: rest => (readRecords rest).map ({ file, detector, hits } :: ·)
  | first :: second :: rest => do
      let matched ← lineText? "- Match: " first
      let context ← lineText? "  Context: " second
      readHits file detector (hits ++ [{ matched, context }]) rest
  | _ => none

end

def readReport (report : Text) : Option (List Record) :=
  if report.isEmpty then some [] else readRecords (report.splitOn (CodePoint.ofChar '\n'))

/-- The line of a match is never empty, so the hits go on to the empty line, whatever their texts look like. -/
theorem readHits_lines (file detector : Text) (known hits : List Hit) (rest : List Text) :
    readHits file detector known (hits.flatMap hitLines ++ [] :: rest) =
      (readRecords rest).map ({ file, detector, hits := known ++ hits } :: ·) := by
  induction hits generalizing known with
  | nil => rw [List.flatMap_nil, List.nil_append, readHits, List.append_nil]
  | cons h hits ih =>
    have filled : Text.ofString "- Match: " ++ h.matched ≠ [] := by simp [Text.ofString, Text.ofChars]
    have lines : (h :: hits).flatMap hitLines ++ [] :: rest = (Text.ofString "- Match: " ++ h.matched) ::
        (Text.ofString "  Context: " ++ h.context) :: (hits.flatMap hitLines ++ [] :: rest) := by
      simp [hitLines]
    rw [lines, readHits]
    · simp only [lineText?_append, Option.bind_eq_bind, Option.bind_some]
      rw [ih, List.append_assoc, List.singleton_append]
    · exact filled

theorem readRecords_lines (r : Record) (rest : List Text) :
    readRecords (recordLines r ++ rest) = (readRecords rest).map (r :: ·) := by
  have lines : recordLines r ++ rest = (Text.ofString "File: " ++ r.file) :: (Text.ofString "Regex: " ++ r.detector) ::
      Text.ofString "Findings:" :: (r.hits.flatMap hitLines ++ [] :: rest) := by
    simp [recordLines]
  rw [lines, readRecords]
  simp only [lineText?_append, Option.bind_eq_bind, Option.bind_some, if_true]
  exact readHits_lines r.file r.detector [] r.hits rest

theorem readRecords_flatMap (rs : List Record) : readRecords (rs.flatMap recordLines) = some rs := by
  induction rs with
  | nil => rw [List.flatMap_nil, readRecords]
  | cons r rs ih => rw [List.flatMap_cons, readRecords_lines, ih, Option.map_some]

theorem readReport_render {rs : List Record} (lined : ∀ r ∈ rs, r.IsLined) : readReport (render rs) = some rs := by
  cases rs with
  | nil => rfl
  | cons r rs =>
    have filled : (render (r :: rs)).isEmpty = false := by
      simp [render, recordLines, Text.join_eq_intercalate, Text.ofString, Text.ofChars]
    have some_ : (r :: rs).flatMap recordLines ≠ [] := by simp [recordLines]
    have lines : ∀ t ∈ (r :: rs).flatMap recordLines, t.IsLine := by
      intro t found
      obtain ⟨s, listed, inside⟩ := List.mem_flatMap.mp found
      exact (lined s listed).lines t inside
    rw [readReport, filled, if_neg Bool.false_ne_true, render, Text.splitOn_join some_ lines, readRecords_flatMap]

/-- A report for people tells all: the records are read back from it, so no two lists of them have the same report.
Their texts may look like lines of the report, but they must not hold a line feed, and a context never does. -/
theorem render_tells_all :
    (∀ (text : Array Char) (start stop radius : Int), (context text start stop radius).IsLine) ∧
      (∀ rs : List Record, (∀ r ∈ rs, r.IsLined) → readReport (render rs) = some rs) ∧
      ∀ rs rs' : List Record, (∀ r ∈ rs, r.IsLined) → (∀ r ∈ rs', r.IsLined) → (render rs = render rs' ↔ rs = rs') := by
  refine ⟨isLine_context, fun rs => readReport_render, fun rs rs' lined lined' => ⟨fun same => ?_, congrArg render⟩⟩
  have back := readReport_render lined
  rw [same, readReport_render lined'] at back
  exact (Option.some.inj back).symm

-- Records whose texts look like lines of a report, and one without hits.
def mimics : List Record :=
  [{ file := "Findings:", detector := "", hits := [] },
   { file := "- Match: x", detector := "File: a",
     hits := [{ matched := "", context := "" }, { matched := "File: b", context := "- Match: " }] }]

theorem isLined_mimics : ∀ r ∈ mimics, r.IsLined := by
  simp only [mimics, List.forall_mem_cons]
  refine ⟨⟨by decide, by decide, by simp, by simp⟩, ⟨by decide, by decide, ?_, ?_⟩, by simp⟩ <;>
    simp only [List.forall_mem_cons] <;> exact ⟨by decide, by decide, by simp⟩

theorem render_mimics : (∀ r ∈ mimics, r.IsLined) ∧ readReport (render mimics) = some mimics ∧
    render mimics ≠ render mimics.reverse := by
  obtain ⟨_, read, apart⟩ := render_tells_all
  have lined' : ∀ r ∈ mimics.reverse, r.IsLined := fun r found => isLined_mimics r (List.mem_reverse.mp found)
  exact ⟨isLined_mimics, read mimics isLined_mimics, fun same =>
    absurd ((apart mimics mimics.reverse isLined_mimics lined').mp same) (by decide)⟩

end Scan

end SiteSurvey
