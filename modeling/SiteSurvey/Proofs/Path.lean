import SiteSurvey.Path

set_option autoImplicit false

namespace SiteSurvey.Path

def child (p : Path) (name : String) : Path :=
  { p with names := p.names ++ [name] }

@[simp] theorem parent_child (p : Path) (name : String) : (p.child name).parent = p := by
  simp [parent, child]

@[simp] theorem name_child (p : Path) (name : String) : (p.child name).name = name := by
  simp [Path.name, child]

theorem div_eq_child {p : Path} {name : String} (single : ofString name = { anchor := .relative, names := [name] }) :
    p / name = p.child name := by
  change p.join (ofString name) = p.child name
  rw [single]
  rfl

theorem splitSlashes_eq {cs : List Char} (noSlash : '/' ∉ cs) : splitSlashes cs = [cs] := by
  induction cs with
  | nil => rfl
  | cons c cs ih =>
    rw [List.mem_cons, not_or] at noSlash
    have other : (c == '/') = false := by simpa using Ne.symm noSlash.1
    rw [splitSlashes, other, ih noSlash.2]
    rfl

theorem splitSlashes_append (cs : List Char) :
    ∃ parts last, ∀ ds first rest, splitSlashes ds = first :: rest →
      splitSlashes (cs ++ ds) = parts ++ (last ++ first) :: rest := by
  induction cs with
  | nil => exact ⟨[], [], fun _ _ _ split => split⟩
  | cons c cs ih =>
    obtain ⟨parts, last, ih⟩ := ih
    by_cases slash : c = '/'
    · refine ⟨[] :: parts, last, fun ds first rest split => ?_⟩
      rw [List.cons_append, splitSlashes, ih ds first rest split]
      simp [slash]
    · cases parts with
      | nil =>
        refine ⟨[], c :: last, fun ds first rest split => ?_⟩
        rw [List.cons_append, splitSlashes, ih ds first rest split]
        simp [slash]
      | cons part parts =>
        refine ⟨(c :: part) :: parts, last, fun ds first rest split => ?_⟩
        rw [List.cons_append, splitSlashes, ih ds first rest split]
        simp [slash]

theorem ofString_eq {name : String} (noSlash : '/' ∉ name.toList) (isName : isName name.toList = true) :
    ofString name = { anchor := .relative, names := [name] } := by
  have noLead : name.toList.takeWhile (· == '/') = [] := by
    cases shape : name.toList with
    | nil => rfl
    | cons c cs =>
      rw [shape, List.mem_cons, not_or] at noSlash
      simp [Ne.symm noSlash.1]
  simp [ofString, noLead, splitSlashes_eq noSlash, isName]

theorem joinNames_cons (first second : String) (rest : List String) :
    joinNames (first :: second :: rest) = first ++ "/" ++ joinNames (second :: rest) := rfl

theorem joinNames_append (names : List String) (name : String) (more : names ≠ []) :
    joinNames (names ++ [name]) = joinNames names ++ "/" ++ name := by
  induction names with
  | nil => exact absurd rfl more
  | cons first rest ih =>
    cases rest with
    | nil => rfl
    | cons second rest =>
      have further := ih (List.cons_ne_nil _ _)
      rw [List.cons_append] at further
      rw [List.cons_append, List.cons_append, joinNames_cons, joinNames_cons, further]
      simp only [String.append_assoc]

theorem toString_child (p : Path) (name : String) :
    (p.child name).toString = if p.names = [] then p.anchor.text ++ name else p.toString ++ "/" ++ name := by
  have whole : (p.child name).toString = p.anchor.text ++ joinNames (p.names ++ [name]) := by
    simp [toString, child]
  rw [whole]
  split
  · next empty =>
    rw [empty]
    rfl
  · next more =>
    have named : (p.anchor == .relative && p.names.isEmpty) = false := by simp [more]
    rw [joinNames_append _ _ more, toString, named, if_neg Bool.false_ne_true]
    simp only [String.append_assoc]

theorem toString_of_empty {p : Path} (empty : p.names = []) : p.toString = "." ∨ p.toString = p.anchor.text := by
  rw [toString, empty]
  split
  · exact .inl rfl
  · exact .inr String.append_empty

theorem utf8ByteSize_le_child (p : Path) (name : String) :
    p.toString.utf8ByteSize ≤ max 1 (p.child name).toString.utf8ByteSize := by
  have dot : ".".utf8ByteSize = 1 := rfl
  rw [toString_child]
  split
  · next empty =>
    rw [String.utf8ByteSize_append]
    rcases toString_of_empty empty with same | same <;> rw [same] <;> omega
  · simp only [String.utf8ByteSize_append]
    omega

theorem utf8ByteSize_child_le (p : Path) (name : String) :
    (p.child name).toString.utf8ByteSize ≤ p.anchor.text.utf8ByteSize + p.toString.utf8ByteSize + 1 + name.utf8ByteSize := by
  have slash : "/".utf8ByteSize = 1 := rfl
  rw [toString_child]
  split
  · rw [String.utf8ByteSize_append]
    omega
  · simp only [String.utf8ByteSize_append]
    omega

section Order

variable {as bs cs : List String}

/-- One path comes before another: at the first difference of their names, or because it ends there. -/
def Precedes (p q : Path) : Prop :=
  List.Lex (· < ·) p.sortKey q.sortKey

theorem lessEqual_iff : lessEqual as bs = true ↔ ¬List.Lex (· < ·) bs as := by
  induction as generalizing bs with
  | nil => simp [lessEqual]
  | cons a as ih =>
    cases bs with
    | nil => simp [lessEqual]
    | cons b bs =>
      rw [lessEqual, List.cons_lex_cons_iff, not_or]
      by_cases same : a = b
      · subst same
        simp [ih]
      · have other : b ≠ a := Ne.symm same
        simp only [beq_iff_eq, same, if_false, decide_eq_true_eq, other, false_and, not_false_eq_true, and_true]
        constructor
        · exact String.lt_asymm
        · intro notLess
          refine Classical.byContradiction fun notLess' => ?_
          exact same (String.le_antisymm (String.not_lt.mp notLess) (String.not_lt.mp notLess'))

theorem lessEqual_trans (first : lessEqual as bs = true) (second : lessEqual bs cs = true) :
    lessEqual as cs = true := by
  rw [lessEqual_iff] at first second ⊢
  exact List.le_trans first second

theorem lessEqual_total (as bs : List String) : lessEqual as bs = true ∨ lessEqual bs as = true := by
  rw [lessEqual_iff, lessEqual_iff]
  exact List.le_total as bs

theorem sortKey_inj {p q : Path} (alike : p.anchor = q.anchor) (same : p.sortKey = q.sortKey) : p = q := by
  obtain ⟨anchor, names⟩ := p
  obtain ⟨anchor', names'⟩ := q
  cases alike
  cases anchor <;> simp_all [sortKey]

theorem eq_of_lessEqual {p q : Path} (alike : p.anchor = q.anchor) (le : lessEqual p.sortKey q.sortKey = true)
    (ge : lessEqual q.sortKey p.sortKey = true) : p = q :=
  sortKey_inj alike (List.le_antisymm (lessEqual_iff.mp le) (lessEqual_iff.mp ge))

theorem mem_sorted {paths : List Path} {p : Path} : p ∈ sorted paths ↔ p ∈ paths :=
  List.mem_mergeSort

theorem pairwise_sorted (paths : List Path) :
    (sorted paths).Pairwise fun p q => lessEqual p.sortKey q.sortKey = true := by
  refine List.pairwise_mergeSort (fun p q r first second => ?_) (fun p q => ?_) paths
  · exact lessEqual_trans first second
  · rw [Bool.or_eq_true]
    exact lessEqual_total _ _

/-- The order of paths from one root does not depend on the order in which they were found. -/
theorem sorted_eq_of_perm {paths paths' : List Path} {anchor : Anchor} (alike : ∀ p ∈ paths, p.anchor = anchor)
    (perm : paths'.Perm paths) : sorted paths' = sorted paths := by
  refine List.Perm.eq_of_pairwise (fun p q inside inside' le ge => ?_) (pairwise_sorted paths') (pairwise_sorted paths)
    ((List.mergeSort_perm _ _).trans (perm.trans (List.mergeSort_perm _ _).symm))
  have first := alike p (perm.mem_iff.mp (mem_sorted.mp inside))
  have second := alike q (mem_sorted.mp inside')
  exact eq_of_lessEqual (first.trans second.symm) le ge

theorem pairwise_precedes_sorted {paths : List Path} {anchor : Anchor} (alike : ∀ p ∈ paths, p.anchor = anchor)
    (distinct : paths.Nodup) : (sorted paths).Pairwise Precedes := by
  have apart : (sorted paths).Nodup := (List.mergeSort_perm _ _).nodup_iff.mpr distinct
  refine ((pairwise_sorted paths).and apart).imp_of_mem fun {p q} inside inside' both => ?_
  have anchors := (alike p (mem_sorted.mp inside)).trans (alike q (mem_sorted.mp inside')).symm
  rcases List.le_iff_lt_or_eq.mp (lessEqual_iff.mp both.1) with less | same
  · exact less
  · exact absurd (sortKey_inj anchors same) both.2

end Order

end SiteSurvey.Path
