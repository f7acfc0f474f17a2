import SiteSurvey.Log.Line
import SiteSurvey.Proofs.Json.Ascii
import SiteSurvey.Proofs.Json.Documents
import SiteSurvey.Proofs.Json.Same

set_option autoImplicit false

namespace SiteSurvey

namespace Json

theorem lookup_of_mem {α : Type} {members : List (Text × α)} {key : Text} {value : α}
    (distinct : (members.map (·.1)).Nodup) (found : (key, value) ∈ members) : lookup members key = some value := by
  induction members with
  | nil => cases found
  | cons m rest ih =>
    rw [List.map_cons, List.nodup_cons] at distinct
    rcases List.mem_cons.mp found with rfl | later
    · simp [lookup]
    · have other : m.1 ≠ key := by
        rintro rfl
        exact distinct.1 (List.mem_map.mpr ⟨_, later, rfl⟩)
      simpa [lookup, other] using ih distinct.2 later

theorem settledMembers_eq (members : List (Text × Json)) :
    settledMembers members = members.map fun m => (m.1, m.2.settled) := by
  induction members with
  | nil => rfl
  | cons m rest ih => rw [settledMembers, ih, List.map_cons]

end Json

namespace Notice

open Json

variable {m : Moment} {millisecond : Nat} {n : Notice} {failure : Option Text}

def setNames (n : Notice) : List String :=
  fieldNames.filter fun name => (lookup n.fields (Text.ofString name)).isSome

/-- What the members of an object have to be for them to tell all about a notice and a failure. -/
structure Told (m : Moment) (millisecond : Nat) (n : Notice) (failure : Option Text) (members : List (Text × Json)) :
    Prop where
  keys : members.map (·.1) = (["timestamp", "level", "logger", "message"] ++ n.setNames ++
    if failure.isSome then ["exception"] else []).map Text.ofString
  timestamp : lookup members "timestamp" = some (.string (timestamp m millisecond))
  level : lookup members "level" = some (.string n.level.name)
  logger : lookup members "logger" = some (.string n.logger)
  message : lookup members "message" = some (.string n.message)
  fields : ∀ name ∈ fieldNames, ∀ v, lookup n.fields (Text.ofString name) = some v →
    ∃ w, lookup members (Text.ofString name) = some w ∧ v.Same w
  exception : ∀ text ∈ failure, lookup members "exception" = some (.string text)

def lineMembers (m : Moment) (millisecond : Nat) (n : Notice) (failure : Option Text) : List (Text × Json) :=
  (Text.ofString "timestamp", .string (timestamp m millisecond)) :: n.members ++
    (failure.map fun text => (Text.ofString "exception", Json.string text)).toList

theorem line_eq : n.line m millisecond failure = print .compact (.object (lineMembers m millisecond n failure)) := by
  cases failure with
  | none => rfl
  | some text => rfl

theorem mem_known {fields : List (Text × Json)} {f : Text × Json} :
    f ∈ known fields ↔
      ∃ name ∈ fieldNames, ∃ v, lookup fields (Text.ofString name) = some v ∧ (Text.ofString name, v) = f := by
  simp only [known, List.mem_filterMap, Option.map_eq_some_iff]

theorem keys_known (fields : List (Text × Json)) (names : List String) :
    (names.filterMap fun name => (lookup fields (Text.ofString name)).map fun v => (Text.ofString name, v)).map (·.1) =
      (names.filter fun name => (lookup fields (Text.ofString name)).isSome).map Text.ofString := by
  induction names with
  | nil => rfl
  | cons name names ih =>
    cases found : lookup fields (Text.ofString name) with
    | none => simp [found, ih]
    | some v => simp [found, ih]

theorem keys_lineMembers :
    (lineMembers m millisecond n failure).map (·.1) = (["timestamp", "level", "logger", "message"] ++ n.setNames ++
      if failure.isSome then ["exception"] else []).map Text.ofString := by
  have known := keys_known n.fields fieldNames
  cases failure with
  | none => simp [lineMembers, members, Notice.known, setNames, known]
  | some text => simp [lineMembers, members, Notice.known, setNames, known]

theorem nodup_lineMembers : ((lineMembers m millisecond n failure).map (·.1)).Nodup := by
  -- The keys are some of all that there can be, in the same order.
  have all :
      ((["timestamp", "level", "logger", "message"] ++ fieldNames ++ ["exception"]).map Text.ofString).Nodup := by
    decide
  have ending : (if failure.isSome then ["exception"] else []).Sublist ["exception"] := by
    split
    · exact List.Sublist.refl _
    · exact List.nil_sublist _
  rw [keys_lineMembers]
  refine List.Nodup.sublist (List.Sublist.map _ ?_) all
  exact ((List.Sublist.refl _).append List.filter_sublist).append ending

theorem legible_string {s : Text} (whole : s.hasSurrogate = false) : Legible .compact (.string s) :=
  keeps_of_whole whole

theorem hasSurrogate_timestamp : (timestamp m millisecond).hasSurrogate = false := by
  simp [timestamp]

theorem legible_lineMembers (message : n.message.hasSurrogate = false)
    (text : ∀ t ∈ failure, t.hasSurrogate = false)
    (values : ∀ name ∈ fieldNames, ∀ v, lookup n.fields (Text.ofString name) = some v → IsValue v) :
    Legible .compact (.object (lineMembers m millisecond n failure)) := by
  refine ⟨nodup_lineMembers, legibleMembers_iff.mpr fun f found => ⟨?_, ?_⟩⟩
  · have key : f.1 ∈ (lineMembers m millisecond n failure).map (·.1) := List.mem_map_of_mem found
    rw [keys_lineMembers] at key
    obtain ⟨name, _, same⟩ := List.mem_map.mp key
    rw [← same]
    exact keeps_of_whole (Text.hasSurrogate_ofString name)
  · rcases List.mem_append.mp found with front | ending
    · simp only [members, List.mem_cons] at front
      rcases front with rfl | rfl | rfl | rfl | field
      · exact legible_string hasSurrogate_timestamp
      · exact legible_string (Text.hasSurrogate_ofString _)
      · exact legible_string (Text.hasSurrogate_ofString _)
      · exact legible_string message
      · obtain ⟨name, known, v, set, rfl⟩ := mem_known.mp field
        exact (values name known v set).legible
    · rw [Option.mem_toList, Option.map_eq_some_iff] at ending
      obtain ⟨t, failed, rfl⟩ := ending
      exact legible_string (text t failed)

theorem told_settled : Told m millisecond n failure (settledMembers (lineMembers m millisecond n failure)) := by
  have distinct : ((settledMembers (lineMembers m millisecond n failure)).map (·.1)).Nodup := by
    rw [keys_settledMembers]
    exact nodup_lineMembers
  -- The keys are distinct, so each member is found under its own.
  have found : ∀ {k v}, (k, v) ∈ lineMembers m millisecond n failure →
      lookup (settledMembers (lineMembers m millisecond n failure)) k = some v.settled := by
    intro k v inside
    refine lookup_of_mem distinct ?_
    rw [settledMembers_eq]
    exact List.mem_map.mpr ⟨(k, v), inside, rfl⟩
  have text : ∀ {k s}, (k, .string s) ∈ lineMembers m millisecond n failure →
      lookup (settledMembers (lineMembers m millisecond n failure)) k = some (.string s) := fun inside => found inside
  refine ⟨by rw [keys_settledMembers, keys_lineMembers], text ?_, text ?_, text ?_, text ?_, ?_, ?_⟩
  · simp [lineMembers]
  · simp [lineMembers, members]
  · simp [lineMembers, members]
  · simp [lineMembers, members]
  · intro name known v set
    refine ⟨v.settled, found ?_, v.same_settled⟩
    have field := mem_known.mpr ⟨name, known, v, set, rfl⟩
    simp [lineMembers, members, field]
  · intro t failed
    refine text ?_
    simp [lineMembers, Option.mem_def.mp failed]

theorem isValue_of_faithful {v : Json} (faithful : Faithful .compact v) : IsValue v := by
  refine ⟨print .compact v, ?_, read_print faithful⟩
  rw [Text.hasSurrogate, List.any_eq_false]
  intro c found surrogate
  have printable := List.all_eq_true.mp (isPrintable_printAt 0 v) c found
  simp only [CodePoint.isPrintable, CodePoint.isSurrogate, Bool.and_eq_true, decide_eq_true_eq] at printable surrogate
  omega

-- A notice that would break its line and its object if it were written as it is. What it is not about is no value.
def hostile : Notice where
  level := .warning
  logger := "jsrecon.events"
  message := "done\"\x7d\n\x7b\x7f😀"
  fields :=
    [("count", .real (.decimal false 1500 (-2))), ("note", .string [CodePoint.ofNat 0xD83D, CodePoint.ofNat 0xDE00]),
     ("error", .string [CodePoint.ofNat 0xD83D]), ("event", .array [.int (-7), .object [("k", .bool true)]])]

theorem isValue_hostile :
    ∀ name ∈ fieldNames, ∀ v, lookup hostile.fields (Text.ofString name) = some v → IsValue v := by
  have nested : Faithful .compact (.array [.int (-7), .object [(Text.ofString "k", .bool true)]]) := by
    refine ⟨?_, ⟨?_, keeps_of_whole ?_, trivial, trivial⟩, trivial⟩
    · rw [Faithful]
      decide
    · decide
    · decide
  simp only [fieldNames, List.forall_mem_cons]
  refine ⟨?event, ?site, ?stage, ?file, ?detector, ?count, ?artifact, ?error, by simp⟩
  case event =>
    rintro _ ⟨⟩
    exact isValue_of_faithful nested
  case count =>
    rintro _ ⟨⟩
    exact ⟨"15.00", by decide, rfl⟩
  case error =>
    rintro _ ⟨⟩
    exact ⟨"\"\\ud83d\"", by decide, rfl⟩
  all_goals
    intro v found
    cases found

end Notice

end SiteSurvey
