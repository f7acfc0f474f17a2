import SiteSurvey.Proofs.Signal.Relevant
import SiteSurvey.Proofs.Signal.Sequence
import SiteSurvey.Proofs.Survey.Foreseen

set_option autoImplicit false

namespace SiteSurvey.Signal

open Artifact Volume

/-- All that a triage can come to, by the bytes that the report holds. -/
inductive Reading (report : Path) (w : World) (bytes : ByteArray) : Except Failure Path × World → Prop
  | garbled {f : Utf8.Failure} (decoded : Utf8.decode bytes = .error f) :
      Reading report w bytes (.error (.undecodable f.message), w)
  | malformed {t : Text} {e : Json.ReadError} (decoded : Utf8.decode bytes = .ok t)
      (parsed : Json.read (unified t) = .error e) : Reading report w bytes (.error (unread (unified t) e), w)
  | noList {t message : Text} {v : Json} (decoded : Utf8.decode bytes = .ok t) (parsed : Json.read (unified t) = .ok v)
      (other : ∀ records, v ≠ .array records) : Reading report w bytes (.error (.invalidInput message), w)
  | list {t : Text} {records : List Json} (total : Nat) (decoded : Utf8.decode bytes = .ok t)
      (parsed : Json.read (unified t) = .ok (.array records)) :
      Reading report w bytes (outcome (save report (kept records) total) w)

def Reads (bytes : ByteArray) (v : Json) : Prop :=
  ∃ t, Utf8.decode bytes = .ok t ∧ Json.read (unified t) = .ok v

/-- One more file stands on a volume, at the end of a path that led to nothing. Nothing else has changed, but that a
link that led nowhere has given way to the file. -/
structure OneMore (v : Volume) (p : Path) (bytes : ByteArray) (v' : Volume) : Prop where
  absent : v.isPresent p = .ok false
  added : ∃ s, v.lookup false p = .ok s ∧ (∀ e, s.entry = some e → e.isLink = true) ∧
    ∀ l, v'.get? l = if l = s.place then some (.file bytes) else v.get? l

/-- The two ways in which a triage is meant to end: a file has been added, or the input is at fault and nothing has
been done. -/
inductive AllOrNothing (w : World) : Except Failure Path × World → Prop
  | all {path : Path} {bytes : ByteArray} {w' : World} (added : OneMore w.volume path bytes w'.volume) :
      AllOrNothing w (.ok path, w')
  | nothing (message : Text) : AllOrNothing w (.error (.invalidInput message), w)

/-- A folder in which a file of signals can be written at a moment: temporary files find room, and each name that
the search comes to can be asked about and could be that of a file. -/
structure TakesSignals (v : Volume) (folder : Path) (m : Moment) : Prop where
  room : ∃ scratch place, Room v folder scratch place
  names : ∀ j, (∀ i < j, v.isPresent (candidate folder fileStart ".json" m i) = .ok true) →
    Short folder fileStart ".json" m j ∧ ∃ taken, v.isPresent (candidate folder fileStart ".json" m j) = .ok taken

theorem reads_print {v : Json} (faithful : Json.Faithful .report v)
    (whole : (Json.print .report v).hasSurrogate = false) : Reads (Utf8.encode (Json.print .report v)) v := by
  refine ⟨_, Utf8.decode_encode whole, ?_⟩
  rw [unified_eq whole (Json.no_carriage_print faithful), Json.read_print faithful]

section Triage

variable {w w' : World} {report path : Path} {place : Location} {bytes : ByteArray} {signals : List Signal} {total : Nat}

theorem isFile_of_stands (stands : w.volume.lookup true report = .ok ⟨place, some (.file bytes)⟩) :
    w.volume.isFile report = .ok true := by
  rw [Volume.isFile, holds, stands]
  rfl

theorem reading_extract (stands : w.volume.lookup true report = .ok ⟨place, some (.file bytes)⟩) :
    Reading report w bytes (outcome (extract report) w) := by
  have isFile : outcome (Survey.ask report fun v => v.isFile report) w = (.ok true, w) := by
    rw [Survey.outcome_ask, isFile_of_stands stands]
    rfl
  have asked : outcome (Survey.ask report fun v => v.read report) w = (.ok bytes, w) := by
    rw [Survey.outcome_ask, Volume.read, stands]
    rfl
  rw [extract, outcome_bind_ok isFile]
  simp only [Bool.not_true, Bool.false_eq_true, if_false]
  cases decoded : Utf8.decode bytes with
  | error f =>
    have text : outcome (readText report) w = (.error (.undecodable f.message), w) := by
      rw [readText, outcome_bind_ok asked]
      simp only [decoded]
      rfl
    rw [outcome_bind_error text]
    exact .garbled decoded
  | ok t =>
    have text : outcome (readText report) w = (.ok (unified t), w) := by
      rw [readText, outcome_bind_ok asked]
      simp only [decoded]
      rfl
    rw [outcome_bind_ok text]
    cases parsed : Json.read (unified t) with
    | error e => exact .malformed decoded parsed
    | ok v =>
      cases v with
      | array records =>
        simp only [ofRecords_eq]
        rw [outcome_bind_ok (Survey.outcome_ofExcept _)]
        exact .list _ decoded parsed
      | _ => exact .noList decoded parsed (by simp)

theorem extract_of_reads {records : List Json}
    (stands : w.volume.lookup true report = .ok ⟨place, some (.file bytes)⟩) (reads : Reads bytes (.array records)) :
    ∃ total, outcome (extract report) w = outcome (save report (kept records) total) w := by
  obtain ⟨t, decoded, parsed⟩ := reads
  have reading := reading_extract stands
  generalize outcome (extract report) w = ended at reading
  cases reading with
  | garbled decoded' => cases decoded.symm.trans decoded'
  | malformed decoded' parsed' =>
    cases decoded.symm.trans decoded'
    cases parsed.symm.trans parsed'
  | noList decoded' parsed' other =>
    cases decoded.symm.trans decoded'
    cases parsed.symm.trans parsed'
    exact absurd rfl (other records)
  | list total decoded' parsed' =>
    cases decoded.symm.trans decoded'
    cases parsed.symm.trans parsed'
    exact ⟨total, rfl⟩

theorem TakesSignals.next {v : Volume} {folder : Path} {m : Moment} (takes : TakesSignals v folder m) :
    ∃ count, Next v folder fileStart ".json" m count := by
  have child := fun j => candidate_eq_child fileStart ".json" m j folder (by decide) (by decide)
  obtain ⟨count, reach, before, free⟩ := search_ends v folder fileStart ".json" m
  obtain ⟨short, taken, answer⟩ := takes.names count before
  cases taken with
  | true => exact absurd answer free
  | false =>
    simp only [child] at before answer
    exact ⟨count, reach, short, before, answer⟩

theorem takesSignals_of_vacant {v : Volume} {folder : Path} {m : Moment} {scratch place : Location}
    (room : Room v folder scratch place) (vacant : Vacant v folder place fileStart ".json" m) :
    TakesSignals v folder m := by
  have child := fun j => candidate_eq_child fileStart ".json" m j folder (by decide) (by decide)
  have answer : ∀ j, (∀ i < j, v.get? (candidatePlace place fileStart ".json" m i) ≠ none) →
      v.isPresent (candidate folder fileStart ".json" m j) =
        .ok (v.get? (candidatePlace place fileStart ".json" m j)).isSome := by
    intro j before
    obtain ⟨short, unlinked⟩ := vacant j before
    have fits := short.1
    rw [child]
    exact isPresent_child room.there (candidateName_proper _ _ _ _) (by omega) short.2 unlinked
  refine ⟨⟨scratch, place, room⟩, fun j present => ?_⟩
  -- A name that is asked about is that of an entry, as all names before it are.
  have taken : ∀ i < j, v.get? (candidatePlace place fileStart ".json" m i) ≠ none := by
    intro i
    induction i using Nat.strong_induction_on with
    | _ i ih =>
      intro below free
      have same := present i below
      rw [answer i fun k before => ih k before (Nat.lt_trans before below), free] at same
      cases same
  exact ⟨(vacant j taken).1, _, answer j taken⟩

theorem save_whole (takes : TakesSignals w.volume report.parent w.clock)
    (whole : ∀ s ∈ signals, s.words.hasSurrogate = false) :
    ∃ path w', outcome (save report signals total) w = (.ok path, w') := by
  have encodable : (Json.print .report (.array (signals.map toJson))).hasSurrogate = false := by
    rw [hasSurrogate_print, List.any_eq_false]
    exact fun s found => by simp [whole s found]
  obtain ⟨scratch, place, room⟩ := takes.room
  obtain ⟨count, next⟩ := takes.next
  have written := outcome_writeText (candidateName_proper _ _ _ _) (next.landing room) encodable
  rw [save, outcome_bind_ok (outcome_uniquePath_ok (by decide) (by decide) next), writeJson_signals]
  exact ⟨_, _, outcome_bind_ok written⟩

theorem save_broken (takes : TakesSignals w.volume report.parent w.clock) {s : Signal} (found : s ∈ signals)
    (half : s.words.hasSurrogate = true) :
    ∃ message w', outcome (save report signals total) w = (.error (.unencodable message), w') := by
  have broken : (Json.print .report (.array (signals.map toJson))).hasSurrogate = true := by
    rw [hasSurrogate_print, List.any_eq_true]
    exact ⟨s, found, half⟩
  obtain ⟨scratch, place, room⟩ := takes.room
  obtain ⟨count, next⟩ := takes.next
  obtain ⟨message, failed⟩ := outcome_writeText_surrogate (next.landing room) broken
  rw [save, outcome_bind_ok (outcome_uniquePath_ok (by decide) (by decide) next), writeJson_signals]
  exact ⟨message, _, outcome_bind_error failed⟩

theorem isLink_of_absent {v : Volume} {p : Path} {s : Spot} {e : Entry} (absent : v.isPresent p = .ok false)
    (led : v.lookup false p = .ok s) (here : s.entry = some e) : e.isLink = true := by
  cases e with
  | link target => rfl
  | _ =>
    rw [isPresent, holds, lookup_passing led (by simp [here])] at absent
    obtain ⟨place, entry⟩ := s
    cases here
    cases absent

theorem oneMore_of_save (fresh : Fresh w.volume) (there : Folder w.volume report.parent place)
    (saved : outcome (save report signals total) w = (.ok path, w')) :
    ∃ bytes, Reads bytes (.array (signals.map toJson)) ∧ OneMore w.volume path bytes w'.volume := by
  have triaged := triaged_save report signals total w fresh there
  have absent := (triaged.answers path (by rw [saved])).1
  obtain ⟨k, ready, scratch, place', notices, rfl, whole, landing, rfl⟩ := landing_of_save saved
  obtain rfl := (Prod.mk.inj ((ensureFolders_of_folder there).symm.trans landing.made)).2
  have fits := landing.fits
  have led := (lookup_child_iff (candidateName_proper _ _ _ _)).mpr
    ⟨landing.askable, by omega, place', landing.there, rfl⟩
  exact ⟨_, reads_print (faithful_signals signals) whole, absent, _, led, fun e => isLink_of_absent absent led,
    get?_landed_of_fresh fresh⟩

theorem legible_iff {t : Text} {records : List Json} (decoded : Utf8.decode bytes = .ok t)
    (parsed : Json.read (unified t) = .ok (.array records)) :
    Legible bytes ↔ ∀ s ∈ kept records, s.words.hasSurrogate = false := by
  constructor
  · rintro ⟨t', decoded', whole⟩
    obtain rfl := Except.ok.inj (decoded.symm.trans decoded')
    rw [parsed] at whole
    exact whole _ (ofRecords_eq records)
  · intro whole
    refine ⟨t, decoded, ?_⟩
    rw [parsed]
    intro signals found
    rwa [← Except.ok.inj ((ofRecords_eq records).symm.trans found)]

theorem allOrNothing_of_legible (fresh : Fresh w.volume) (takes : TakesSignals w.volume report.parent w.clock)
    (legible : Legible bytes) {ended : Except Failure Path × World} (reading : Reading report w bytes ended) :
    AllOrNothing w ended := by
  cases reading with
  | garbled decoded =>
    obtain ⟨t, decoded', _⟩ := legible
    cases decoded.symm.trans decoded'
  | malformed decoded parsed =>
    obtain ⟨t, decoded', short⟩ := legible
    obtain rfl := Except.ok.inj (decoded.symm.trans decoded')
    rw [parsed] at short
    rw [unread]
    split
    · next count same => exact absurd same (short count)
    · exact .nothing _
  | noList => exact .nothing _
  | list total decoded parsed =>
    obtain ⟨scratch, place, room⟩ := takes.room
    obtain ⟨path, w', saved⟩ := save_whole takes ((legible_iff decoded parsed).mp legible)
    obtain ⟨added, _, more⟩ := oneMore_of_save fresh room.there saved
    rw [saved]
    exact .all more

theorem unforeseen_of_illegible (takes : TakesSignals w.volume report.parent w.clock) (illegible : ¬Legible bytes)
    {ended : Except Failure Path × World} (reading : Reading report w bytes ended) :
    ∃ f w', ended = (.error f, w') ∧ f.isForeseen = false := by
  cases reading with
  | garbled decoded => exact ⟨_, _, rfl, rfl⟩
  | malformed decoded parsed =>
    refine ⟨_, _, rfl, ?_⟩
    rw [unread]
    split
    · rfl
    · next other => exact absurd ⟨_, decoded, by rw [parsed]; exact other⟩ illegible
  | noList decoded parsed other =>
    refine absurd ⟨_, decoded, ?_⟩ illegible
    rw [parsed]
    split
    · trivial
    · next same => exact absurd (Except.ok.inj same) (other _)
    · trivial
  | list total decoded parsed =>
    rw [legible_iff decoded parsed] at illegible
    push Not at illegible
    obtain ⟨s, found, half⟩ := illegible
    obtain ⟨message, w', failed⟩ := save_broken takes found (by simpa using half)
    exact ⟨_, _, failed, rfl⟩

end Triage

section Sample

def worldOf (bytes : ByteArray) : World where
  volume := ⟨[(Location.start.child (.plain "m.json"), .file bytes)], 0⟩
  clock := .ofSeconds 0
  notices := []

/-- A report with entries that are no records, and findings that are none or give no signal. -/
def mixedRecords : List Json :=
  [.null, .object [("findings", .null)],
    .object
      [("file", .string "a.js"),
        ("findings", .array
          [.bool true, .object [("match", .int 5)], .object [("match", .string "1234")],
            .object [("context", .bool true), ("match", .string "token")]])]]

def mixedReport : ByteArray :=
  Utf8.encode (Json.print .report (.array mixedRecords))

variable (bytes : ByteArray)

theorem single_worldOf {l : Location} {e : Entry} (named : l.names ≠ [])
    (found : (worldOf bytes).volume.get? l = some e) :
    l = Location.start.child (.plain "m.json") ∧ e = .file bytes := by
  have inside := mem_of_get? found named
  simpa [worldOf] using inside

theorem fresh_worldOf : Fresh (worldOf bytes).volume := by
  intro l stem serial _
  cases found : (worldOf bytes).volume.get? (l.child (.temporary stem serial)) with
  | none => rfl
  | some e => exact absurd (single_worldOf bytes (child_names_ne_nil _ _) found).1 (temporary_ne_plain _ _ _ _ _)

theorem solid_worldOf (name : String) : Solid (worldOf bytes).volume (Location.start.child (.plain name)) := by
  intro e found
  obtain ⟨_, rfl⟩ := single_worldOf bytes (child_names_ne_nil _ _) found
  rfl

theorem stands_worldOf : (worldOf bytes).volume.lookup true sampleCall.report =
    .ok ⟨Location.start.child (.plain "m.json"), some (.file bytes)⟩ :=
  lookup_child_through (by decide) (folder_start _) (by unfold Askable; decide) (by decide)
    (solid_worldOf bytes _).not_link

theorem takesSignals_worldOf :
    TakesSignals (worldOf bytes).volume sampleCall.report.parent (worldOf bytes).clock := by
  have room : Room (worldOf bytes).volume ⟨.relative, []⟩ .start .start := ⟨folder_start _, folder_start _⟩
  refine takesSignals_of_vacant room fun j taken => ?_
  have few : (worldOf bytes).volume.entries.length ≤ 10 := by simp [worldOf]
  exact ⟨short_start j (Nat.le_trans (le_length_of_taken taken) few), (solid_worldOf bytes _).not_link⟩

theorem kept_mixedRecords :
    kept mixedRecords = [{ file := "a.js", detector := [], matched := "token", context := "True" }] :=
  rfl

theorem reads_mixedReport : Reads mixedReport (.array mixedRecords) := by
  have faithful : Json.Faithful .report (.array mixedRecords) := by
    simp +decide [Json.Faithful, Json.FaithfulItems, Json.FaithfulMembers, mixedRecords, Json.keeps_report]
  refine reads_print faithful ?_
  rw [Json.hasSurrogate_print faithful]
  rfl

theorem legible_mixedReport : Legible mixedReport := by
  obtain ⟨t, decoded, parsed⟩ := reads_mixedReport
  rw [legible_iff decoded parsed, kept_mixedRecords]
  decide

end Sample

end SiteSurvey.Signal
