import SiteSurvey.Proofs.Artifact.Atomic
import SiteSurvey.Proofs.Signal.Extract
import SiteSurvey.Request.Reader

set_option autoImplicit false

namespace SiteSurvey

namespace Json

/-- The values without fractions. Each key of an object occurs once. -/
inductive Plain : Json → Prop
  | null : Plain .null
  | bool (b : Bool) : Plain (.bool b)
  | int (n : Int) : Plain (.int n)
  | string (s : Text) : Plain (.string s)
  | array {items : List Json} (plain : ∀ v ∈ items, Plain v) : Plain (.array items)
  | object {members : List (Text × Json)} (distinct : (members.map (·.1)).Nodup)
      (plain : ∀ m ∈ members, Plain m.2) : Plain (.object members)

theorem faithfulMembers_iff {l : Layout} {members : List (Text × Json)} :
    FaithfulMembers l members ↔ ∀ m ∈ members, Keeps l.ascii m.1 ∧ Faithful l m.2 := by
  induction members with
  | nil => simp [FaithfulMembers]
  | cons m rest ih => simp [FaithfulMembers, ih, and_assoc]

-- The only numbers that a report does not keep are those that it refuses to hold.
theorem Plain.faithful {v : Json} (plain : Plain v) (short : v.hasLongInteger = false) : Faithful .report v := by
  induction plain with
  | null | bool => trivial
  | int n =>
    rw [hasLongInteger, decide_eq_false_iff_not, Nat.not_lt] at short
    simpa [Faithful, digits, Text.ofChars, Nat.repr] using short
  | string s => exact keeps_report s
  | array _ ih =>
    rw [hasLongInteger, anyLongInteger_eq_false_iff] at short
    exact faithfulItems_iff.mpr fun v found => ih v found (short v found)
  | object distinct _ ih =>
    rw [hasLongInteger, anyLongMember_eq_false_iff] at short
    exact ⟨distinct, faithfulMembers_iff.mpr fun m found => ⟨keeps_report _, ih m found (short m found)⟩⟩

end Json

namespace Request.Finding

open Json

theorem checkItems_strings (index : Nat) (ts : List Text) : checkItems asText index (ts.map .string) = .ok ts := by
  induction ts generalizing index with
  | nil => rfl
  | cons t ts ih =>
    rw [List.map_cons, checkItems, ih]
    rfl

theorem asEndpoint_endpointJson (endpoint : Option Text) : asEndpoint (endpointJson endpoint) = .ok endpoint := by
  cases endpoint <;> rfl

theorem asNamed_name {α : Type} {ofName? : String → Option α} {name : String} {a : α}
    (known : ofName? name = some a) : asNamed ofName? (.string (Text.ofString name)) = .ok a := by
  have back : (Text.ofString name).string? = some name := by
    simp [Text.string?, Text.ofString, Text.toString]
  simp [asNamed, back, known]

theorem field_eq_ok {α : Type} {members : List (Text × Json)} {keys : List String} {default : Option α}
    {check : Json → Checked α} {key : String} {v : Json} {a : α} (found : firstMember? members keys = some (key, v))
    (checked : check v = .ok a) : field members keys default check = .ok a := by
  unfold field
  rw [found]
  exact congrArg (Checked.under (.member key)) checked

theorem ofJson_of_fields {members : List (Text × Json)} {f : Finding}
    (file : field members ["file"] none asText = .ok f.file)
    (method : field members ["method"] none asText = .ok f.method)
    (endpoint : field members ["endpoint"] (some none) asEndpoint = .ok f.endpoint)
    (params : field members ["bodyParams", "body_params"] (some []) (asList asText) = .ok f.params)
    (encoding : field members ["bodyType", "body_type"] (some .unknown) (asNamed Encoding.ofName?) = .ok f.encoding)
    (confidence : field members ["confidence"] none (asNamed Confidence.ofName?) = .ok f.confidence) :
    ofJson (.object members) = .ok f := by
  simp only [ofJson, asMembers, file, method, endpoint, params, encoding, confidence]
  rfl

/-- Two members of a finding are found again under either of their names. -/
theorem ofJson_toJsonWith {paramsName encodingName : String} (f : Finding)
    (names : (paramsName, encodingName) ∈ [("bodyParams", "bodyType"), ("body_params", "body_type")]) :
    ofJson (f.toJsonWith paramsName encodingName) = .ok f := by
  simp only [List.mem_cons, List.not_mem_nil, Prod.mk.injEq, or_false] at names
  rcases names with ⟨rfl, rfl⟩ | ⟨rfl, rfl⟩
  all_goals
    exact ofJson_of_fields (field_eq_ok rfl rfl) (field_eq_ok rfl rfl) (field_eq_ok rfl (asEndpoint_endpointJson _))
      (field_eq_ok rfl (checkItems_strings 0 _)) (field_eq_ok rfl (asNamed_name (Encoding.ofName?_name _)))
      (field_eq_ok rfl (asNamed_name (Confidence.ofName?_name _)))

theorem mapM_ofJson {form : Finding → Json} (back : ∀ f, ofJson (form f) = .ok f) (findings : List Finding) :
    (findings.map form).mapM ofJson = .ok findings := by
  induction findings with
  | nil => rfl
  | cons f rest ih =>
    rw [List.map_cons, List.mapM_cons, back, ih]
    rfl

theorem plain_toJson (f : Finding) : f.toJson.Plain := by
  have endpoint : (endpointJson f.endpoint).Plain := by
    cases f.endpoint with
    | none => exact .null
    | some t => exact .string t
  have params : (Json.array (f.params.map .string)).Plain := by
    refine .array fun v found => ?_
    obtain ⟨t, _, rfl⟩ := List.mem_map.mp found
    exact .string t
  refine .object (f.faithful_toJson).1 ?_
  simp [Plain.string, endpoint, params]

end Request.Finding

namespace RequestSurface

theorem plain_toJson (r : RequestSurface) : r.toJson.Plain := by
  refine .array fun v found => ?_
  obtain ⟨f, _, rfl⟩ := List.mem_map.mp found
  exact f.plain_toJson

end RequestSurface

namespace Volume

theorem rooted_ensureFolders {v : Volume} (rooted : Rooted v) (p : Path) (system : System) :
    Rooted (outcome (ensureFolders p system) v).2 := by
  refine ensureFolders_related (R := fun v v' => Rooted v → Rooted v') (fun _ => id)
    (fun first second => second ∘ first) p ?_ system v rooted
  exact fun v q place _ _ free rooted => rooted.put free

theorem child_of_lookup {v : Volume} {p : Path} {s : Spot} (rooted : Rooted v) (found : v.lookup false p = .ok s)
    (other : s.entry ≠ some .folder) : p = p.parent.child p.name ∧ p.name ≠ ".." ∧
      ∃ folder, Folder v p.parent folder ∧ s.place = folder.child (.plain p.name) := by
  rcases List.eq_nil_or_concat p.names with empty | ⟨names, last, named⟩
  · exact absurd (entry_of_start empty found) other
  · rw [List.concat_eq_append] at named
    have whole : p = Path.child { p with names } last := by rw [Path.child, ← named]
    have proper : last ≠ ".." := by
      rintro rfl
      -- The way up from a folder goes to a folder.
      obtain ⟨_, entry, _, leads⟩ := lookup_eq_ok_iff.mp found
      generalize s.place = q at entry leads
      rw [named] at leads
      obtain ⟨_, r, _, up⟩ := (leads_append (List.cons_ne_nil _ _)).mp leads
      cases up with
      | up folder further =>
        cases further
        exact other (entry.trans (rooted.parent (by simp [folder])))
      | stop _ proper => exact proper rfl
      | follow _ proper => exact proper rfl
      | down _ proper => exact proper rfl
    rw [whole] at found ⊢
    rw [Path.parent_child, Path.name_child]
    obtain ⟨_, _, folder, there, rfl⟩ := (lookup_child_iff proper).mp found
    exact ⟨rfl, proper, folder, there, rfl⟩

end Volume

namespace Artifact

open Volume

/-- A document of a value stands in the folder of a path under its last name. It is read back through the path if the
path still leads into the folder, and nothing can be in its way but a link that the document took the place of. -/
def ReadsBack (w w' : World) (p : Path) (value : Json) : Prop :=
  ∃ ready folder bytes, Grown w.volume ready ∧ Folder ready p.parent folder ∧
    w'.volume.get? (folder.child (.plain p.name)) = some (.file bytes) ∧ Signal.Reads bytes value ∧
    (Folder w'.volume p.parent folder →
      ∃ t, outcome (Signal.readText p) w' = (.ok t, w') ∧ Json.read t = .ok value) ∧
    ((∀ target, w.volume.get? (folder.child (.plain p.name)) ≠ some (.link target)) →
      Folder w'.volume p.parent folder)

theorem ReadsBack.read {w w' : World} {p : Path} {value : Json} (back : ReadsBack w w' p value)
    (unlinked : ∀ l target, w.volume.get? l ≠ some (.link target)) :
    ∃ t, outcome (Signal.readText p) w' = (.ok t, w') ∧ Json.read t = .ok value := by
  obtain ⟨_, _, _, _, _, _, _, read, still⟩ := back
  exact read (still (unlinked _))

theorem readsBack_of_landed {w : World} {p : Path} {value : Json} {system : System} {ready : Volume}
    {scratch : Location} {s : Spot} (rooted : Rooted w.volume) (faithful : Json.Faithful .report value)
    (whole : (Json.print .report value).hasSurrogate = false)
    (made : outcome (ensureFolders p.parent system) w.volume = (.ok (), ready))
    (fits : p.name.utf8ByteSize ≤ maxName)
    (found : (drafted ready p.name scratch (Utf8.encode (Json.print .report value))).lookup false p = .ok s)
    (free : s.entry ≠ some .folder) :
    ReadsBack w { w with volume := settled ready p.name scratch s.place (Utf8.encode (Json.print .report value)) }
      p value := by
  have grown := grown_of_made made
  have rooted' := rooted_ensureFolders rooted p.parent system
  rw [made] at rooted'
  have before : ready.lookup false p = .ok s := lookup_of_same (fun l plain => get?_drafted plain) found
  obtain ⟨askable, entry, _, _⟩ := lookup_eq_ok_iff.mp before
  obtain ⟨child, proper, folder, there, here⟩ := child_of_lookup rooted' before free
  rw [here] at entry
  rw [here]
  have solid : ready.get? (folder.child (.plain p.name)) ≠ some .folder := entry ▸ free
  have named := names_ne_nil_of_get?_ne_folder solid
  have file : (settled ready p.name scratch (folder.child (.plain p.name))
      (Utf8.encode (Json.print .report value))).get? (folder.child (.plain p.name)) =
        some (.file (Utf8.encode (Json.print .report value))) := get?_put_self named
  refine ⟨ready, folder, _, grown, there, file, Signal.reads_print faithful whole, fun still => ?_, fun unlinked => ?_⟩
  · have led := lookup_child_through proper still (child ▸ askable) fits (by simp [file])
    rw [← child, file] at led
    have read : (settled ready p.name scratch (folder.child (.plain p.name))
        (Utf8.encode (Json.print .report value))).read p = .ok (Utf8.encode (Json.print .report value)) := by
      rw [Volume.read, led]
    exact ⟨_, Signal.outcome_readText read whole (Json.no_carriage_print faithful), Json.read_print faithful⟩
  · -- What stood there before was neither a folder nor a link, so no way can have gone through it.
    refine there.within (within_settled named (solid_of_ne solid fun target link => unlinked target ?_))
    rcases grown.get? (folder.child (.plain p.name)) with stays | ⟨_, _, made⟩
    · rw [← stays, link]
    · exact absurd made solid

/-- What comes of writing a value. It reads back, or it has no form as a document, or the document has no encoding, or
something is wrong with the volume or the system. -/
inductive Delivery (w : World) (p : Path) (value : Json) : Except Failure Path × World → Prop
  | written {w' : World} (back : ReadsBack w w' p value) : Delivery w p value (.ok p, w')
  | refused (long : value.hasLongInteger = true) : Delivery w p value (.error (refuse p .longInteger), w)
  | broken {message : Text} {w' : World} (half : value.letters.hasSurrogate = true) :
      Delivery w p value (.error (.unencodable message), w')
  | stopped {t : Trouble} {w' : World} : Delivery w p value (.error (unwritable p t), w')

theorem delivery_writeJson (p : Path) {value : Json} (plain : value.Plain) (system : System) {w : World}
    (rooted : Rooted w.volume) : Delivery w p value (outcome (writeJson p value system) w) := by
  cases long : value.hasLongInteger with
  | true =>
    rw [writeJson, if_pos long]
    exact .refused long
  | false =>
    have faithful := plain.faithful long
    obtain ⟨r, v', ended, course⟩ := writeText_course p (Json.print .report value) system w
    rw [writeJson, if_neg (by simp [long]), ended]
    cases course with
    | unready => exact .stopped
    | broken half => exact .broken (by rwa [← Json.hasSurrogate_print faithful])
    | stopped => exact .stopped
    | landed whole made _ fits found free =>
      exact .written (readsBack_of_landed rooted faithful whole made (by omega) found free)

theorem delivery_surface (p : Path) {report : RequestSurface} (system : System) {w : World} (rooted : Rooted w.volume)
    (whole : ∀ f ∈ report.findings, f.words.hasSurrogate = false) :
    (∃ w', outcome (writeJson p report.toJson system) w = (.ok p, w') ∧ ReadsBack w w' p report.toJson) ∨
      ∃ t w', outcome (writeJson p report.toJson system) w = (.error (unwritable p t), w') := by
  have delivery := delivery_writeJson p report.plain_toJson system rooted
  have short : report.toJson.hasLongInteger = false := Json.hasLongInteger_map Request.Finding.hasLongInteger_toJson _
  have encodable : report.toJson.letters.hasSurrogate = false := by
    rw [← Json.hasSurrogate_print (report.plain_toJson.faithful short), report.hasSurrogate_toJson, List.any_eq_false]
    exact fun f found => by simp [whole f found]
  generalize outcome (writeJson p report.toJson system) w = result at delivery
  cases delivery with
  | written back => exact .inl ⟨_, rfl, back⟩
  | refused long => cases short.symm.trans long
  | broken half => cases encodable.symm.trans half
  | stopped => exact .inr ⟨_, _, rfl⟩

theorem outcome_writeJson {w : World} {folder : Path} {name : String} {ready : Volume} {scratch place : Location}
    {value : Json} (short : value.hasLongInteger = false) (proper : name ≠ "..")
    (landing : Landing w.volume folder name ready scratch place)
    (whole : (Json.print .report value).hasSurrogate = false) :
    outcome (writeJson (folder.child name) value) w = (.ok (folder.child name),
      { w with volume := landed ready name scratch place (Utf8.encode (Json.print .report value)) }) := by
  rw [writeJson, if_neg (by simp [short])]
  exact outcome_writeText proper landing whole

section Samples

def sampleValue : Json :=
  .object [("b", .array [.null, .bool true, .int (-12), .string "\r\n\"é"]), ("a", .object [])]

theorem plain_sampleValue : sampleValue.Plain := by
  have list : (Json.array [.null, .bool true, .int (-12), .string "\r\n\"é"]).Plain :=
    .array (by simp [Json.Plain.null, Json.Plain.bool, Json.Plain.int, Json.Plain.string])
  have empty : (Json.object []).Plain := .object (by simp) (by simp)
  exact .object (by decide) (by simpa using ⟨list, empty⟩)

def sampleReport : RequestSurface where
  site := "s"
  analyzed := 1
  unanalyzable := []
  findings :=
    [{ file := "f", method := "GET", endpoint := none, params := ["a"], encoding := .unknown, confidence := .high }]

end Samples

end Artifact

end SiteSurvey
