import SiteSurvey.Proofs.Volume.Change

set_option autoImplicit false

namespace SiteSurvey.Volume

/-- A volume whose entries form a tree. Temporary files have numbers that have been given out, and nothing
stands below them. -/
structure Sound (v : Volume) : Prop where
  distinct : (v.entries.map (·.1)).Nodup
  named : ∀ e ∈ v.entries, e.1.names ≠ []
  rooted : ∀ e ∈ v.entries, v.get? e.1.parent = some .folder
  proper : ∀ e ∈ v.entries, e.1.names.getLast? ≠ some (.plain "..")
  temporary : ∀ e ∈ v.entries, ∀ stem serial, e.1.names.getLast? = some (.temporary stem serial) →
    serial < v.serial ∧ e.2.isFolder = false

def Location.down (l : Location) (names : List String) : Location :=
  { l with names := l.names ++ names.map .plain }

theorem Location.down_nil (l : Location) : l.down [] = l := by
  simp [Location.down]

theorem Location.down_cons (l : Location) (name : String) (names : List String) :
    l.down (name :: names) = (l.child (.plain name)).down names := by
  simp [Location.down, Location.child]

theorem Location.IsPlain.down {l : Location} (plain : l.IsPlain) (names : List String) :
    (l.down names).IsPlain := by
  intro n found
  rcases List.mem_append.mp found with before | after
  · exact plain n before
  · obtain ⟨text, _, rfl⟩ := List.mem_map.mp after
    exact ⟨text, rfl⟩

section Prefix

variable {v : Volume} {through : Bool} {links left : Nat} {place q : Location} {xs ys : List String}

theorem walk_append (leads : Leads v true links place xs left q) (more : ys ≠ []) :
    v.walk through links place (xs ++ ys) = v.walk through left q ys := by
  obtain ⟨y, rest, rfl⟩ := List.exists_cons_of_ne_nil more
  induction leads with
  | here => rfl
  | up folder _ ih => rw [List.cons_append, walk_up folder, ih]
  | stop folder proper fits ends =>
    have absent := ends.resolve_right (by simp)
    rw [List.cons_append, walk_absent folder proper fits absent, walk_missing absent]
    rfl
  | follow folder proper fits link _ _ ih =>
    rw [List.cons_append, walk_link folder proper fits link (.inl (by simp)), ← List.append_assoc, ih]
  | down folder proper fits entry solid _ ih =>
    rw [List.cons_append, walk_down folder proper fits entry solid, ih]

end Prefix

section Chain

variable {v v' : Volume} {place : Location} {names : List String}

/-- Names that are followed down without a link, and without a step up. -/
structure Chain (v : Volume) (place : Location) (names : List String) : Prop where
  proper : ".." ∉ names
  unlinked : ∀ xs ys, names = xs ++ ys → xs ≠ [] → ∀ target, v.get? (place.down xs) ≠ some (.link target)

theorem Chain.head {name : String} (chain : Chain v place (name :: names)) :
    name ≠ ".." ∧ ∀ target, v.get? (place.child (.plain name)) ≠ some (.link target) := by
  constructor
  · rintro rfl
    exact chain.proper List.mem_cons_self
  · have unlinked := chain.unlinked [name] names rfl (by simp)
    rw [Location.down_cons, Location.down_nil] at unlinked
    exact unlinked

theorem Chain.tail {name : String} (chain : Chain v place (name :: names)) :
    Chain v (place.child (.plain name)) names where
  proper := fun found => chain.proper (List.mem_cons_of_mem _ found)
  unlinked := by
    rintro xs ys rfl _ target
    have unlinked := chain.unlinked (name :: xs) ys rfl (by simp) target
    rw [Location.down_cons] at unlinked
    exact unlinked

theorem Chain.congr (chain : Chain v place names)
    (same : ∀ xs ys, names = xs ++ ys → v'.get? (place.down xs) = v.get? (place.down xs)) :
    Chain v' place names where
  proper := chain.proper
  unlinked := by
    intro xs ys split named target
    rw [same xs ys split]
    exact chain.unlinked xs ys split named target

theorem walk_chain (chain : Chain v place names)
    (same : ∀ xs ys, names = xs ++ ys → v'.get? (place.down xs) = v.get? (place.down xs))
    (through : Bool) (links : Nat) :
    v'.walk through links place names = v.walk through links place names := by
  induction names generalizing place with
  | nil =>
    have here := same [] [] rfl
    rw [Location.down_nil] at here
    rw [walk_nil, walk_nil, here]
  | cons name names ih =>
    obtain ⟨proper, unlinked⟩ := chain.head
    have here := same [] (name :: names) rfl
    have next := same [name] names rfl
    rw [Location.down_nil] at here
    rw [Location.down_cons, Location.down_nil] at next
    have further := ih chain.tail fun xs ys split => by
      have below := same (name :: xs) ys (by rw [split, List.cons_append])
      rwa [Location.down_cons] at below
    cases entry : v.get? place with
    | none => rw [walk_missing entry, walk_missing (here.trans entry)]
    | some e =>
      by_cases solid : e.isFolder = false
      · rw [walk_blocked e entry solid, walk_blocked e (here.trans entry) solid]
      · obtain rfl : e = .folder := by
          cases e <;> simp [Entry.isFolder] at solid ⊢
        have folder' := here.trans entry
        by_cases long : maxName < name.utf8ByteSize
        · rw [walk_tooLong entry proper long, walk_tooLong folder' proper long]
        · have fits := Nat.not_lt.mp long
          cases child : v.get? (place.child (.plain name)) with
          | none => rw [walk_absent entry proper fits child, walk_absent folder' proper fits (next.trans child)]
          | some e =>
            have noLink : e.isLink = false := by
              cases e with
              | link target => exact absurd child (unlinked target)
              | _ => rfl
            rw [walk_down entry proper fits child noLink, walk_down folder' proper fits (next.trans child) noLink,
              further]

end Chain

theorem find_of_mem {entries : List (Location × Entry)} {d : Location × Entry}
    (distinct : (entries.map (·.1)).Nodup) (found : d ∈ entries) :
    entries.find? (fun e => e.1 = d.1) = some d := by
  induction entries with
  | nil => cases found
  | cons e entries ih =>
    rw [List.map_cons, List.nodup_cons] at distinct
    rcases List.mem_cons.mp found with rfl | later
    · simp
    · have other : e.1 ≠ d.1 := fun same => distinct.1 (same ▸ List.mem_map_of_mem later)
      rw [List.find?_cons_of_neg (by simpa using other)]
      exact ih distinct.2 later

namespace Sound

variable {v : Volume} {up : Nat} {xs ys : List Name}

theorem get?_of_mem (sound : Sound v) {d : Location × Entry} (found : d ∈ v.entries) :
    v.get? d.1 = some d.2 := by
  simp [get?, sound.named d found, find_of_mem sound.distinct found]

theorem folder_parent (sound : Sound v) {n : Name} (present : v.get? ⟨up, xs ++ [n]⟩ ≠ none) :
    v.get? ⟨up, xs⟩ = some .folder := by
  obtain ⟨e, found⟩ := Option.ne_none_iff_exists'.mp present
  have rooted := sound.rooted _ (mem_of_get? found (by simp))
  simpa [Location.parent] using rooted

theorem folder_above (sound : Sound v) (present : v.get? ⟨up, xs ++ ys⟩ ≠ none) (more : ys ≠ []) :
    v.get? ⟨up, xs⟩ = some .folder := by
  induction ys generalizing xs with
  | nil => exact absurd rfl more
  | cons y ys ih =>
    cases ys with
    | nil => exact sound.folder_parent present
    | cons y' ys =>
      have below : v.get? ⟨up, xs ++ [y]⟩ = some .folder := ih (by simpa using present) (by simp)
      have here : v.get? ⟨up, xs ++ [y]⟩ ≠ none := by simp [below]
      exact sound.folder_parent here

theorem plain_of_folder (sound : Sound v) {n : Name} (folder : v.get? ⟨up, xs ++ [n]⟩ = some .folder) :
    ∃ text, n = .plain text := by
  cases n with
  | plain text => exact ⟨text, rfl⟩
  | temporary stem serial =>
    have none := (sound.temporary _ (mem_of_get? folder (by simp)) stem serial (by simp)).2
    simp [Entry.isFolder] at none

theorem proper_of_present (sound : Sound v) {text : String} (present : v.get? ⟨up, xs ++ [.plain text]⟩ ≠ none) :
    text ≠ ".." := by
  rintro rfl
  obtain ⟨e, found⟩ := Option.ne_none_iff_exists'.mp present
  exact sound.proper _ (mem_of_get? found (by simp)) (by simp)

theorem names_plain (sound : Sound v) (present : v.get? ⟨up, xs ++ ys⟩ ≠ none)
    (last : ∀ n, ys.getLast? = some n → ∃ text, n = .plain text) :
    ∃ texts : List String, ys = texts.map .plain ∧ ".." ∉ texts := by
  induction ys generalizing xs with
  | nil => exact ⟨[], rfl, by simp⟩
  | cons y ys ih =>
    have below : v.get? ⟨up, (xs ++ [y]) ++ ys⟩ ≠ none := by simpa using present
    -- All names but the last one are those of folders, and a temporary file is none.
    obtain ⟨text, rfl⟩ : ∃ text, y = .plain text := by
      cases ys with
      | nil => exact last y rfl
      | cons y' ys => exact sound.plain_of_folder (sound.folder_above below (by simp))
    have here : v.get? ⟨up, xs ++ [.plain text]⟩ ≠ none := by
      cases ys with
      | nil => simpa using below
      | cons y' ys => simp [sound.folder_above below]
    have proper := sound.proper_of_present here
    obtain ⟨texts, rfl, others⟩ := ih below fun n found => last n (by
      cases ys with
      | nil => cases found
      | cons y' ys => simpa using found)
    exact ⟨text :: texts, rfl, by simp [proper.symm, others]⟩

theorem folder_down (sound : Sound v) {base : Location} {texts xs ys : List String} {e : Entry}
    (here : v.get? (base.down texts) = some e) (split : texts = xs ++ ys) (more : ys ≠ []) :
    v.get? (base.down xs) = some .folder := by
  have shape : (⟨base.up, (base.names ++ xs.map Name.plain) ++ ys.map Name.plain⟩ : Location) =
      base.down texts := by simp [Location.down, split]
  have present : v.get? ⟨base.up, (base.names ++ xs.map Name.plain) ++ ys.map Name.plain⟩ ≠ none := by
    rw [shape, here]
    simp
  exact sound.folder_above present (by simpa using more)

theorem chain (sound : Sound v) {base : Location} {texts : List String} {e : Entry}
    (here : v.get? (base.down texts) = some e) (solid : e.isLink = false) (proper : ".." ∉ texts) :
    Chain v base texts where
  proper := proper
  unlinked := by
    intro xs ys split _ target link
    cases ys with
    | nil =>
      rw [List.append_nil] at split
      rw [← split, here] at link
      cases link
      cases solid
    | cons y ys =>
      -- What has something below it is a folder.
      cases (sound.folder_down here split (by simp)).symm.trans link

end Sound

/-- The numbers that have not been given out yet name no temporary file. -/
def Fresh (v : Volume) : Prop :=
  ∀ (l : Location) stem serial, v.serial ≤ serial → v.get? (l.child (.temporary stem serial)) = none

theorem Sound.fresh {v : Volume} (sound : Sound v) : Fresh v := by
  intro l stem serial late
  cases found : v.get? (l.child (.temporary stem serial)) with
  | none => rfl
  | some e =>
    have entry := mem_of_get? found (by simp [Location.child])
    have given := (sound.temporary _ entry stem serial (by simp [Location.child])).1
    omega

theorem Fresh.grown {v v' : Volume} (fresh : Fresh v) (grown : Grown v v') : Fresh v' := by
  intro l stem serial late
  rw [grown.serial] at late
  rcases grown.get? (l.child (.temporary stem serial)) with same | ⟨plain, _, _⟩
  · rw [same, fresh l stem serial late]
  · obtain ⟨text, same⟩ := plain (.temporary stem serial) (by simp [Location.child])
    cases same

section Below

variable {v v' : Volume} {root : Path} {base : Location} {texts : List String}

theorem lookup_below (there : Folder v root base) (within : Within v v') (chain : Chain v base texts)
    (more : texts ≠ []) (same : ∀ xs ys, texts = xs ++ ys → v'.get? (base.down xs) = v.get? (base.down xs)) :
    v'.lookup true { root with names := root.names ++ texts } =
      v.lookup true { root with names := root.names ++ texts } := by
  obtain ⟨_, _, left, leads⟩ := lookup_eq_ok_iff.mp there
  have stays := within base there.isPlain _ there.get? rfl
  have leads' := leads.within within (isPlain_origin root) (by simp [stays])
  have walked : v'.walk true maxLinks (origin root) (root.names ++ texts) =
      v.walk true maxLinks (origin root) (root.names ++ texts) := by
    rw [walk_append leads more, walk_append leads' more, walk_chain chain same]
  unfold lookup
  split
  · rfl
  · split
    · rfl
    · exact walked

end Below

end SiteSurvey.Volume
