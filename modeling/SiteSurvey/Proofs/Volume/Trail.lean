import SiteSurvey.Proofs.Volume.Resolve
import SiteSurvey.Proofs.Volume.Sound

set_option autoImplicit false

namespace SiteSurvey.Volume

namespace Location

theorem step_up (l : Location) : l.step ".." = l.parent := if_pos rfl

theorem step_down {name : String} (l : Location) (proper : name ≠ "..") : l.step name = l.child (.plain name) :=
  if_neg proper

@[simp] theorem follow_nil (l : Location) : l.follow [] = l := rfl

@[simp] theorem follow_cons (l : Location) (name : String) (names : List String) :
    l.follow (name :: names) = (l.step name).follow names := rfl

theorem follow_append (l : Location) (xs ys : List String) : l.follow (xs ++ ys) = (l.follow xs).follow ys :=
  List.foldl_append

theorem parent_child (l : Location) (n : Name) : (l.child n).parent = l := by
  simp [parent, child]

theorem IsPlain.step {l : Location} (plain : l.IsPlain) (name : String) : (l.step name).IsPlain := by
  unfold Location.step
  split
  · exact plain.parent
  · exact plain.child name

theorem IsPlain.follow {l : Location} (plain : l.IsPlain) (names : List String) : (l.follow names).IsPlain := by
  induction names generalizing l with
  | nil => exact plain
  | cons name names ih => exact ih (plain.step name)

end Location

/-- The place that a path names if no link is in its way. -/
def trail (p : Path) : Location :=
  (origin p).follow p.names

/-- No link stands on the way that names take from a place. -/
def Clear (v : Volume) (l : Location) (names : List String) : Prop :=
  ∀ xs, xs <+: names → ∀ target, v.get? (l.follow xs) ≠ some (.link target)

/-- No part of a path that is there is a link. -/
def Direct (v : Volume) (p : Path) : Prop :=
  Clear v (origin p) p.names

theorem trail_child (p : Path) {name : String} (proper : name ≠ "..") :
    trail (p.child name) = (trail p).child (.plain name) := by
  change (origin p).follow (p.names ++ [name]) = _
  rw [Location.follow_append, Location.follow_cons, Location.follow_nil, Location.step_down _ proper]
  rfl

section Way

variable {v : Volume} {through : Bool} {links left : Nat} {place q : Location} {name : String}
  {names : List String}

theorem Clear.tail (clear : Clear v place (name :: names)) : Clear v (place.step name) names :=
  fun xs inside => clear (name :: xs) (List.cons_prefix_cons.mpr ⟨rfl, inside⟩)

theorem Clear.head (clear : Clear v place (name :: names)) (proper : name ≠ "..") (target : Path) :
    v.get? (place.child (.plain name)) ≠ some (.link target) := by
  have first := clear [name] (List.cons_prefix_cons.mpr ⟨rfl, List.nil_prefix⟩) target
  rwa [Location.follow_cons, Location.follow_nil, Location.step_down _ proper] at first

theorem Leads.follow_eq (leads : Leads v through links place names left q) (clear : Clear v place names) :
    q = place.follow names := by
  induction leads with
  | here => rfl
  | up _ _ ih =>
    have tail := clear.tail
    rw [Location.step_up] at tail
    rw [ih tail, Location.follow_cons, Location.step_up]
  | stop _ proper _ _ => rw [Location.follow_cons, Location.step_down _ proper, Location.follow_nil]
  | follow _ proper _ link _ _ _ => exact absurd link (clear.head proper _)
  | down _ proper _ _ _ _ ih =>
    have tail := clear.tail
    rw [Location.step_down _ proper] at tail
    rw [ih tail, Location.follow_cons, Location.step_down _ proper]

theorem resolveFrom_follow (clear : Clear v place names) (opened : List Location) :
    v.resolveFrom opened place names = .ok (place.follow names) := by
  induction names generalizing place with
  | nil => rw [resolveFrom, Location.follow_nil]
  | cons name names ih =>
    have tail := clear.tail
    by_cases up : name = ".."
    · subst up
      rw [Location.step_up] at tail
      rw [resolveFrom, if_pos (by rfl), ih tail, Location.follow_cons, Location.step_up]
    · rw [Location.step_down _ up] at tail
      rw [resolveFrom_down up (clear.head up), ih tail, Location.follow_cons, Location.step_down _ up]

end Way

theorem Folder.eq_trail {v : Volume} {p : Path} {place : Location} (there : Folder v p place) (direct : Direct v p) :
    place = trail p := by
  obtain ⟨_, _, _, leads⟩ := lookup_eq_ok_iff.mp there
  exact leads.follow_eq direct

theorem placeOf_eq_trail {v : Volume} {p : Path} (direct : Direct v p) : v.placeOf p = trail p := by
  have followed : v.resolve p = .ok (trail p) := resolveFrom_follow direct []
  rw [placeOf, followed]

/-- Names with the steps up taken back, the last one first, lead where the names do, and on the way they come
to no place that the names do not come to. -/
structure Retraced (l : Location) (done names : List String) : Prop where
  ends : l.follow done.reverse = l.follow names
  passes : ∀ xs, xs <+: done.reverse → ∃ ys, ys <+: names ∧ l.follow xs = l.follow ys

section Retrace

variable {anchor : Anchor} {l : Location} {done names : List String}

theorem Retraced.add (retraced : Retraced l done names) (name : String) :
    Retraced l (name :: done) (names ++ [name]) := by
  have ends : l.follow (name :: done).reverse = l.follow (names ++ [name]) := by
    rw [List.reverse_cons, Location.follow_append, retraced.ends, Location.follow_append]
  refine ⟨ends, fun xs inside => ?_⟩
  rw [List.reverse_cons] at inside ends
  rcases List.prefix_concat_iff.mp inside with whole | before
  · exact ⟨names ++ [name], List.prefix_refl _, by rw [whole, ends]⟩
  · obtain ⟨ys, inside', same⟩ := retraced.passes xs before
    exact ⟨ys, inside'.trans (List.prefix_append _ _), same⟩

theorem Retraced.step (retraced : Retraced l done names) (root : anchor ≠ .relative → l.parent = l)
    (name : String) : Retraced l (retrace anchor done name) (names ++ [name]) := by
  have wider : ∀ {ys : List String}, ys <+: names → ys <+: names ++ [name] :=
    fun inside => inside.trans (List.prefix_append _ _)
  by_cases up : name = ".."
  · subst up
    cases done with
    | nil =>
      by_cases relative : anchor = .relative
      · have kept := retraced.add ".."
        simpa [retrace, relative] using kept
      · -- There is no way up from a root.
        have stays : l.follow names = l := retraced.ends.symm
        have ends : l.follow (names ++ [".."]) = l := by
          rw [Location.follow_append, stays, Location.follow_cons, Location.step_up, root relative]
          rfl
        have nothing : retrace anchor [] ".." = [] := by simp [retrace, relative]
        rw [nothing]
        refine ⟨ends.symm, fun xs inside => ⟨[], List.nil_prefix, ?_⟩⟩
        rw [List.prefix_nil.mp inside]
    | cons last earlier =>
      by_cases above : last = ".."
      · have kept := retraced.add ".."
        simpa [retrace, above] using kept
      · have taken : retrace anchor (last :: earlier) ".." = earlier := by simp [retrace, above]
        rw [taken]
        have before : l.follow names = (l.follow earlier.reverse).child (.plain last) := by
          rw [← retraced.ends, List.reverse_cons, Location.follow_append, Location.follow_cons,
            Location.step_down _ above]
          rfl
        refine ⟨?_, fun xs inside => ?_⟩
        · rw [Location.follow_append, before, Location.follow_cons, Location.step_up, Location.parent_child]
          rfl
        · have longer : xs <+: (last :: earlier).reverse := by
            rw [List.reverse_cons]
            exact inside.trans (List.prefix_append _ _)
          obtain ⟨ys, inside', same⟩ := retraced.passes xs longer
          exact ⟨ys, wider inside', same⟩
  · have kept := retraced.add name
    have longer : retrace anchor done name = name :: done := by simp [retrace, up]
    rw [longer]
    exact kept

theorem retraced_foldl (root : anchor ≠ .relative → l.parent = l) (names : List String) :
    Retraced l (names.foldl (retrace anchor) []) names := by
  -- The induction is on the names that are left, from any that have been taken.
  have from_ : ∀ (names done taken : List String), Retraced l done taken →
      Retraced l (names.foldl (retrace anchor) done) (taken ++ names) := by
    intro names
    induction names with
    | nil =>
      intro done taken retraced
      rw [List.append_nil]
      exact retraced
    | cons name names ih =>
      intro done taken retraced
      have next := ih _ _ (retraced.step root name)
      rw [List.append_assoc] at next
      exact next
  refine from_ names [] [] ⟨rfl, fun xs inside => ⟨[], List.prefix_refl _, ?_⟩⟩
  rw [List.prefix_nil.mp inside]

end Retrace

theorem retraced_straight (p : Path) : Retraced (origin p) (p.names.foldl (retrace p.anchor) []) p.names := by
  refine retraced_foldl (fun absolute => ?_) p.names
  have start : origin p = .elsewhere := by simp [origin, absolute]
  rw [start]
  rfl

theorem trail_straight (p : Path) : trail (straight p) = trail p :=
  (retraced_straight p).ends

theorem Direct.straight {v : Volume} {p : Path} (direct : Direct v p) : Direct v (straight p) := by
  intro xs inside target
  obtain ⟨ys, inside', same⟩ := (retraced_straight p).passes xs inside
  have other := direct ys inside' target
  rw [← same] at other
  exact other

end SiteSurvey.Volume
