import SiteSurvey.Proofs.Volume.Lookup

set_option autoImplicit false

namespace SiteSurvey.Volume

variable {v : Volume} {links links' left left' : Nat} {place q q' : Location} {name : String}
  {names rest : List String}

theorem resolveFrom_down {opened : List Location} (proper : name ≠ "..")
    (unlinked : ∀ target, v.get? (place.child (.plain name)) ≠ some (.link target)) :
    v.resolveFrom opened place (name :: rest) = v.resolveFrom opened (place.child (.plain name)) rest := by
  rw [resolveFrom, if_neg (by simpa using proper)]
  split
  next target link => exact absurd link (unlinked target)
  next => rfl

theorem Leads.left_le (leads : Leads v true links place names left q) : left ≤ links := by
  induction leads with
  | here => exact Nat.le_refl _
  | up _ _ ih => exact ih
  | stop => exact Nat.le_refl _
  | follow _ _ _ _ _ _ ih => exact Nat.le_succ_of_le ih
  | down _ _ _ _ _ _ ih => exact ih

theorem Leads.same_cost (leads : Leads v true links place names left q)
    (leads' : Leads v true links' place names left' q') : links + left' = links' + left := by
  induction leads generalizing links' with
  | here =>
    cases leads'
    exact Nat.add_comm _ _
  | up _ _ ih =>
    cases leads' with
    | up _ further => exact ih further
    | stop _ proper => exact absurd rfl proper
    | follow _ proper => exact absurd rfl proper
    | down _ proper => exact absurd rfl proper
  | stop _ proper _ ends =>
    have absent := ends.resolve_right (by simp)
    cases leads' with
    | up => exact absurd rfl proper
    | stop => exact Nat.add_comm _ _
    | follow _ _ _ link => cases absent.symm.trans link
    | down _ _ _ entry => cases absent.symm.trans entry
  | follow _ proper _ link _ _ ih =>
    cases leads' with
    | up => exact absurd rfl proper
    | stop _ _ _ ends => cases (ends.resolve_right (by simp)).symm.trans link
    | follow _ _ _ link' _ further =>
      cases link.symm.trans link'
      have cost := ih further
      omega
    | down _ _ _ entry solid =>
      cases link.symm.trans entry
      cases solid
  | down _ proper _ entry solid _ ih =>
    cases leads' with
    | up => exact absurd rfl proper
    | stop _ _ _ ends => cases (ends.resolve_right (by simp)).symm.trans entry
    | follow _ _ _ link =>
      cases entry.symm.trans link
      cases solid
    | down _ _ _ _ _ further => exact ih further

theorem leads_append_iff {xs ys : List String} :
    Leads v true links place (xs ++ ys) left q ↔
      ∃ middle r, Leads v true links place xs middle r ∧ Leads v true middle r ys left q := by
  cases ys with
  | nil =>
    rw [List.append_nil]
    constructor
    · intro leads
      exact ⟨left, q, leads, .here⟩
    · rintro ⟨_, _, leads, ⟨⟩⟩
      exact leads
  | cons y ys => exact leads_append (List.cons_ne_nil y ys)

theorem Leads.link_cases {target : Path} (leads : Leads v true links place (name :: rest) left q)
    (proper : name ≠ "..") (link : v.get? (place.child (.plain name)) = some (.link target)) :
    ∃ fewer middle r, links = fewer + 1 ∧ Leads v true fewer (aim place target) target.names middle r ∧
      Leads v true links place [name] middle r ∧ Leads v true middle r rest left q := by
  cases leads with
  | up => exact absurd rfl proper
  | stop _ _ _ ends => cases (ends.resolve_right (by simp)).symm.trans link
  | follow folder _ fits link' _ further =>
    cases link.symm.trans link'
    obtain ⟨middle, r, first, second⟩ := leads_append_iff.mp further
    refine ⟨_, middle, r, rfl, first, ?_, second⟩
    exact .follow folder proper fits link (.inr rfl) (by rwa [List.append_nil])
  | down _ _ _ entry solid =>
    cases link.symm.trans entry
    cases solid

theorem Location.child_inj {l l' : Location} {n n' : Name} (same : l.child n = l'.child n') : l = l' ∧ n = n' := by
  obtain ⟨up, names⟩ := Location.mk.inj same
  obtain ⟨above, last⟩ := List.append_inj' names rfl
  refine ⟨?_, by simpa using last⟩
  cases l
  cases l'
  rw [Location.mk.injEq]
  exact ⟨up, above⟩

/-- Following a link takes more than so many links, if it leads anywhere. -/
def Dear (v : Volume) (cost : Nat) (link : Location) : Prop :=
  ∀ place name links left q, link = place.child (.plain name) → Leads v true links place [name] left q →
    cost + left < links

theorem Dear.mono {cost cost' : Nat} {link : Location} (dear : Dear v cost link) (less : cost' ≤ cost) :
    Dear v cost' link := by
  intro place name links left q here leads
  have more := dear place name links left q here leads
  omega

theorem dear_of_leads {cost : Nat} (leads : Leads v true links place [name] left q) (more : cost + left < links) :
    Dear v cost (place.child (.plain name)) := by
  intro place' name' links' left' q' here leads'
  obtain ⟨rfl, last⟩ := Location.child_inj here
  cases last
  have cost := leads.same_cost leads'
  omega

theorem dear_cons {opened : List Location} {cost cost' : Nat} (dear : ∀ l ∈ opened, Dear v cost l) (less : cost' ≤ cost)
    (leads : Leads v true links place [name] left q) (more : cost' + left < links) :
    ∀ l ∈ place.child (.plain name) :: opened, Dear v cost' l := by
  intro l met
  rcases List.mem_cons.mp met with rfl | before
  · exact dear_of_leads leads more
  · exact (dear l before).mono less

-- Where a walk arrives, no link is met again while it is being followed: it would have to take more links than
-- itself. So the links that are being followed are all dearer than what is left of the way.
theorem resolveFrom_of_leads {opened : List Location} (leads : Leads v true links place names left q)
    (dear : ∀ l ∈ opened, Dear v (links - left) l) : v.resolveFrom opened place names = .ok q := by
  fun_induction resolveFrom v opened place names generalizing links left q with
  | case1 =>
    cases leads
    rfl
  | case2 opened place name rest up ih =>
    obtain rfl : name = ".." := by simpa using up
    cases leads with
    | up _ further => exact ih further dear
    | stop _ proper => exact absurd rfl proper
    | follow _ proper => exact absurd rfl proper
    | down _ proper => exact absurd rfl proper
  | case3 opened place name rest up target link met =>
    obtain ⟨fewer, middle, r, rfl, first, alone, second⟩ := leads.link_cases (by simpa using up) link
    have again := dear _ met place name _ _ _ rfl alone
    have := second.left_le
    omega
  | case4 opened place name rest up target link unmet from_ reached arrived ih =>
    rename_i ih'
    obtain ⟨fewer, middle, r, rfl, first, alone, second⟩ := leads.link_cases (by simpa using up) link
    have := first.left_le
    have := second.left_le
    cases arrived.symm.trans (ih first (dear_cons dear (by omega) alone (by omega)))
    exact ih' second fun l before => (dear l before).mono (by omega)
  | case5 opened place name rest up target link unmet from_ stuck failed =>
    rename_i ih
    obtain ⟨fewer, middle, r, rfl, first, alone, second⟩ := leads.link_cases (by simpa using up) link
    have := first.left_le
    have := second.left_le
    cases failed.symm.trans (ih first (dear_cons dear (by omega) alone (by omega)))
  | case6 opened place name rest up unlinked ih =>
    cases leads with
    | up => exact absurd rfl up
    | stop =>
      rw [ih .here dear]
    | follow _ _ _ link => exact absurd link (unlinked _)
    | down _ _ _ _ _ further => exact ih further dear

theorem locate_of_leads {p : Path} (nullFree : (p.names.any fun name => name.toList.contains '\x00') = false)
    (leads : Leads v true links (origin p) p.names left q) : v.locate p = .ok q := by
  have resolved : v.resolve p = .ok q := resolveFrom_of_leads leads (by simp)
  rw [locate, nullFree, if_neg Bool.false_ne_true, resolved]

theorem locate_of_lookup {p : Path} {s : Spot} (found : v.lookup true p = .ok s) : v.locate p = .ok s.place := by
  obtain ⟨⟨nullFree, _⟩, _, _, leads⟩ := lookup_eq_ok_iff.mp found
  exact locate_of_leads nullFree leads

theorem locate_above {root : Path} {s : Spot}
    (found : v.lookup true { root with names := root.names ++ names } = .ok s) : ∃ base, v.locate root = .ok base := by
  obtain ⟨⟨nullFree, _⟩, _, _, leads⟩ := lookup_eq_ok_iff.mp found
  obtain ⟨_, base, first, _⟩ := leads_append_iff.mp leads
  simp only [List.any_append, Bool.or_eq_false_iff] at nullFree
  exact ⟨base, locate_of_leads nullFree.1 first⟩

section SelfLink

variable (proper : name ≠ "..") (link : v.get? (place.child (.plain name)) = some (.link ⟨.relative, [name]⟩))

include proper link

theorem walk_selfLink (folder : v.get? place = some .folder) (fits : name.utf8ByteSize ≤ maxName) (links : Nat) :
    v.walk true links place [name] = .error .tooManyLinks := by
  induction links with
  | zero => exact walk_noLinks folder proper fits link (.inr rfl)
  | succ links ih =>
    rw [walk_link folder proper fits link (.inr rfl)]
    exact ih

theorem resolveFrom_selfLink : v.resolveFrom [] place [name] = .error (place.child (.plain name)) := by
  have up : ¬(name == "..") = true := by simpa using proper
  -- The link is met again as soon as it is followed.
  have again : v.resolveFrom [place.child (.plain name)] place [name] = .error (place.child (.plain name)) := by
    rw [resolveFrom, if_neg up]
    split
    next target _ =>
      rw [dif_pos (List.mem_singleton.mpr rfl)]
      rfl
    next unlinked => exact absurd link (unlinked _)
  rw [resolveFrom, if_neg up]
  split
  next target here =>
    cases link.symm.trans here
    rw [dif_neg List.not_mem_nil]
    simp only [beq_self_eq_true, if_true, again]
    rfl
  next unlinked => exact absurd link (unlinked _)

end SelfLink

theorem locate_selfLink (proper : name ≠ "..") (fits : name.utf8ByteSize ≤ maxName)
    (nullFree : name.toList.contains '\x00' = false)
    (link : v.get? (Location.start.child (.plain name)) = some (.link ⟨.relative, [name]⟩)) :
    v.locate ⟨.relative, [name]⟩ = .error (.linkLoop (Location.start.child (.plain name))) := by
  have resolved : v.resolve ⟨.relative, [name]⟩ = .error (Location.start.child (.plain name)) :=
    resolveFrom_selfLink proper link
  have walked : v.walk true maxLinks { Location.start.child (.plain name) with names := [] }
      ((Location.start.child (.plain name)).names.map Name.text) = .error .tooManyLinks :=
    walk_selfLink proper link rfl fits maxLinks
  rw [locate, if_neg (by simpa using nullFree), resolved]
  dsimp only
  rw [walked]

end SiteSurvey.Volume
