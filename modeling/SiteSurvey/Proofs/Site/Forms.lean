import SiteSurvey.Proofs.Site.Hostname

set_option autoImplicit false

namespace SiteSurvey

section Ascii

variable {cs : List Char}

theorem Unicode.lowerFrom_ascii {before ns : List Nat} (ascii : ∀ n ∈ ns, n < 0x80) :
    lowerFrom before ns = ns.map lowerOne := by
  induction ns generalizing before with
  | nil => rfl
  | cons n ns ih =>
    rw [List.forall_mem_cons] at ascii
    have plain : (n == 0x3A3) = false := by
      rw [beq_eq_false_iff_ne]
      omega
    have single : lowerAll n = [lowerOne n] := by
      rw [lowerAll, if_neg]
      simp only [beq_iff_eq]
      omega
    rw [lowerFrom, plain, ih ascii.2, List.map_cons]
    simp [single]

theorem forall_ascii {P : Char → Prop} (each : ∀ n < 0x80, P (Char.ofNat n)) {c : Char} (ascii : c.toNat < 0x80) : P c := by
  have here := each c.toNat ascii
  rwa [Char.ofNat_toNat] at here

theorem ofNat_lowerOne {c : Char} (ascii : c.toNat < 0x80) :
    CodePoint.ofNat (Unicode.lowerOne c.toNat) = CodePoint.ofChar c.toLower :=
  forall_ascii (P := fun c => CodePoint.ofNat (Unicode.lowerOne c.toNat) = CodePoint.ofChar c.toLower)
    (by decide) ascii

/-- In ASCII each letter has a lower case of its own. -/
theorem Text.lower_ascii (ascii : ∀ c ∈ cs, c.toNat < 0x80) : lower (ofChars cs) = ofChars (cs.map Char.toLower) := by
  have codes : ∀ n ∈ codes (ofChars cs), n < 0x80 := by
    simp only [codes, ofChars, List.map_map, List.mem_map]
    rintro _ ⟨c, inside, rfl⟩
    exact ascii c inside
  rw [lower, Unicode.lower, Unicode.lowerFrom_ascii codes]
  simp only [ofCodes, Text.codes, ofChars, List.map_map]
  exact List.map_congr_left fun c inside => ofNat_lowerOne (ascii c inside)

theorem toLower_ascii {c : Char} (ascii : c.toNat < 0x80) :
    c.toLower.toNat < 0x80 ∧ c.toLower.toLower = c.toLower ∧ (c.toLower = '.' → c = '.') ∧ (c.toLower = '\\' → c = '\\') :=
  forall_ascii (P := fun c => c.toLower.toNat < 0x80 ∧ c.toLower.toLower = c.toLower ∧ (c.toLower = '.' → c = '.') ∧
    (c.toLower = '\\' → c = '\\')) (by decide) ascii

end Ascii

section Trimming

variable {front tail : List Char}

def trimEnd (cs : List Char) : List Char :=
  (cs.reverse.dropWhile fun c => Unicode.isBlank c.toNat).reverse

theorem trimEnd_append (visible : ∀ c ∈ front, Unicode.isBlank c.toNat = false) :
    trimEnd (front ++ tail) = front ++ trimEnd tail := by
  have stays : front.reverse.dropWhile (fun c => Unicode.isBlank c.toNat) = front.reverse := by
    cases shape : front.reverse with
    | nil => rfl
    | cons c rest =>
      have inside : c ∈ front := List.mem_reverse.mp (shape ▸ List.mem_cons_self)
      rw [List.dropWhile_cons_of_neg (by simp [visible c inside])]
  rw [trimEnd, List.reverse_append, List.dropWhile_append]
  split
  · next blank =>
    rw [List.isEmpty_iff] at blank
    rw [stays, trimEnd, blank]
    simp
  · simp [trimEnd]

theorem trimEnd_prefix (cs : List Char) : ∃ blanks, cs = trimEnd cs ++ blanks ∧ ∀ c ∈ blanks, Unicode.isBlank c.toNat = true := by
  refine ⟨(cs.reverse.takeWhile fun c => Unicode.isBlank c.toNat).reverse, ?_, ?_⟩
  · rw [trimEnd, ← List.reverse_append, List.takeWhile_append_dropWhile, List.reverse_reverse]
  · intro c inside
    exact List.all_eq_true.mp List.all_takeWhile c (List.mem_reverse.mp inside)

theorem Text.trim_ofChars {c : Char} (visible : Unicode.isBlank c.toNat = false) (cs : List Char) :
    trim (ofChars (c :: cs)) = ofChars (trimEnd (c :: cs)) := by
  have blank : (fun d => isBlank (CodePoint.ofChar d)) = fun d : Char => Unicode.isBlank d.toNat := rfl
  have first : isBlank (CodePoint.ofChar c) = false := visible
  rw [trim, ofChars, List.map_cons, List.dropWhile_cons_of_neg (by simp [first]), ← List.map_cons, ← List.map_reverse,
    List.dropWhile_map, ← List.map_reverse]
  rfl

end Trimming

namespace Site

section Marks

variable {mark : Char} {xs ys : List Char}

theorem before_append (absent : mark ∉ xs) : before mark (xs ++ ys) = xs ++ before mark ys := by
  refine List.takeWhile_append_of_pos fun c inside => ?_
  rw [bne_iff_ne]
  rintro rfl
  exact absent inside

theorem before_eq_self (absent : mark ∉ xs) : before mark xs = xs := by
  have whole : before mark (xs ++ []) = xs ++ before mark [] := before_append absent
  have nothing : before mark [] = [] := rfl
  rwa [List.append_nil, nothing, List.append_nil] at whole

theorem after_append (absent : mark ∉ xs) : after mark (xs ++ mark :: ys) = ys := by
  rw [after, List.dropWhile_append_of_pos, List.dropWhile_cons_of_neg (by simp), List.drop_one, List.tail_cons]
  intro c inside
  rw [bne_iff_ne]
  rintro rfl
  exact absent inside

theorem afterLast_eq_self (absent : mark ∉ xs) : afterLast mark xs = xs := by
  have whole : before mark xs.reverse = xs.reverse := before_eq_self (by simpa using absent)
  rw [afterLast, ← List.reverse_reverse xs]
  exact congrArg List.reverse (by simpa [before] using whole)

end Marks

section Nested

variable {xs bs : List Char}

theorem hasScheme_iff : hasScheme xs = true ↔ "://".toList <:+: xs := by
  induction xs with
  | nil => simp [hasScheme]
  | cons c xs ih =>
    rw [hasScheme, Bool.or_eq_true, Bool.and_eq_true, ih, List.infix_cons_iff, List.isPrefixOf_iff_prefix, beq_iff_eq]
    have shape : "://".toList = [':', '/', '/'] := rfl
    rw [shape, List.cons_prefix_cons, eq_comm]

theorem hasScheme_append_of_absent (absent : ':' ∉ xs) : hasScheme (xs ++ bs) = hasScheme bs := by
  induction xs with
  | nil => rfl
  | cons c xs ih =>
    rw [List.mem_cons, not_or] at absent
    rw [List.cons_append, hasScheme, ih absent.2]
    simp [Ne.symm absent.1]

theorem hasScheme_append_blanks (blank : ∀ c ∈ bs, Unicode.isBlank c.toNat = true) : hasScheme (xs ++ bs) = hasScheme xs := by
  have other : ∀ mark : Char, Unicode.isBlank mark.toNat = false → mark ∉ bs := by
    intro mark visible inside
    rw [blank mark inside] at visible
    cases visible
  have slash := other '/' rfl
  induction xs with
  | nil =>
    have none : hasScheme (bs ++ []) = hasScheme [] := hasScheme_append_of_absent (other ':' rfl)
    rwa [List.append_nil] at none
  | cons c xs ih =>
    have same : ['/', '/'].isPrefixOf (xs ++ bs) = ['/', '/'].isPrefixOf xs := by
      rw [Bool.eq_iff_iff, List.isPrefixOf_iff_prefix, List.isPrefixOf_iff_prefix]
      rcases xs with _ | ⟨a, _ | ⟨b, xs⟩⟩
      · rcases bs with _ | ⟨b, bs⟩
        · rfl
        · rw [List.mem_cons, not_or] at slash
          simp [slash.1]
      · rcases bs with _ | ⟨b, bs⟩
        · rfl
        · rw [List.mem_cons, not_or] at slash
          simp [slash.1]
      · simp
    rw [List.cons_append, hasScheme, hasScheme, same, ih]

end Nested

/-- A text that names a host as it stands: visible characters of ASCII, none of which has a meaning of its own in an
address, and more than a dot or two. -/
structure HostText (h : List Char) : Prop where
  filled : h ≠ []
  notDot : h ≠ ['.']
  notDots : h ≠ ['.', '.']
  visible : ∀ c ∈ h, 0x20 < c.toNat ∧ c.toNat < 0x7F
  unmarked : ∀ c ∈ h, c ∉ ['/', '?', '#', '@', ':', '[', ']', '\\']

/-- Nothing, or a colon and a number. -/
inductive PortText : List Char → Prop
  | absent : PortText []
  | number {digits : List Char} : digits ≠ [] → (∀ d ∈ digits, d.isDigit = true) → PortText (':' :: digits)

/-- Nothing, or a path with whatever follows it. -/
inductive TailText : List Char → Prop
  | nothing : TailText []
  | path (rest : List Char) : TailText ('/' :: rest)

theorem TailText.filter {tail : List Char} (tailed : TailText tail) (keep : Char → Bool) (slash : keep '/' = true) :
    TailText (tail.filter keep) := by
  cases tailed with
  | nothing => exact .nothing
  | path rest =>
    rw [List.filter_cons_of_pos slash]
    exact .path _

theorem TailText.trimEnd {tail : List Char} (tailed : TailText tail) : TailText (trimEnd tail) := by
  cases tailed with
  | nothing => exact .nothing
  | path rest =>
    have slash : SiteSurvey.trimEnd (['/'] ++ rest) = ['/'] ++ SiteSurvey.trimEnd rest := trimEnd_append (by simp; rfl)
    rw [List.singleton_append] at slash
    rw [slash]
    exact .path _

theorem PortText.digit {port : List Char} (ported : PortText port) : ∀ c ∈ port, c = ':' ∨ 48 ≤ c.toNat ∧ c.toNat ≤ 57 := by
  cases ported with
  | absent => simp
  | number _ digits =>
    intro c inside
    rcases List.mem_cons.mp inside with rfl | later
    · exact .inl rfl
    · have digit := digits c later
      simp [Char.isDigit, UInt32.le_iff_toNat_le] at digit
      exact .inr digit

section Forms

variable {h port tail : List Char}

/-- The characters of a host and its port are visible, and only the colon between the two has a meaning of its own. -/
theorem front_plain (host : HostText h) (ported : PortText port) :
    ∀ c ∈ h ++ port, (0x20 < c.toNat ∧ c.toNat < 0x7F) ∧ c ∉ ['/', '?', '#', '@', '[', ']', '\\'] := by
  have more : ∀ c ∈ ['/', '?', '#', '@', '[', ']', '\\'], c ∈ ['/', '?', '#', '@', ':', '[', ']', '\\'] := by
    intro c marked
    simp only [List.mem_cons, List.not_mem_nil, or_false] at marked
    rcases marked with rfl | rfl | rfl | rfl | rfl | rfl | rfl <;> decide
  intro c inside
  rcases List.mem_append.mp inside with first | later
  · exact ⟨host.visible c first, fun marked => host.unmarked c first (more c marked)⟩
  · rcases ported.digit c later with rfl | digit
    · decide
    · refine ⟨by omega, fun marked => ?_⟩
      simp only [List.mem_cons, List.not_mem_nil, or_false] at marked
      rcases marked with rfl | rfl | rfl | rfl | rfl | rfl | rfl <;> revert digit <;> decide

theorem colon_not_mem (host : HostText h) : ':' ∉ h := fun inside => host.unmarked ':' inside (by decide)

theorem before_colon (host : HostText h) (ported : PortText port) : before ':' (h ++ port) = h := by
  rw [before_append (colon_not_mem host)]
  cases ported with
  | absent => exact List.append_nil h
  | number _ _ => exact List.append_nil h

theorem isBlank_of_visible {c : Char} (visible : 0x20 < c.toNat ∧ c.toNat < 0x7F) : Unicode.isBlank c.toNat = false := by
  rw [Unicode.isBlank, if_pos (by omega)]
  simp
  omega

theorem hasScheme_front (host : HostText h) (ported : PortText port) : hasScheme (h ++ port ++ tail) = hasScheme tail := by
  rw [List.append_assoc, hasScheme_append_of_absent (colon_not_mem host)]
  cases ported with
  | absent => rfl
  | @number digits filled digit =>
    have none : ∀ mark : Char, mark.isDigit = false → mark ∉ digits := by
      intro mark other inside
      rw [digit mark inside] at other
      cases other
    rw [List.cons_append, hasScheme, hasScheme_append_of_absent (none ':' rfl)]
    cases digits with
    | nil => exact absurd rfl filled
    | cons d digits =>
      have other : d ≠ '/' := by
        rintro rfl
        exact none '/' rfl List.mem_cons_self
      simp [Ne.symm other]

def cleaned (cs : List Char) : List Char :=
  (cs.dropWhile (·.toNat ≤ 0x20)).filter fun c => c != '\t' && c != '\r' && c != '\n'

theorem cleaned_append {front : List Char} (tail : List Char) (filled : front ≠ [])
    (visible : ∀ c ∈ front, 0x20 < c.toNat) :
    cleaned (front ++ tail) = front ++ tail.filter fun c => c != '\t' && c != '\r' && c != '\n' := by
  obtain ⟨c, rest, rfl⟩ := List.exists_cons_of_ne_nil filled
  have first := visible c List.mem_cons_self
  have stays : (c :: rest).filter (fun c => c != '\t' && c != '\r' && c != '\n') = c :: rest := by
    rw [List.filter_eq_self]
    intro d inside
    have shown := visible d inside
    simp only [Bool.and_eq_true, bne_iff_ne]
    refine ⟨⟨?_, ?_⟩, ?_⟩ <;> rintro rfl <;> revert shown <;> decide
  rw [cleaned, List.cons_append, List.dropWhile_cons_of_neg (by simpa using first), ← List.cons_append,
    List.filter_append, stays]

theorem authority_of_slashes {cs rest : List Char} (opened : withoutScheme (cleaned cs) = '/' :: '/' :: rest) :
    authority cs = rest.takeWhile fun c => !endsAuthority c := by
  unfold cleaned at opened
  simp only [authority, opened]

theorem authority_of_other {cs : List Char} (other : (withoutScheme (cleaned cs)).head? ≠ some '/') : authority cs = [] := by
  unfold cleaned at other
  simp only [authority]
  split
  · next opened =>
    rw [opened] at other
    exact absurd rfl other
  · rfl

theorem forall_of_all {P : Char → Prop} [DecidablePred P] {cs : List Char} (all : (cs.all fun c => decide (P c)) = true) :
    ∀ c ∈ cs, P c :=
  fun c inside => decide_eq_true_iff.mp (List.all_eq_true.mp all c inside)

theorem scheme_visible : ∀ c ∈ "https://".toList, 0x20 < c.toNat ∧ c.toNat < 0x7F :=
  forall_of_all (by decide)

/-- After a scheme and two slashes stands the host with its port. -/
theorem authority_of_address (host : HostText h) (ported : PortText port) (tailed : TailText tail) :
    authority ("https://".toList ++ (h ++ port) ++ tail) = h ++ port := by
  have plain := front_plain host ported
  have visible : ∀ c ∈ "https://".toList ++ (h ++ port), 0x20 < c.toNat := by
    intro c inside
    rcases List.mem_append.mp inside with scheme | front
    · exact (scheme_visible c scheme).1
    · exact (plain c front).1.1
  have whole := cleaned_append tail (List.append_ne_nil_of_left_ne_nil (by decide) _) visible
  have kept : ∀ c ∈ h ++ port, (!endsAuthority c) = true := by
    intro c inside
    have unmarked := (plain c inside).2
    simp only [List.mem_cons, List.not_mem_nil, or_false, not_or] at unmarked
    simp [endsAuthority, unmarked]
  have opened : withoutScheme (cleaned ("https://".toList ++ (h ++ port) ++ tail)) =
      '/' :: '/' :: (h ++ port ++ tail.filter fun c => c != '\t' && c != '\r' && c != '\n') := by
    rw [whole]
    rfl
  have ends := tailed.filter (fun c => c != '\t' && c != '\r' && c != '\n') rfl
  rw [authority_of_slashes opened, List.takeWhile_append_of_pos kept]
  generalize tail.filter _ = rest at ends
  cases ends with
  | nothing => rw [List.takeWhile_nil, List.append_nil]
  | path rest => rw [List.takeWhile_cons_of_neg (by decide), List.append_nil]

/-- Without a scheme in front no part is taken for the host, whatever stands in the path. -/
theorem authority_of_name (host : HostText h) (ported : PortText port) (tailed : TailText tail) :
    authority (h ++ port ++ tail) = [] := by
  have plain := front_plain host ported
  obtain ⟨first, others, shape⟩ := List.exists_cons_of_ne_nil host.filled
  have whole := cleaned_append tail (by simp [shape] : h ++ port ≠ []) fun c inside => (plain c inside).1.1
  have ends := tailed.filter (fun c => c != '\t' && c != '\r' && c != '\n') rfl
  refine authority_of_other ?_
  rw [whole]
  generalize tail.filter _ = rest at ends
  have notSlash : first ≠ '/' := by
    rintro rfl
    exact host.unmarked '/' (shape ▸ List.mem_cons_self) (by decide)
  simp only [withoutScheme]
  split
  · next scheme =>
    simp only [Bool.and_eq_true] at scheme
    cases ported with
    | absent =>
      -- A colon can only stand in the path, and what is before it has a slash.
      rw [List.append_nil] at scheme
      cases ends with
      | nothing =>
        rw [List.append_nil, List.contains_iff_mem] at scheme
        exact absurd scheme.1.1 (colon_not_mem host)
      | path rest =>
        have slash : '/' ∈ before ':' (h ++ '/' :: rest) := by
          rw [before_append (colon_not_mem host)]
          simp [before]
        have part := List.all_eq_true.mp scheme.2 '/' slash
        cases part
    | @number digits filled digit =>
      obtain ⟨d, digits, rfl⟩ := List.exists_cons_of_ne_nil filled
      have number := digit d List.mem_cons_self
      rw [List.append_assoc, List.cons_append, after_append (colon_not_mem host)]
      simp only [List.cons_append, List.head?_cons, ne_eq, Option.some.injEq]
      rintro rfl
      cases number
  · simpa [shape] using notSlash

theorem checkAuthority_front (host : HostText h) (ported : PortText port) : checkAuthority (h ++ port) = .ok () := by
  have plain := front_plain host ported
  have bracket : ∀ mark ∈ ['[', ']'], (h ++ port).contains mark = false := by
    intro mark listed
    rw [← Bool.not_eq_true, List.contains_iff_mem]
    intro inside
    have unmarked := (plain mark inside).2
    simp only [List.mem_cons, List.not_mem_nil, or_false] at listed
    rcases listed with rfl | rfl <;> revert unmarked <;> decide
  have shown : (h ++ port).any (fun c => Unicode.hidesDelimiter c.toNat) = false := by
    rw [List.any_eq_false]
    intro c inside hidden
    have ascii := (plain c inside).1.2
    rw [Unicode.hidesDelimiter, List.contains_iff_mem] at hidden
    have late := (by decide : ∀ n ∈ Unicode.hiddenDelimiters, 0x80 ≤ n) _ hidden
    omega
  simp only [checkAuthority, bracket '[' (by decide), bracket ']' (by decide), shown]
  rfl

theorem hostPart_front (host : HostText h) (ported : PortText port) : hostPart (h ++ port) = h := by
  have plain := front_plain host ported
  have absent : ∀ mark ∈ ['@', '['], mark ∉ h ++ port := by
    intro mark listed inside
    have unmarked := (plain mark inside).2
    simp only [List.mem_cons, List.not_mem_nil, or_false] at listed
    rcases listed with rfl | rfl <;> revert unmarked <;> decide
  have bracket : (h ++ port).contains '[' = false := by
    rw [← Bool.not_eq_true, List.contains_iff_mem]
    exact absent '[' (by decide)
  simp only [hostPart, afterLast_eq_self (absent '@' (by decide)), bracket]
  exact before_colon host ported

theorem lower_lowerHost (host : HostText h) : Text.lower (lowerHost h) = Text.ofChars (h.map Char.toLower) := by
  have ascii : ∀ c ∈ h, c.toNat < 0x80 := fun c inside => by have := host.visible c inside; omega
  have parts : before '%' h ++ h.dropWhile (· != '%') = h := List.takeWhile_append_dropWhile
  have first : ∀ c ∈ before '%' h, c.toNat < 0x80 := fun c inside => ascii c (mem_of_mem_before inside)
  rw [lowerHost, Text.lower_ascii first, ← Text.ofChars_append, Text.lower_ascii, List.map_append, List.map_map]
  · have again : (before '%' h).map (Char.toLower ∘ Char.toLower) = (before '%' h).map Char.toLower :=
      List.map_congr_left fun c inside => (toLower_ascii (first c inside)).2.1
    rw [again, ← List.map_append, parts]
  · intro c inside
    rcases List.mem_append.mp inside with lowered | zone
    · obtain ⟨d, here, rfl⟩ := List.mem_map.mp lowered
      exact (toLower_ascii (first d here)).1
    · exact ascii c ((List.dropWhile_suffix _).subset zone)

theorem isFolderName_lower (host : HostText h) : isFolderName (Text.ofChars (h.map Char.toLower)) = true := by
  have ascii : ∀ c ∈ h, c.toNat < 0x80 := fun c inside => by have := host.visible c inside; omega
  have ofChars_inj : ∀ cs ds : List Char, Text.ofChars cs = Text.ofChars ds → cs = ds := by
    intro cs ds same
    have chars := congrArg Text.toChars same
    rwa [Text.toChars_ofChars, Text.toChars_ofChars] at chars
  simp only [isFolderName, Bool.and_eq_true, Bool.not_eq_true', bne_iff_ne, List.isEmpty_eq_false_iff, List.any_eq_false]
  refine ⟨⟨⟨?_, fun dot => ?_⟩, fun dots => ?_⟩, fun c inside mark => ?_⟩
  · simpa [Text.ofChars] using host.filled
  · obtain ⟨a, rfl, same⟩ := List.map_eq_singleton_iff.mp (ofChars_inj _ ['.'] dot)
    exact host.notDot (by rw [(toLower_ascii (ascii a (by simp))).2.2.1 same])
  · have pair := ofChars_inj _ ['.', '.'] dots
    obtain ⟨a, rest, rfl, first, later⟩ := List.map_eq_cons_iff.mp pair
    obtain ⟨b, rfl, second⟩ := List.map_eq_singleton_iff.mp later
    refine host.notDots ?_
    rw [(toLower_ascii (ascii a (by simp))).2.2.1 first, (toLower_ascii (ascii b (by simp))).2.2.1 second]
  · obtain ⟨d, lowered, rfl⟩ := List.mem_map.mp inside
    obtain ⟨e, here, rfl⟩ := List.mem_map.mp lowered
    have backslash : e.toLower = '\\' := by
      have same := CodePoint.is_iff.mp mark
      have chars := congrArg CodePoint.char? same
      rw [CodePoint.char?_ofChar, CodePoint.char?_ofChar] at chars
      exact Option.some.inj chars
    have bad := (toLower_ascii (ascii e here)).2.2.2 backslash
    subst bad
    exact host.unmarked _ here (by decide)

end Forms

section Hostname

variable {site : String} {front tail : List Char}

theorem trim_site (shape : site.toList = front ++ tail) (filled : front ≠ [])
    (visible : ∀ c ∈ front, 0x20 < c.toNat ∧ c.toNat < 0x7F) :
    Text.trim (Text.ofString site) = Text.ofChars (front ++ trimEnd tail) := by
  have blank : ∀ c ∈ front, Unicode.isBlank c.toNat = false := fun c inside => isBlank_of_visible (visible c inside)
  obtain ⟨c, rest, rfl⟩ := List.exists_cons_of_ne_nil filled
  rw [Text.ofString, shape, List.cons_append, Text.trim_ofChars (blank c List.mem_cons_self), ← List.cons_append,
    trimEnd_append blank]

theorem hostname_of_found {h : String} (host : HostText h.toList) (found : Text)
    (read : (if hasScheme (Text.toChars (Text.trim (Text.ofString site))) then
        addressHost (Text.toChars (Text.trim (Text.ofString site)))
      else .ok (Text.ofChars (before ':' (before '/' (Text.toChars (Text.trim (Text.ofString site))))))) = .ok found)
    (lowered : Text.lower found = Text.ofChars (h.toList.map Char.toLower)) : hostname site = .ok h.toLower := by
  have named : (Text.ofChars (h.toList.map Char.toLower)).toString = h.toLower := by
    rw [Text.toString, Text.toChars_ofChars, ← String.toList_map, String.ofList_toList]
    rfl
  simp only [hostname, read, lowered, isFolderName_lower host, if_true, named]

end Hostname

/-- An address names the same folder as the host that it begins with, in small letters, and so does the host on its own
with whatever follows it, unless another address stands in there: then there is no hostname. -/
theorem hostname_of_forms {h port tail : String} (host : HostText h.toList) (ported : PortText port.toList)
    (tailed : TailText tail.toList) :
    hostname ("https://" ++ h ++ port ++ tail) = .ok h.toLower ∧
      (¬"://".toList <:+: tail.toList → hostname (h ++ port ++ tail) = .ok h.toLower) ∧
      ("://".toList <:+: tail.toList → hostname (h ++ port ++ tail) =
        .error (noHostname (Text.trim (Text.ofString (h ++ port ++ tail))))) := by
  have plain := front_plain host ported
  have filled : h.toList ++ port.toList ≠ [] := List.append_ne_nil_of_left_ne_nil host.filled _
  have ascii : ∀ c ∈ h.toList, c.toNat < 0x80 := fun c inside => by have := host.visible c inside; omega
  have ended := tailed.trimEnd
  have trimmed : Text.trim (Text.ofString (h ++ port ++ tail)) =
      Text.ofChars (h.toList ++ port.toList ++ trimEnd tail.toList) :=
    trim_site (by simp) filled fun c inside => (plain c inside).1
  -- Blanks at the end are no part of an address, so it is in the tail before and after they are cut off.
  have nested : hasScheme (h.toList ++ port.toList ++ trimEnd tail.toList) = hasScheme tail.toList := by
    obtain ⟨blanks, split, blank⟩ := trimEnd_prefix tail.toList
    rw [hasScheme_front host ported, ← hasScheme_append_blanks blank, ← split]
  refine ⟨?_, fun plainTail => ?_, fun address => ?_⟩
  · have whole : Text.trim (Text.ofString ("https://" ++ h ++ port ++ tail)) =
        Text.ofChars ("https://".toList ++ (h.toList ++ port.toList) ++ trimEnd tail.toList) := by
      refine trim_site (by simp) (List.append_ne_nil_of_left_ne_nil (by decide) _) fun c inside => ?_
      rcases List.mem_append.mp inside with scheme | front
      · exact scheme_visible c scheme
      · exact (plain c front).1
    have scheme : hasScheme ("https://".toList ++ (h.toList ++ port.toList) ++ trimEnd tail.toList) = true := rfl
    refine hostname_of_found host (lowerHost h.toList) ?_ (lower_lowerHost host)
    rw [whole, Text.toChars_ofChars, if_pos scheme, addressHost]
    simp only [authority_of_address host ported ended, checkAuthority_front host ported, hostPart_front host ported]
  · have none : hasScheme tail.toList = false := by
      rw [← Bool.not_eq_true, hasScheme_iff]
      exact plainTail
    refine hostname_of_found host (Text.ofChars h.toList) ?_ (Text.lower_ascii ascii)
    rw [trimmed, Text.toChars_ofChars, nested, none]
    have front : before '/' (h.toList ++ port.toList ++ trimEnd tail.toList) = h.toList ++ port.toList := by
      rw [before_append fun inside => (plain '/' inside).2 (by decide)]
      generalize trimEnd tail.toList = rest at ended
      cases ended with
      | nothing => exact List.append_nil _
      | path rest => exact List.append_nil _
    simp only [front, before_colon host ported]
    rfl
  · have some_ := hasScheme_iff.mpr address
    rw [← nested] at some_
    have nothing : addressHost (h.toList ++ port.toList ++ trimEnd tail.toList) = .ok [] := by
      rw [addressHost]
      simp only [authority_of_name host ported ended]
      rfl
    simp only [hostname, trimmed, Text.toChars_ofChars, some_, if_true, nothing]
    rfl

-- Capital letters, a port and a query make no difference.
theorem hostname_of_mixed :
    hostname ("https://" ++ "Sub.Example.com" ++ ":8443" ++ "/path?q=1") = .ok "sub.example.com" ∧
      hostname ("Sub.Example.com" ++ ":8443" ++ "/path?q=1") = .ok "sub.example.com" := by
  have host : HostText "Sub.Example.com".toList := ⟨by decide, by decide, by decide, forall_of_all (by decide), forall_of_all (by decide)⟩
  have ported : PortText ":8443".toList := .number (by decide : ['8', '4', '4', '3'] ≠ []) (List.all_eq_true.mp (by decide))
  have tailed : TailText "/path?q=1".toList := .path _
  have forms := hostname_of_forms host ported tailed
  have plain : ¬"://".toList <:+: "/path?q=1".toList := by
    rw [← hasScheme_iff]
    decide
  have small : "Sub.Example.com".toLower = "sub.example.com" := by
    have shape : "Sub.Example.com".toLower = "Sub.Example.com".map Char.toLower := rfl
    rw [← String.toList_inj, shape, String.toList_map]
    rfl
  rw [small] at forms
  exact ⟨forms.1, forms.2.1 plain⟩

-- An address in the query of a host hides the host.
theorem hostname_of_nested :
    hostname "https://example.com/login?next=https://example.com/" = .ok "example.com" ∧
      hostname "example.com/login?next=https://example.com/" =
        .error (noHostname "example.com/login?next=https://example.com/") :=
  ⟨rfl, rfl⟩

end Site

end SiteSurvey
