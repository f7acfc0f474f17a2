import SiteSurvey.Proofs.Script.Gives
import SiteSurvey.Proofs.Script.StringValue

set_option autoImplicit false

namespace SiteSurvey.Script

section Laid

/-- The parts of a template between its backticks: stretches of text, escapes and substitutions. A stretch goes on
up to a backslash or the start of a substitution. -/
inductive Laid : List Node → Prop
  | done : Laid []
  | fragment {part : Node} {rest : List Node} (kind : part.kind = .stringFragment)
      (plain : '\\' ∉ part.text.toList) (closed : ¬['$', '\x7b'] <:+: part.text.toList)
      (ends : ∀ next ∈ rest.head?, next.kind ≠ .stringFragment) (laid : Laid rest) : Laid (part :: rest)
  | escape {part : Node} {rest : List Node} (kind : part.kind = .escapeSequence)
      (escape : Escape part.text.toList []) (laid : Laid rest) : Laid (part :: rest)
  | hole {part : Node} {rest : List Node} (kind : part.kind = .templateSubstitution)
      (laid : Laid rest) : Laid (part :: rest)

variable {part : Node} {rest parts more : List Node}

namespace Laid

theorem append_hole (laid : Laid parts) (hole : part.kind = .templateSubstitution) (after : Laid more) :
    Laid (parts ++ part :: more) := by
  induction laid with
  | done => exact .hole hole after
  | @fragment first rest kind plain closed ends _ ih =>
    refine .fragment kind plain closed ?_ ih
    cases rest with
    | nil => simp [hole]
    | cons next rest => simpa using ends
  | escape kind escape _ ih => exact .escape kind escape ih
  | hole kind _ ih => exact .hole kind ih

def shape (part : Node) : Kind × String :=
  (part.kind, part.text)

-- Only the kinds and texts of the parts matter.
theorem of_shapes (laid : Laid parts) (same : more.map shape = parts.map shape) : Laid more := by
  induction laid generalizing more with
  | done =>
    obtain rfl := List.map_eq_nil_iff.mp same
    exact .done
  | @fragment first rest kind plain closed ends _ ih =>
    obtain ⟨part, more, rfl, head, tail⟩ := List.map_eq_cons_iff.mp same
    obtain ⟨kinds, texts⟩ := Prod.mk.inj head
    refine .fragment (kinds.trans kind) (texts ▸ plain) (texts ▸ closed) ?_ (ih tail)
    intro next found
    have heads := congrArg List.head? tail
    rw [List.head?_map, List.head?_map, Option.mem_def.mp found] at heads
    obtain ⟨other, there, alike⟩ := Option.map_eq_some_iff.mp heads.symm
    have kinds : other.kind = next.kind := congrArg Prod.fst alike
    exact kinds ▸ ends other there
  | escape kind escape _ ih =>
    obtain ⟨part, more, rfl, head, tail⟩ := List.map_eq_cons_iff.mp same
    obtain ⟨kinds, texts⟩ := Prod.mk.inj head
    exact .escape (kinds.trans kind) (texts ▸ escape) (ih tail)
  | hole kind _ ih =>
    obtain ⟨part, more, rfl, head, tail⟩ := List.map_eq_cons_iff.mp same
    exact .hole ((congrArg Prod.fst head).trans kind) (ih tail)

theorem not_remark (laid : Laid parts) : ∀ part ∈ parts, part.isRemark = false := by
  induction laid with
  | done => simp
  | fragment kind _ _ _ _ ih => simpa [Node.isRemark, kind] using ih
  | escape kind _ _ ih => simpa [Node.isRemark, kind] using ih
  | hole kind _ ih => simpa [Node.isRemark, kind] using ih

end Laid

-- Comments come between the parts of a template or into its substitutions.
theorem shapes_placeAmong {remarks : List Node} (all : ∀ r ∈ remarks, r.isRemark = true) (children : List Node) :
    ((Node.placeAmong remarks children).filter fun c => !c.isRemark).map Laid.shape =
      (children.filter fun c => !c.isRemark).map Laid.shape := by
  induction children generalizing remarks with
  | nil => simpa [Node.placeAmong] using all
  | cons n rest ih =>
    rw [Node.placeAmong]
    split
    next => rfl
    next =>
      have before : ((remarks.takeWhile fun r => r.start < n.start).filter fun c => !c.isRemark) = [] := by
        rw [List.filter_eq_nil_iff]
        intro r found
        simp [all r ((List.takeWhile_sublist _).subset found)]
      have after : ∀ r ∈ (remarks.dropWhile fun r => r.start < n.start).dropWhile fun r => r.start < n.stop,
          r.isRemark = true := fun r found =>
        all r ((List.dropWhile_sublist _).subset ((List.dropWhile_sublist _).subset found))
      have same (inside : List Node) :
          Laid.shape (if inside.isEmpty then n else n.placeRemarks inside) = Laid.shape n := by
        cases n
        split <;> rfl
      have kinds (inside : List Node) :
          (if inside.isEmpty then n else n.placeRemarks inside).isRemark = n.isRemark :=
        congrArg (·.1 == .comment) (same inside)
      simp only [List.filter_append, before, List.nil_append, List.filter_cons, kinds]
      split
      next => rw [List.map_cons, List.map_cons, same, ih after]
      next => exact ih after

theorem laid_placeRemarks {n : Node} {remarks : List Node} (all : ∀ r ∈ remarks, r.isRemark = true)
    (laid : Laid n.operands) : Laid (n.placeRemarks remarks).operands := by
  cases n
  exact laid.of_shapes (shapes_placeAmong all _)

end Laid

namespace Grammar

open Source

variable {s : Source} {i j : Nat}

/-- Where a stretch of template text ends: before a backtick, a backslash or a substitution, or with the source. -/
def halts : List Char → Bool
  | [] => true
  | c :: rest => c == '`' || c == '\\' || (c == '$' && rest[0]?.any (· == '\x7b'))

theorem plain_eq (fuel i : Nat) : ∃ k, templateText.plain s true fuel i = i + k ∧
    (∀ m < k, halts (s.after (i + m)) = false) ∧ (s.size - i < fuel → halts (s.after (i + k)) = true) := by
  induction fuel generalizing i with
  | zero => exact ⟨0, rfl, by simp, by simp⟩
  | succ fuel ih =>
    rw [templateText.plain, get?_eq_head?, is_add]
    cases rest : s.after i with
    | nil => exact ⟨0, rfl, by simp, by simp [rest, halts]⟩
    | cons c more =>
      simp only [List.head?_cons, Bool.and_true, List.getElem?_cons_succ]
      split
      next halt => exact ⟨0, rfl, by simp, fun _ => by rw [Nat.add_zero, rest]; exact halt⟩
      next goes =>
        obtain ⟨k, whole, inside, ends⟩ := ih (i + 1)
        have inSource : i < s.size := by
          have long : (s.after i).length = s.size - i := by simp [after, size]
          rw [rest, List.length_cons] at long
          omega
        refine ⟨k + 1, by omega, ?_, fun enough => ?_⟩
        · intro m before
          cases m with
          | zero => rw [Nat.add_zero, rest]; exact Bool.eq_false_iff.mpr goes
          | succ m => rw [← Nat.add_assoc, Nat.add_right_comm]; exact inside m (by omega)
        · rw [← Nat.add_assoc, Nat.add_right_comm]
          exact ends (by omega)

-- Nothing that ends a stretch of template text is found inside it.
theorem not_infix_of_halts {cs part : List Char} {k : Nat} (inside : ∀ m < k, halts (cs.drop m) = false)
    (nonempty : part ≠ []) (halt : ∀ rest, halts (part ++ rest) = true) : ¬part <:+: cs.take k := by
  rintro ⟨before, after, split⟩
  have short : before.length < k := by
    have long := List.length_pos_iff.mpr nonempty
    have bound := congrArg List.length split
    simp only [List.length_take, List.length_append] at bound
    omega
  have whole : cs = before ++ (part ++ (after ++ cs.drop k)) := by
    have both := List.take_append_drop k cs
    rw [← split] at both
    simpa using both.symm
  have goes := inside before.length short
  rw [whole, List.drop_left, halt] at goes
  cases goes

theorem plain_of_halts {cs : List Char} {k : Nat} (inside : ∀ m < k, halts (cs.drop m) = false) :
    '\\' ∉ cs.take k ∧ ¬['$', '\x7b'] <:+: cs.take k := by
  constructor
  · intro found
    obtain ⟨before, after, split⟩ := List.append_of_mem found
    have part : ['\\'] <:+: cs.take k := ⟨before, after, by simp [split]⟩
    exact not_infix_of_halts inside (by simp) (by simp [halts]) part
  · exact not_infix_of_halts inside (by simp) (by simp [halts])

theorem laid_templateText {fuel : Nat} {acc : Array Node} {parts : List Node}
    (read : templateText s true fuel i acc = some (parts, j)) : ∃ new, parts = acc.toList ++ new ∧ Laid new ∧
      (halts (s.after i) = true → ∀ part ∈ new.head?, part.kind ≠ .stringFragment) := by
  induction fuel generalizing i acc with
  | zero => cases read
  | succ fuel ih =>
    rw [templateText, get?_eq_head?] at read
    cases rest : s.after i with
    | nil => simp [rest] at read
    | cons c more =>
      simp only [rest, List.head?_cons] at read
      split at read
      next absent => cases absent
      next backtick =>
        cases read
        exact ⟨[], by simp, .done, by simp⟩
      next c' other same =>
        cases same
        split at read
        next hole =>
          cases read
          exact ⟨[], by simp, .done, by simp⟩
        next noHole =>
          split at read
          next backslash =>
            obtain rfl : c = '\\' := by simpa using backslash
            split at read
            next j' ended =>
              obtain ⟨escape, whole, rfl, cut⟩ := escapeAt_of_escapeEnd rest ended
              obtain ⟨new, rfl, laid, _⟩ := ih read
              have text : (leafOf s .escapeSequence i (i + escape.length)).text.toList = escape := by
                rw [toList_text_leafOf, whole, List.take_left]
              refine ⟨leafOf s .escapeSequence i (i + escape.length) :: new, by simp, ?_, ?_⟩
              · refine .escape rfl ?_ laid
                rw [text]
                exact cut [] ⟨_, rfl⟩
              · simp [leafOf, Node.kind]
            next => cases read
          next plain =>
            obtain ⟨k, whole, inside, ends⟩ := plain_eq (s := s) (s.size - i + 1) i
            rw [whole] at read
            obtain ⟨new, rfl, laid, next⟩ := ih read
            obtain ⟨slash, closed⟩ := plain_of_halts (k := k) fun m before => (after_add (s := s) m) ▸ inside m before
            refine ⟨leafOf s .stringFragment i (i + k) :: new, by simp, ?_, ?_⟩
            · refine .fragment rfl ?_ ?_ (next (ends (by omega))) laid
              · rwa [toList_text_leafOf]
              · rwa [toList_text_leafOf]
            · intro halt
              rw [is_add, rest, List.getElem?_cons_succ] at noHole
              rw [halts, Bool.or_eq_true, Bool.or_eq_true, beq_iff_eq] at halt
              rcases halt with (backtick | backslash) | hole
              · exact (other backtick).elim
              · exact absurd (by rw [backslash]; rfl) plain
              · exact absurd hole noHole

def Open (parts : List Node) : Prop :=
  ∀ more, Laid more → Laid (parts ++ more)

-- The invariant of the loop: what has been read is laid, and open until the closing backtick.
def Underway (all : List Node × Bool) : Prop :=
  Laid all.1 ∧ (all.2 = false → Open all.1)

theorem laid_templateParts (hole : Parser Node) : (templateParts true hole).Gives Laid := by
  unfold templateParts
  extract_lets text
  have stretch : text.Gives Underway := by
    refine .bind .any fun i _ => .bind .any fun s _ => ?_
    split
    next => exact .stop
    next parts j read =>
      obtain ⟨new, whole, laid, _⟩ := laid_templateText read
      obtain rfl : parts = new := by simpa using whole
      split
      next => exact .bind .any fun _ _ => .pure ⟨laid, by simp⟩
      next =>
        refine .bind .any fun _ _ => .bind .any fun inside _ => .bind .any fun _ _ => .bind .any fun _ _ =>
          .bind .any fun c _ => .bind .any fun _ _ => .bind .any fun s _ => .pure ?_
        exact ⟨laid.append_hole rfl .done, fun _ more after => by simpa using laid.append_hole rfl after⟩
  refine .bind stretch fun start good => .bind (.grow good ?_) fun all good => .bind .any fun _ _ => .pure good.1
  rintro ⟨parts, finished⟩ ⟨laid, opened⟩
  refine .bind .guard fun _ goes => .bind stretch fun ⟨more, finished⟩ ⟨after, follows⟩ => .pure ?_
  have free := opened (by simpa using goes)
  exact ⟨free more after, fun going later ended => by simpa using free _ (follows going later ended)⟩

theorem laid_template (inner : Inner) :
    (template inner).Gives fun n => n.kind = .templateString ∧ Laid n.children := by
  refine .bind .any fun c _ => .bind .any fun _ _ => .bind .any fun _ _ =>
    .bind (laid_templateParts _) fun parts laid => .close fun _ _ => ⟨rfl, laid⟩

end Grammar

end SiteSurvey.Script
