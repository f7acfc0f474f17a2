import Mathlib.Data.List.Induction
import Mathlib.Data.List.Nodup
import SiteSurvey.Proofs.Request.History

set_option autoImplicit false

namespace SiteSurvey.Request.Scope

inductive Change where
  | bind (name : String) (shape : Shape) (keys : List Text)
  | unbind (name : String)
  | append (name : String) (key : Text) (unique : Bool)
  deriving DecidableEq, Repr

namespace Change

def name : Change → String
  | bind name _ _ | unbind name | append name _ _ => name

def sets (x : String) : Change → Bool
  | bind name _ _ | unbind name => name == x
  | append _ _ _ => false

/-- The key that the change appends to what a name holds, and whether only if it is new. -/
def appended? (x : String) : Change → Option (Text × Bool)
  | append name key unique => if name = x then some (key, unique) else none
  | _ => none

/-- What the change makes of what its name holds. -/
def effect (held : Option Binding) : Change → Option Binding
  | bind name shape keys => some { name, shape, keys }
  | unbind _ => none
  | append _ key unique =>
      held.map fun b => if b.shape.isAccumulator then { b with keys := addKey unique b.keys key } else b

theorem ne_or_append_of_unset {c : Change} {x : String} (unset : c.sets x = false) :
    c.name ≠ x ∨ ∃ key unique, c = append x key unique := by
  cases c with
  | bind | unbind => exact .inl (beq_eq_false_iff_ne.mp unset)
  | append name key unique =>
    by_cases same : name = x
    · exact .inr ⟨key, unique, by rw [same]⟩
    · exact .inl same

theorem appended?_of_ne {c : Change} {x : String} (other : c.name ≠ x) : c.appended? x = none := by
  cases c with
  | bind => rfl
  | unbind => rfl
  | append => exact if_neg other

end Change

def after (s : Scope) : Change → Scope
  | .bind name shape keys => s.bind name shape keys
  | .unbind name => s.unbind name
  | .append name key unique => (s.append name key unique).1

def reply? (s : Scope) : Change → Option Bool
  | .append name key unique => some (s.append name key unique).2
  | _ => none

def run (changes : List Change) : Scope :=
  changes.foldl after empty

/-- The answers to some changes in order, each with the name it is about. -/
def replies : Scope → List Change → List (String × Bool)
  | _, [] => []
  | s, c :: later => ((s.reply? c).map (c.name, ·)).toList ++ replies (s.after c) later

theorem run_append (changes : List Change) (c : Change) : run (changes ++ [c]) = (run changes).after c := by
  rw [run, List.foldl_append]
  rfl

section Names

variable {s t : Scope} {c : Change} {x : String}

theorem get?_after (s : Scope) (c : Change) (x : String) :
    (s.after c).get? x = if c.name = x then c.effect (s.get? x) else s.get? x := by
  cases c with
  | bind name shape keys => simp only [after, get?_bind, Change.name, Change.effect, eq_comm]
  | unbind name => simp only [after, get?_unbind, Change.name, Change.effect, eq_comm]
  | append name key unique =>
    rw [after, get?_append]
    by_cases same : name = x
    · simp [Change.name, Change.effect, same]
    · simp [Change.name, same, Ne.symm same]

theorem get?_after_of_ne (other : c.name ≠ x) : (s.after c).get? x = s.get? x := by
  rw [get?_after, if_neg other]

theorem append_snd (s : Scope) (name : String) (key : Text) (unique : Bool) :
    (s.append name key unique).2 = (s.get? name).any (·.shape.isAccumulator) := by
  unfold append
  rcases s.get? name with _ | b
  · rfl
  · dsimp only
    split
    · rename_i grows
      exact grows.symm
    · rename_i fixed
      exact (Bool.eq_false_iff.mpr fixed).symm

theorem reply?_congr (same : s.get? c.name = t.get? c.name) : s.reply? c = t.reply? c := by
  cases c with
  | bind => rfl
  | unbind => rfl
  | append name key unique => rw [reply?, reply?, append_snd, append_snd, show s.get? name = t.get? name from same]

/-- What a name holds depends only on the changes that name it, from wherever they start. -/
theorem get?_foldl_filter (changes : List Change) (same : s.get? x = t.get? x) :
    (changes.foldl after s).get? x = ((changes.filter (·.name == x)).foldl after t).get? x := by
  induction changes generalizing s t with
  | nil => exact same
  | cons c later ih =>
    by_cases here : c.name = x
    · rw [List.filter_cons_of_pos (by simpa using here), List.foldl_cons, List.foldl_cons]
      refine ih ?_
      rw [get?_after, get?_after, same]
    · rw [List.filter_cons_of_neg (by simpa using here), List.foldl_cons]
      refine ih ?_
      rw [get?_after_of_ne here, same]

theorem replies_filter (changes : List Change) (same : s.get? x = t.get? x) :
    (replies s changes).filter (·.1 == x) = replies t (changes.filter (·.name == x)) := by
  induction changes generalizing s t with
  | nil => rfl
  | cons c later ih =>
    rw [replies, List.filter_append]
    by_cases here : c.name = x
    · subst here
      rw [List.filter_cons_of_pos (by simp), replies, reply?_congr same]
      congr 1
      · rcases t.reply? c with _ | told <;> simp
      · refine ih ?_
        rw [get?_after, get?_after, same]
    · have others : (((s.reply? c).map (c.name, ·)).toList.filter (·.1 == x)) = [] := by
        rcases s.reply? c with _ | told <;> simp [here]
      rw [others, List.nil_append, List.filter_cons_of_neg (by simpa using here)]
      refine ih ?_
      rw [get?_after_of_ne here, same]

end Names

section Keys

/-- An appended key is added, with its place among those that are appended. One that has to be new is passed over if the
value was bound with it or if it was appended before. -/
def isAdded (keys : List Text) (appended : List (Text × Bool)) (a : (Text × Bool) × Nat) : Bool :=
  !(a.1.2 && (keys ++ (appended.take a.2).map (·.1)).contains a.1.1)

/-- Those of the appended keys that are added, in order. -/
def kept (keys : List Text) (appended : List (Text × Bool)) : List Text :=
  (appended.zipIdx.filter (isAdded keys appended)).map (·.1.1)

theorem kept_append (keys : List Text) (appended : List (Text × Bool)) (a : Text × Bool) :
    kept keys (appended ++ [a]) = kept keys appended ++
      if a.2 && (keys ++ appended.map (·.1)).contains a.1 then [] else [a.1] := by
  have earlier : appended.zipIdx.filter (isAdded keys (appended ++ [a])) =
      appended.zipIdx.filter (isAdded keys appended) := by
    refine List.filter_congr fun b inside => ?_
    have within := List.snd_lt_of_mem_zipIdx inside
    rw [isAdded, isAdded, List.take_append_of_le_length (by omega)]
  have latest : isAdded keys (appended ++ [a]) (a, appended.length) =
      !(a.2 && (keys ++ appended.map (·.1)).contains a.1) := by
    rw [isAdded, List.take_left]
  rw [kept, List.zipIdx_append, List.filter_append, List.map_append, earlier, List.zipIdx_singleton, Nat.zero_add,
    List.filter_singleton, latest]
  cases a.2 && (keys ++ appended.map (·.1)).contains a.1 <;> rfl

/-- What is there after some appends is what the value was bound with and what was appended, added or not. -/
theorem mem_kept_iff (keys : List Text) (appended : List (Text × Bool)) (key : Text) :
    key ∈ keys ++ kept keys appended ↔ key ∈ keys ++ appended.map (·.1) := by
  induction appended using List.reverseRecOn with
  | nil => rfl
  | append_singleton earlier a ih =>
    have wanted : key ∈ keys ++ (earlier ++ [a]).map (·.1) ↔ key ∈ keys ++ earlier.map (·.1) ∨ key = a.1 := by
      simp [or_assoc]
    rw [wanted, kept_append, ← List.append_assoc, List.mem_append, ih]
    split
    · rename_i there
      have inside : a.1 ∈ keys ++ earlier.map (·.1) :=
        List.contains_iff_mem.mp (Bool.and_eq_true_iff.mp there).2
      constructor
      · exact fun before => .inl (before.resolve_right List.not_mem_nil)
      · rintro (before | rfl)
        · exact .inl before
        · exact .inl inside
    · rw [List.mem_singleton]

theorem addKey_kept (keys : List Text) (appended : List (Text × Bool)) (a : Text × Bool) :
    addKey a.2 (keys ++ kept keys appended) a.1 = keys ++ kept keys (appended ++ [a]) := by
  have there : (keys ++ kept keys appended).contains a.1 = (keys ++ appended.map (·.1)).contains a.1 := by
    rw [Bool.eq_iff_iff, List.contains_iff_mem, List.contains_iff_mem, mem_kept_iff]
  rw [kept_append, addKey, there]
  split
  · rw [List.append_nil]
  · rw [List.append_assoc]

end Keys

section Held

variable {x : String} {changes : List Change} {c : Change} {b : Binding}

/-- What a name holds that was bound to a value, after later changes. -/
def heldSince (x : String) (shape : Shape) (keys : List Text) (later : List Change) : Binding :=
  { name := x, shape,
    keys := if shape.isAccumulator then keys ++ kept keys (later.filterMap (Change.appended? x)) else keys }

/-- A name was last set by being bound to a value, which has become `b` since. -/
def Holds (changes : List Change) (x : String) (b : Binding) : Prop :=
  ∃ before shape keys later, changes = before ++ .bind x shape keys :: later ∧
    (∀ c ∈ later, c.sets x = false) ∧ b = heldSince x shape keys later

theorem heldSince_append_other (shape : Shape) (keys : List Text) (later : List Change)
    (other : c.appended? x = none) : heldSince x shape keys (later ++ [c]) = heldSince x shape keys later := by
  have none_ : [c].filterMap (Change.appended? x) = [] := by simp [other]
  rw [heldSince, List.filterMap_append, none_, List.append_nil, heldSince]

theorem heldSince_append_key (shape : Shape) (keys : List Text) (later : List Change) (key : Text) (unique : Bool) :
    some (heldSince x shape keys (later ++ [.append x key unique])) =
      Change.effect (some (heldSince x shape keys later)) (.append x key unique) := by
  have added : [Change.append x key unique].filterMap (Change.appended? x) = [(key, unique)] := by
    simp [Change.appended?]
  rw [heldSince, List.filterMap_append, added, ← addKey_kept, Change.effect, Option.map_some]
  by_cases grows : shape.isAccumulator = true
  · simp [heldSince, grows]
  · simp [heldSince, grows]

theorem heldSince_append (shape : Shape) (keys : List Text) (later : List Change) (unset : c.sets x = false) :
    some (heldSince x shape keys (later ++ [c])) =
      if c.name = x then c.effect (some (heldSince x shape keys later)) else some (heldSince x shape keys later) := by
  rcases Change.ne_or_append_of_unset unset with other | ⟨key, unique, rfl⟩
  · rw [if_neg other, heldSince_append_other shape keys later (Change.appended?_of_ne other)]
  · rw [if_pos (by rfl), heldSince_append_key]

theorem append_eq_split {before later : List Change} {d : Change} :
    changes ++ [c] = before ++ d :: later ↔
      (later = [] ∧ changes = before ∧ c = d) ∨ ∃ rest, later = rest ++ [c] ∧ changes = before ++ d :: rest := by
  rcases later.eq_nil_or_concat' with rfl | ⟨rest, e, rfl⟩
  · simp
  · have regrouped : before ++ d :: (rest ++ [e]) = (before ++ d :: rest) ++ [e] := by simp
    rw [regrouped, List.append_singleton_inj]
    constructor
    · rintro ⟨rfl, rfl⟩
      exact .inr ⟨rest, rfl, rfl⟩
    · rintro (⟨none_, _⟩ | ⟨rest', same, rfl⟩)
      · simp at none_
      · obtain ⟨rfl, rfl⟩ := List.append_singleton_inj.mp same
        exact ⟨rfl, rfl⟩

theorem holds_append_iff : Holds (changes ++ [c]) x b ↔
    (∃ shape keys, c = .bind x shape keys ∧ b = { name := x, shape, keys }) ∨
      c.sets x = false ∧ ∃ old, Holds changes x old ∧ some b = if c.name = x then c.effect (some old) else some old := by
  constructor
  · rintro ⟨before, shape, keys, later, split, unset, rfl⟩
    rcases append_eq_split.mp split with ⟨rfl, rfl, rfl⟩ | ⟨rest, rfl, rfl⟩
    · refine .inl ⟨shape, keys, rfl, ?_⟩
      simp [heldSince, kept]
    · have latest := unset c (by simp)
      refine .inr ⟨latest, heldSince x shape keys rest, ⟨before, shape, keys, rest, rfl, ?_, rfl⟩, ?_⟩
      · exact fun d inside => unset d (List.mem_append_left _ inside)
      · exact heldSince_append shape keys rest latest
  · rintro (⟨shape, keys, rfl, rfl⟩ | ⟨latest, old, ⟨before, shape, keys, later, rfl, unset, rfl⟩, now⟩)
    · exact ⟨changes, shape, keys, [], rfl, by simp, by simp [heldSince, kept]⟩
    · refine ⟨before, shape, keys, later ++ [c], by simp, ?_, ?_⟩
      · intro d inside
        rcases List.mem_append.mp inside with earlier | here
        · exact unset d earlier
        · rwa [List.mem_singleton.mp here]
      · rw [← heldSince_append shape keys later latest] at now
        exact Option.some.inj now

theorem effect_eq_some_iff {held : Option Binding} (unset : c.sets x = false) :
    (if c.name = x then c.effect held else held) = some b ↔
      ∃ old, held = some old ∧ some b = if c.name = x then c.effect (some old) else some old := by
  rcases held with _ | old
  · have none_ : (if c.name = x then c.effect none else none) = none := by
      rcases Change.ne_or_append_of_unset unset with other | ⟨key, unique, rfl⟩
      · exact if_neg other
      · exact ite_self none
    simp [none_]
  · simp [eq_comm]

/-- A name holds just what the bind that last set it gave it, with the keys that were added since. -/
theorem get?_run_iff (changes : List Change) (x : String) (b : Binding) :
    (run changes).get? x = some b ↔ Holds changes x b := by
  induction changes using List.reverseRecOn generalizing b with
  | nil =>
    constructor
    · intro held
      cases held
    · rintro ⟨before, _, _, _, split, _⟩
      simp at split
  | append_singleton changes c ih =>
    rw [run_append, get?_after, holds_append_iff]
    by_cases unset : c.sets x = false
    · have noBind : ¬∃ shape keys, c = .bind x shape keys ∧ b = { name := x, shape, keys } := by
        rintro ⟨shape, keys, rfl, _⟩
        simp [Change.sets] at unset
      simp only [effect_eq_some_iff unset, ih, noBind, unset, true_and, false_or]
    · cases c with
      | bind name shape keys =>
        obtain rfl : name = x := by simpa [Change.sets] using unset
        simp [Change.name, Change.effect, Change.sets, eq_comm]
      | unbind name =>
        obtain rfl : name = x := by simpa [Change.sets] using unset
        simp [Change.name, Change.effect, Change.sets]
      | append => exact absurd rfl unset

end Held

section Entries

variable {s : Scope} {x : String}

/-- Each value is entered under the name that it says it is bound to. -/
def Keyed (s : Scope) : Prop :=
  ∀ e ∈ s.entries, e.2.name = e.1

theorem mem_of_get? {b : Binding} (held : s.get? x = some b) : (x, b) ∈ s.entries := by
  obtain ⟨before, later, split, _⟩ := List.lookup_eq_some_iff.mp held
  rw [split]
  exact List.mem_append_right _ List.mem_cons_self

theorem mem_put {name : String} {new : Binding} {entries : List (String × Binding)} {e : String × Binding}
    (inside : e ∈ put name new entries) : e = (name, new) ∨ e ∈ entries := by
  induction entries with
  | nil => exact .inl (List.mem_singleton.mp inside)
  | cons first rest ih =>
    rw [put] at inside
    split at inside
    · rcases List.mem_cons.mp inside with here | later
      · exact .inl here
      · exact .inr (List.mem_cons_of_mem _ later)
    · rcases List.mem_cons.mp inside with here | later
      · exact .inr (by rw [here]; exact List.mem_cons_self)
      · exact (ih later).imp id (List.mem_cons_of_mem _)

theorem keyed_put {name : String} {new : Binding} (keyed : s.Keyed) (named : new.name = name) :
    Keyed ⟨put name new s.entries⟩ := by
  intro e inside
  rcases mem_put inside with rfl | before
  · exact named
  · exact keyed e before

theorem keyed_after (keyed : s.Keyed) (c : Change) : (s.after c).Keyed := by
  cases c with
  | bind name shape keys => exact keyed_put keyed rfl
  | unbind name => exact fun e inside => keyed e (List.mem_of_mem_filter inside)
  | append name key unique =>
    rw [after, append]
    rcases held : s.get? name with _ | b
    · exact keyed
    · dsimp only
      split
      · exact keyed_put keyed (keyed _ (mem_of_get? held))
      · exact keyed

theorem keyed_run (changes : List Change) : (run changes).Keyed := by
  induction changes using List.reverseRecOn with
  | nil => exact fun e inside => absurd inside List.not_mem_nil
  | append_singleton changes c ih =>
    rw [run_append]
    exact keyed_after ih c

def names (s : Scope) : List String :=
  s.entries.map (·.1)

theorem names_eq_of_keyed (keyed : s.Keyed) : s.bindings.map (·.name) = s.names := by
  rw [bindings, List.map_map, names]
  exact List.map_congr_left keyed

theorem contains_iff_mem_names : s.contains x = true ↔ x ∈ s.names := by
  rw [contains, get?, names]
  induction s.entries with
  | nil => simp
  | cons e rest ih => by_cases found : x = e.1 <;> simp [lookup_cons, found, ih]

theorem names_put (name : String) (new : Binding) (entries : List (String × Binding)) :
    (put name new entries).map (·.1) =
      if name ∈ entries.map (·.1) then entries.map (·.1) else entries.map (·.1) ++ [name] := by
  induction entries with
  | nil => rfl
  | cons e rest ih =>
    by_cases found : e.1 = name
    · simp [put, found]
    · rw [put, if_neg (by simpa using found), List.map_cons, ih]
      by_cases later : name ∈ rest.map (·.1)
      · simp [later]
      · simp [later, Ne.symm found]

end Entries

section Order

variable {s : Scope} {changes : List Change} {x : String}

theorem names_bind (s : Scope) (name : String) (shape : Shape) (keys : List Text) :
    (s.bind name shape keys).names = if name ∈ s.names then s.names else s.names ++ [name] :=
  names_put name _ s.entries

theorem names_unbind (s : Scope) (name : String) : (s.unbind name).names = s.names.filter (· != name) := by
  rw [names, names, unbind, List.filter_map]
  rfl

theorem names_append (s : Scope) (name : String) (key : Text) (unique : Bool) :
    (s.append name key unique).1.names = s.names := by
  rw [append]
  rcases held : s.get? name with _ | b
  · rfl
  · dsimp only
    split
    · have there : name ∈ s.names := contains_iff_mem_names.mp (by rw [contains, held]; rfl)
      exact (names_put name _ s.entries).trans (if_pos there)
    · rfl

theorem nodup_names_after (once : s.names.Nodup) (c : Change) : (s.after c).names.Nodup := by
  cases c with
  | bind name shape keys =>
    rw [after, names_bind]
    split
    · exact once
    · rename_i new
      rw [← List.concat_eq_append]
      exact once.concat new
  | unbind name =>
    rw [after, names_unbind]
    exact once.filter _
  | append name key unique => rwa [after, names_append]

theorem nodup_names_run (changes : List Change) : (run changes).names.Nodup := by
  induction changes using List.reverseRecOn with
  | nil => exact List.nodup_nil
  | append_singleton changes c ih =>
    rw [run_append]
    exact nodup_names_after ih c

/-- A change makes a name go from holding nothing to holding something. -/
def opens (s : Scope) (x : String) : Change → Bool
  | .bind name _ _ => name == x && !s.contains x
  | _ => false

/-- The position of the change that last made a name go from holding nothing to holding something. -/
def openedAt? (changes : List Change) (x : String) : Option Nat :=
  ((List.range changes.length).filter fun i => changes[i]?.any ((run (changes.take i)).opens x)).getLast?

theorem openedAt?_append (changes : List Change) (c : Change) (x : String) :
    openedAt? (changes ++ [c]) x = if (run changes).opens x c then some changes.length else openedAt? changes x := by
  have earlier : ((List.range changes.length).filter fun i =>
        (changes ++ [c])[i]?.any ((run ((changes ++ [c]).take i)).opens x)) =
      (List.range changes.length).filter fun i => changes[i]?.any ((run (changes.take i)).opens x) := by
    refine List.filter_congr fun i inside => ?_
    have within := List.mem_range.mp inside
    rw [List.getElem?_append_left within, List.take_append_of_le_length (Nat.le_of_lt within)]
  have latest : (changes ++ [c])[changes.length]?.any ((run ((changes ++ [c]).take changes.length)).opens x) =
      (run changes).opens x c := by
    rw [List.getElem?_concat_length, List.take_left, Option.any_some]
  rw [openedAt?, List.length_append, List.length_singleton, List.range_succ, List.filter_append, earlier,
    List.filter_singleton, latest]
  by_cases opened : (run changes).opens x c = true
  · simp [opened]
  · simp [opened, openedAt?]

/-- One name has held something for longer than another one. -/
def Earlier (changes : List Change) (x y : String) : Prop :=
  ∃ i j, openedAt? changes x = some i ∧ openedAt? changes y = some j ∧ i < j

/-- The names are listed in the order in which they last came to hold something. -/
structure InOrder (changes : List Change) : Prop where
  opened : ∀ x ∈ (run changes).names, ∃ i < changes.length, openedAt? changes x = some i
  earlier : (run changes).names.Pairwise (Earlier changes)

theorem InOrder.keep (inOrder : InOrder changes) {c : Change} {few : List String}
    (listed : few.Sublist (run changes).names) (closed : ∀ x ∈ few, (run changes).opens x c = false) :
    (∀ x ∈ few, ∃ i < changes.length, openedAt? (changes ++ [c]) x = some i) ∧
      few.Pairwise (Earlier (changes ++ [c])) := by
  have same : ∀ x ∈ few, openedAt? (changes ++ [c]) x = openedAt? changes x := by
    intro x inside
    rw [openedAt?_append, closed x inside]
    rfl
  constructor
  · intro x inside
    rw [same x inside]
    exact inOrder.opened x (listed.subset inside)
  · refine (inOrder.earlier.sublist listed).imp_of_mem fun {x y} first second earlier => ?_
    rwa [Earlier, same x first, same y second]

theorem opens_of_mem_names (listed : x ∈ s.names) (c : Change) : s.opens x c = false := by
  cases c with
  | bind name shape keys => rw [opens, contains_iff_mem_names.mpr listed, Bool.not_true, Bool.and_false]
  | unbind | append => rfl

theorem InOrder.of_sublist (inOrder : InOrder changes) {c : Change}
    (listed : (run (changes ++ [c])).names.Sublist (run changes).names) : InOrder (changes ++ [c]) := by
  obtain ⟨opened, earlier⟩ := inOrder.keep listed fun x inside => opens_of_mem_names (listed.subset inside) c
  refine ⟨fun x inside => ?_, earlier⟩
  obtain ⟨i, within, at_⟩ := opened x inside
  exact ⟨i, by rw [List.length_append]; omega, at_⟩

theorem InOrder.open (inOrder : InOrder changes) {name : String} (shape : Shape) (keys : List Text)
    (new : name ∉ (run changes).names) : InOrder (changes ++ [.bind name shape keys]) := by
  have listed : (run (changes ++ [.bind name shape keys])).names = (run changes).names ++ [name] := by
    rw [run_append, after, names_bind, if_neg new]
  have empty : (run changes).contains name = false := by
    rw [Bool.eq_false_iff]
    exact fun held => new (contains_iff_mem_names.mp held)
  have latest : openedAt? (changes ++ [.bind name shape keys]) name = some changes.length := by
    rw [openedAt?_append, opens, empty]
    simp
  obtain ⟨opened, earlier⟩ := inOrder.keep (.refl _) fun x inside => opens_of_mem_names inside (.bind name shape keys)
  constructor
  · intro x inside
    rw [listed] at inside
    rcases List.mem_append.mp inside with before | here
    · obtain ⟨i, within, at_⟩ := opened x before
      exact ⟨i, by rw [List.length_append]; omega, at_⟩
    · rw [List.mem_singleton.mp here]
      exact ⟨changes.length, by simp, latest⟩
  · rw [listed]
    refine List.pairwise_append.mpr ⟨earlier, List.pairwise_singleton _ _, fun x before y here => ?_⟩
    rw [List.mem_singleton.mp here]
    obtain ⟨i, within, at_⟩ := opened x before
    exact ⟨i, changes.length, at_, latest, within⟩

theorem InOrder.append (inOrder : InOrder changes) (c : Change) : InOrder (changes ++ [c]) := by
  cases c with
  | bind name shape keys =>
    by_cases there : name ∈ (run changes).names
    · refine inOrder.of_sublist ?_
      rw [run_append, after, names_bind, if_pos there]
    · exact inOrder.open shape keys there
  | unbind name =>
    refine inOrder.of_sublist ?_
    rw [run_append, after, names_unbind]
    exact List.filter_sublist
  | append name key unique =>
    refine inOrder.of_sublist ?_
    rw [run_append, after, names_append]

theorem inOrder_run (changes : List Change) : InOrder changes := by
  induction changes using List.reverseRecOn with
  | nil => exact ⟨fun x inside => absurd inside List.not_mem_nil, .nil⟩
  | append_singleton changes c ih => exact ih.append c

end Order

/-- What a name holds and answers is told by its own history: by the changes that name it, whatever happens to other
names in between. It holds what the bind that last set it gave it, and only an accumulator takes keys after that. -/
structure ByName (changes : List Change) (x : String) : Prop where
  get : (run changes).get? x = (run (changes.filter (·.name == x))).get? x
  contains : (run changes).contains x = (run (changes.filter (·.name == x))).contains x
  replies : (replies empty changes).filter (·.1 == x) = replies empty (changes.filter (·.name == x))
  named : ∀ b, (run changes).get? x = some b → b.name = x
  held : ∀ b, (run changes).get? x = some b ↔
    ∃ before shape keys later, changes = before ++ .bind x shape keys :: later ∧ (∀ c ∈ later, c.sets x = false) ∧
      b = { name := x, shape,
            keys := if shape.isAccumulator then keys ++ kept keys (later.filterMap (Change.appended? x)) else keys }

theorem byName_run (changes : List Change) (x : String) : ByName changes x where
  get := get?_foldl_filter changes rfl
  contains := congrArg Option.isSome (get?_foldl_filter changes rfl)
  replies := replies_filter changes rfl
  named _ held := keyed_run changes _ (mem_of_get? held)
  held := get?_run_iff changes x

/-- A scope is told by the histories of its names, and it lists each name that holds something once, in the order in
which they last came to hold something. -/
theorem scope_told_by_names (changes : List Change) :
    (∀ x, ByName changes x) ∧
      (∀ e ∈ (run changes).entries, e.2.name = e.1) ∧
      ((run changes).bindings.map (·.name)).Nodup ∧
      (∀ x, x ∈ (run changes).bindings.map (·.name) ↔ (run changes).contains x = true) ∧
      (∀ x ∈ (run changes).bindings.map (·.name), ∃ i < changes.length, openedAt? changes x = some i) ∧
      ((run changes).bindings.map (·.name)).Pairwise fun x y =>
        ∃ i j, openedAt? changes x = some i ∧ openedAt? changes y = some j ∧ i < j := by
  have inOrder := inOrder_run changes
  rw [names_eq_of_keyed (keyed_run changes)]
  exact ⟨byName_run changes, keyed_run changes, nodup_names_run changes, fun x => contains_iff_mem_names.symm,
    inOrder.opened, inOrder.earlier⟩

end SiteSurvey.Request.Scope
