import Mathlib.Data.List.Nodup
import Mathlib.Logic.Function.Iterate
import SiteSurvey.Proofs.Script.Watch

set_option autoImplicit false

namespace SiteSurvey.Script

def Node.at? : Node → List Nat → Option Node
  | n, [] => some n
  | n, i :: place => n.children[i]?.bind fun m => m.at? place

namespace Visitor

variable {σ : Type}

/-- One turn of the loop that a walk is. -/
def turn (v : Visitor σ) : List Errand × σ → List Errand × σ
  | ([], s) => ([], s)
  | (.leave n depth :: todo, s) => (todo, v.leave n depth s)
  | (.enter n depth :: todo, s) =>
      match v.enter n depth s with
      | (s', false) => (todo, s')
      | (s', true) => ((n.children.map fun m => .enter m (depth + 1)) ++ .leave n depth :: todo, s')

theorem run_turn (v : Visitor σ) (todo : List Errand) (s : σ) :
    v.run (v.turn (todo, s)).1 (v.turn (todo, s)).2 = v.run todo s := by
  cases todo with
  | nil => rfl
  | cons errand todo =>
    cases errand with
    | leave n depth => rw [run]; rfl
    | enter n depth =>
      rw [run, turn]
      rcases v.enter n depth s with ⟨s', _ | _⟩ <;> rfl

theorem run_turns (v : Visitor σ) (turns : Nat) (todo : List Errand) (s : σ) :
    v.run (v.turn^[turns] (todo, s)).1 (v.turn^[turns] (todo, s)).2 = v.run todo s := by
  induction turns with
  | zero => rfl
  | succ turns ih => rw [Function.iterate_succ_apply', run_turn, ih]

mutual

-- An errand is done by the turns for the nodes below it, whatever else is left to do.
theorem turns_enter (v : Visitor σ) (n : Node) (depth : Nat) (todo : List Errand) (s : σ) :
    ∃ turns ≤ 2 * n.size, v.turn^[turns] (.enter n depth :: todo, s) = (todo, v.visit n depth s) := by
  cases n with
  | node kind role start stop row text missing children =>
    rw [visit_eq]
    rcases entered : v.enter (.node kind role start stop row text missing children) depth s with ⟨s', _ | _⟩
    · refine ⟨1, ?_, ?_⟩
      · simp only [Node.size]
        omega
      · simp only [Function.iterate_one, turn, entered]
    · obtain ⟨turns, few, done⟩ := turns_enterAll v children (depth + 1)
        (.leave (.node kind role start stop row text missing children) depth :: todo) s'
      refine ⟨turns + 1 + 1, ?_, ?_⟩
      · simp only [Node.size]
        omega
      · rw [Function.iterate_succ_apply', Function.iterate_succ_apply]
        simp only [turn, entered, Node.children] at done ⊢
        rw [done]

theorem turns_enterAll (v : Visitor σ) (ns : List Node) (depth : Nat) (todo : List Errand) (s : σ) :
    ∃ turns ≤ 2 * Node.sizeAll ns,
      v.turn^[turns] ((ns.map fun n => .enter n depth) ++ todo, s) = (todo, v.visitAll ns depth s) := by
  cases ns with
  | nil => exact ⟨0, by simp, rfl⟩
  | cons n ns =>
    obtain ⟨first, few, done⟩ := turns_enter v n depth ((ns.map fun m => .enter m depth) ++ todo) s
    obtain ⟨others, few', done'⟩ := turns_enterAll v ns depth todo (v.visit n depth s)
    refine ⟨others + first, ?_, ?_⟩
    · simp only [Node.sizeAll]
      omega
    · rw [Function.iterate_add_apply, List.map_cons, List.cons_append, done, done', visitAll]

end

end Visitor

/-- What is called at the nodes of a tree: on the way down, and perhaps on the way up. -/
structure Callbacks (σ : Type) where
  enter : Node → Nat → σ → σ × Bool
  leave? : Option (Node → Nat → σ → σ)

inductive Call where
  | enter (n : Node) (depth : Nat) (below : Bool)
  | leave (n : Node) (depth : Nat)

/-- A call as it is seen from the root: not which node it was, but where. -/
inductive Event where
  | enter (place : List Nat) (below : Bool)
  | leave (place : List Nat)
  deriving DecidableEq

namespace Event

def under (i : Nat) : Event → Event
  | enter place below => enter (i :: place) below
  | leave place => leave (i :: place)

def within? (i : Nat) : Event → Option Event
  | enter (j :: place) below => if j = i then some (enter place below) else none
  | leave (j :: place) => if j = i then some (leave place) else none
  | _ => none

def step : Event → List Nat × Bool
  | enter place _ => (place, true)
  | leave place => (place, false)

def call? (root : Node) (depth : Nat) : Event → Option Call
  | enter place below => (root.at? place).map fun n => .enter n (depth + place.length) below
  | leave place => (root.at? place).map fun n => .leave n (depth + place.length)

theorem call?_under {parent n : Node} {i : Nat} (child : parent.children[i]? = some n) (depth : Nat) (e : Event) :
    (e.under i).call? parent depth = e.call? n (depth + 1) := by
  cases e <;> simp [call?, under, Node.at?, child, Nat.add_comm, Nat.add_left_comm]

theorem within?_eq_some_iff {i : Nat} {e inner : Event} : e.within? i = some inner ↔ e = inner.under i := by
  rcases e with ⟨_ | ⟨j, place⟩, below⟩ | ⟨_ | ⟨j, place⟩⟩ <;> cases inner <;> grind [within?, under]

theorem within?_under (i j : Nat) (e : Event) : (e.under i).within? j = if i = j then some e else none := by
  cases e <;> rfl

theorem under_mem_iff {i : Nat} {e : Event} {es : List Event} : e.under i ∈ es ↔ e ∈ es.filterMap (within? i) := by
  simp [List.mem_filterMap, within?_eq_some_iff]

theorem filterMap_within?_under (i j : Nat) (es : List Event) :
    (es.map (under i)).filterMap (within? j) = if i = j then es else [] := by
  rw [List.filterMap_map]
  split
  next same => simp [within?_under, same]
  next other => simp [within?_under, other]

end Event

/-- Each node that is gone below is left after all that happens below it and before all that happens later. A node that
is not gone below is not left. If no one is told of leaving, nothing is. -/
inductive Nested (closes : Bool) : List Event → Prop
  | nil : Nested closes []
  | refused (place : List Nat) {later : List Event} (after : Nested closes later) :
      Nested closes (.enter place false :: later)
  | passed (place : List Nat) {inner later : List Event} (inside : Nested closes inner) (after : Nested closes later) :
      Nested closes (.enter place true :: inner ++ (if closes then [.leave place] else []) ++ later)

theorem Nested.append {closes : Bool} {es later : List Event} (first : Nested closes es) (after : Nested closes later) :
    Nested closes (es ++ later) := by
  induction first with
  | nil => exact after
  | refused place _ ih => exact .refused place ih
  | passed place inside _ _ ih =>
    rw [List.append_assoc]
    exact .passed place inside ih

theorem Nested.under {closes : Bool} {es : List Event} (i : Nat) (nested : Nested closes es) :
    Nested closes (es.map (.under i)) := by
  induction nested with
  | nil => exact .nil
  | refused place _ ih => exact .refused (i :: place) ih
  | passed place _ _ inside after =>
    have whole := Nested.passed (i :: place) inside after
    cases closes <;> simpa [Event.under] using whole

/-- The events of a walk over a tree. -/
structure Orderly (root : Node) (closes : Bool) (events : List Event) : Prop where
  nested : Nested closes events
  once : (events.map Event.step).Nodup
  entered : ∀ place, (∃ below, .enter place below ∈ events) ↔
    (root.at? place).isSome = true ∧ ∀ above, above <+: place → above ≠ place → .enter above false ∉ events
  left : ∀ place, .leave place ∈ events ↔ closes = true ∧ .enter place true ∈ events
  refused : ∀ place, .enter place false ∈ events → .leave place ∉ events

namespace Callbacks

variable {σ : Type} (c : Callbacks σ)

def visitor : Visitor σ where
  enter := c.enter
  leave := c.leave?.getD fun _ _ s => s

/-- Acts like the callbacks and keeps what is called, in order. -/
def logged : Callbacks (σ × List Call) where
  enter n depth s :=
    (((c.enter n depth s.1).1, s.2 ++ [.enter n depth (c.enter n depth s.1).2]), (c.enter n depth s.1).2)
  leave? := c.leave?.map fun leave n depth s => (leave n depth s.1, s.2 ++ [.leave n depth])

mutual

/-- The walk as a recursion: down to a node, then through its children from left to right, then up again. -/
def descend : Node → Nat → σ → σ
  | .node kind role start stop row text missing children, depth, s =>
      let n : Node := .node kind role start stop row text missing children
      match c.enter n depth s with
      | (s', false) => s'
      | (s', true) =>
          match c.leave? with
          | none => descendAll children (depth + 1) s'
          | some leave => leave n depth (descendAll children (depth + 1) s')

def descendAll : List Node → Nat → σ → σ
  | [], _, s => s
  | n :: rest, depth, s => descendAll rest depth (descend n depth s)

end

mutual

theorem visit_eq_descend (n : Node) (depth : Nat) (s : σ) : c.visitor.visit n depth s = c.descend n depth s := by
  cases n with
  | node kind role start stop row text missing children =>
    rw [Visitor.visit_eq, descend]
    rcases entered : c.enter (.node kind role start stop row text missing children) depth s with ⟨s', _ | _⟩
    · simp only [visitor, entered]
    · have below := visitAll_eq_descendAll children (depth + 1) s'
      cases given : c.leave? with
      | none => simpa only [visitor, entered, given, Node.children, Option.getD] using below
      | some leave =>
        simp only [visitor, entered, given, Node.children, Option.getD] at below ⊢
        rw [below]

theorem visitAll_eq_descendAll (ns : List Node) (depth : Nat) (s : σ) :
    c.visitor.visitAll ns depth s = c.descendAll ns depth s := by
  cases ns with
  | nil => rfl
  | cons n ns => rw [Visitor.visitAll, visit_eq_descend n, visitAll_eq_descendAll ns, descendAll]

end

mutual

/-- The events of the walk below a node, as they are seen from it. -/
def events : Node → Nat → σ → List Event
  | .node kind role start stop row text missing children, depth, s =>
      match c.enter (.node kind role start stop row text missing children) depth s with
      | (_, false) => [.enter [] false]
      | (s', true) =>
          .enter [] true :: eventsAmong children 0 (depth + 1) s' ++ if c.leave?.isSome then [.leave []] else []

def eventsAmong : List Node → Nat → Nat → σ → List Event
  | [], _, _, _ => []
  | n :: rest, i, depth, s =>
      (events n depth s).map (.under i) ++ eventsAmong rest (i + 1) depth (c.descend n depth s)

end

theorem events_cases (n : Node) (depth : Nat) (s : σ) :
    c.events n depth s = [.enter [] false] ∨
      ∃ s', c.events n depth s =
        .enter [] true :: c.eventsAmong n.children 0 (depth + 1) s' ++ if c.leave?.isSome then [.leave []] else [] := by
  cases n with
  | node kind role start stop row text missing children =>
    rw [events]
    rcases c.enter (.node kind role start stop row text missing children) depth s with ⟨s', _ | _⟩
    · exact .inl rfl
    · exact .inr ⟨s', rfl⟩

mutual

theorem descend_logged (n : Node) (depth : Nat) (s : σ) : ∃ calls,
    (∀ log, c.logged.descend n depth (s, log) = (c.descend n depth s, log ++ calls)) ∧
      (c.events n depth s).map (Event.call? n depth) = calls.map some := by
  cases n with
  | node kind role start stop row text missing children =>
    obtain ⟨inner, ran, seen⟩ := descendAll_logged (.node kind role start stop row text missing children) depth
      children 0 (c.enter (.node kind role start stop row text missing children) depth s).1 (by simp [Node.children])
    rcases entered : c.enter (.node kind role start stop row text missing children) depth s with ⟨s', _ | _⟩
    · refine ⟨[.enter (.node kind role start stop row text missing children) depth false], ?_, ?_⟩
      · simp [descend, logged, entered]
      · simp [events, entered, Event.call?, Node.at?]
    · rw [entered] at ran seen
      refine ⟨.enter (.node kind role start stop row text missing children) depth true :: inner ++
        if c.leave?.isSome then [.leave (.node kind role start stop row text missing children) depth] else [], ?_, ?_⟩
      · intro log
        cases given : c.leave? <;> simp [descend, logged, entered, given] at ran ⊢ <;> simp [ran]
      · cases given : c.leave? <;> simp [events, entered, given, seen, Event.call?, Node.at?]

theorem descendAll_logged (parent : Node) (depth : Nat) (ns : List Node) (i : Nat) (s : σ)
    (rest : ns = parent.children.drop i) : ∃ calls,
    (∀ log, c.logged.descendAll ns (depth + 1) (s, log) = (c.descendAll ns (depth + 1) s, log ++ calls)) ∧
      (c.eventsAmong ns i (depth + 1) s).map (Event.call? parent depth) = calls.map some := by
  cases ns with
  | nil => exact ⟨[], by simp [descendAll], rfl⟩
  | cons n ns =>
    have child : parent.children[i]? = some n := by rw [← List.head?_drop, ← rest]; rfl
    have later : ns = parent.children.drop (i + 1) := by rw [← List.tail_drop, ← rest]; rfl
    obtain ⟨first, ran, seen⟩ := descend_logged n (depth + 1) s
    obtain ⟨others, ran', seen'⟩ := descendAll_logged parent depth ns (i + 1) (c.descend n (depth + 1) s) later
    refine ⟨first ++ others, ?_, ?_⟩
    · intro log
      rw [descendAll, descendAll, ran, ran', List.append_assoc]
    · rw [eventsAmong, List.map_append, List.map_append, seen', List.map_map, ← seen]
      congr 1
      exact List.map_congr_left fun e _ => Event.call?_under child depth e

end

section Places

variable {c}

theorem within?_eventsAmong_of_lt {ns : List Node} {i j depth : Nat} {s : σ} (before : j < i) :
    (c.eventsAmong ns i depth s).filterMap (Event.within? j) = [] := by
  induction ns generalizing i s with
  | nil => rfl
  | cons n ns ih =>
    rw [eventsAmong, List.filterMap_append, Event.filterMap_within?_under, ih (by omega), if_neg (by omega)]
    rfl

theorem within?_eventsAmong (ns : List Node) (i depth : Nat) (s : σ) (j : Nat) :
    (ns[j]? = none ∧ (c.eventsAmong ns i depth s).filterMap (Event.within? (i + j)) = []) ∨
      ∃ n s', ns[j]? = some n ∧
        (c.eventsAmong ns i depth s).filterMap (Event.within? (i + j)) = c.events n depth s' := by
  induction ns generalizing i s j with
  | nil => exact .inl ⟨rfl, rfl⟩
  | cons n ns ih =>
    rw [eventsAmong, List.filterMap_append, Event.filterMap_within?_under]
    cases j with
    | zero =>
      refine .inr ⟨n, s, rfl, ?_⟩
      rw [Nat.add_zero, if_pos rfl, within?_eventsAmong_of_lt (Nat.lt_succ_self i), List.append_nil]
    | succ j =>
      rw [if_neg (by omega), List.nil_append, List.getElem?_cons_succ, ← Nat.add_assoc, Nat.add_right_comm]
      exact ih (i + 1) (c.descend n depth s) j

/-- What happens at and below a node that the walk goes below: the events in each child are its own. -/
structure Passes (c : Callbacks σ) (n : Node) (depth : Nat) (es : List Event) : Prop where
  entered : ∀ below, .enter [] below ∈ es ↔ below = true
  left : .leave [] ∈ es ↔ c.leave?.isSome = true
  inside : ∀ i, (n.children[i]? = none ∧ ∀ e : Event, e.under i ∉ es) ∨
    ∃ m s', n.children[i]? = some m ∧ ∀ e : Event, e.under i ∈ es ↔ e ∈ c.events m (depth + 1) s'

theorem step_eventsAmong {ns : List Node} {i depth : Nat} {s : σ} {e : Event}
    (found : e ∈ c.eventsAmong ns i depth s) : ∃ j place, i ≤ j ∧ e.step.1 = j :: place := by
  induction ns generalizing i s with
  | nil => cases found
  | cons n ns ih =>
    rw [eventsAmong, List.mem_append, List.mem_map] at found
    rcases found with ⟨inner, _, rfl⟩ | later
    · exact ⟨i, inner.step.1, Nat.le_refl i, by cases inner <;> rfl⟩
    · obtain ⟨j, place, after, here⟩ := ih later
      exact ⟨j, place, by omega, here⟩

theorem passes_of_events (c : Callbacks σ) (n : Node) (depth : Nat) (s : σ) :
    c.events n depth s = [.enter [] false] ∨ Passes c n depth (c.events n depth s) := by
  rcases c.events_cases n depth s with refused | ⟨s', passed⟩
  · exact .inl refused
  · refine .inr ?_
    rw [passed]
    have elsewhere : ∀ e ∈ c.eventsAmong n.children 0 (depth + 1) s', e.step.1 ≠ [] := by
      intro e found
      obtain ⟨j, place, _, here⟩ := step_eventsAmong found
      simp [here]
    have notEntered : ∀ below, Event.enter [] below ∉ c.eventsAmong n.children 0 (depth + 1) s' :=
      fun below found => elsewhere _ found rfl
    have notLeft : Event.leave [] ∉ c.eventsAmong n.children 0 (depth + 1) s' := fun found => elsewhere _ found rfl
    constructor
    · intro below
      cases c.leave?.isSome <;> simp [notEntered]
    · cases c.leave?.isSome <;> simp [notLeft]
    · intro i
      have same : ∀ e : Event, e.under i ∈ .enter [] true :: c.eventsAmong n.children 0 (depth + 1) s' ++
          (if c.leave?.isSome then [.leave []] else []) ↔
          e ∈ (c.eventsAmong n.children 0 (depth + 1) s').filterMap (Event.within? (0 + i)) := by
        intro e
        rw [Event.under_mem_iff, Nat.zero_add]
        cases c.leave?.isSome <;> simp [Event.within?]
      rcases within?_eventsAmong (c := c) n.children 0 (depth + 1) s' i with ⟨none, nothing⟩ | ⟨m, s'', child, own⟩
      · exact .inl ⟨none, fun e => by rw [same, nothing]; exact List.not_mem_nil⟩
      · exact .inr ⟨m, s'', child, fun e => by rw [same, own]⟩

theorem exists_enter_iff (place : List Nat) (n : Node) (depth : Nat) (s : σ) :
    (∃ below, .enter place below ∈ c.events n depth s) ↔ (n.at? place).isSome = true ∧
      ∀ above, above <+: place → above ≠ place → .enter above false ∉ c.events n depth s := by
  induction place generalizing n depth s with
  | nil =>
    have entered : ∃ below, Event.enter [] below ∈ c.events n depth s := by
      rcases passes_of_events c n depth s with refused | passes
      · exact ⟨false, by simp [refused]⟩
      · exact ⟨true, (passes.entered true).mpr rfl⟩
    refine ⟨fun _ => ⟨rfl, fun above least other => absurd (List.prefix_nil.mp least) other⟩, fun _ => entered⟩
  | cons i place ih =>
    rcases passes_of_events c n depth s with refused | passes
    · -- The node itself is above the place, and it is refused.
      rw [refused]
      constructor
      · rintro ⟨below, found⟩
        simp at found
      · rintro ⟨_, free⟩
        exact absurd (List.mem_singleton.mpr rfl) (free [] List.nil_prefix (by simp))
    · have notHere : Event.enter [] false ∉ c.events n depth s := by simp [passes.entered]
      rcases passes.inside i with ⟨none, nothing⟩ | ⟨m, s', child, own⟩
      · have absent : ∀ below, Event.enter (i :: place) below ∉ c.events n depth s :=
          fun below => nothing (.enter place below)
        simp [absent, Node.at?, none]
      · have lifted : ∀ place below, Event.enter (i :: place) below ∈ c.events n depth s ↔
            .enter place below ∈ c.events m (depth + 1) s' := fun place below => own (.enter place below)
        simp only [lifted, ih, Node.at?, child, Option.bind_some]
        refine and_congr_right fun _ => ⟨fun free above least other => ?_, fun free above least other => ?_⟩
        · cases above with
          | nil => exact notHere
          | cons j above =>
            obtain ⟨rfl, least'⟩ := List.cons_prefix_cons.mp least
            rw [lifted]
            exact free above least' (by simpa using other)
        · rw [← lifted]
          exact free (i :: above) (List.cons_prefix_cons.mpr ⟨rfl, least⟩) (by simpa using other)

theorem leave_mem_iff (place : List Nat) (n : Node) (depth : Nat) (s : σ) :
    .leave place ∈ c.events n depth s ↔ c.leave?.isSome = true ∧ .enter place true ∈ c.events n depth s := by
  induction place generalizing n depth s with
  | nil =>
    rcases passes_of_events c n depth s with refused | passes
    · simp [refused]
    · simp [passes.left, passes.entered]
  | cons i place ih =>
    rcases passes_of_events c n depth s with refused | passes
    · simp [refused]
    · rcases passes.inside i with ⟨_, nothing⟩ | ⟨m, s', _, own⟩
      · have absent : Event.enter (i :: place) true ∉ c.events n depth s := nothing (.enter place true)
        have absent' : Event.leave (i :: place) ∉ c.events n depth s := nothing (.leave place)
        simp [absent, absent']
      · have lifted : Event.enter (i :: place) true ∈ c.events n depth s ↔ _ := own (.enter place true)
        have lifted' : Event.leave (i :: place) ∈ c.events n depth s ↔ _ := own (.leave place)
        rw [lifted, lifted', ih]

end Places

mutual

theorem nested_events (n : Node) (depth : Nat) (s : σ) : Nested c.leave?.isSome (c.events n depth s) := by
  cases n with
  | node kind role start stop row text missing children =>
    rw [events]
    rcases c.enter (.node kind role start stop row text missing children) depth s with ⟨s', _ | _⟩
    · exact .refused [] .nil
    · have inside := nested_eventsAmong children 0 (depth + 1) s'
      simpa using Nested.passed [] inside .nil

theorem nested_eventsAmong (ns : List Node) (i depth : Nat) (s : σ) :
    Nested c.leave?.isSome (c.eventsAmong ns i depth s) := by
  cases ns with
  | nil => exact .nil
  | cons n ns =>
    rw [eventsAmong]
    exact ((nested_events n depth s).under i).append (nested_eventsAmong ns (i + 1) depth _)

end

mutual

theorem nodup_events (n : Node) (depth : Nat) (s : σ) : ((c.events n depth s).map Event.step).Nodup := by
  cases n with
  | node kind role start stop row text missing children =>
    rw [events]
    rcases c.enter (.node kind role start stop row text missing children) depth s with ⟨s', _ | _⟩
    · simp
    · have inside := nodup_eventsAmong children 0 (depth + 1) s'
      have elsewhere : ∀ down, ([], down) ∉ (c.eventsAmong children 0 (depth + 1) s').map Event.step := by
        intro down found
        obtain ⟨e, among, same⟩ := List.mem_map.mp found
        obtain ⟨j, place, _, here⟩ := step_eventsAmong among
        simp [same] at here
      dsimp only
      rw [List.cons_append, List.map_cons, List.map_append, List.nodup_cons, List.nodup_append, List.mem_append, not_or]
      cases c.leave?.isSome with
      | true =>
        refine ⟨⟨elsewhere true, by simp [Event.step]⟩, inside, by simp, ?_⟩
        rintro _ found _ last rfl
        rw [List.mem_singleton.mp last] at found
        exact elsewhere false found
      | false => exact ⟨⟨elsewhere true, by simp⟩, inside, by simp, by simp⟩

theorem nodup_eventsAmong (ns : List Node) (i depth : Nat) (s : σ) :
    ((c.eventsAmong ns i depth s).map Event.step).Nodup := by
  cases ns with
  | nil => simp [eventsAmong]
  | cons n ns =>
    have first := nodup_events n depth s
    have later := nodup_eventsAmong ns (i + 1) depth (c.descend n depth s)
    have lowered : (c.events n depth s).map (Event.step ∘ .under i) =
        ((c.events n depth s).map Event.step).map fun step => (i :: step.1, step.2) := by
      rw [List.map_map]
      exact List.map_congr_left fun e _ => by cases e <;> rfl
    rw [eventsAmong, List.map_append, List.map_map, List.nodup_append, lowered]
    refine ⟨first.map fun _ _ same => by simpa [Prod.ext_iff] using same, later, ?_⟩
    rintro _ here _ there rfl
    obtain ⟨step, _, rfl⟩ := List.mem_map.mp here
    obtain ⟨e, among, same⟩ := List.mem_map.mp there
    obtain ⟨j, place, after, head⟩ := step_eventsAmong among
    simp only [same, List.cons.injEq] at head
    omega

end

theorem orderly_events (root : Node) (depth : Nat) (s : σ) : Orderly root c.leave?.isSome (c.events root depth s) where
  nested := c.nested_events root depth s
  once := c.nodup_events root depth s
  entered place := exists_enter_iff place root depth s
  left place := leave_mem_iff place root depth s
  refused place := by
    intro refused left
    have entered := ((leave_mem_iff place root depth s).mp left).2
    have same := List.inj_on_of_nodup_map (c.nodup_events root depth s) refused entered rfl
    simp at same

end Callbacks

/-- The walk over a tree is the recursion over it: the loop comes to an end, in the state in which the recursion ends,
and each call that it makes has its place in the tree. Every node outside the subtrees that the walk was kept from is
entered once, every node that it went below is left once, and the calls are nested as the nodes are. -/
theorem walk_as_recursion {σ : Type} (c : Callbacks σ) (root : Node) (s : σ) :
    c.visitor.walk root s = c.descend root 0 s ∧
      (∃ turns ≤ 2 * root.size, c.visitor.turn^[turns] ([.enter root 0], s) = ([], c.descend root 0 s)) ∧
      ∃ calls events, c.logged.visitor.walk root (s, []) = (c.descend root 0 s, calls) ∧
        calls.map some = events.map (Event.call? root 0) ∧ Orderly root c.leave?.isSome events := by
  obtain ⟨turns, few, done⟩ := c.visitor.turns_enter root 0 [] s
  obtain ⟨calls, ran, seen⟩ := c.descend_logged root 0 s
  rw [c.visit_eq_descend] at done
  refine ⟨?_, ⟨turns, few, done⟩, calls, c.events root 0 s, ?_, seen.symm, c.orderly_events root 0 s⟩
  · rw [Visitor.walk, ← c.visitor.run_turns turns, done, Visitor.run]
  · rw [Visitor.walk_eq_visit, c.logged.visit_eq_descend, ran]
    rfl

end SiteSurvey.Script
