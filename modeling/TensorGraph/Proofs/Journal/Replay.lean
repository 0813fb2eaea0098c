import TensorGraph.Proofs.Bare
import TensorGraph.Proofs.Journal.Reader
import TensorGraph.Proofs.Runs

/-!
# The slots can be told from the log

A call on links that changes a slot writes one line about it, and all other calls write none
(`Rules.Performs.enters`). The line says what the slot held before and what it holds then, and there
is no other change that could be meant (`LinkChange.Makes.unique`). So the slots of an operator are
what the lines about it say, one change after the other: `RecordedBy` is kept by every call
(`RecordedBy.after`). It takes that no line is about an operator that is yet to come, since a new
operator starts with empty slots.
-/

namespace TensorGraph

/-! ## Definitions -/

/-- What the slot holds before a change. -/
def SlotChange.before : SlotChange → Option VariableId
  | bound _ => none
  | unbound v => some v
  | rebound _ old => some old

/-- What the slot holds after a change. -/
def SlotChange.after : SlotChange → Option VariableId
  | bound v => some v
  | unbound _ => none
  | rebound new _ => some new

/-- What is in the slots of one side of an operator after a change of the slot. -/
def SlotChange.apply (slot : String) (s : Slots) : SlotChange → Slots
  | bound v => s.insert slot v
  | unbound _ => s.erase slot
  | rebound new _ => s.insert slot new

/-- The slots by operator and side. -/
abbrev SlotTable := OperatorId → Role → Slots

/-- The table after a change of one slot. -/
def LinkChange.apply (c : LinkChange) (t : SlotTable) : SlotTable := fun o role =>
  if o = c.operator ∧ role = c.role then c.change.apply c.slot (t o role) else t o role

/-- A change of one slot is what makes the table `t'` of `t`. -/
structure LinkChange.Makes (c : LinkChange) (t t' : SlotTable) : Prop where
  /-- The slot held what the change says it held. -/
  before : (t c.operator c.role).get? c.slot = c.change.before
  /-- The slot holds what the change says it holds then. -/
  after : (t' c.operator c.role).get? c.slot = c.change.after
  /-- This is not what it held. -/
  changed : c.change.after ≠ c.change.before
  /-- All other slots hold what they held. -/
  rest : t' = c.apply t

/-- The table that some changes make of empty slots, one after the other. -/
def replay (journal : List LinkChange) : SlotTable :=
  journal.foldl (fun t c => c.apply t) fun _ _ => ∅

/-- The lines for tracing that a call has written. -/
def Outcome.traceLines {α : Type} (out : Outcome α) : List String :=
  (out.log.filter fun e => decide (e.level = .trace)).map LogEntry.line

namespace Graph

/-- The slots of the operators of a graph. An operator that is not there has none. -/
def slotTable (g : Graph) : SlotTable := fun o role =>
  match g.getOperator? o with
  | some p => p.slots role
  | none => ∅

/-- The lines for tracing that the calls of a history write, in order. -/
def traceLines : Graph → List Call → List String
  | _, [] => []
  | g, c :: calls => (g.perform c).traceLines ++ traceLines (g.after c) calls

/-- The operator that a change is about is in the graph. -/
def knows (g : Graph) (c : LinkChange) : Bool := (g.getOperator? c.operator).isSome

end Graph

/-! ## Replaying -/

section

variable {c x y : LinkChange} {t t' : SlotTable} {o : OperatorId} {role : Role}
  {journal later : List LinkChange}

/-- A change of a slot says what the slot holds then, and leaves the other slots alone. -/
theorem SlotChange.get?_apply (x : SlotChange) (slots : Slots) (slot s : String) :
    (x.apply slot slots).get? s = if s = slot then x.after else slots.get? s := by
  cases x with
  | bound v => exact SortedMap.get?_insert ..
  | unbound v => exact SortedMap.get?_erase ..
  | rebound new old => exact SortedMap.get?_insert ..

/-- What a slot held and what it holds then tell which change it was, if there was one. -/
theorem SlotChange.eq_of_before_after {x y : SlotChange} (hbefore : x.before = y.before)
    (hafter : x.after = y.after) : x = y := by
  cases x <;> cases y <;> simp_all [before, after]

/-- A change makes no difference to the other operators. -/
theorem LinkChange.apply_of_ne (ho : o ≠ c.operator) : c.apply t o role = t o role :=
  if_neg fun h => ho h.1

/-- A change makes a difference to one slot of one side of one operator. -/
theorem LinkChange.get?_apply (c : LinkChange) (t : SlotTable) (o : OperatorId) (role : Role)
    (s : String) :
    (c.apply t o role).get? s =
      if (o = c.operator ∧ role = c.role) ∧ s = c.slot then c.change.after
      else (t o role).get? s := by
  rw [apply]
  by_cases hside : o = c.operator ∧ role = c.role
  · rw [if_pos hside, SlotChange.get?_apply]
    exact if_congr (and_iff_right hside).symm rfl rfl
  · rw [if_neg hside, if_neg fun h => hside h.1]

namespace LinkChange.Makes

/-- A change of a slot that held what the change says makes what it makes of the table. -/
theorem of_before (hbefore : (t c.operator c.role).get? c.slot = c.change.before)
    (hchanged : c.change.after ≠ c.change.before) : c.Makes t (c.apply t) where
  before := hbefore
  after := by rw [get?_apply, if_pos ⟨⟨rfl, rfl⟩, rfl⟩]
  changed := hchanged
  rest := rfl

/-- There is a difference between the tables. -/
theorem ne (h : c.Makes t t') : t' ≠ t := by
  rintro rfl
  exact h.changed (h.after.symm.trans h.before)

/-- No other change makes the same table. -/
theorem unique (hx : x.Makes t t') (hy : y.Makes t t') : y = x := by
  -- The slot of the one holds something else than before, so that it is the slot of the other.
  have hread := hy.after
  rw [hx.rest, get?_apply] at hread
  split at hread
  · next hplace =>
    obtain ⟨⟨ho, hr⟩, hs⟩ := hplace
    have hbefore := hy.before
    rw [ho, hr, hs, hx.before] at hbefore
    have hchange : x.change = y.change := SlotChange.eq_of_before_after hbefore hread
    calc y = ⟨y.operator, y.role, y.slot, y.change⟩ := rfl
      _ = ⟨x.operator, x.role, x.slot, x.change⟩ := by rw [ho, hr, hs, hchange]
      _ = x := rfl
  · rw [hy.before] at hread
    exact absurd hread.symm hy.changed

end LinkChange.Makes

/-- The last change is replayed last. -/
theorem replay_append (journal : List LinkChange) (c : LinkChange) :
    replay (journal ++ [c]) = c.apply (replay journal) := by
  rw [replay, List.foldl_append]
  rfl

/-- The slots of an operator that no change is about stay empty. -/
theorem replay_of_forall_ne (h : ∀ c ∈ journal, c.operator ≠ o) : replay journal o role = ∅ := by
  induction journal using List.reverseRecOn with
  | nil => rfl
  | append_singleton journal c ih =>
    have hjournal : ∀ c ∈ journal, c.operator ≠ o := fun c hc => h c (List.mem_append_left _ hc)
    have hlast : o ≠ c.operator := (h c (List.mem_append_right _ (List.mem_singleton_self c))).symm
    rw [replay_append, LinkChange.apply_of_ne hlast, ih hjournal]

/-- The changes of other operators can be left out. -/
theorem replay_filter {p : LinkChange → Bool} (hp : ∀ c ∈ journal, c.operator = o → p c = true) :
    replay (journal.filter p) o role = replay journal o role := by
  induction journal using List.reverseRecOn with
  | nil => rfl
  | append_singleton journal c ih =>
    have hrest := ih fun c hc => hp c (List.mem_append_left _ hc)
    have hlast := hp c (List.mem_append_right _ (List.mem_singleton_self c))
    rw [List.filter_append, replay_append]
    cases hc : p c with
    | true =>
      rw [List.filter_cons_of_pos hc, List.filter_nil, replay_append]
      unfold LinkChange.apply
      rw [hrest]
    | false =>
      -- A change that is left out is about another operator.
      have hne : o ≠ c.operator := by
        rintro rfl
        rw [hlast rfl] at hc
        cases hc
      rw [List.filter_cons_of_neg (by simp [hc]), List.filter_nil, List.append_nil,
        LinkChange.apply_of_ne hne, hrest]

end

/-! ## The slots after each call -/

namespace Graph

variable {g g' : Graph} {role r : Role} {o : OperatorId} {slot : String} {p p' : Operator}
  {u v : VariableId} {w : Variable}

/-- The table has the slots of an operator that is there. -/
theorem slotTable_of_some (hp : g.getOperator? o = some p) : g.slotTable o role = p.slots role := by
  rw [slotTable, hp]

/-- The table is empty for an operator that is not there. -/
theorem slotTable_of_none (hp : g.getOperator? o = none) : g.slotTable o role = ∅ := by
  rw [slotTable, hp]

/-- Only the links decide the table. -/
theorem slotTable_bare (g : Graph) : g.bare.slotTable = g.slotTable := by
  funext o role
  cases hp : g.getOperator? o with
  | none => rw [slotTable_of_none hp, slotTable_of_none (getOperator?_bare_of_none hp)]
  | some p =>
    rw [slotTable_of_some hp, slotTable_of_some (getOperator?_bare_of_some hp), Operator.slots_bare]

/-- Where one operator has changed, and this as a change says, the table has changed as it says. -/
theorem slotTable_eq_apply {c : LinkChange} (hp : g.getOperator? c.operator = some p)
    (hget : ∀ o, g'.getOperator? o = if o = c.operator then some p' else g.getOperator? o)
    (hslots : ∀ r, p'.slots r =
      if r = c.role then c.change.apply c.slot (p.slots r) else p.slots r) :
    g'.slotTable = c.apply g.slotTable := by
  funext o r
  by_cases ho : o = c.operator
  · subst ho
    have hp' : g'.getOperator? c.operator = some p' := by rw [hget, if_pos rfl]
    rw [slotTable_of_some hp', hslots, LinkChange.apply, slotTable_of_some hp]
    exact if_congr (and_iff_right rfl).symm rfl rfl
  · rw [LinkChange.apply_of_ne ho]
    unfold slotTable
    rw [hget, if_neg ho]

/-- Binding is what its change says. -/
theorem slotTable_bound (hp : g.getOperator? o = some p) :
    (g.bound role o slot p v w).slotTable =
      (LinkChange.mk o role slot (.bound v)).apply g.slotTable :=
  slotTable_eq_apply hp (fun o' => g.getOperator?_bound role o o' slot p v w) fun _ =>
    Operator.slots_setSlot ..

/-- Unbinding is what its change says. -/
theorem slotTable_unbound (hp : g.getOperator? o = some p) :
    (g.unbound role o slot p v w).slotTable =
      (LinkChange.mk o role slot (.unbound v)).apply g.slotTable :=
  slotTable_eq_apply hp (fun o' => g.getOperator?_unbound role o o' slot p v w) fun _ =>
    Operator.slots_clearSlot ..

/-- Rebinding is what its change says. -/
theorem slotTable_rebound {old new : VariableId} {x : Variable} (hp : g.getOperator? o = some p) :
    ((g.unbound role o slot p old w).bound role o slot (p.clearSlot role slot) new x).slotTable =
      (LinkChange.mk o role slot (.rebound new old)).apply g.slotTable := by
  have hp' : (g.unbound role o slot p old w).getOperator? o = some (p.clearSlot role slot) := by
    rw [getOperator?_unbound, if_pos rfl]
  rw [slotTable_bound hp', slotTable_unbound hp]
  funext o' r
  unfold LinkChange.apply
  split
  · exact SortedMap.insert_erase _ _ _
  · rfl

end Graph

/-! ## What a call enters in the log -/

/-- What a call on links reports, by what it makes of the slots of the graph `g`: nothing where it
leaves them as they are, and the change where it changes one. -/
inductive Enters (g g' : Graph) : List LogEntry → Prop
  /-- No slot has changed. -/
  | nothing (h : g'.slotTable = g.slotTable) : Enters g g' []
  /-- One slot of an operator has changed. -/
  | change (c : LinkChange) {p : Operator} (hp : g.getOperator? c.operator = some p)
    (h : c.Makes g.slotTable g'.slotTable) : Enters g g' [.link c]

/-- A change of a slot of a stored operator is reported. -/
theorem Enters.of_before {g g' : Graph} {c : LinkChange} {p : Operator}
    (hp : g.getOperator? c.operator = some p) (h : g'.slotTable = c.apply g.slotTable)
    (hbefore : (p.slots c.role).get? c.slot = c.change.before)
    (hchanged : c.change.after ≠ c.change.before) : Enters g g' [.link c] := by
  refine .change c hp ?_
  rw [h]
  refine .of_before ?_ hchanged
  rw [Graph.slotTable_of_some hp, hbefore]

namespace Rules

variable {g : Graph} {role : Role} {o : OperatorId} {slot : String} {v old new : VariableId}

/-- Binding reports that the slot has taken the variable, if it has. -/
theorem Bind.enters {out : Outcome Unit} (h : Bind g role o slot v out) :
    Enters g out.graph out.log := by
  cases h with
  | bound hp hw hs hfree =>
    exact .of_before hp (Graph.slotTable_bound hp) hs (Option.some_ne_none v)
  | _ => exact .nothing rfl

/-- Unbinding reports that the slot has given the variable up, if it has. -/
theorem Unbind.enters {out : Outcome Unit} (h : Unbind g role o v out) :
    Enters g out.graph out.log := by
  cases h with
  | noSlot hs => exact .nothing rfl
  | unbound hp hw hs =>
    rw [Outcome.graph_done, Graph.written_unbind _ hw]
    exact .of_before hp (Graph.slotTable_unbound hp) (Operator.get?_of_slot? hs)
      (Option.some_ne_none v).symm

/-- Where one variable has taken the place of another one in a slot, this is reported. -/
theorem enters_rebound {p : Operator} {w x : Variable} (hp : g.getOperator? o = some p)
    (hw : g.getVariable? old = some w) (hs : p.slot? role old = some slot) (hne : old ≠ new) :
    Enters g (g.written (rebindWrites role o (p.setSlot role slot new) old new w x))
      [.link ⟨o, role, slot, .rebound new old⟩] := by
  have hchanged : some new ≠ some old := fun heq => hne (Option.some.inj heq).symm
  rw [Graph.written_rebindWrites _ hw hne]
  exact .of_before hp (Graph.slotTable_rebound hp) (Operator.get?_of_slot? hs) hchanged

/-- Rebinding an input reports that the slot has changed its variable, if it has. -/
theorem RebindInput.enters {out : Outcome Unit} (h : RebindInput g o old new out) :
    Enters g out.graph out.log := by
  cases h with
  | rebound hp hw hx hs hne => exact enters_rebound hp hw hs hne
  | _ => exact .nothing rfl

/-- Rebinding an output reports that the slot has changed its variable, if it has. -/
theorem RebindOutput.enters {out : Outcome Unit} (h : RebindOutput g o old new out) :
    Enters g out.graph out.log := by
  cases h with
  | rebound hp hw hx hs hne hfree => exact enters_rebound hp hw hs hne
  | _ => exact .nothing rfl

/-- A call on links reports what it has made of the slots. -/
theorem Performs.enters {c : Call} {out : Outcome Answer} (h : Performs g c out)
    (hc : c.isLinking = true) : Enters g out.graph out.log := by
  obtain ⟨out', rfl, hrule⟩ := h.of_isLinking hc
  rw [Outcome.graph_map]
  rcases hrule with ⟨_, _, _, _, h⟩ | ⟨_, _, _, h⟩ | ⟨_, _, _, h⟩ | ⟨_, _, _, h⟩
  · exact h.enters
  · exact h.enters
  · exact h.enters
  · exact h.enters

/-- What amending a variable reports is for debugging when its reports are. -/
theorem AmendVariable.debug {α : Type} {f : Variable → Except Failure Variable}
    {answer : Variable → α} {log : Variable → Variable → List LogEntry} {out : Outcome α}
    (h : AmendVariable g v f answer log out) (hlog : ∀ w w', ∀ e ∈ log w w', e.level = .debug) :
    ∀ e ∈ out.log, e.level = .debug := by
  cases h with
  | noVariable hw => exact fun e he => nomatch he
  | impossible hw hf => exact fun e he => nomatch he
  | amended hw hf => exact hlog _ _

/-- Amending an operator reports nothing. -/
theorem AmendOperator.log_eq {α : Type} {f : Operator → Operator} {answer : Operator → α}
    {out : Outcome α} (h : AmendOperator g o f answer out) : out.log = [] := by
  cases h <;> rfl

/-- A call that is not on links reports for debugging alone. -/
theorem Performs.debug {c : Call} {out : Outcome Answer} (h : Performs g c out)
    (hc : c.isLinking = false) : ∀ e ∈ out.log, e.level = .debug := by
  have hnil : out.log = [] → ∀ e ∈ out.log, e.level = .debug := by
    intro hlog e he
    rw [hlog] at he
    cases he
  have hsingle : ∀ e', e'.level = .debug → out.log = [e'] → ∀ e ∈ out.log, e.level = .debug := by
    intro e' he' hlog e he
    rw [hlog, List.mem_singleton] at he
    rw [he, he']
  cases h with
  | addVariable h => cases h <;> exact hnil rfl
  | addOperator h => cases h <;> exact hnil rfl
  | slotOf h => cases h <;> exact hnil rfl
  | removeOperator h =>
    cases h with
    | noOperator hp => exact hnil rfl
    | removed hp => exact hsingle _ rfl rfl
  | removeVariable h =>
    cases h with
    | noVariable hw => exact hnil rfl
    | inUse hw hl => exact hnil rfl
    | removed hw hl => exact hsingle _ rfl rfl
  | reorder h =>
    refine h.debug fun w w' e he => ?_
    rw [List.mem_singleton.1 he]
    rfl
  | setElementType h => exact h.debug fun w w' e he => nomatch he
  | nameVariable h => exact h.debug fun w w' e he => nomatch he
  | nameOperator h => exact hnil h.log_eq
  | annotateVariable ha h => exact h.debug fun w w' e he => nomatch he
  | annotateOperator ha h => exact hnil h.log_eq
  | unlinked => exact hnil rfl
  | inputs => exact hnil rfl
  | outputs => exact hnil rfl
  | reload h => cases h <;> exact hnil rfl
  | bind h => simp at hc
  | unbind h => simp at hc
  | rebindInput h => cases hc
  | rebindOutput h => cases hc

/-- A call that is not on links leaves the slots of the operators as they are: an operator that is
there afterwards has the slots that it had, and a new one has none. -/
theorem Performs.slots_eq {c : Call} {out : Outcome Answer} (h : Performs g c out)
    (hc : c.isLinking = false) (hkeys : g.KeysBelow) {p' : Operator}
    (hp' : out.graph.getOperator? o = some p') : p'.slots role = g.slotTable o role := by
  have hkept : g.getOperator? o = some p' → p'.slots role = g.slotTable o role :=
    fun hp => (Graph.slotTable_of_some hp).symm
  cases htop : c.isTopology with
  | false =>
    -- The bare graph, which has the slots, is as it was.
    have htable : out.graph.slotTable = g.slotTable := by
      rw [← Graph.slotTable_bare, h.graph_bare htop, Graph.slotTable_bare]
    rw [← htable, Graph.slotTable_of_some hp']
  | true =>
    cases h with
    | addVariable h => cases h <;> exact hkept hp'
    | addOperator h =>
      cases h with
      | exhausted hn => exact hkept hp'
      | added hn =>
        rw [Outcome.graph_map, Outcome.graph_done, Graph.written_cons, Graph.written_cons,
          Graph.written_nil, Write.getOperator?_putOperator, Write.getOperator?_nextOperator] at hp'
        split at hp'
        · next ho =>
          obtain rfl := Option.some.inj hp'
          rw [ho, Graph.slotTable_of_none hkeys.getOperator?_next]
          cases role <;> rfl
        · exact hkept hp'
    | slotOf h => cases h <;> exact hkept hp'
    | removeOperator h =>
      cases h with
      | noOperator hp => exact hkept hp'
      | removed hp =>
        rw [Outcome.graph_map, Outcome.graph_done, Graph.written_detachWrites,
          Graph.getOperator?_detached] at hp'
        split at hp'
        · cases hp'
        · exact hkept hp'
    | removeVariable h => cases h <;> exact hkept hp'
    | unlinked => exact hkept hp'
    | inputs => exact hkept hp'
    | outputs => exact hkept hp'
    | annotateVariable ha h => simp [Call.isTopology_of_annotation? ha] at htop
    | annotateOperator ha h => simp [Call.isTopology_of_annotation? ha] at htop
    | bind h => simp at hc
    | unbind h => simp at hc
    | rebindInput h => cases hc
    | rebindOutput h => cases hc
    | _ => cases htop

end Rules

/-! ## The lines of a call -/

namespace Outcome

variable {α : Type} {out : Outcome α}

/-- Reports for debugging write no lines for tracing. -/
theorem traceLines_of_debug (h : ∀ e ∈ out.log, e.level = .debug) : out.traceLines = [] := by
  have hnone : out.log.filter (fun e => decide (e.level = .trace)) = [] := by
    rw [List.filter_eq_nil_iff]
    intro e he
    rw [h e he]
    decide
  rw [traceLines, hnone, List.map_nil]

/-- The report of a change writes one line. -/
theorem traceLines_of_change {c : LinkChange} (h : out.log = [.link c]) :
    out.traceLines = [(LogEntry.link c).line] := by
  rw [traceLines, h]
  rfl

end Outcome

namespace Graph

variable {g : Graph} {c : Call} {journal : List LinkChange} {o : OperatorId} {role : Role}

/-- A call that is not on links writes no line for tracing. -/
theorem traceLines_eq_nil (hc : c.isLinking = false) : (g.perform c).traceLines = [] :=
  Outcome.traceLines_of_debug ((performs g c).debug hc)

/-- A call on links writes one line for tracing if it changes a slot, and none otherwise. -/
theorem traceLines_cases (g : Graph) (hc : c.isLinking = true) :
    ((g.perform c).traceLines = [] ∧ (g.after c).slotTable = g.slotTable) ∨
    ∃ x : LinkChange, (g.perform c).traceLines = [(LogEntry.link x).line] ∧
      (∃ p, g.getOperator? x.operator = some p) ∧
      x.Makes g.slotTable (g.after c).slotTable := by
  have henters := (performs g c).enters hc
  generalize hlog : (g.perform c).log = log at henters
  cases henters with
  | nothing h =>
    have hdebug : ∀ e ∈ (g.perform c).log, e.level = .debug := by
      rw [hlog]
      exact fun e he => nomatch he
    exact Or.inl ⟨Outcome.traceLines_of_debug hdebug, h⟩
  | change x hp h => exact Or.inr ⟨x, Outcome.traceLines_of_change hlog, ⟨_, hp⟩, h⟩

/-! ## Histories -/

/-- The slots of the operators of a graph are what some changes make of empty slots. -/
structure RecordedBy (g : Graph) (journal : List LinkChange) : Prop where
  /-- No change is about an operator that is yet to come. -/
  below : ∀ x ∈ journal, x.operator.toNat < g.nextOperator.toNat
  /-- The changes give the slots of the operators that are there. -/
  slots : ∀ {o p}, g.getOperator? o = some p → ∀ role, p.slots role = replay journal o role

/-- The empty graph has a journal without changes. -/
theorem recordedBy_empty : (∅ : Graph).RecordedBy [] where
  below _ hx := nomatch hx
  slots hp := nomatch hp

/-- The slots before a call are replayed for all operators that are there after it, a new operator
included. -/
theorem RecordedBy.slotTable_eq (h : g.RecordedBy journal) (hkeys : g.KeysBelow) {g' : Graph}
    (hs : g.Step g') {p' : Operator} (hp' : g'.getOperator? o = some p') (role : Role) :
    g.slotTable o role = replay journal o role := by
  rcases hs.of_getOperator? hp' with ⟨rfl, -⟩ | ⟨p, hp, -⟩
  · -- No change so far is about the new operator.
    have hnone : ∀ x ∈ journal, x.operator ≠ g.nextOperator := by
      intro x hx heq
      have hlt := h.below x hx
      rw [heq] at hlt
      exact Nat.lt_irrefl _ hlt
    rw [slotTable_of_none hkeys.getOperator?_next, replay_of_forall_ne hnone]
  · rw [slotTable_of_some hp, h.slots hp]

/-- A call that leaves the slots alone leaves the journal as it is. -/
theorem RecordedBy.of_slotTable (h : g.RecordedBy journal) (hkeys : g.KeysBelow)
    {g' : Graph} (hs : g.Step g')
    (hslots : ∀ {o p'}, g'.getOperator? o = some p' → ∀ role, p'.slots role = g.slotTable o role) :
    g'.RecordedBy journal where
  below x hx := Nat.lt_of_lt_of_le (h.below x hx) (hs.next_le .operator)
  slots hp' role := (hslots hp' role).trans (h.slotTable_eq hkeys hs hp' role)

/-- A change of a slot is added to the journal. -/
theorem RecordedBy.of_apply (h : g.RecordedBy journal) (hkeys : g.KeysBelow) {g' : Graph}
    (hs : g.Step g') {x : LinkChange} {p : Operator} (hp : g.getOperator? x.operator = some p)
    (htable : g'.slotTable = x.apply g.slotTable) : g'.RecordedBy (journal ++ [x]) where
  below y hy := by
    have hlt : y.operator.toNat < g.nextOperator.toNat := by
      rcases List.mem_append.1 hy with hmem | hlast
      · exact h.below y hmem
      · rw [List.mem_singleton.1 hlast]
        exact hkeys.ops hp
    exact Nat.lt_of_lt_of_le hlt (hs.next_le .operator)
  slots := by
    intro o p' hp' role
    have hrow := h.slotTable_eq hkeys hs hp' role
    calc p'.slots role = g'.slotTable o role := (slotTable_of_some hp').symm
      _ = x.apply g.slotTable o role := by rw [htable]
      _ = x.apply (replay journal) o role := by unfold LinkChange.apply; rw [hrow]
      _ = replay (journal ++ [x]) o role := by rw [replay_append]

/-- A call adds to the journal what is read from the lines that it writes. -/
theorem RecordedBy.after (h : g.RecordedBy journal) (hkeys : g.KeysBelow) (c : Call) :
    ∃ later, (g.perform c).traceLines.map LinkChange.ofLine? = later.map some ∧
      (g.after c).RecordedBy (journal ++ later) := by
  have hs := step_after g c
  cases hc : c.isLinking with
  | false =>
    refine ⟨[], by rw [traceLines_eq_nil hc]; rfl, ?_⟩
    rw [List.append_nil]
    exact h.of_slotTable hkeys hs fun hp' role => (performs g c).slots_eq hc hkeys hp'
  | true =>
    rcases traceLines_cases g hc with ⟨hlines, htable⟩ | ⟨x, hlines, ⟨p, hp⟩, hmakes⟩
    · refine ⟨[], by rw [hlines]; rfl, ?_⟩
      rw [List.append_nil]
      refine h.of_slotTable hkeys hs fun hp' role => ?_
      rw [← htable, slotTable_of_some hp']
    · refine ⟨[x], ?_, h.of_apply hkeys hs hp hmakes.rest⟩
      rw [hlines, List.map_singleton, LinkChange.ofLine?_eq_some.2 rfl]
      rfl

/-- A history adds to the journal what is read from the lines that it writes. -/
theorem RecordedBy.run (h : g.RecordedBy journal) (hkeys : g.KeysBelow) (calls : List Call) :
    ∃ later, (g.traceLines calls).map LinkChange.ofLine? = later.map some ∧
      (g.run calls).RecordedBy (journal ++ later) := by
  induction calls generalizing g journal with
  | nil => exact ⟨[], rfl, by rwa [List.append_nil]⟩
  | cons c calls ih =>
    obtain ⟨now, hnow, hafter⟩ := h.after hkeys c
    obtain ⟨later, hlater, hrun⟩ := ih hafter (hkeys.step (step_after g c))
    refine ⟨now ++ later, ?_, ?_⟩
    · rw [traceLines, List.map_append, hnow, hlater, List.map_append]
    · rwa [← List.append_assoc]

/-- The lines for tracing are a journal of the slots. A call on links writes one line if it changes
a slot and none otherwise; no other call writes one. The line is about the change that the call has
made, and there is only one such change: it says which slot of which operator has changed, what the
slot held before and what it holds then. Changes with the same text are the same. All lines of a
history that starts with the empty graph are read as changes, and those that are about an operator
that is still there, one after the other, make its slots of empty ones. -/
theorem run_empty_journal :
    (∀ (g : Graph) (c : Call),
      (c.isLinking = false → (g.perform c).traceLines = []) ∧
      (c.isLinking = true →
        ((g.perform c).traceLines = [] ∧ (g.after c).slotTable = g.slotTable) ∨
        ∃ x : LinkChange, (g.perform c).traceLines = [(LogEntry.link x).line] ∧
          x.Makes g.slotTable (g.after c).slotTable ∧
          (∀ y : LinkChange, y.Makes g.slotTable (g.after c).slotTable → y = x) ∧
          (g.after c).slotTable ≠ g.slotTable)) ∧
    (∀ x y : LinkChange, x.text = y.text → x = y) ∧
    ∀ calls : List Call,
      let g := (∅ : Graph).run calls
      ∃ journal : List LinkChange,
        ((∅ : Graph).traceLines calls).map LinkChange.ofLine? = journal.map some ∧
        ∀ o p, g.getOperator? o = some p →
          ∀ role, replay (journal.filter g.knows) o role = p.slots role := by
  refine ⟨fun g c => ⟨traceLines_eq_nil, fun hc => ?_⟩, fun x y => LinkChange.text_injective,
    fun calls => ?_⟩
  · rcases traceLines_cases g hc with hnothing | ⟨x, hlines, -, hmakes⟩
    · exact Or.inl hnothing
    · exact Or.inr ⟨x, hlines, hmakes, fun y hy => hmakes.unique hy, hmakes.ne⟩
  · obtain ⟨journal, hread, hrecorded⟩ := recordedBy_empty.run keysBelow_empty calls
    refine ⟨journal, hread, fun o p hp role => ?_⟩
    -- The operator is there, so none of its changes is left out.
    have hknows : ∀ x ∈ journal, x.operator = o → Graph.knows (Graph.run ∅ calls) x = true := by
      rintro x - rfl
      rw [knows, hp]
      rfl
    rw [replay_filter hknows]
    exact (hrecorded.slots hp role).symm

/-- Links of an operator that is removed and of one that stays, whose slot looks like a link. -/
def quotedCalls : List Call :=
  [.addVariable [2] .c, .addVariable [2] .c, .addOperator "f" ∅, .addOperator "g" ∅,
    .bindInput ⟨0⟩ "x" ⟨0⟩, .bindInput ⟨1⟩ "x\" <- v7" ⟨0⟩, .bindInput ⟨1⟩ "x\" <- v7" ⟨1⟩,
    .rebindInput ⟨1⟩ ⟨0⟩ ⟨1⟩, .rebindInput ⟨1⟩ ⟨1⟩ ⟨1⟩, .bindOutput ⟨1⟩ "y" ⟨1⟩,
    .rebindOutput ⟨1⟩ ⟨1⟩ ⟨0⟩, .bindInput ⟨1⟩ "z" ⟨0⟩, .unbindInput ⟨1⟩ ⟨0⟩, .removeOperator ⟨0⟩]

/-- The lines of these calls, and the slots that are read from them. When the operator that is left
writes the second variable in place of the first one, or gives its input up, the line tells what the
slot held before and what it holds then. -/
theorem run_empty_journal_quoted :
    let g := (∅ : Graph).run quotedCalls
    (∅ : Graph).traceLines quotedCalls =
      ["TRACE op0: input \"x\" <- v0", "TRACE op1: input \"x\" <- v7\" <- v0",
        "TRACE op1: input \"x\" <- v7\" <- v1 (was v0)", "TRACE op1: output \"y\" -> v1",
        "TRACE op1: output \"y\" -> v0 (was v1)", "TRACE op1: input \"z\" <- v0",
        "TRACE op1: input \"z\" -/- v0"] ∧
    (∃ (p : Operator) (journal : List LinkChange),
      g.getOperator? ⟨1⟩ = some p ∧
      ((∅ : Graph).traceLines quotedCalls).map LinkChange.ofLine? = journal.map some ∧
      (∀ role, replay (journal.filter g.knows) ⟨1⟩ role = p.slots role) ∧
      p.slots .input = .ofList [("x\" <- v7", ⟨1⟩)] ∧ p.slots .output = .ofList [("y", ⟨0⟩)]) ∧
    ((g.perform (.rebindOutput ⟨1⟩ ⟨0⟩ ⟨1⟩)).traceLines =
        ["TRACE op1: output \"y\" -> v1 (was v0)"] ∧
      (g.slotTable ⟨1⟩ .output).get? "y" = some ⟨0⟩ ∧
      ((g.after (.rebindOutput ⟨1⟩ ⟨0⟩ ⟨1⟩)).slotTable ⟨1⟩ .output).get? "y" = some ⟨1⟩) ∧
    ((g.perform (.unbindInput ⟨1⟩ ⟨1⟩)).traceLines = ["TRACE op1: input \"x\" <- v7\" -/- v1"] ∧
      (g.slotTable ⟨1⟩ .input).get? "x\" <- v7" = some ⟨1⟩ ∧
      ((g.after (.unbindInput ⟨1⟩ ⟨1⟩)).slotTable ⟨1⟩ .input).get? "x\" <- v7" = none) := by
  intro g
  obtain ⟨hcalls, -, hreplay⟩ := run_empty_journal
  obtain ⟨journal, hread, hslots⟩ := hreplay quotedCalls
  obtain ⟨p, hp, hinputs⟩ : ∃ p : Operator, g.getOperator? ⟨1⟩ = some p ∧
      p.slots .input = .ofList [("x\" <- v7", ⟨1⟩)] :=
    Option.map_eq_some_iff.1 (by decide +kernel)
  have houtputs : (g.getOperator? ⟨1⟩).map (·.slots .output) = some (.ofList [("y", ⟨0⟩)]) := by
    decide +kernel
  rw [hp] at houtputs
  -- Where a call writes the line of a change, this is the change that it has made.
  have hmakes : ∀ (c : Call) (x : LinkChange), c.isLinking = true →
      (g.perform c).traceLines = [(LogEntry.link x).line] →
      x.Makes g.slotTable (g.after c).slotTable := by
    intro c x hc hline
    rcases (hcalls g c).2 hc with ⟨hnone, -⟩ | ⟨y, hlines, hy, -, -⟩
    · rw [hnone] at hline
      cases hline
    · have hsame : (LogEntry.link y).line = (LogEntry.link x).line :=
        List.singleton_inj.1 (hlines.symm.trans hline)
      rwa [← LinkChange.line_injective hsame]
  have houtput : (g.perform (.rebindOutput ⟨1⟩ ⟨0⟩ ⟨1⟩)).traceLines =
      ["TRACE op1: output \"y\" -> v1 (was v0)"] := by decide +kernel
  have hinput : (g.perform (.unbindInput ⟨1⟩ ⟨1⟩)).traceLines =
      ["TRACE op1: input \"x\" <- v7\" -/- v1"] := by decide +kernel
  have hrebound := hmakes _ ⟨⟨1⟩, .output, "y", .rebound ⟨1⟩ ⟨0⟩⟩ rfl houtput
  have hunbound := hmakes _ ⟨⟨1⟩, .input, "x\" <- v7", .unbound ⟨1⟩⟩ rfl hinput
  exact ⟨by decide +kernel,
    ⟨p, journal, hp, hread, hslots _ p hp, hinputs, Option.some.inj houtputs⟩,
    ⟨houtput, hrebound.before, hrebound.after⟩, ⟨hinput, hunbound.before, hunbound.after⟩⟩

end Graph

end TensorGraph
