import TensorGraph.Proofs.Sketch.Refinement

/-!
# What each call makes of a graph

`Graph.Step` forgets which call was made. `Graph.Effect g c g'` keeps as much of the call as decides
what the variables carry and which ids come next: most calls change operators and links at most, so
that the sketch of the graph changes in its operators alone, and the rest are listed one by one.
`effect_after` says that every call has one of these effects, whether it succeeds or fails. What
only some calls change is read off the list: the counter of a kind of node moves when a node of that
kind is added (`Effect.next_eq`), and a variable gets another order when a call asks for it
(`Effect.layout`).
-/

namespace TensorGraph

/-- The node whose annotations a call changes. -/
def Call.annotated? : Call → Option NodeId
  | attach node _ | detach node _ | setParameter node _ _ | unsetParameter node _ => some node
  | _ => none

/-- The kind of node that a call adds. -/
def Call.added? : Call → Option NodeKind
  | addVariable _ _ => some .variable
  | addOperator _ _ => some .operator
  | _ => none

/-- A call that adds a variable tells its shape and order. -/
theorem Call.added?_eq_variable {c : Call} :
    c.added? = some .variable ↔ ∃ shape order, c = .addVariable shape order := by
  cases c <;> simp [added?]

/-- A call that adds an operator tells its name and parameters. -/
theorem Call.added?_eq_operator {c : Call} :
    c.added? = some .operator ↔ ∃ name parameters, c = .addOperator name parameters := by
  cases c <;> simp [added?]

/-- Two variables have one shape in one order. -/
structure Variable.SameLayout (w w' : Variable) : Prop where
  /-- The sizes are the same. -/
  shape : w'.shape = w.shape
  /-- The axes are the same. -/
  order : w'.order = w.order

/-- A variable has its own layout. -/
theorem Variable.SameLayout.refl (w : Variable) : w.SameLayout w := ⟨rfl, rfl⟩

namespace Graph

/-- The graph `g'` is what the call `c` can make of the graph `g`. -/
inductive Effect (g : Graph) : Call → Graph → Prop
  /-- Operators and links change at most. -/
  | rewired {c : Call} {g' : Graph} (ops : SortedMap OperatorId Operator)
    (h : g'.sketch = { g.sketch with ops }) : Effect g c g'
  /-- A variable is added. -/
  | addVariable {shape : Shape} {order : AxisOrder} {w : Variable} {next : VariableId}
    (hw : Variable.create g.nextVariable shape order = .ok w)
    (hn : g.nextVariable.succ? = some next) :
    Effect g (.addVariable shape order)
      (g.written [.nextVariable next, .putVariable g.nextVariable w])
  /-- An operator is added. -/
  | addOperator {name : String} {parameters : SortedMap String Parameter} {next : OperatorId}
    (hn : g.nextOperator.succ? = some next) :
    Effect g (.addOperator name parameters) (g.written [.nextOperator next,
      .putOperator g.nextOperator (Rules.newOperator g name parameters)])
  /-- A variable leaves. -/
  | removeVariable {v : VariableId} {w : Variable} (hw : g.getVariable? v = some w)
    (hl : w.isUnlinked = true) : Effect g (.removeVariable v) (g.written [.dropVariable v])
  /-- The shape of a variable is read in another order. -/
  | reorder {v : VariableId} {target : AxisOrder} {w w' : Variable}
    (hw : g.getVariable? v = some w) (hw' : w.reorder target = .ok w') :
    Effect g (.reorder v target) (g.written [.putVariable v w'])
  /-- The elements of a variable get another type. -/
  | setElementType {v : VariableId} {t : ElementType} {w w' : Variable}
    (hw : g.getVariable? v = some w) (hw' : w.setElementType t = .ok w') :
    Effect g (.setElementType v t) (g.written [.putVariable v w'])
  /-- A variable is named. -/
  | setName {v : VariableId} {name : String} {w : Variable} (hw : g.getVariable? v = some w) :
    Effect g (.setName (.variable v) name)
      (g.written [.putVariable v { w with name := some name }])
  /-- The annotations of a variable change. -/
  | annotate {c : Call} {v : VariableId} {w : Variable} (annotations : Annotations)
    (hc : c.annotated? = some (.variable v)) (hw : g.getVariable? v = some w) :
    Effect g c (g.written [.putVariable v { w with annotations }])
  /-- The text of the snapshot is read. -/
  | reload {g' : Graph} (hg : g.reload = .ok g') : Effect g .reload g'

/-- A call may leave everything as it was. -/
theorem Effect.same (g : Graph) (c : Call) : g.Effect c g := .rewired g.ops rfl

end Graph

/-! ## How each call has its effect -/

namespace Rules

variable {g : Graph} {c : Call} {role : Role} {o : OperatorId} {slot : String}
  {v old new : VariableId}

/-- Binding changes an operator and a link. -/
theorem Bind.effect {out : Outcome Unit} (h : Bind g role o slot v out) :
    g.Effect c out.graph := by
  cases h with
  | bound hp hw hs hfree => exact .rewired _ (Graph.sketch_bound hw)
  | _ => exact .same g c

/-- Unbinding changes an operator and a link. -/
theorem Unbind.effect {out : Outcome Unit} (h : Unbind g role o v out) :
    g.Effect c out.graph := by
  cases h with
  | noSlot hs => exact .same g c
  | unbound hp hw hs =>
    rw [Outcome.graph_done, Graph.written_unbind _ hw]
    exact .rewired _ (Graph.sketch_unbound hw)

/-- Rebinding an input changes an operator and two links. -/
theorem RebindInput.effect {out : Outcome Unit} (h : RebindInput g o old new out) :
    g.Effect c out.graph := by
  cases h with
  | rebound hp hw hx hs hne =>
    rw [Outcome.graph_done, Graph.written_rebindWrites _ hw hne]
    exact .rewired _ (Graph.sketch_rebound hw hx hne)
  | _ => exact .same g c

/-- Rebinding an output changes an operator and two links. -/
theorem RebindOutput.effect {out : Outcome Unit} (h : RebindOutput g o old new out) :
    g.Effect c out.graph := by
  cases h with
  | rebound hp hw hx hs hne hfree =>
    rw [Outcome.graph_done, Graph.written_rebindWrites _ hw hne]
    exact .rewired _ (Graph.sketch_rebound hw hx hne)
  | _ => exact .same g c

/-- Adding a variable adds it, or changes nothing. -/
theorem AddVariable.effect {shape : Shape} {order : AxisOrder} {out : Outcome VariableId}
    (h : AddVariable g shape order out) : g.Effect (.addVariable shape order) out.graph := by
  cases h with
  | impossible hw => exact .same g _
  | exhausted hw hn => exact .same g _
  | added hw hn => exact .addVariable hw hn

/-- Adding an operator adds it, or changes nothing. -/
theorem AddOperator.effect {name : String} {parameters : SortedMap String Parameter}
    {out : Outcome OperatorId} (h : AddOperator g name parameters out) :
    g.Effect (.addOperator name parameters) out.graph := by
  cases h with
  | exhausted hn => exact .same g _
  | added hn => exact .addOperator hn

/-- Removing an operator changes the operators and links. -/
theorem RemoveOperator.effect {out : Outcome Operator} (h : RemoveOperator g o out) :
    g.Effect c out.graph := by
  cases h with
  | noOperator hp => exact .same g c
  | @removed p hp =>
    rw [Outcome.graph_done, Graph.written_detachWrites]
    exact .rewired _ (Graph.sketch_detached g o p)

/-- Removing a variable removes it, or changes nothing. -/
theorem RemoveVariable.effect {out : Outcome Variable} (h : RemoveVariable g v out) :
    g.Effect (.removeVariable v) out.graph := by
  cases h with
  | noVariable hw => exact .same g _
  | inUse hw hl => exact .same g _
  | removed hw hl => exact .removeVariable hw hl

/-- Putting another variable in place of one has the effect of the call that does so. -/
theorem AmendVariable.effect {α : Type} {f : Variable → Except Failure Variable}
    {answer : Variable → α} {log : Variable → Variable → List LogEntry} {out : Outcome α}
    (h : AmendVariable g v f answer log out)
    (hf : ∀ {w w'}, g.getVariable? v = some w → f w = .ok w' →
      g.Effect c (g.written [.putVariable v w'])) : g.Effect c out.graph := by
  cases h with
  | noVariable hw => exact .same g c
  | impossible hw he => exact .same g c
  | amended hw hw' => exact hf hw hw'

/-- Putting another operator in place of one changes an operator. -/
theorem AmendOperator.effect {α : Type} {f : Operator → Operator} {answer : Operator → α}
    {out : Outcome α} (h : AmendOperator g o f answer out) : g.Effect c out.graph := by
  cases h with
  | noOperator hp => exact .same g c
  | amended hp => exact .rewired _ rfl

/-- The call that changes annotations is one of those that do. -/
theorem annotated?_of_annotation? {x : Annotation} (hc : c.annotation? = some x) :
    c.annotated? = some x.node := by
  cases c <;> cases hc <;> rfl

/-- Every call has its effect. -/
theorem Performs.effect {out : Outcome Answer} (h : Performs g c out) : g.Effect c out.graph := by
  cases h with
  | addVariable h => exact h.effect
  | addOperator h => exact h.effect
  | bind h => exact h.effect
  | unbind h => exact h.effect
  | rebindInput h => exact h.effect
  | rebindOutput h => exact h.effect
  | slotOf h => cases h <;> exact .same g _
  | removeOperator h => exact h.effect
  | removeVariable h => exact h.effect
  | reorder h => exact h.effect .reorder
  | setElementType h =>
    exact h.effect fun hw hw' => .setElementType hw (Result.mapError_eq_ok.1 hw')
  | nameVariable h =>
    refine h.effect fun hw hw' => ?_
    obtain rfl := Except.ok.inj hw'
    exact .setName hw
  | nameOperator h => exact h.effect
  | annotateVariable hc h =>
    refine h.effect fun hw hw' => ?_
    obtain rfl := Except.ok.inj hw'
    exact .annotate _ (annotated?_of_annotation? hc) hw
  | annotateOperator hc h => exact h.effect
  | unlinked => exact .same g _
  | inputs => exact .same g _
  | outputs => exact .same g _
  | reload h =>
    cases h with
    | read hg => exact .reload hg
    | unreadable hg => exact .same g _

end Rules

namespace Graph

variable {g g' : Graph} {c : Call} {v : VariableId} {w w' : Variable}

/-- Every call has its effect. -/
theorem effect_after (g : Graph) (c : Call) : g.Effect c (g.after c) := (performs g c).effect

/-! ## What only some calls change -/

/-- Only adding a node of a kind moves the id of the next one. -/
theorem Effect.next_eq {kind : NodeKind} (h : g.Effect c g') (hc : c.added? ≠ some kind) :
    g'.next kind = g.next kind := by
  cases h with
  | rewired ops h =>
    cases kind
    · exact congrArg Sketch.nextVariable h
    · exact congrArg Sketch.nextOperator h
  | addVariable hw hn =>
    cases kind
    · exact absurd rfl hc
    · rfl
  | addOperator hn =>
    cases kind
    · rfl
    · exact absurd rfl hc
  | reload hg =>
    rw [eq_of_reload hg]
    cases kind <;> rfl
  | _ => cases kind <;> rfl

/-- Only asking for another order gives a variable that stays another shape or order. -/
theorem Effect.layout (h : g.Effect c g') (hc : ∀ target, c ≠ .reorder v target)
    (hv : v ≠ g.nextVariable) (hw' : g'.getVariable? v = some w') :
    ∃ w, g.getVariable? v = some w ∧ w.SameLayout w' := by
  cases h with
  | rewired ops h =>
    -- The sketch has the shapes and orders of the variables, and they are the same in both.
    have hprofile : (g'.getVariable? v).map Variable.profile =
        (g.getVariable? v).map Variable.profile := by
      rw [← get?_vars_sketch, ← get?_vars_sketch, h]
    rw [hw', Option.map_some] at hprofile
    obtain ⟨w, hw, heq⟩ := Option.map_eq_some_iff.1 hprofile.symm
    exact ⟨w, hw, congrArg Profile.shape heq.symm, congrArg Profile.order heq.symm⟩
  | addVariable hx hn =>
    rw [written_cons, written_cons, written_nil, Write.getVariable?_putVariable, if_neg hv] at hw'
    exact ⟨w', hw', .refl w'⟩
  | addOperator hn => exact ⟨w', hw', .refl w'⟩
  | removeVariable hx hl =>
    rw [written_cons, written_nil, Write.getVariable?_dropVariable] at hw'
    split at hw'
    · cases hw'
    · exact ⟨w', hw', .refl w'⟩
  | @reorder u target x x' hx hx' =>
    have hne : v ≠ u := fun hvu => hc target (hvu ▸ rfl)
    rw [written_cons, written_nil, Write.getVariable?_putVariable, if_neg hne] at hw'
    exact ⟨w', hw', .refl w'⟩
  | setElementType hx hx' =>
    obtain ⟨-, rfl⟩ := Variable.setElementType_eq_ok.1 hx'
    rw [written_cons, written_nil, Write.getVariable?_putVariable] at hw'
    refine exists_of_update Variable.SameLayout.refl hx ?_ hw'
    exact ⟨rfl, rfl⟩
  | setName hx =>
    rw [written_cons, written_nil, Write.getVariable?_putVariable] at hw'
    refine exists_of_update Variable.SameLayout.refl hx ?_ hw'
    exact ⟨rfl, rfl⟩
  | annotate annotations hnode hx =>
    rw [written_cons, written_nil, Write.getVariable?_putVariable] at hw'
    refine exists_of_update Variable.SameLayout.refl hx ?_ hw'
    exact ⟨rfl, rfl⟩
  | reload hg =>
    rw [eq_of_reload hg, getVariable?_mapFloats, Option.map_eq_some_iff] at hw'
    obtain ⟨w, hw, rfl⟩ := hw'
    exact ⟨w, hw, rfl, rfl⟩

end Graph

end TensorGraph
