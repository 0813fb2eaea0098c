import TensorGraph.Proofs.Changes

/-!
# Graphs without what their nodes carry

`Graph.bare` keeps the ids of the nodes and their links and blanks all else. A call on nodes and
links reads and writes this half of a graph alone: the rules of such a call carry over to the bare
graph, with the outcome laid bare as well (`Rules.Performs.bare`). All other calls put a node in the
place of one with the same id and links, so that the bare graph stays as it is
(`Rules.Performs.graph_bare`).
-/

namespace TensorGraph

/-! ## The bare half -/

/-- The variable with its id and its links, and nothing else. -/
def Variable.bare (w : Variable) : Variable where
  id := w.id
  shape := []
  order := default
  consumers := w.consumers
  producer := w.producer

/-- The operator with its id and its slots, and nothing else. -/
def Operator.bare (p : Operator) : Operator where
  id := p.id
  name := ""
  inputs := p.inputs
  outputs := p.outputs

/-- The graph with the ids and links of its nodes and the ids that come next, and nothing else. -/
def Graph.bare (g : Graph) : Graph :=
  { g with vars := g.vars.map Variable.bare, ops := g.ops.map Operator.bare }

/-- The write of a bare node. -/
def Write.bare : Write → Write
  | putVariable key w => putVariable key w.bare
  | putOperator key p => putOperator key p.bare
  | whole g => whole g.bare
  | x => x

/-- The report with bare nodes. -/
def LogEntry.bare : LogEntry → LogEntry
  | link change => link change
  | reordered before after => reordered before.bare after.bare
  | operatorRemoved p => operatorRemoved p.bare
  | variableRemoved key w => variableRemoved key w.bare

/-- The answer with bare nodes. -/
def Answer.bare : Answer → Answer
  | removedOperator p => removedOperator p.bare
  | removedVariable w => removedVariable w.bare
  | a => a

/-- The outcome with bare nodes, and a function applied to the answer. -/
def Outcome.bare {α β : Type} (f : α → β) (out : Outcome α) : Outcome β :=
  ⟨out.result.map f, out.graph.bare, out.writes.map Write.bare, out.log.map LogEntry.bare⟩

/-- A call that adds, removes, links or lists nodes. The others change what nodes carry, or read the
text of a snapshot. -/
def Call.isTopology : Call → Bool
  | addVariable _ _ | addOperator _ _ | bindInput _ _ _ | unbindInput _ _ | rebindInput _ _ _
  | bindOutput _ _ _ | unbindOutput _ _ | rebindOutput _ _ _ | inputSlot _ _ | outputSlot _ _
  | removeOperator _ | removeVariable _ | unlinked | inputs | outputs => true
  | _ => false

namespace Call

variable {c : Call} {role : Role} {o : OperatorId} {slot : String} {v : VariableId}

@[simp]
theorem isTopology_bind : (Call.bind role o slot v).isTopology = true := by
  cases role <;> rfl

@[simp]
theorem isTopology_unbind : (Call.unbind role o v).isTopology = true := by
  cases role <;> rfl

@[simp]
theorem isTopology_slotOf : (Call.slotOf role o v).isTopology = true := by
  cases role <;> rfl

/-- A change of annotations changes what a node carries. -/
theorem isTopology_of_annotation? {x : Annotation} (h : c.annotation? = some x) :
    c.isTopology = false := by
  cases c with
  | attach node a => rfl
  | detach node a => rfl
  | setParameter node name value => rfl
  | unsetParameter node name => rfl
  | _ => cases h

end Call

/-! ## Bare nodes -/

namespace Variable

variable (w : Variable) (role : Role) (o : OperatorId) (p : Operator) (v : VariableId)

@[simp]
theorem bare_bare : w.bare.bare = w.bare := rfl

@[simp]
theorem bare_join : (w.join role o).bare = w.bare.join role o := by
  cases role <;> rfl

@[simp]
theorem bare_setProducer (producer : Option OperatorId) :
    (w.setProducer producer).bare = w.bare.setProducer producer := rfl

@[simp]
theorem bare_dropConsumer : (w.dropConsumer o).bare = w.bare.dropConsumer o := rfl

/-- Amending a variable makes no difference to its bare half. -/
theorem Amended.bare_eq {w w' : Variable} (h : w.Amended w') : w'.bare = w.bare := by
  obtain ⟨hid, hconsumers, hproducer⟩ := h.links
  rw [bare, bare, hid, hconsumers, hproducer]

end Variable

namespace Operator

variable (p : Operator) (role : Role) (slot : String) (v : VariableId)

@[simp]
theorem bare_bare : p.bare.bare = p.bare := rfl

@[simp]
theorem slots_bare : p.bare.slots role = p.slots role := by
  cases role <;> rfl

@[simp]
theorem slot?_bare : p.bare.slot? role v = p.slot? role v := by
  cases role <;> rfl

@[simp]
theorem bare_setSlot : (p.setSlot role slot v).bare = p.bare.setSlot role slot v := by
  cases role <;> rfl

@[simp]
theorem bare_clearSlot : (p.clearSlot role slot).bare = p.bare.clearSlot role slot := by
  cases role <;> rfl

/-- Amending an operator makes no difference to its bare half. -/
theorem Amended.bare_eq {p p' : Operator} (h : p.Amended p') : p'.bare = p.bare := by
  cases h <;> rfl

end Operator

/-! ## Bare graphs -/

namespace Graph

variable (g : Graph) (role : Role) (o : OperatorId) (v : VariableId) (x : Write)

@[simp]
theorem getVariable?_bare : g.bare.getVariable? v = (g.getVariable? v).map Variable.bare :=
  SortedMap.get?_map _ _ _

@[simp]
theorem getOperator?_bare : g.bare.getOperator? o = (g.getOperator? o).map Operator.bare :=
  SortedMap.get?_map _ _ _

variable {g o v} in
/-- An operator of the graph is laid bare in the bare graph. -/
theorem getOperator?_bare_of_some {p : Operator} (hp : g.getOperator? o = some p) :
    g.bare.getOperator? o = some p.bare := by
  rw [getOperator?_bare, hp, Option.map_some]

variable {g o v} in
/-- An operator that is not in the graph is not in the bare graph. -/
theorem getOperator?_bare_of_none (hp : g.getOperator? o = none) :
    g.bare.getOperator? o = none := by
  rw [getOperator?_bare, hp, Option.map_none]

variable {g o v} in
/-- A variable of the graph is laid bare in the bare graph. -/
theorem getVariable?_bare_of_some {w : Variable} (hw : g.getVariable? v = some w) :
    g.bare.getVariable? v = some w.bare := by
  rw [getVariable?_bare, hw, Option.map_some]

variable {g o v} in
/-- A variable that is not in the graph is not in the bare graph. -/
theorem getVariable?_bare_of_none (hw : g.getVariable? v = none) :
    g.bare.getVariable? v = none := by
  rw [getVariable?_bare, hw, Option.map_none]

@[simp]
theorem bare_bare : g.bare.bare = g.bare := by
  have hvars : (g.vars.map Variable.bare).map Variable.bare = g.vars.map Variable.bare :=
    SortedMap.ext_get? fun v => by simp [Function.comp_def]
  have hops : (g.ops.map Operator.bare).map Operator.bare = g.ops.map Operator.bare :=
    SortedMap.ext_get? fun o => by simp [Function.comp_def]
  rw [bare, bare, hvars, hops]

/-- A slot is found in the bare graph where it is found in the graph, and missed for the same
reason. -/
@[simp]
theorem slotOf_bare : g.bare.slotOf role o v = g.slotOf role o v := by
  rw [slotOf_eq, slotOf_eq]
  unfold findVariable findOperator
  rw [getVariable?_bare, getOperator?_bare]
  cases g.getVariable? v with
  | none => rfl
  | some w =>
    cases g.getOperator? o with
    | none => rfl
    | some p =>
      simp only [Option.map_some, bind, Except.bind, Operator.slot?_bare]

/-- Writing to a graph and laying it bare is writing bare nodes to the bare graph. -/
theorem bare_apply : (x.apply g).bare = x.bare.apply g.bare := by
  cases x with
  | putVariable key w => simp only [bare, Write.apply, Write.bare, SortedMap.map_insert]
  | dropVariable key => simp only [bare, Write.apply, Write.bare, SortedMap.map_erase]
  | putOperator key p => simp only [bare, Write.apply, Write.bare, SortedMap.map_insert]
  | dropOperator key => simp only [bare, Write.apply, Write.bare, SortedMap.map_erase]
  | nextVariable next => rfl
  | nextOperator next => rfl
  | whole g' => rfl

/-- Writes to a graph that is then laid bare are writes of bare nodes to the bare graph. -/
theorem bare_written (writes : List Write) :
    (g.written writes).bare = g.bare.written (writes.map Write.bare) := by
  induction writes generalizing g with
  | nil => rfl
  | cons x writes ih => rw [written_cons, ih, bare_apply, List.map_cons, written_cons]

/-- Whether it is laid bare before some writes makes no difference to the bare graph after them. -/
theorem bare_written_bare (writes : List Write) :
    (g.bare.written writes).bare = (g.written writes).bare := by
  rw [bare_written, bare_written, bare_bare]

/-- The floats of a graph are not in its bare half. -/
theorem bare_mapFloats (f : Binary64 → Binary64) : (g.mapFloats f).bare = g.bare := by
  have hvars : (g.mapFloats f).vars.map Variable.bare = g.vars.map Variable.bare :=
    SortedMap.ext_get? fun v => by
      rw [mapFloats, SortedMap.get?_map, SortedMap.get?_map, SortedMap.get?_map, Option.map_map]
      rfl
  have hops : (g.mapFloats f).ops.map Operator.bare = g.ops.map Operator.bare :=
    SortedMap.ext_get? fun o => by
      rw [mapFloats, SortedMap.get?_map, SortedMap.get?_map, SortedMap.get?_map, Option.map_map]
      rfl
  rw [bare, hvars, hops]
  rfl

/-- The same variables are changed in the bare graph as in the graph. -/
theorem map_bare_touches {f : Variable → Variable} (hf : ∀ w, (f w).bare = f w.bare)
    (vs : List VariableId) : (g.touches f vs).map Write.bare = g.bare.touches f vs := by
  induction vs generalizing g with
  | nil => rfl
  | cons u vs ih =>
    unfold touches
    rw [getVariable?_bare]
    cases hu : g.getVariable? u with
    | none => exact ih g
    | some w =>
      -- The later variables are looked up when this one is written.
      show Write.putVariable u (f w).bare :: _ = Write.putVariable u (f w.bare) :: _
      rw [ih, bare_apply, ← hf w]
      rfl

/-- An operator leaves the bare graph as it leaves the graph. -/
theorem map_bare_detachWrites (p : Operator) :
    (g.detachWrites o p).map Write.bare = g.bare.detachWrites o p.bare := by
  -- The operator goes first, then its consumers are written, and its producers after them.
  have hdropped : (g.dropped o).bare = g.bare.dropped o := bare_apply g (.dropOperator o)
  have hconsumers :=
    map_bare_touches (g.dropped o) (f := (·.dropConsumer o)) (fun _ => rfl) p.consumed
  have hunread : (g.unread o p).bare = g.bare.unread o p.bare := by
    rw [unread, touched, bare_written, hconsumers, hdropped]
    rfl
  have hproducers :=
    map_bare_touches (g.unread o p) (f := (·.setProducer none)) (fun _ => rfl) p.produced
  rw [detachWrites, List.map_cons, List.map_append, hconsumers, hproducers, hdropped, hunread]
  rfl

/-- The bare graph has the same variables without links. -/
theorem unlinked_bare : g.bare.unlinked = g.unlinked := by
  have hvalues : g.bare.vars.values = g.vars.values.map Variable.bare := by
    simp only [bare, SortedMap.values, SortedMap.map, List.map_map, Function.comp_def]
  rw [unlinked, unlinked, hvalues, List.filter_map, List.map_map]
  rfl

/-- The bare graph has the same variables with a property that the links decide. -/
theorem idsWhere_bare {p : Variable → Bool} (hp : ∀ w : Variable, p w.bare = p w) :
    g.bare.idsWhere p = g.idsWhere p := by
  have hlist : g.bare.vars.toList = g.vars.toList.map fun e => (e.1, e.2.bare) := rfl
  have hfilter : ((fun e => p e.2) ∘ fun e : VariableId × Variable => (e.1, e.2.bare)) =
      fun e => p e.2 :=
    funext fun e => hp e.2
  rw [idsWhere, idsWhere, hlist, List.filter_map, List.map_map, hfilter]
  rfl

end Graph

/-! ## Bare outcomes -/

namespace Outcome

variable {α β γ : Type} (f : α → β)

/-- What is done to a graph is done to the bare graph. -/
theorem bare_done (g : Graph) (a : α) (writes : List Write) (log : List LogEntry) :
    (done g a writes log).bare f =
      done g.bare (f a) (writes.map Write.bare) (log.map LogEntry.bare) := by
  unfold bare done
  rw [Graph.bare_written]
  rfl

/-- What is left of an outcome when it is laid bare: its result, up to what removed nodes carry, and
the bare graph. -/
def essence (out : Outcome Answer) : Except Failure Answer × Graph :=
  (out.result.map Answer.bare, out.graph.bare)

/-- A list that the bare graph has too is answered for both. -/
theorem essence_ids {g : Graph} {ids ids' : List VariableId} (h : ids' = ids) :
    (done g.bare (.ids ids') [] []).essence = (done g (.ids ids) [] []).essence := by
  rw [h]
  exact Prod.ext rfl g.bare_bare

/-- What is laid bare before the answer is wrapped is laid bare afterwards. -/
theorem essence_map_bare {out : Outcome α} {f : α → α} {wrap : α → Answer}
    (hwrap : ∀ a, (wrap (f a)).bare = (wrap a).bare) :
    ((out.bare f).map wrap).essence = (out.map wrap).essence := by
  obtain ⟨result, g, writes, log⟩ := out
  have hresult : ((result.map f).map wrap).map Answer.bare = (result.map wrap).map Answer.bare := by
    cases result with
    | error e => rfl
    | ok a => exact congrArg Except.ok (hwrap a)
  exact Prod.ext hresult g.bare_bare

end Outcome

/-! ## Calls on the bare graph -/

namespace Rules

variable {g : Graph} {role : Role} {o : OperatorId} {slot : String} {v old new : VariableId}

/-- Giving a bare variable up writes bare variables. -/
theorem map_bare_releaseWrites (role : Role) (o : OperatorId) (p : Operator) (v : VariableId)
    (w : Variable) :
    (releaseWrites role o p v w).map Write.bare = releaseWrites role o p.bare v w.bare := by
  cases role with
  | input =>
    have hslot : (p.bare.inputSlot? v).isNone = (p.inputSlot? v).isNone := rfl
    rw [releaseWrites, releaseWrites, hslot]
    split <;> rfl
  | output => rfl

/-- Putting one bare variable in place of another writes bare nodes. -/
theorem map_bare_rebindWrites (role : Role) (o : OperatorId) (p : Operator) (old new : VariableId)
    (w x : Variable) :
    (rebindWrites role o p old new w x).map Write.bare =
      rebindWrites role o p.bare old new w.bare x.bare := by
  simp only [rebindWrites, List.map_cons, List.map_append, map_bare_releaseWrites, List.map_nil,
    Write.bare, Variable.bare_join]

/-- Binding does to the bare graph what it does to the graph. -/
theorem Bind.bare {out : Outcome Unit} (h : Bind g role o slot v out) :
    Bind g.bare role o slot v (out.bare id) := by
  cases h with
  | noOperator hp => exact .noOperator (Graph.getOperator?_bare_of_none hp)
  | noVariable hp hw =>
    exact .noVariable (Graph.getOperator?_bare_of_some hp) (Graph.getVariable?_bare_of_none hw)
  | same hp hw hs =>
    rw [← Operator.slots_bare] at hs
    exact .same (Graph.getOperator?_bare_of_some hp) (Graph.getVariable?_bare_of_some hw) hs
  | occupied hp hw hs hne =>
    rw [← Operator.slots_bare] at hs
    exact .occupied (Graph.getOperator?_bare_of_some hp) (Graph.getVariable?_bare_of_some hw) hs hne
  | conflict hp hw hs hr hq =>
    rw [← Operator.slots_bare] at hs
    exact .conflict (Graph.getOperator?_bare_of_some hp) (Graph.getVariable?_bare_of_some hw) hs hr
      hq
  | bound hp hw hs hfree =>
    rw [← Operator.slots_bare] at hs
    rw [Outcome.bare_done]
    simp only [List.map_cons, List.map_nil, Write.bare, Operator.bare_setSlot, Variable.bare_join]
    exact .bound (Graph.getOperator?_bare_of_some hp) (Graph.getVariable?_bare_of_some hw) hs hfree

/-- Unbinding does to the bare graph what it does to the graph. -/
theorem Unbind.bare {out : Outcome Unit} (h : Unbind g role o v out) :
    Unbind g.bare role o v (out.bare id) := by
  cases h with
  | noSlot hs => exact .noSlot (by rwa [Graph.slotOf_bare])
  | unbound hp hw hs =>
    rw [← Operator.slot?_bare] at hs
    rw [Outcome.bare_done]
    simp only [List.map_cons, map_bare_releaseWrites, Write.bare, Operator.bare_clearSlot]
    exact .unbound (Graph.getOperator?_bare_of_some hp) (Graph.getVariable?_bare_of_some hw) hs

/-- Rebinding an input does to the bare graph what it does to the graph. -/
theorem RebindInput.bare {out : Outcome Unit} (h : RebindInput g o old new out) :
    RebindInput g.bare o old new (out.bare id) := by
  cases h with
  | noVariable hx => exact .noVariable (Graph.getVariable?_bare_of_none hx)
  | noSlot hx hs =>
    exact .noSlot (Graph.getVariable?_bare_of_some hx) (by rwa [Graph.slotOf_bare])
  | same hx hs he =>
    exact .same (Graph.getVariable?_bare_of_some hx) (by rwa [Graph.slotOf_bare]) he
  | rebound hp hw hx hs hne =>
    rw [← Operator.slot?_bare] at hs
    rw [Outcome.bare_done, map_bare_rebindWrites, Operator.bare_setSlot]
    exact .rebound (Graph.getOperator?_bare_of_some hp) (Graph.getVariable?_bare_of_some hw)
      (Graph.getVariable?_bare_of_some hx) hs hne

/-- Rebinding an output does to the bare graph what it does to the graph. -/
theorem RebindOutput.bare {out : Outcome Unit} (h : RebindOutput g o old new out) :
    RebindOutput g.bare o old new (out.bare id) := by
  cases h with
  | noSlot hs => exact .noSlot (by rwa [Graph.slotOf_bare])
  | same hs he => exact .same (by rwa [Graph.slotOf_bare]) he
  | noVariable hs hne hx =>
    exact .noVariable (by rwa [Graph.slotOf_bare]) hne (Graph.getVariable?_bare_of_none hx)
  | conflict hs hne hx hq =>
    exact .conflict (by rwa [Graph.slotOf_bare]) hne (Graph.getVariable?_bare_of_some hx) hq
  | rebound hp hw hx hs hne hfree =>
    rw [← Operator.slot?_bare] at hs
    rw [Outcome.bare_done, map_bare_rebindWrites, Operator.bare_setSlot]
    exact .rebound (Graph.getOperator?_bare_of_some hp) (Graph.getVariable?_bare_of_some hw)
      (Graph.getVariable?_bare_of_some hx) hs hne hfree

/-- Asking for a slot of the bare graph is asking for a slot of the graph. -/
theorem SlotOf.bare {out : Outcome String} (h : SlotOf g role o v out) :
    SlotOf g.bare role o v (out.bare id) := by
  cases h with
  | found hs => exact .found (by rwa [Graph.slotOf_bare])
  | noSlot hs => exact .noSlot (by rwa [Graph.slotOf_bare])

/-- An operator leaves the bare graph as it leaves the graph. -/
theorem RemoveOperator.bare {out : Outcome Operator} (h : RemoveOperator g o out) :
    RemoveOperator g.bare o (out.bare Operator.bare) := by
  cases h with
  | noOperator hp => exact .noOperator (Graph.getOperator?_bare_of_none hp)
  | removed hp =>
    rw [Outcome.bare_done, Graph.map_bare_detachWrites]
    exact .removed (Graph.getOperator?_bare_of_some hp)

/-- A variable leaves the bare graph as it leaves the graph. -/
theorem RemoveVariable.bare {out : Outcome Variable} (h : RemoveVariable g v out) :
    RemoveVariable g.bare v (out.bare Variable.bare) := by
  cases h with
  | noVariable hw => exact .noVariable (Graph.getVariable?_bare_of_none hw)
  | inUse hw hl => exact .inUse (Graph.getVariable?_bare_of_some hw) hl
  | removed hw hl =>
    rw [Outcome.bare_done]
    exact .removed (Graph.getVariable?_bare_of_some hw) hl

/-- Whether a variable is added to the bare graph, and under which id, is decided as for the graph.
The new variable carries a shape in both. -/
theorem AddVariable.bare {shape : Shape} {order : AxisOrder} {out : Outcome VariableId}
    (h : AddVariable g shape order out) :
    ∃ out', AddVariable g.bare shape order out' ∧
      (out'.map .variableId).essence = (out.map .variableId).essence := by
  cases h with
  | impossible hw => exact ⟨_, .impossible hw, Prod.ext rfl g.bare_bare⟩
  | exhausted hw hn => exact ⟨_, .exhausted hw hn, Prod.ext rfl g.bare_bare⟩
  | added hw hn => exact ⟨_, .added hw hn, Prod.ext rfl (g.bare_written_bare _)⟩

/-- Whether an operator is added to the bare graph, and under which id, is decided as for the graph.
The new operator carries a name and parameters in both. -/
theorem AddOperator.bare {name : String} {parameters : SortedMap String Parameter}
    {out : Outcome OperatorId} (h : AddOperator g name parameters out) :
    ∃ out', AddOperator g.bare name parameters out' ∧
      (out'.map .operatorId).essence = (out.map .operatorId).essence := by
  cases h with
  | exhausted hn => exact ⟨_, .exhausted hn, Prod.ext rfl g.bare_bare⟩
  | added hn => exact ⟨_, .added hn, Prod.ext rfl (g.bare_written_bare _)⟩

/-- A call on nodes and links does to the bare graph what it does to the graph, up to what nodes
carry. -/
theorem Performs.bare {c : Call} {out : Outcome Answer} (h : Performs g c out)
    (hc : c.isTopology = true) : ∃ out', Performs g.bare c out' ∧ out'.essence = out.essence := by
  cases h with
  | addVariable h =>
    obtain ⟨out', h', hessence⟩ := h.bare
    exact ⟨_, .addVariable h', hessence⟩
  | addOperator h =>
    obtain ⟨out', h', hessence⟩ := h.bare
    exact ⟨_, .addOperator h', hessence⟩
  | bind h => exact ⟨_, .bind h.bare, Outcome.essence_map_bare fun _ => rfl⟩
  | unbind h => exact ⟨_, .unbind h.bare, Outcome.essence_map_bare fun _ => rfl⟩
  | rebindInput h => exact ⟨_, .rebindInput h.bare, Outcome.essence_map_bare fun _ => rfl⟩
  | rebindOutput h => exact ⟨_, .rebindOutput h.bare, Outcome.essence_map_bare fun _ => rfl⟩
  | slotOf h => exact ⟨_, .slotOf h.bare, Outcome.essence_map_bare fun _ => rfl⟩
  | removeOperator h => exact ⟨_, .removeOperator h.bare, Outcome.essence_map_bare fun _ => rfl⟩
  | removeVariable h => exact ⟨_, .removeVariable h.bare, Outcome.essence_map_bare fun _ => rfl⟩
  | unlinked => exact ⟨_, .unlinked, Outcome.essence_ids g.unlinked_bare⟩
  | inputs => exact ⟨_, .inputs, Outcome.essence_ids (g.idsWhere_bare fun _ => rfl)⟩
  | outputs => exact ⟨_, .outputs, Outcome.essence_ids (g.idsWhere_bare fun _ => rfl)⟩
  | annotateVariable ha h => simp [Call.isTopology_of_annotation? ha] at hc
  | annotateOperator ha h => simp [Call.isTopology_of_annotation? ha] at hc
  | _ => cases hc

/-! ## Calls that leave the bare graph as it is -/

/-- Amending a variable leaves the bare graph as it is. -/
theorem AmendVariable.graph_bare {α : Type} {f : Variable → Except Failure Variable}
    {answer : Variable → α} {log : Variable → Variable → List LogEntry} {out : Outcome α}
    (h : AmendVariable g v f answer log out) (hf : ∀ {w w'}, f w = .ok w' → w.Amended w') :
    out.graph.bare = g.bare := by
  cases h with
  | noVariable hw => rfl
  | impossible hw he => rfl
  | @amended w w' hw hw' =>
    rw [Outcome.graph_done, Graph.bare_written, List.map_cons, List.map_nil, Write.bare,
      (hf hw').bare_eq]
    exact Graph.apply_putVariable_of_some (Graph.getVariable?_bare_of_some hw)

/-- Amending an operator leaves the bare graph as it is. -/
theorem AmendOperator.graph_bare {α : Type} {f : Operator → Operator} {answer : Operator → α}
    {out : Outcome α} (h : AmendOperator g o f answer out) (hf : ∀ p : Operator, p.Amended (f p)) :
    out.graph.bare = g.bare := by
  cases h with
  | noOperator hp => rfl
  | amended hp =>
    rw [Outcome.graph_done, Graph.bare_written, List.map_cons, List.map_nil, Write.bare,
      (hf _).bare_eq]
    exact Graph.apply_putOperator_of_some (Graph.getOperator?_bare_of_some hp)

/-- Reading the text of the snapshot leaves the bare graph as it is: floats are in parameters. -/
theorem Reload.graph_bare {out : Outcome Unit} (h : Reload g out) : out.graph.bare = g.bare := by
  cases h with
  | read hg =>
    show Graph.bare _ = _
    rw [Graph.eq_of_reload hg]
    exact g.bare_mapFloats _
  | unreadable hg => rfl

/-- A call that is not on nodes and links leaves the bare graph as it is. -/
theorem Performs.graph_bare {c : Call} {out : Outcome Answer} (h : Performs g c out)
    (hc : c.isTopology = false) : out.graph.bare = g.bare := by
  cases h with
  | reorder h => exact h.graph_bare .reordered
  | setElementType h => exact h.graph_bare fun hf => .retyped (Result.mapError_eq_ok.1 hf)
  | nameVariable h =>
    refine h.graph_bare fun hf => ?_
    obtain rfl := Except.ok.inj hf
    exact .renamed _
  | nameOperator h => exact h.graph_bare fun _ => .renamed _
  | annotateVariable ha h =>
    refine h.graph_bare fun hf => ?_
    obtain rfl := Except.ok.inj hf
    exact .annotated _
  | annotateOperator ha h => exact h.graph_bare fun _ => .annotated _
  | reload h => exact h.graph_bare
  | bind h => simp at hc
  | unbind h => simp at hc
  | slotOf h => simp at hc
  | _ => cases hc

end Rules

end TensorGraph
