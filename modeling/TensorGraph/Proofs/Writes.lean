import TensorGraph.Graph.Call
import TensorGraph.Proofs.Roles

/-!
# Writes and outcomes

A graph after some writes, looked at through its two arenas, and the two forms that the outcome of a
call takes: a call that fails leaves everything as it was (`Outcome.failed`), and a call that
succeeds leaves the graph that its writes make (`Outcome.done`).
-/

namespace TensorGraph

namespace Write

variable (g : Graph) (v v' : VariableId) (o o' : OperatorId) (w : Variable) (p : Operator)

/-- A stored variable is found under its id, and all others are found as before. -/
@[simp]
theorem getVariable?_putVariable :
    ((putVariable v w).apply g).getVariable? v' = if v' = v then some w else g.getVariable? v' :=
  g.vars.get?_insert v v' w

/-- A dropped variable is not found, and all others are found as before. -/
@[simp]
theorem getVariable?_dropVariable :
    ((dropVariable v).apply g).getVariable? v' = if v' = v then none else g.getVariable? v' :=
  g.vars.get?_erase v v'

/-- Storing an operator leaves the variables alone. -/
@[simp]
theorem getVariable?_putOperator :
    ((putOperator o p).apply g).getVariable? v = g.getVariable? v := rfl

/-- Dropping an operator leaves the variables alone. -/
@[simp]
theorem getVariable?_dropOperator :
    ((dropOperator o).apply g).getVariable? v = g.getVariable? v := rfl

/-- Counting variables leaves the variables alone. -/
@[simp]
theorem getVariable?_nextVariable :
    ((nextVariable v').apply g).getVariable? v = g.getVariable? v := rfl

/-- Counting operators leaves the variables alone. -/
@[simp]
theorem getVariable?_nextOperator :
    ((nextOperator o).apply g).getVariable? v = g.getVariable? v := rfl

/-- A stored operator is found under its id, and all others are found as before. -/
@[simp]
theorem getOperator?_putOperator :
    ((putOperator o p).apply g).getOperator? o' = if o' = o then some p else g.getOperator? o' :=
  g.ops.get?_insert o o' p

/-- A dropped operator is not found, and all others are found as before. -/
@[simp]
theorem getOperator?_dropOperator :
    ((dropOperator o).apply g).getOperator? o' = if o' = o then none else g.getOperator? o' :=
  g.ops.get?_erase o o'

/-- Storing a variable leaves the operators alone. -/
@[simp]
theorem getOperator?_putVariable :
    ((putVariable v w).apply g).getOperator? o = g.getOperator? o := rfl

/-- Dropping a variable leaves the operators alone. -/
@[simp]
theorem getOperator?_dropVariable :
    ((dropVariable v).apply g).getOperator? o = g.getOperator? o := rfl

/-- Counting variables leaves the operators alone. -/
@[simp]
theorem getOperator?_nextVariable :
    ((nextVariable v).apply g).getOperator? o = g.getOperator? o := rfl

/-- Counting operators leaves the operators alone. -/
@[simp]
theorem getOperator?_nextOperator :
    ((nextOperator o').apply g).getOperator? o = g.getOperator? o := rfl

end Write

namespace Graph

/-- The graph after some writes, one after the other. -/
def written (g : Graph) (writes : List Write) : Graph := writes.foldl Write.apply g

/-- Nothing written changes nothing. -/
@[simp]
theorem written_nil (g : Graph) : g.written [] = g := rfl

/-- The first write comes first. -/
@[simp]
theorem written_cons (g : Graph) (x : Write) (writes : List Write) :
    g.written (x :: writes) = (x.apply g).written writes := rfl

/-- Writes come one after the other. -/
theorem written_append (g : Graph) (xs ys : List Write) :
    g.written (xs ++ ys) = (g.written xs).written ys :=
  List.foldl_append

/-- Storing a variable that is there already changes nothing. -/
theorem apply_putVariable_of_some {g : Graph} {v : VariableId} {w : Variable}
    (h : g.getVariable? v = some w) : (Write.putVariable v w).apply g = g := by
  simp only [Write.apply, SortedMap.insert_of_get? h]

/-- Storing an operator that is there already changes nothing. -/
theorem apply_putOperator_of_some {g : Graph} {o : OperatorId} {p : Operator}
    (h : g.getOperator? o = some p) : (Write.putOperator o p).apply g = g := by
  simp only [Write.apply, SortedMap.insert_of_get? h]

/-- Of two variables stored under one id the second stays. -/
theorem written_putVariable_putVariable (g : Graph) (v : VariableId) (w w' : Variable) :
    (g.written [.putVariable v w]).written [.putVariable v w'] =
      g.written [.putVariable v w'] := by
  simp only [written_cons, written_nil, Write.apply, SortedMap.insert_insert]

/-- Of two operators stored under one id the second stays. -/
theorem written_putOperator_putOperator (g : Graph) (o : OperatorId) (p p' : Operator) :
    (g.written [.putOperator o p]).written [.putOperator o p'] =
      g.written [.putOperator o p'] := by
  simp only [written_cons, written_nil, Write.apply, SortedMap.insert_insert]

/-- Graphs with the same nodes that hand out the same ids next are equal. -/
theorem ext_get? {g g' : Graph} (hvars : ∀ v, g.getVariable? v = g'.getVariable? v)
    (hops : ∀ o, g.getOperator? o = g'.getOperator? o) (hv : g.nextVariable = g'.nextVariable)
    (ho : g.nextOperator = g'.nextOperator) : g = g' := by
  have hvars' : g.vars = g'.vars := SortedMap.ext_get? hvars
  have hops' : g.ops = g'.ops := SortedMap.ext_get? hops
  cases g
  congr

/-! ## Writing to many variables -/

/-- The writes that change the variables under some ids, where there are any. -/
def touches (f : Variable → Variable) : Graph → List VariableId → List Write
  | _, [] => []
  | g, v :: vs =>
    match g.getVariable? v with
    | some w => .putVariable v (f w) :: touches f ((Write.putVariable v (f w)).apply g) vs
    | none => touches f g vs

/-- The graph after the variables under some ids have been changed. -/
def touched (g : Graph) (f : Variable → Variable) (vs : List VariableId) : Graph :=
  g.written (g.touches f vs)

section

variable {f : Variable → Variable} {v : VariableId} {w : Variable} {vs : List VariableId}

/-- No change is made to no variables. -/
@[simp]
theorem touched_nil (g : Graph) : g.touched f [] = g := rfl

/-- The first of the variables is changed first, if it is there. -/
theorem touched_cons_of_some {g : Graph} (h : g.getVariable? v = some w) :
    g.touched f (v :: vs) = ((Write.putVariable v (f w)).apply g).touched f vs := by
  simp only [touched, touches, h, written_cons]

/-- A variable that is not there is passed over. -/
theorem touched_cons_of_none {g : Graph} (h : g.getVariable? v = none) :
    g.touched f (v :: vs) = g.touched f vs := by
  simp only [touched, touches, h]

/-- A change that can be repeated without effect is made to the variables under the given ids, and
to no others. -/
theorem getVariable?_touched (hf : ∀ w, f (f w) = f w) (g : Graph) (vs : List VariableId)
    (v : VariableId) :
    (g.touched f vs).getVariable? v =
      if v ∈ vs then (g.getVariable? v).map f else g.getVariable? v := by
  induction vs generalizing g with
  | nil => simp
  | cons u vs ih =>
    cases hu : g.getVariable? u with
    | none =>
      rw [touched_cons_of_none hu, ih]
      by_cases hv : v = u
      · subst hv
        simp [hu]
      · simp [hv]
    | some w =>
      rw [touched_cons_of_some hu, ih, Write.getVariable?_putVariable]
      by_cases hv : v = u
      · -- The variable may be listed again, which makes no difference.
        subst hv
        simp [hu, hf]
      · simp [hv]

/-- Changes of variables leave the operators and the counters alone. -/
theorem touched_eq (g : Graph) (f : Variable → Variable) (vs : List VariableId) :
    g.touched f vs = { g with vars := (g.touched f vs).vars } := by
  induction vs generalizing g with
  | nil => rfl
  | cons u vs ih =>
    cases hu : g.getVariable? u with
    | none =>
      rw [touched_cons_of_none hu]
      exact ih g
    | some w =>
      rw [touched_cons_of_some hu]
      exact ih ((Write.putVariable u (f w)).apply g)

/-- Changes of variables leave the operators alone. -/
@[simp]
theorem ops_touched (g : Graph) (f : Variable → Variable) (vs : List VariableId) :
    (g.touched f vs).ops = g.ops := by
  rw [touched_eq]

/-- Changes of variables leave the id of the next variable alone. -/
@[simp]
theorem nextVariable_touched (g : Graph) (f : Variable → Variable) (vs : List VariableId) :
    (g.touched f vs).nextVariable = g.nextVariable := by
  rw [touched_eq]

/-- Changes of variables leave the id of the next operator alone. -/
@[simp]
theorem nextOperator_touched (g : Graph) (f : Variable → Variable) (vs : List VariableId) :
    (g.touched f vs).nextOperator = g.nextOperator := by
  rw [touched_eq]

/-- Every operator is found as before. -/
@[simp]
theorem getOperator?_touched (g : Graph) (f : Variable → Variable) (vs : List VariableId)
    (o : OperatorId) : (g.touched f vs).getOperator? o = g.getOperator? o := by
  rw [touched_eq]
  rfl

end

end Graph

/-! ## Outcomes -/

namespace Outcome

variable {α β : Type}

/-- The outcome of a call that has failed and left everything as it was. -/
def failed (g : Graph) (e : Failure) : Outcome α := ⟨.error e, g, [], []⟩

/-- The outcome of a call that was refused. -/
abbrev refused (g : Graph) (e : GraphError) : Outcome α := failed g (.refused e)

/-- The outcome of a call that has made some writes and reports. -/
def done (g : Graph) (a : α) (writes : List Write) (log : List LogEntry) : Outcome α :=
  ⟨.ok a, g.written writes, writes, log⟩

/-- The outcome with a function applied to the answer. -/
def map (f : α → β) (x : Outcome α) : Outcome β := ⟨x.result.map f, x.graph, x.writes, x.log⟩

variable (g : Graph) (e : Failure) (a : α) (writes : List Write) (log : List LogEntry)

@[simp]
theorem result_failed : (failed g e : Outcome α).result = .error e := rfl

@[simp]
theorem graph_failed : (failed g e : Outcome α).graph = g := rfl

@[simp]
theorem result_done : (done g a writes log).result = .ok a := rfl

@[simp]
theorem graph_done : (done g a writes log).graph = g.written writes := rfl

@[simp]
theorem graph_map (f : α → β) (x : Outcome α) : (x.map f).graph = x.graph := rfl

@[simp]
theorem result_map (f : α → β) (x : Outcome α) : (x.map f).result = x.result.map f := rfl

/-- Two functions are applied to the answer one after the other. -/
theorem map_map {γ : Type} (f : α → β) (f' : β → γ) (x : Outcome α) :
    (x.map f).map f' = x.map fun a => f' (f a) := by
  unfold map
  cases x.result <;> rfl

end Outcome

namespace Edit

variable {α β : Type}

/-- A function is applied to the answer of an edit when it has one. -/
@[simp]
theorem run_map (f : α → β) (x : Edit α) (d : Draft) :
    (f <$> x).run d =
      match x.run d with
      | .ok a d => .ok (f a) d
      | .error e d => .error e d := by
  rw [map_eq_pure_bind, EStateM.run_bind]
  cases x.run d <;> rfl

/-- A function is applied to the answer of a call when it has one. -/
theorem perform_map (f : α → β) (x : Edit α) (g : Graph) :
    (f <$> x).perform g = (x.perform g).map f := by
  rw [perform, perform, run_map]
  cases x.run { graph := g } <;> rfl

/-- What a call does is what it does to a draft of the graph. -/
theorem perform_eq_done {x : Edit α} {g : Graph} {a : α} {writes : List Write}
    {log : List LogEntry}
    (h : x.run { graph := g } = .ok a ⟨g.written writes, writes, log⟩) :
    x.perform g = .done g a writes log := by
  rw [perform, h]
  rfl

/-- A call that fails before its first write has changed nothing. -/
theorem perform_eq_failed {x : Edit α} {g : Graph} {e : Failure}
    (h : x.run { graph := g } = .error e { graph := g }) : x.perform g = .failed g e := by
  rw [perform, h]
  rfl

/-- A call that follows every rule of a relation follows no others, if there is always a rule. -/
theorem perform_eq_iff {x : Edit α} {g : Graph} {rules : Outcome α → Prop} {out : Outcome α}
    (hrule : ∀ {out}, rules out → x.perform g = out) (hex : ∃ out, rules out) :
    x.perform g = out ↔ rules out := by
  refine ⟨fun h => ?_, hrule⟩
  obtain ⟨out', hout⟩ := hex
  rwa [← h, hrule hout]

/-- A question goes on with the answer of the graph, or ends the call. -/
@[simp]
theorem run_ask (f : Graph → Except GraphError α) (d : Draft) :
    (ask f).run d =
      match f d.graph with
      | .ok a => .ok a d
      | .error e => .error (.refused e) d := by
  cases h : f d.graph with
  | ok a => exact run_ask_of_ok h
  | error e => exact run_ask_of_error h

/-- Looking a variable up goes on with it, or ends the call. -/
@[simp]
theorem run_getVariable (v : VariableId) (d : Draft) :
    (getVariable v).run d =
      match d.graph.getVariable? v with
      | some w => .ok w d
      | none => .error (.refused (.unknownVariable v)) d := by
  rw [getVariable, run_ask, Graph.findVariable]
  cases d.graph.getVariable? v <;> rfl

/-- Looking an operator up goes on with it, or ends the call. -/
@[simp]
theorem run_getOperator (o : OperatorId) (d : Draft) :
    (getOperator o).run d =
      match d.graph.getOperator? o with
      | some p => .ok p d
      | none => .error (.refused (.unknownOperator o)) d := by
  rw [getOperator, run_ask, Graph.findOperator]
  cases d.graph.getOperator? o <;> rfl

/-- A question to the graph is answered without a change. -/
theorem perform_ask (f : Graph → Except GraphError α) (g : Graph) :
    (ask f).perform g = ⟨(f g).mapError .refused, g, [], []⟩ := by
  rw [perform, run_ask]
  cases f g <;> rfl

end Edit

end TensorGraph
