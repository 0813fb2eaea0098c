import TensorGraph.Proofs.Step

/-!
# Calls that fail leave no trace

An edit that fails keeps what it has written by then, so it takes a proof that the calls do not. By
its rules a call fails before its first write or not at all (`ends_perform`).

What this says about the inside of a call is drawn out with `Edit.Asks`: an edit comes to a question
to the graph while its draft is such and such. This is about what an edit does and not about how it
is written down, so that it means something only together with a draft that is known. A question
without an answer ends the edit with the draft as it stands (`Asks.run_eq_error`). The draft of a
failed call has no writes, so every question that a call comes to after its first write has an
answer. The calls that put one variable in place of another are the ones that come to such questions
(`asks_rebind`): they look both ends of the new link up when the slot and the old variable have been
written, which is the draft `Graph.midway`, and only the new variable is left to be written then
(`exists_of_rebind`).
-/

namespace TensorGraph

namespace Edit

variable {α β γ : Type} {f : Graph → Except GraphError β} {d e : Draft}

/-- An edit that starts on one draft comes to the question `f` when the draft is `e`. -/
inductive Asks {β : Type} (f : Graph → Except GraphError β) (e : Draft) :
    {α : Type} → Edit α → Draft → Prop
  /-- The edit is the question. -/
  | here : Asks f e (ask f) e
  /-- The first of two steps comes to it. -/
  | first {α γ : Type} {x : Edit α} {k : α → Edit γ} {d : Draft} (h : Asks f e x d) :
    Asks f e (x >>= k) d
  /-- The second of two steps comes to it. -/
  | later {α γ : Type} {x : Edit α} {k : α → Edit γ} {d d' : Draft} {a : α}
    (hx : x.run d = .ok a d') (h : Asks f e (k a) d') : Asks f e (x >>= k) d

/-- A question without an answer ends the edit with the draft as it stands. -/
theorem Asks.run_eq_error {x : Edit α} {reason : GraphError} (h : Asks f e x d)
    (hf : f e.graph = .error reason) : x.run d = .error (.refused reason) e := by
  induction h with
  | here => exact run_ask_of_error hf
  | first h ih => rw [EStateM.run_bind, ih]
  | later hx h ih =>
    rw [EStateM.run_bind, hx]
    exact ih

/-- Applying a function to the answer asks nothing more. -/
theorem Asks.map {x : Edit α} (h : Asks f e x d) (k : α → γ) : Asks f e (k <$> x) d := by
  rw [map_eq_pure_bind]
  exact h.first

/-- Looking both ends of a link up asks for the operator. -/
theorem asks_getEnds_operator (o : OperatorId) (v : VariableId) (d : Draft) :
    Asks (·.findOperator o) d (getEnds o v) d :=
  .first .here

/-- Looking both ends of a link up asks for the variable when the operator is there. -/
theorem asks_getEnds_variable {o : OperatorId} {p : Operator}
    (hp : d.graph.getOperator? o = some p) (v : VariableId) :
    Asks (·.findVariable v) d (getEnds o v) d := by
  have hrun : (getOperator o).run d = .ok p d := by
    rw [run_getOperator, hp]
  exact .later hrun (.first .here)

/-- Both ends of a link are found when they are there. -/
theorem run_getEnds_of_some {o : OperatorId} {v : VariableId} {p : Operator} {w : Variable}
    (hp : d.graph.getOperator? o = some p) (hw : d.graph.getVariable? v = some w) :
    (getEnds o v).run d = .ok (p, w) d := by
  simp [getEnds, hp, hw]

end Edit

/-- Puts one variable in place of another on one side of an operator. -/
def Call.rebind : Role → OperatorId → VariableId → VariableId → Call
  | .input => rebindInput
  | .output => rebindOutput

namespace Graph

variable {g : Graph} {role : Role} {o : OperatorId} {old new : VariableId} {slot : String}
  {p : Operator} {w x : Variable}

/-- What a call has written when the slot of the operator, which is `p` by now, and the variable
that leaves the slot are written, and the variable that takes its place is not. -/
def midway (g : Graph) (role : Role) (o : OperatorId) (p : Operator) (old : VariableId)
    (w : Variable) : Draft :=
  let writes := .putOperator o p :: Rules.releaseWrites role o p old w
  { graph := g.written writes, writes }

/-- The operator is there midway. -/
theorem getOperator?_midway : (g.midway role o p old w).graph.getOperator? o = some p := by
  simp [midway]

/-- Putting one variable in place of another asks midway whatever looking both ends of the new link
up asks. -/
theorem asks_rebind (hp : g.getOperator? o = some p) (hw : g.getVariable? old = some w)
    (hx : g.getVariable? new = some x) (hs : p.slot? role old = some slot) (hne : old ≠ new)
    (hfree : role = .output → x.producer = none) {β : Type} {f : Graph → Except GraphError β}
    (hf : Edit.Asks f (g.midway role o (p.setSlot role slot new) old w) (Edit.getEnds o new)
      (g.midway role o (p.setSlot role slot new) old w)) :
    Edit.Asks f (g.midway role o (p.setSlot role slot new) old w)
      (Call.rebind role o old new).edit { graph := g } := by
  have hnew : (Edit.getVariable new).run { graph := g } = .ok x { graph := g } := by
    rw [Edit.run_getVariable, hx]
  have hask : (Edit.ask (·.slotOf role o old)).run { graph := g } = .ok slot { graph := g } :=
    Edit.run_ask_of_ok (slotOf_eq_ok.2 ⟨w, p, hw, hp, hs⟩)
  have hends : (Edit.getEnds o old).run { graph := g } = .ok (p, w) { graph := g } :=
    Edit.run_getEnds_of_some hp hw
  cases role with
  | input =>
    refine .map ?_ _
    refine .later hnew (.later hask ?_)
    rw [if_neg hne]
    refine .later hends (.later (Edit.run_write _ _) ?_)
    exact .later (Edit.run_releaseInput _ _ _ _ _) (.first hf)
  | output =>
    refine .map ?_ _
    refine .later hask ?_
    rw [if_neg hne]
    refine .later hnew ?_
    rw [hfree rfl]
    refine .later hends (.later (Edit.run_write _ _) ?_)
    exact .later (Edit.run_write _ _) (.first hf)

/-- Where one variable has been put in place of another, both were there, and so was the slot. Of
what the call has written, only the new variable was not written midway. -/
theorem exists_of_rebind {a : Answer} (h : (g.perform (.rebind role o old new)).result = .ok a)
    (hne : old ≠ new) :
    ∃ slot p w x, g.getOperator? o = some p ∧ g.getVariable? old = some w ∧
      g.getVariable? new = some x ∧ p.slot? role old = some slot ∧
      (role = .output → x.producer = none) ∧
      (g.perform (.rebind role o old new)).writes =
        (g.midway role o (p.setSlot role slot new) old w).writes ++
          [.putVariable new (x.join role o)] := by
  cases role with
  | input =>
    have hcall : g.perform (.rebind .input o old new) =
        ((Edit.rebindInput o old new).perform g).map fun _ => .done := Edit.perform_map _ _ g
    rw [hcall] at h ⊢
    generalize hout : (Edit.rebindInput o old new).perform g = out at h ⊢
    cases Edit.perform_rebindInput.1 hout with
    | noVariable hx => cases h
    | noSlot hx hs => cases h
    | same hx hs he => exact absurd he hne
    | rebound hp hw hx hs _ => exact ⟨_, _, _, _, hp, hw, hx, hs, (fun hr => by cases hr), rfl⟩
  | output =>
    have hcall : g.perform (.rebind .output o old new) =
        ((Edit.rebindOutput o old new).perform g).map fun _ => .done := Edit.perform_map _ _ g
    rw [hcall] at h ⊢
    generalize hout : (Edit.rebindOutput o old new).perform g = out at h ⊢
    cases Edit.perform_rebindOutput.1 hout with
    | noSlot hs => cases h
    | same hs he => exact absurd he hne
    | noVariable hs _ hx => cases h
    | conflict hs _ hx hq => cases h
    | rebound hp hw hx hs _ hfree => exact ⟨_, _, _, _, hp, hw, hx, hs, fun _ => hfree, rfl⟩

/-- A call leaves the graph that its writes make. -/
theorem Ends.graph_eq_written {α : Type} {out : Outcome α} (h : g.Ends out) :
    out.graph = g.written out.writes := by
  cases h with
  | failed e => rfl
  | done a log hs => rfl

/-- A question that a call comes to after its first write has an answer. -/
theorem exists_answer_of_writes {c : Call} {β : Type} {f : Graph → Except GraphError β} {d : Draft}
    (h : Edit.Asks f d c.edit { graph := g }) (hd : d.writes ≠ []) : ∃ b, f d.graph = .ok b := by
  cases hf : f d.graph with
  | ok b => exact ⟨b, rfl⟩
  | error reason =>
    -- Without an answer the call would end with the writes of the draft; a failed call has none.
    have hperform : g.perform c = ⟨.error (.refused reason), d.graph, d.writes, d.log⟩ := by
      rw [perform, Edit.perform, h.run_eq_error hf]
    have hresult : (g.perform c).result = .error (.refused reason) := by
      rw [hperform]
    have hfailed := (ends_perform g c).eq_failed hresult
    rw [hperform] at hfailed
    exact absurd (congrArg Outcome.writes hfailed) hd

/-- Where the ids of the variables are used up, adding one fails, and it does so for that reason
unless there is no such variable anyway. -/
theorem perform_addVariable_of_exhausted (hn : g.nextVariable.succ? = none) (shape : Shape)
    (order : AxisOrder) :
    ∃ e, g.perform (.addVariable shape order) = .failed g e ∧
      ∀ w, Variable.create g.nextVariable shape order = .ok w → e = .fault .counterExhausted := by
  rw [perform, Call.edit, Edit.perform_map]
  cases hw : Variable.create g.nextVariable shape order with
  | ok w =>
    rw [Edit.perform_addVariable.2 (.exhausted hw hn)]
    exact ⟨_, rfl, fun _ _ => rfl⟩
  | error e =>
    rw [Edit.perform_addVariable.2 (.impossible hw)]
    exact ⟨_, rfl, fun _ hok => by cases hok⟩

/-- Where the ids of the operators are used up, adding one fails. -/
theorem perform_addOperator_of_exhausted (hn : g.nextOperator.succ? = none) (name : String)
    (parameters : SortedMap String Parameter) :
    g.perform (.addOperator name parameters) = .failed g (.fault .counterExhausted) := by
  rw [perform, Call.edit, Edit.perform_map, Edit.perform_addOperator.2 (.exhausted hn)]
  rfl

/-- On every graph, whatever its nodes say about each other, a call leaves the graph that its writes
make, and a call that fails has written and reported nothing. A question that a call comes to after
its first write has an answer. Putting one variable in place of another comes to such questions: it
looks the operator and the new variable up when the slot and the old variable have been written, and
only the new variable is written after that. Adding a node where the ids are used up fails. -/
theorem failure_leaves_no_trace (g : Graph) :
    (∀ c, g.after c = g.written (g.perform c).writes) ∧
    (∀ c e, (g.perform c).result = .error e →
      (g.perform c).writes = [] ∧ (g.perform c).log = [] ∧ g.after c = g) ∧
    (∀ (c : Call) (β : Type) (f : Graph → Except GraphError β) (d : Draft),
      Edit.Asks f d c.edit { graph := g } → d.writes ≠ [] → ∃ b, f d.graph = .ok b) ∧
    (∀ role o old new, (g.perform (.rebind role o old new)).result = .ok .done → old ≠ new →
      ∃ slot p w x, g.getOperator? o = some p ∧ g.getVariable? old = some w ∧
        g.getVariable? new = some x ∧ p.slot? role old = some slot ∧
        let d := g.midway role o (p.setSlot role slot new) old w
        (g.perform (.rebind role o old new)).writes =
          d.writes ++ [.putVariable new (x.join role o)] ∧
        d.writes ≠ [] ∧
        Edit.Asks (·.findOperator o) d (Call.rebind role o old new).edit { graph := g } ∧
        Edit.Asks (·.findVariable new) d (Call.rebind role o old new).edit { graph := g }) ∧
    (∀ shape order, g.nextVariable.toNat + 1 = UInt64.size →
      g.after (.addVariable shape order) = g ∧
      ∃ e, (g.perform (.addVariable shape order)).result = .error e ∧
        ∀ w, Variable.create g.nextVariable shape order = .ok w → e = .fault .counterExhausted) ∧
    ∀ name parameters, g.nextOperator.toNat + 1 = UInt64.size →
      g.after (.addOperator name parameters) = g ∧
      (g.perform (.addOperator name parameters)).result = .error (.fault .counterExhausted) := by
  refine ⟨fun c => (ends_perform g c).graph_eq_written, fun c e he => ?_,
    fun c β f d h hd => exists_answer_of_writes h hd, fun role o old new hok hne => ?_,
    fun shape order hlast => ?_, fun name parameters hlast => ?_⟩
  · have hfailed := (ends_perform g c).eq_failed he
    refine ⟨?_, ?_, after_of_error he⟩
    · rw [hfailed]
      rfl
    · rw [hfailed]
      rfl
  · obtain ⟨slot, p, w, x, hp, hw, hx, hs, hfree, hwrites⟩ := exists_of_rebind hok hne
    refine ⟨slot, p, w, x, hp, hw, hx, hs, hwrites, List.cons_ne_nil _ _, ?_, ?_⟩
    · exact asks_rebind hp hw hx hs hne hfree (Edit.asks_getEnds_operator o new _)
    · exact asks_rebind hp hw hx hs hne hfree
        (Edit.asks_getEnds_variable getOperator?_midway new)
  · obtain ⟨e, hfailed, hreason⟩ :=
      perform_addVariable_of_exhausted (Id.succ?_eq_none.2 hlast) shape order
    unfold after
    rw [hfailed]
    exact ⟨rfl, e, rfl, hreason⟩
  · unfold after
    rw [perform_addOperator_of_exhausted (Id.succ?_eq_none.2 hlast)]
    exact ⟨rfl, rfl⟩

/-- A variable that names a producer. -/
def produced : Variable where
  id := ⟨1⟩
  shape := [4]
  order := .c
  producer := some ⟨5⟩

/-- An operator that reads and writes one variable. -/
def looped : Operator where
  id := ⟨0⟩
  name := "Add"
  inputs := .ofList [("a", ⟨0⟩)]
  outputs := .ofList [("y", ⟨0⟩)]

/-- A graph in which that variable does not know of the operator, the producer of the other one is
not there, and all ids are used up. -/
def torn : Graph where
  vars := .ofList [(⟨0⟩, { id := ⟨0⟩, shape := [4], order := .c }), (⟨1⟩, produced)]
  ops := .ofList [(⟨0⟩, looped)]
  nextVariable := ⟨18446744073709551615⟩
  nextOperator := ⟨18446744073709551615⟩

/-- On the torn graph a conflict leaves no trace and no node can be added. Putting one variable in
place of another finds the new one when it looks it up again, with the slot `a` and the old variable
written. -/
theorem failure_leaves_no_trace_torn :
    ((torn.perform (.rebindOutput ⟨0⟩ ⟨0⟩ ⟨1⟩)).result =
        .error (.refused (.outputConflict ⟨1⟩ ⟨5⟩)) ∧
      (torn.perform (.rebindOutput ⟨0⟩ ⟨0⟩ ⟨1⟩)).writes = [] ∧
      torn.after (.rebindOutput ⟨0⟩ ⟨0⟩ ⟨1⟩) = torn) ∧
    ((torn.perform (.rebindInput ⟨0⟩ ⟨0⟩ ⟨1⟩)).result = .ok .done ∧
      ∃ w x, torn.getVariable? ⟨0⟩ = some w ∧
        let d := torn.midway .input ⟨0⟩ (looped.setSlot .input "a" ⟨1⟩) ⟨0⟩ w
        d.writes ≠ [] ∧
        Edit.Asks (·.findVariable ⟨1⟩) d (Call.rebindInput ⟨0⟩ ⟨0⟩ ⟨1⟩).edit { graph := torn } ∧
        d.graph.findVariable ⟨1⟩ = .ok x) ∧
    torn.after (.addVariable [4] .c) = torn ∧
    (torn.perform (.addOperator "Add" ∅)).result = .error (.fault .counterExhausted) := by
  obtain ⟨-, hfailed, hanswer, hrebind, hvariable, hoperator⟩ := failure_leaves_no_trace torn
  have hconflict : (torn.perform (.rebindOutput ⟨0⟩ ⟨0⟩ ⟨1⟩)).result =
      .error (.refused (.outputConflict ⟨1⟩ ⟨5⟩)) := by decide
  have hok : (torn.perform (.rebind .input ⟨0⟩ ⟨0⟩ ⟨1⟩)).result = .ok .done := by decide
  obtain ⟨hwrites, -, hafter⟩ := hfailed _ _ hconflict
  obtain ⟨slot, p, w, x, hp, hw, -, hs, -, hd, -, hasks⟩ :=
    hrebind .input ⟨0⟩ ⟨0⟩ ⟨1⟩ hok (by decide)
  have hlooped : torn.getOperator? ⟨0⟩ = some looped := by decide
  obtain rfl : looped = p := Option.some.inj (hlooped.symm.trans hp)
  have hslot : looped.slot? .input ⟨0⟩ = some "a" := by decide
  obtain rfl : "a" = slot := Option.some.inj (hslot.symm.trans hs)
  obtain ⟨x', hx'⟩ := hanswer _ _ _ _ hasks hd
  exact ⟨⟨hconflict, hwrites, hafter⟩, ⟨hok, w, x', hw, hd, hasks, hx'⟩,
    (hvariable [4] .c (by decide)).1, (hoperator "Add" ∅ (by decide)).2⟩

end Graph

end TensorGraph
