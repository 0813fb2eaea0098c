import TensorGraph.Proofs.Obtainable

/-!
# A stored variable is read when calls can build one like it

A variable can be built when some calls that add variables, change their order and change the type
of their elements leave one with its shape, its order and its type. What they leave is addressable,
since every call keeps all variables so, and an addressable variable is built by two calls: it is
added with its shape and order, as elements of four bytes, and is given its type
(`Addressable.buildable`). The reader of snapshots makes the same two checks, so that it reads what
can be built and nothing else (`ofJson_eq_of_fields`). A graph is read variable by variable, and is
rejected for the first one that cannot be built (`ofSnapshot_eq_of_fields`).
-/

namespace TensorGraph

open Stored Snapshot

/-! ## Building variables -/

/-- Whether a call adds a variable, changes the order of one or changes the type of its elements. -/
def Call.isShaping : Call → Bool
  | addVariable _ _ | reorder _ _ | setElementType _ _ => true
  | _ => false

/-- Some shaping calls make of the empty graph one that has a variable with the same shape, order
and type. -/
def Variable.Buildable (v : Variable) : Prop :=
  ∃ calls id w, (∀ c ∈ calls, Call.isShaping c = true) ∧
    (Graph.run ∅ calls).getVariable? id = some w ∧
    w.shape = v.shape ∧ w.order = v.order ∧ w.elementType = v.elementType

namespace Graph

variable {g : Graph} {v : VariableId} {w w' : Variable}

/-- A variable that can be created is stored under the next id. -/
theorem after_addVariable {shape : Shape} {order : AxisOrder} {next : VariableId}
    (hw : Variable.create g.nextVariable shape order = .ok w)
    (hnext : g.nextVariable.succ? = some next) :
    g.after (.addVariable shape order) =
      g.written [.nextVariable next, .putVariable g.nextVariable w] := by
  rw [after, perform_iff.2 (.addVariable (.added hw hnext))]
  rfl

/-- A variable whose elements can have another type is stored with that type. -/
theorem after_setElementType {t : ElementType} (hw : g.getVariable? v = some w)
    (hw' : w.setElementType t = .ok w') :
    g.after (.setElementType v t) = g.written [.putVariable v w'] := by
  rw [after, perform_setElementType_of_ok hw hw']
  rfl

end Graph

namespace Variable

variable {v w : Variable}

/-- An addressable variable is built by two calls. -/
theorem Addressable.buildable (h : v.Addressable) : v.Buildable := by
  obtain ⟨hpaired, hfour, hown⟩ := addressable_iff.1 h
  -- It is there with elements of four bytes first.
  have hcreate : create ⟨0⟩ v.shape v.order =
      .ok { id := ⟨0⟩, shape := v.shape, order := v.order } :=
    create_eq_ok.2 ⟨hpaired, hfour, rfl⟩
  have hadded := Graph.after_addVariable (g := ∅) hcreate rfl
  have hthere : (Graph.after ∅ (.addVariable v.shape v.order)).getVariable? ⟨0⟩ =
      some { id := ⟨0⟩, shape := v.shape, order := v.order } := by
    have hnext : (∅ : Graph).nextVariable = ⟨0⟩ := rfl
    rw [hadded, hnext]
    simp
  -- Then its elements get their type.
  have hset := Graph.after_setElementType hthere (setElementType_eq_ok.2 ⟨hown, rfl⟩)
  refine ⟨[.addVariable v.shape v.order, .setElementType ⟨0⟩ v.elementType], ⟨0⟩,
    { id := ⟨0⟩, shape := v.shape, order := v.order, elementType := v.elementType },
    by simp [Call.isShaping], ?_, rfl, rfl, rfl⟩
  show (Graph.after (Graph.after ∅ _) _).getVariable? ⟨0⟩ = _
  rw [hset]
  simp

/-- The variables that can be built are the addressable ones. -/
theorem buildable_iff_addressable : v.Buildable ↔ v.Addressable := by
  constructor
  · -- It does not matter which calls these are: all calls keep variables addressable.
    rintro ⟨calls, id, w, -, hw, hshape, horder, htype⟩
    have haddr : w.Addressable := (Graph.Obtainable.empty.run calls).addressable hw
    exact haddr.congr hshape.symm horder.symm htype.symm
  · exact Addressable.buildable

/-- A variable can be built when its shape goes with its order and has a zero, or has not too many
elements. -/
theorem buildable_iff :
    v.Buildable ↔ v.shape.length = v.order.rank ∧
      (0 ∈ v.shape ∨ v.shape.volume * max 4 v.elementType.byteSize.toNat ≤ 2 ^ 64 - 1) := by
  have hzero : 0 ∈ v.shape → v.shape.volume * max 4 v.elementType.byteSize.toNat ≤ 2 ^ 64 - 1 := by
    intro h
    rw [Shape.volume_eq_zero.2 h, Nat.zero_mul]
    exact Nat.zero_le _
  rw [buildable_iff_addressable, or_iff_right_of_imp hzero]
  exact ⟨fun h => ⟨h.paired, Nat.le_of_lt_succ h.fits⟩, fun h => ⟨h.1, Nat.lt_succ_of_le h.2⟩⟩

end Variable

/-! ## Reading variables -/

namespace Snapshot

variable {j : Json} {v : Variable}

/-- A variable is read from its fields as it is, or the first check that it does not pass rejects
it. -/
theorem ofJson_eq_of_fields (h : FieldsOf j v) :
    ofJson j = match v.rejection? with
      | none => .ok v
      | some e => .error (.impossible e) :=
  h.ofJson_eq.trans (Variable.restoreVariable_eq v)

/-- A variable is read from its fields exactly when it can be built. -/
theorem exists_ofJson_iff_buildable (h : FieldsOf j v) :
    (∃ w : Variable, ofJson j = .ok w) ↔ v.Buildable := by
  rw [Variable.buildable_iff_addressable, ← Variable.rejection?_eq_none, ofJson_eq_of_fields h]
  cases v.rejection? <;> simp

/-! ## Reading graphs -/

/-- The JSON value is a record with the fields of a graph. The variables are an object with one
member for each entry, named for its id, from which the fields of its variable can be read, and the
other fields can be read. -/
def GraphFieldsOf (j : Json) (entries : List (VariableId × Variable))
    (ops : SortedMap OperatorId Operator) (nextVariable : VariableId) (nextOperator : OperatorId) :
    Prop :=
  ∃ members operators variableId operatorId,
    j.fields? graphFields =
      some [some (.object members), some operators, some variableId, some operatorId] ∧
    List.Forall₂ (fun m e => idOfName? m.1 = some e.1 ∧ FieldsOf m.2 e.2) members entries ∧
    ofJson operators = .ok ops ∧ ofJson variableId = .ok nextVariable ∧
    ofJson operatorId = .ok nextOperator

/-- Every graph whose floats are finite has a snapshot with its fields, whatever its variables
are. -/
theorem graphFieldsOf_snapshot {g : Graph} (h : g.IsFinite) :
    GraphFieldsOf g.snapshot g.vars.toList g.ops g.nextVariable g.nextOperator := by
  refine ⟨_, _, _, _, rfl, ?_, LawfulStored.ofJson_toJson.2 ⟨rfl, fun _ _ hp => h.ops hp⟩,
    LawfulStored.ofJson_toJson.2 ⟨rfl, trivial⟩, LawfulStored.ofJson_toJson.2 ⟨rfl, trivial⟩⟩
  rw [List.forall₂_map_left_iff, List.forall₂_same]
  intro e he
  exact ⟨idOfName?_idName _, fieldsOf_toJson.2 ⟨rfl, h.vars (SortedMap.mem_toList.1 he)⟩⟩

/-- The members of the arena of variables are read one after the other, up to the first one that is
rejected. -/
theorem mapM_readEntry_eq {members : List (String × Json)} {entries : List (VariableId × Variable)}
    (h : List.Forall₂ (fun m e => idOfName? m.1 = some e.1 ∧ FieldsOf m.2 e.2) members entries) :
    members.mapM (readEntry idOfName?) = match entries.findSome? (·.2.rejection?) with
      | none => .ok entries
      | some e => .error (.impossible e) := by
  induction h with
  | nil => rfl
  | @cons m e members entries hfirst hrest ih =>
    have hread : readEntry idOfName? m =
        (ofJson m.2 : Except SnapshotError Variable).map fun w => (e.1, w) := by
      rw [readEntry, hfirst.1]
      cases (ofJson m.2 : Except SnapshotError Variable) <;> rfl
    -- The first member is rejected, or the others decide.
    rw [List.mapM_cons, hread, ofJson_eq_of_fields hfirst.2, ih, List.findSome?_cons]
    cases e.2.rejection? with
    | some r => rfl
    | none => cases entries.findSome? (·.2.rejection?) <;> rfl

variable {entries : List (VariableId × Variable)} {ops : SortedMap OperatorId Operator}
  {nextVariable : VariableId} {nextOperator : OperatorId}

/-- A graph is read from its fields, or the first of its variables that is rejected rejects it. -/
theorem ofSnapshot_eq_of_fields (h : GraphFieldsOf j entries ops nextVariable nextOperator) :
    Graph.ofSnapshot j = match entries.findSome? (·.2.rejection?) with
      | none => .ok ⟨.ofList entries, ops, nextVariable, nextOperator⟩
      | some e => .error (.impossible e) := by
  obtain ⟨members, operators, variableId, operatorId, hfields, hmembers, hops, hv, ho⟩ := h
  have harena : (ofJson (.object members) : Except SnapshotError (SortedMap VariableId Variable)) =
      (members.mapM (readEntry idOfName?)).map SortedMap.ofList := toMap_object _ _
  rw [Graph.ofSnapshot, ofJson_graph_eq hfields hops hv ho, harena, mapM_readEntry_eq hmembers]
  cases entries.findSome? (·.2.rejection?) <;> rfl

/-- A graph is read from its fields exactly when all of its variables can be built. -/
theorem exists_ofSnapshot_iff_buildable
    (h : GraphFieldsOf j entries ops nextVariable nextOperator) :
    (∃ g, Graph.ofSnapshot j = .ok g) ↔ ∀ e ∈ entries, e.2.Buildable := by
  have hall : (∀ e ∈ entries, e.2.Buildable) ↔ entries.findSome? (·.2.rejection?) = none := by
    rw [List.findSome?_eq_none_iff]
    exact forall₂_congr fun e _ => by
      rw [Variable.buildable_iff_addressable, Variable.rejection?_eq_none]
  rw [hall, ofSnapshot_eq_of_fields h]
  cases entries.findSome? (·.2.rejection?) <;> simp

/-- A stored variable that is not read keeps every graph that it is stored in from being read. -/
theorem not_ofSnapshot_of_member {members : List (String × Json)} {rest : List (Option Json)}
    (hfields : j.fields? graphFields = some (some (.object members) :: rest))
    {m : String × Json} (hm : m ∈ members) (hread : ∀ w : Variable, ofJson m.2 ≠ .ok w)
    (g : Graph) : Graph.ofSnapshot j ≠ .ok g := by
  intro hg
  obtain ⟨vars, _, _, _, hfields', hvars, -⟩ := ofJson_graph_eq_ok.1 hg
  -- There is one field of variables, and these are its members.
  obtain rfl : vars = .object members := by
    have hsame := hfields.symm.trans hfields'
    simp only [Option.some.injEq, List.cons.injEq] at hsame
    exact hsame.1.symm
  have harena : (members.mapM (readEntry idOfName?)).map SortedMap.ofList = .ok g.vars :=
    (toMap_object _ _).symm.trans hvars
  obtain ⟨entries, hentries, -⟩ := Result.map_eq_ok.1 harena
  obtain ⟨e, -, he⟩ := Result.exists_of_mapM_mem hentries hm
  -- The variable would have been read along with the others.
  obtain ⟨_, -, hvalue⟩ := Result.bind_eq_ok.1 he
  obtain ⟨w, hw, -⟩ := Result.bind_eq_ok.1 hvalue
  exact hread w hw

/-- Where its fields can be read one by one, a stored variable is read exactly when some calls that
add variables and change their order and type can build one with its shape, order and type: there is
one size for each axis, and the shape has a zero or not too many elements for its type and for the
default type. It is read as it is, or the first check that it does not pass is the reason. A stored
graph is read exactly when all of its variables can be built, or the first one that is rejected is
the reason, and however the rest of it is stored, it is not read when one of its variables is
not. -/
theorem reads_buildable :
    (∀ (j : Json) (v : Variable), FieldsOf j v →
      ((∃ w : Variable, ofJson j = .ok w) ↔ v.Buildable) ∧
      (v.Buildable ↔ v.shape.length = v.order.rank ∧
        (0 ∈ v.shape ∨ v.shape.volume * max 4 v.elementType.byteSize.toNat ≤ 2 ^ 64 - 1)) ∧
      ofJson j = match v.rejection? with
        | none => .ok v
        | some e => .error (.impossible e)) ∧
    (∀ (j : Json) (entries : List (VariableId × Variable)) (ops : SortedMap OperatorId Operator)
      (nextVariable : VariableId) (nextOperator : OperatorId),
      GraphFieldsOf j entries ops nextVariable nextOperator →
      ((∃ g, Graph.ofSnapshot j = .ok g) ↔ ∀ e ∈ entries, e.2.Buildable) ∧
      Graph.ofSnapshot j = match entries.findSome? (·.2.rejection?) with
        | none => .ok ⟨.ofList entries, ops, nextVariable, nextOperator⟩
        | some e => .error (.impossible e)) ∧
    ∀ (j : Json) (members : List (String × Json)) (rest : List (Option Json)) (m : String × Json),
      j.fields? graphFields = some (some (.object members) :: rest) → m ∈ members →
      (∀ w : Variable, ofJson m.2 ≠ .ok w) → ∀ g, Graph.ofSnapshot j ≠ .ok g := by
  refine ⟨fun j v h => ?_, fun j entries ops nextVariable nextOperator h => ?_,
    fun j members rest m hfields hm hread g => ?_⟩
  · exact ⟨exists_ofJson_iff_buildable h, Variable.buildable_iff, ofJson_eq_of_fields h⟩
  · exact ⟨exists_ofSnapshot_iff_buildable h, ofSnapshot_eq_of_fields h⟩
  · exact not_ofSnapshot_of_member hfields hm hread g

/-- The least size with which elements of four bytes take too many bytes. -/
def quarter : UInt64 := 4611686018427387904

/-- The least size with which elements of eight bytes take too many bytes. -/
def eighth : UInt64 := 2305843009213693952

/-- A variable with links and a name. -/
def longVariable (size : UInt64) (t : ElementType) : Variable where
  id := ⟨7⟩
  name := some "x"
  shape := [size]
  order := .c
  elementType := t
  consumers := .ofList [⟨3⟩]
  producer := some ⟨4⟩

/-- A graph with three variables, of which the first one can be built. -/
def longGraph : Graph where
  vars := .ofList [(⟨0⟩, longVariable eighth .float32), (⟨1⟩, longVariable eighth .float64),
    (⟨2⟩, longVariable quarter .uint8)]

/-- At the bound a variable can be built with elements of four bytes and not of eight, and one twice
as long cannot be built even with elements of one, since it would have elements of four at first. Of
these three in a graph, the second one is the reason that the graph is not read. A graph with a
variable that is null is not read either. -/
theorem reads_buildable_long :
    (longVariable eighth .float32).Buildable ∧
    ofJson (toJson (longVariable eighth .float32)) = .ok (longVariable eighth .float32) ∧
    ¬(longVariable eighth .float64).Buildable ∧
    (ofJson (toJson (longVariable eighth .float64)) : Except SnapshotError Variable) =
      .error (.impossible (.sizeOverflow [eighth] .float64)) ∧
    (ofJson (toJson (longVariable quarter .uint8)) : Except SnapshotError Variable) =
      .error (.impossible (.sizeOverflow [quarter] .float32)) ∧
    Graph.ofSnapshot longGraph.snapshot =
      .error (.impossible (.sizeOverflow [eighth] .float64)) ∧
    ∀ g, Graph.ofSnapshot (.object [("variables", .object [("0", .null)])]) ≠ .ok g := by
  obtain ⟨hvariable, hgraph, hmember⟩ := reads_buildable
  have hblank : Annotations.blank.IsFinite := by decide
  have hfields : ∀ size t, FieldsOf (toJson (longVariable size t)) (longVariable size t) :=
    fun size t => fieldsOf_toJson.2 ⟨rfl, hblank⟩
  -- What the checks say of the three variables, and of the graph that has them all.
  have hfour : (longVariable eighth .float32).rejection? = none := by decide
  have height : (longVariable eighth .float64).rejection? =
      some (.sizeOverflow [eighth] .float64) := by decide
  have hone : (longVariable quarter .uint8).rejection? =
      some (.sizeOverflow [quarter] .float32) := by decide
  have hfirst : longGraph.vars.toList.findSome? (·.2.rejection?) =
      some (.sizeOverflow [eighth] .float64) := by decide
  obtain ⟨-, hbuild, hread⟩ := hvariable _ _ (hfields eighth .float32)
  obtain ⟨-, hbuild', hread'⟩ := hvariable _ _ (hfields eighth .float64)
  obtain ⟨-, -, hread''⟩ := hvariable _ _ (hfields quarter .uint8)
  obtain ⟨-, hreadGraph⟩ := hgraph _ _ _ _ _ (graphFieldsOf_snapshot (g := longGraph) (by decide))
  rw [hfour] at hread
  rw [height] at hread'
  rw [hone] at hread''
  rw [hfirst] at hreadGraph
  exact ⟨hbuild.2 (by decide), hread, fun h => absurd (hbuild'.1 h) (by decide), hread', hread'',
    hreadGraph, hmember _ _ _ ("0", .null) rfl List.mem_cons_self fun w hw => nomatch hw⟩

end Snapshot

end TensorGraph
