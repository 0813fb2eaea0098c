import TensorGraph.Proofs.Independence

/-!
# Links that are asked for together

A request asks for a variable to be put into a slot. What becomes of it is decided by what the slot
holds and, for an output slot, by the producer that the variable has (`result_request`). A request
that is granted changes this for itself alone, as long as no other one asks for the same slot and no
other one asks for a producer of the same variable: such requests are apart. Requests that are apart
are independent calls (`Apart.independent`), so a list of them can be worked off in any order.
-/

namespace TensorGraph

/-- A slot that is to take a variable. -/
structure Request where
  /-- The side of the operator. -/
  role : Role
  /-- The operator. -/
  o : OperatorId
  /-- The slot. -/
  slot : String
  /-- The variable. -/
  v : VariableId
deriving DecidableEq

namespace Request

/-- The call that makes a request. -/
def call (x : Request) : Call := .bind x.role x.o x.slot x.v

/-- The slot that is asked for. -/
def target (x : Request) : Role × OperatorId × String := (x.role, x.o, x.slot)

/-- Whether a producer is asked for. -/
def isOutput (x : Request) : Bool := decide (x.role = .output)

/-- The requests ask for different slots, and not both for a producer of one variable. -/
structure Apart (x y : Request) : Prop where
  /-- The slots are different. -/
  target : x.target ≠ y.target
  /-- The variables that are to be written are different. -/
  written : x.isOutput → y.isOutput → x.v ≠ y.v

/-- What becomes of a request: `content?` is what the slot of the operator holds, if there is the
operator, and `rival?` is the producer that is in the way, if there is the variable. -/
def answer (x : Request) : (content? : Option (Option VariableId)) →
    (rival? : Option (Option OperatorId)) → Except Failure Answer
  | none, _ => .error (.refused (.unknownOperator x.o))
  | some _, none => .error (.refused (.unknownVariable x.v))
  | some (some u), some _ =>
    if u = x.v then .ok .done else .error (.refused (.slotOccupied x.o x.slot u))
  | some none, some (some q) => .error (.refused (.outputConflict x.v q))
  | some none, some none => .ok .done

/-- What becomes of an operator when the request is granted. -/
def fill (x : Request) (q : OperatorId) (p : Operator) : Operator :=
  if q = x.o then p.setSlot x.role x.slot x.v else p

/-- What becomes of a variable when the request is granted. -/
def note (x : Request) (u : VariableId) (w : Variable) : Variable :=
  if u = x.v then w.join x.role x.o else w

variable {x y : Request}

/-- Requests that are apart fill their slots in either order. -/
theorem Apart.fill_comm (h : x.Apart y) (q : OperatorId) (p : Operator) :
    y.fill q (x.fill q p) = x.fill q (y.fill q p) := by
  unfold fill
  split
  · next hy =>
    split
    · next hx =>
      have hslot : (x.role, x.slot) ≠ (y.role, y.slot) := by
        intro heq
        obtain ⟨hrole, hslot⟩ := Prod.mk.inj heq
        exact h.target (Prod.ext hrole (Prod.ext (hx.symm.trans hy) hslot))
      exact Operator.setSlot_comm hslot
    · rfl
  · rfl

/-- Requests that are apart note their links in either order. -/
theorem Apart.note_comm (h : x.Apart y) (u : VariableId) (w : Variable) :
    y.note u (x.note u w) = x.note u (y.note u w) := by
  unfold note
  split
  · next hy =>
    split
    · next hx =>
      have hrole : x.role = .output → y.role ≠ .output := fun hxo hyo =>
        h.written (decide_eq_true hxo) (decide_eq_true hyo) (hx.symm.trans hy)
      exact w.join_comm _ _ hrole
    · rfl
  · rfl

end Request

namespace Graph

/-- What the slot of a request holds, if there is the operator. -/
def content? (g : Graph) (x : Request) : Option (Option VariableId) :=
  (g.getOperator? x.o).map fun p => (p.slots x.role).get? x.slot

/-- The producer that a request finds in its way, if there is the variable. -/
def rival? (g : Graph) (x : Request) : Option (Option OperatorId) :=
  (g.getVariable? x.v).map fun w => if x.isOutput then w.producer else none

/-- The slot of the request is empty, and nothing is in the way. -/
structure Grants (g : Graph) (x : Request) : Prop where
  /-- The operator is there, with an empty slot. -/
  vacant : g.content? x = some none
  /-- The variable is there, without a producer if it is to have one. -/
  free : g.rival? x = some none

variable {g : Graph} {x y : Request} {p : Operator} {w : Variable}

/-! ## One request -/

/-- A request finds what the slot of its operator holds. -/
theorem content?_of_some (hp : g.getOperator? x.o = some p) :
    g.content? x = some ((p.slots x.role).get? x.slot) := by
  rw [content?, hp, Option.map_some]

/-- Where a request for an output finds its variable without a producer, nothing is in the way of
it, and nothing ever is in the way of a request for an input. -/
theorem rival?_eq_some_none (hw : g.getVariable? x.v = some w) :
    g.rival? x = some none ↔ (x.role = .output → w.producer = none) := by
  rw [rival?, hw, Option.map_some, Option.some.injEq]
  unfold Request.isOutput
  simp

/-- A request for an output finds the producer of its variable in its way. -/
theorem rival?_of_output (hr : x.role = .output) (hw : g.getVariable? x.v = some w) :
    g.rival? x = some w.producer := by
  rw [rival?, hw, Option.map_some, Request.isOutput, hr]
  rfl

/-- A request for a variable that is not there finds no one in its way. -/
theorem rival?_eq_none (hw : g.getVariable? x.v = none) : g.rival? x = none := by
  rw [rival?, hw, Option.map_none]

/-- Something is found about a variable that is there. -/
theorem exists_rival? (hw : g.getVariable? x.v = some w) : ∃ q, g.rival? x = some q :=
  ⟨_, by rw [rival?, hw, Option.map_some]⟩

/-- What a request finds decides what becomes of it. -/
theorem result_request (g : Graph) (x : Request) :
    (g.perform x.call).result = x.answer (g.content? x) (g.rival? x) := by
  have hrule := Edit.perform_bind.1 (rfl : (Edit.bind x.role x.o x.slot x.v).perform g = _)
  rw [Request.call, perform_iff.2 (.bind hrule)]
  generalize (Edit.bind x.role x.o x.slot x.v).perform g = out at hrule
  cases hrule with
  | noOperator hp =>
    rw [content?, hp]
    rfl
  | noVariable hp hw =>
    rw [content?_of_some hp, rival?_eq_none hw]
    rfl
  | same hp hw hs =>
    obtain ⟨q, hq⟩ := exists_rival? hw
    rw [content?_of_some hp, hs, hq, Request.answer, if_pos rfl]
    rfl
  | occupied hp hw hs hne =>
    obtain ⟨q, hq⟩ := exists_rival? hw
    rw [content?_of_some hp, hs, hq, Request.answer, if_neg hne]
    rfl
  | conflict hp hw hs hr hq =>
    rw [content?_of_some hp, hs, rival?_of_output hr hw, hq]
    rfl
  | bound hp hw hs hfree =>
    rw [content?_of_some hp, hs, (rival?_eq_some_none hw).2 hfree]
    rfl

/-- A request that is granted makes the link. -/
theorem Grants.exists_bound (h : g.Grants x) :
    ∃ p w, g.getOperator? x.o = some p ∧ g.getVariable? x.v = some w ∧
      g.after x.call = g.bound x.role x.o x.slot p x.v w := by
  obtain ⟨p, hp, hs⟩ := Option.map_eq_some_iff.1 h.vacant
  obtain ⟨w, hw, -⟩ := Option.map_eq_some_iff.1 h.free
  have hfree : x.role = .output → w.producer = none := (rival?_eq_some_none hw).1 h.free
  have hrule : Rules.Performs g x.call _ := .bind (.bound hp hw hs hfree)
  exact ⟨p, w, hp, hw, congrArg Outcome.graph (perform_iff.2 hrule)⟩

/-- A request that is not granted changes nothing. -/
theorem after_of_not_grants (h : ¬ g.Grants x) : g.after x.call = g := by
  have hrule := Edit.perform_bind.1 (rfl : (Edit.bind x.role x.o x.slot x.v).perform g = _)
  rw [Request.call, after, perform_iff.2 (.bind hrule)]
  generalize (Edit.bind x.role x.o x.slot x.v).perform g = out at hrule
  cases hrule with
  | bound hp hw hs hfree =>
    have hvacant : g.content? x = some none := by rw [content?_of_some hp, hs]
    exact absurd ⟨hvacant, (rival?_eq_some_none hw).2 hfree⟩ h
  | _ => rfl

/-- A request that is granted fills the slot of one operator. -/
theorem Grants.getOperator?_after (h : g.Grants x) (q : OperatorId) :
    (g.after x.call).getOperator? q = (g.getOperator? q).map (x.fill q) := by
  obtain ⟨p, w, hp, -, hafter⟩ := h.exists_bound
  rw [hafter, getOperator?_bound]
  unfold Request.fill
  split
  · next hq => rw [hq, hp, Option.map_some]
  · exact Option.map_id'.symm

/-- A request that is granted is noted by one variable. -/
theorem Grants.getVariable?_after (h : g.Grants x) (u : VariableId) :
    (g.after x.call).getVariable? u = (g.getVariable? u).map (x.note u) := by
  obtain ⟨p, w, -, hw, hafter⟩ := h.exists_bound
  rw [hafter, getVariable?_bound]
  unfold Request.note
  split
  · next hu => rw [hu, hw, Option.map_some]
  · exact Option.map_id'.symm

/-- A request hands out no ids. -/
theorem next_after_request (g : Graph) (x : Request) :
    (g.after x.call).nextVariable = g.nextVariable ∧
      (g.after x.call).nextOperator = g.nextOperator := by
  by_cases h : g.Grants x
  · obtain ⟨p, w, -, -, hafter⟩ := h.exists_bound
    rw [hafter]
    exact ⟨rfl, rfl⟩
  · rw [after_of_not_grants h]
    exact ⟨rfl, rfl⟩

end Graph

/-! ## Two requests -/

namespace Request.Apart

variable {x y : Request}

/-- Being apart goes both ways. -/
theorem symm (h : x.Apart y) : y.Apart x :=
  ⟨h.target.symm, fun hy hx => (h.written hx hy).symm⟩

/-- A request leaves the slots alone that others ask for. -/
theorem content?_after (h : x.Apart y) (g : Graph) :
    (g.after y.call).content? x = g.content? x := by
  by_cases hy : g.Grants y
  · rw [Graph.content?, hy.getOperator?_after, Option.map_map, Graph.content?]
    refine congrArg (Option.map · _) (funext fun p => ?_)
    show ((y.fill x.o p).slots x.role).get? x.slot = _
    unfold fill
    split
    · next ho =>
      rw [Operator.slots_setSlot]
      split
      · next hr =>
        have hslot : x.slot ≠ y.slot := fun hs => h.target (Prod.ext hr (Prod.ext ho hs))
        rw [SortedMap.get?_insert, if_neg hslot]
      · rfl
    · rfl
  · rw [Graph.after_of_not_grants hy]

/-- A request gets in the way of no other one. -/
theorem rival?_after (h : x.Apart y) (g : Graph) : (g.after y.call).rival? x = g.rival? x := by
  by_cases hy : g.Grants y
  · rw [Graph.rival?, hy.getVariable?_after, Option.map_map, Graph.rival?]
    refine congrArg (Option.map · _) (funext fun w => ?_)
    show (if x.isOutput then (y.note x.v w).producer else none) = _
    split
    · next hx =>
      unfold note
      split
      · next hv =>
        -- The other request is for an input slot, which leaves the producer alone.
        have hinput : y.role = .input := by
          cases hr : y.role with
          | input => rfl
          | output => exact absurd hv (h.written hx (decide_eq_true hr))
        rw [hinput]
        rfl
      · rfl
    · rfl
  · rw [Graph.after_of_not_grants hy]

/-- A request is granted whether or not the other one has been made. -/
theorem grants_after (h : x.Apart y) {g : Graph} : (g.after y.call).Grants x ↔ g.Grants x := by
  constructor
  · rintro ⟨hvacant, hfree⟩
    exact ⟨h.content?_after g ▸ hvacant, h.rival?_after g ▸ hfree⟩
  · rintro ⟨hvacant, hfree⟩
    exact ⟨(h.content?_after g).trans hvacant, (h.rival?_after g).trans hfree⟩

/-- A request has the same result whether or not the other one has been made. -/
theorem ignores (h : x.Apart y) : x.call.Ignores y.call := by
  intro g
  rw [Graph.result_request, h.content?_after, h.rival?_after, ← Graph.result_request]

/-- Both requests make the same graph in either order. -/
theorem after_comm (h : x.Apart y) (g : Graph) :
    (g.after x.call).after y.call = (g.after y.call).after x.call := by
  by_cases hx : g.Grants x
  · by_cases hy : g.Grants y
    · -- Both are granted, and each of them stays so after the other.
      have hyx : (g.after x.call).Grants y := h.symm.grants_after.2 hy
      have hxy : (g.after y.call).Grants x := h.grants_after.2 hx
      refine Graph.ext_get? (fun u => ?_) (fun q => ?_) ?_ ?_
      · rw [hyx.getVariable?_after, hx.getVariable?_after, hxy.getVariable?_after,
          hy.getVariable?_after, Option.map_map, Option.map_map]
        exact congrArg (Option.map · _) (funext fun w => h.note_comm u w)
      · rw [hyx.getOperator?_after, hx.getOperator?_after, hxy.getOperator?_after,
          hy.getOperator?_after, Option.map_map, Option.map_map]
        exact congrArg (Option.map · _) (funext fun p => h.fill_comm q p)
      · simp only [Graph.next_after_request]
      · simp only [Graph.next_after_request]
    · rw [Graph.after_of_not_grants (mt h.symm.grants_after.1 hy), Graph.after_of_not_grants hy]
  · rw [Graph.after_of_not_grants hx, Graph.after_of_not_grants (mt h.grants_after.1 hx)]

/-- Requests that are apart can be exchanged. -/
theorem independent (h : x.Apart y) : x.call.Independent y.call :=
  ⟨h.ignores, h.symm.ignores, h.after_comm⟩

end Request.Apart

/-! ## Many requests -/

namespace Graph

/-- Requests for different slots, of which no two ask for a producer of one variable, are apart. -/
theorem pairwise_apart {requests : List Request} (htargets : (requests.map Request.target).Nodup)
    (hwritten : ((requests.filter Request.isOutput).map (·.v)).Nodup) :
    requests.Pairwise Request.Apart := by
  have htarget : requests.Pairwise fun x y => x.target ≠ y.target := List.pairwise_map.1 htargets
  have hv : requests.Pairwise fun x y => x.isOutput → y.isOutput → x.v ≠ y.v :=
    List.pairwise_filter.1 (List.pairwise_map.1 hwritten)
  exact (htarget.and hv).imp fun h => ⟨h.1, h.2⟩

/-- Any number of variables are to be put into slots of operators. No slot is asked for twice, and
no variable is to be written twice, while it may be read as often as one likes, also by its
producer; the operators and variables need not be there. Then the calls can be made in any order:
each of them has the result that it would have alone, and in the end the graph is the same. -/
theorem run_requests (g : Graph) {requests requests' : List Request}
    (htargets : (requests.map Request.target).Nodup)
    (hwritten : ((requests.filter Request.isOutput).map (·.v)).Nodup)
    (hperm : requests'.Perm requests) :
    g.results (requests'.map Request.call) =
      requests'.map (fun x => (g.perform x.call).result) ∧
    g.run (requests'.map Request.call) = g.run (requests.map Request.call) := by
  have hcalls : (requests.map Request.call).Pairwise Call.Independent :=
    List.pairwise_map.2 ((pairwise_apart htargets hwritten).imp fun h => h.independent)
  have hperm' : (requests'.map Request.call).Perm (requests.map Request.call) := hperm.map _
  refine ⟨?_, run_eq_of_perm hcalls hperm' g⟩
  rw [results_eq_map_of_perm hcalls hperm' g, List.map_map]
  rfl

/-- Two operators, of which the second one writes a variable. -/
def halfWired : Graph :=
  Graph.run ∅ [.addVariable [2] .c, .addVariable [2] .c, .addVariable [2] .c, .addOperator "f" ∅,
    .addOperator "g" ∅, .bindOutput ⟨1⟩ "y" ⟨2⟩]

/-- Requests for an operator that reads a variable twice and writes it as well, for a variable that
is written already, for a slot that is taken, for one that holds the variable, and for an operator
that is not there. -/
def mixedRequests : List Request :=
  [⟨.input, ⟨0⟩, "a", ⟨0⟩⟩, ⟨.input, ⟨0⟩, "b", ⟨0⟩⟩, ⟨.output, ⟨0⟩, "y", ⟨0⟩⟩,
    ⟨.output, ⟨0⟩, "z", ⟨2⟩⟩, ⟨.output, ⟨1⟩, "y", ⟨1⟩⟩, ⟨.input, ⟨1⟩, "y", ⟨2⟩⟩,
    ⟨.input, ⟨9⟩, "y", ⟨0⟩⟩]

/-- The requests have the same results from the last to the first, and leave the same graph. -/
theorem run_requests_reversed :
    (mixedRequests.map Request.target).Nodup ∧
    ((mixedRequests.filter Request.isOutput).map (·.v)).Nodup ∧
    halfWired.results (mixedRequests.reverse.map Request.call) =
      [.error (.refused (.unknownOperator ⟨9⟩)), .ok .done,
        .error (.refused (.slotOccupied ⟨1⟩ "y" ⟨2⟩)),
        .error (.refused (.outputConflict ⟨2⟩ ⟨1⟩)), .ok .done, .ok .done, .ok .done] ∧
    halfWired.run (mixedRequests.reverse.map Request.call) =
      halfWired.run (mixedRequests.map Request.call) ∧
    halfWired.run (mixedRequests.map Request.call) ≠ halfWired := by
  have htargets : (mixedRequests.map Request.target).Nodup := by decide
  have hwritten : ((mixedRequests.filter Request.isOutput).map (·.v)).Nodup := by decide
  obtain ⟨hresults, hrun⟩ :=
    run_requests halfWired htargets hwritten (List.reverse_perm mixedRequests)
  refine ⟨htargets, hwritten, hresults.trans ?_, hrun, ?_⟩
  · decide +kernel
  · decide +kernel

end Graph

end TensorGraph
