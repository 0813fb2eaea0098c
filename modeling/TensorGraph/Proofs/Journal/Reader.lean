import TensorGraph.LogEntry
import TensorGraph.Decimal

/-!
# Reading the lines of changed links

A line about a changed link shows the slot between quotes as it is, so the slot may look like any
other part of a line. What is known is what stands around it: in front of the first colon there are
the level and the id of the operator, the first quote behind the colon opens the slot, and behind
the last quote of the line there are an arrow and the ids of variables, none of which has a quote or
a blank in it. So the first colon, the first quote behind it and the last quote of the line tell
where the parts of the line are, and `LinkChange.ofLine?` reads a change from exactly the line that
shows it (`LinkChange.ofLine?_eq_some`). No two changes have the same text, and no other line of a
log is taken for that of a change (`LogEntry.ofLine?_line`).
-/

namespace TensorGraph

/-! ## Cutting a text in two -/

/-- What stands in front of the first `c` of a text and behind it. -/
def cut? (c : Char) : List Char → Option (List Char × List Char)
  | [] => none
  | d :: cs =>
    if d = c then some ([], cs) else (cut? c cs).map fun (front, back) => (d :: front, back)

/-- What stands in front of the last `c` of a text and behind it. -/
def cutLast? (c : Char) (cs : List Char) : Option (List Char × List Char) :=
  (cut? c cs.reverse).map fun (back, front) => (front.reverse, back.reverse)

section

variable {c : Char} {cs front back : List Char}

/-- A text is cut at a character that does not occur earlier. -/
theorem cut?_append (h : c ∉ front) : cut? c (front ++ c :: back) = some (front, back) := by
  induction front with
  | nil => simp [cut?]
  | cons d front ih =>
    obtain ⟨hne, hmem⟩ := not_or.1 (mt List.mem_cons.2 h)
    rw [List.cons_append, cut?, if_neg (Ne.symm hne), ih hmem, Option.map_some]

/-- A text is not cut at a character that it does not have. -/
theorem cut?_eq_none (h : c ∉ cs) : cut? c cs = none := by
  induction cs with
  | nil => rfl
  | cons d cs ih =>
    obtain ⟨hne, hmem⟩ := not_or.1 (mt List.mem_cons.2 h)
    rw [cut?, if_neg (Ne.symm hne), ih hmem, Option.map_none]

/-- A text is cut at a character that does not occur later. -/
theorem cutLast?_append (h : c ∉ back) : cutLast? c (front ++ c :: back) = some (front, back) := by
  have hreverse : (front ++ c :: back).reverse = back.reverse ++ c :: front.reverse := by
    rw [List.reverse_append, List.reverse_cons, List.append_assoc, List.singleton_append]
  have hmem : c ∉ back.reverse := fun hc => h (List.mem_reverse.1 hc)
  simp only [cutLast?, hreverse, cut?_append hmem, Option.map_some, List.reverse_reverse]

end

/-! ## Ids -/

namespace Id

variable {kind : NodeKind}

/-- The id that a text shows behind the letters of its kind. -/
def ofChars? (cs : List Char) : Option (Id kind) :=
  (Decimal.read? (.ofList (cs.drop kind.sigil.toList.length))).bind ofNat?

/-- An id is shown by the letters of its kind and the digits of its number. -/
theorem toList_text (i : Id kind) :
    i.text.toList = kind.sigil.toList ++ i.toNat.repr.toList :=
  String.toList_append

/-- The id that is shown is read. -/
theorem ofChars?_text (i : Id kind) : ofChars? i.text.toList = some i := by
  have hdigits : String.ofList (i.text.toList.drop kind.sigil.toList.length) = i.toNat.repr := by
    rw [toList_text, List.drop_left, String.ofList_toList]
  rw [ofChars?, hdigits, Decimal.read?_repr, Option.bind_some]
  exact ofNat?_eq_some.2 rfl

/-- What is neither a letter of the kind nor a digit is not in the text of an id. -/
theorem not_mem_text {c : Char} (hletter : c ∉ kind.sigil.toList) (hdigit : c.isDigit = false)
    (i : Id kind) : c ∉ i.text.toList := by
  rw [toList_text, List.mem_append, not_or]
  refine ⟨hletter, fun hc => ?_⟩
  rw [Nat.repr_eq_ofList_toDigits, String.toList_ofList] at hc
  rw [Nat.isDigit_of_mem_toDigits (by decide) (by decide) hc] at hdigit
  cases hdigit

end Id

/-! ## Changes of slots -/

/-- The change of a slot that a text shows. -/
def SlotChange.ofChars? (cs : List Char) : Option SlotChange := do
  let (arrow, cs) ← cut? ' ' cs
  match cut? ' ' cs with
  | some (new, rest) =>
    return .rebound (← Id.ofChars? new) (← Id.ofChars? (rest.drop "(was ".toList.length).dropLast)
  | none =>
    let v ← Id.ofChars? cs
    return if arrow = "-/-".toList then .unbound v else .bound v

/-- The blank is not in the text of a variable. -/
theorem blank_not_mem_text (v : VariableId) : ' ' ∉ v.text.toList :=
  v.not_mem_text (by decide) (by decide)

/-- The change that is shown is read. -/
theorem SlotChange.ofChars?_text (role : Role) (x : SlotChange) :
    ofChars? (x.text role).toList = some x := by
  cases x with
  | bound v =>
    have htext : ((bound v).text role).toList = role.arrow.toList ++ ' ' :: v.text.toList := by
      simp [SlotChange.text, String.toList_append]
    have harrow : ' ' ∉ role.arrow.toList ∧ role.arrow.toList ≠ ['-', '/', '-'] := by
      cases role <;> decide
    simp [ofChars?, htext, cut?_append harrow.1, cut?_eq_none (blank_not_mem_text v),
      Id.ofChars?_text, harrow.2]
  | unbound v =>
    have htext : ((unbound v).text role).toList = "-/-".toList ++ ' ' :: v.text.toList := by
      simp [SlotChange.text, String.toList_append]
    simp [ofChars?, htext, cut?, cut?_eq_none (blank_not_mem_text v), Id.ofChars?_text]
  | rebound new old =>
    have htext : ((rebound new old).text role).toList = role.arrow.toList ++ ' ' ::
        (new.text.toList ++ ' ' :: ("(was ".toList ++ (old.text.toList ++ [')']))) := by
      simp [SlotChange.text, String.toList_append]
    have harrow : ' ' ∉ role.arrow.toList := by
      cases role <;> decide
    rw [htext]
    simp [ofChars?, cut?_append harrow, cut?_append (blank_not_mem_text new), Id.ofChars?_text]

/-- The quote is not in the text of a change. -/
theorem SlotChange.quote_not_mem_text (role : Role) (x : SlotChange) :
    '"' ∉ (x.text role).toList := by
  have hid : ∀ v : VariableId, '"' ∉ v.text.toList :=
    fun v => v.not_mem_text (by decide) (by decide)
  have harrow : '"' ∉ role.arrow.toList := by
    cases role <;> decide
  cases x <;> simp [SlotChange.text, String.toList_append, hid, harrow]

/-! ## Changes of links -/

namespace LinkChange

/-- The parts of a line, read without a look at what is between them. -/
def parts? (cs : List Char) : Option LinkChange := do
  let (front, cs) ← cut? ':' cs
  let (word, cs) ← cut? '"' cs
  let (slot, tail) ← cutLast? '"' cs
  let operator ← Id.ofChars? (front.drop "TRACE ".toList.length)
  let change ← SlotChange.ofChars? (tail.drop 1)
  return ⟨operator, if word = " input ".toList then .input else .output, .ofList slot, change⟩

/-- The change that a line shows, if it is the line of a change. -/
def ofLine? (line : String) : Option LinkChange :=
  (parts? line.toList).filter fun c => decide ((LogEntry.link c).line = line)

/-- The parts of the line of a change. -/
theorem toList_line (c : LinkChange) :
    (LogEntry.link c).line.toList =
      ("TRACE ".toList ++ c.operator.text.toList) ++ ':' ::
        ((' ' :: c.role.word.toList ++ [' ']) ++ '"' ::
          (c.slot.toList ++ '"' :: (' ' :: (c.change.text c.role).toList))) := by
  show ("TRACE" ++ " " ++ (c.operator.text ++ ": " ++ c.role.word ++ " \"" ++ c.slot ++ "\" " ++
    c.change.text c.role)).toList = _
  simp only [String.toList_append, List.append_assoc]
  rfl

/-- The parts of the line of a change are those of the change. -/
theorem parts?_line (c : LinkChange) : parts? (LogEntry.link c).line.toList = some c := by
  obtain ⟨operator, role, slot, change⟩ := c
  have hcolon : ':' ∉ "TRACE ".toList ++ operator.text.toList := by
    rw [List.mem_append, not_or]
    exact ⟨by decide, operator.not_mem_text (by decide) (by decide)⟩
  have hword : '"' ∉ ' ' :: role.word.toList ++ [' '] := by
    cases role <;> decide
  -- The quotes of the slot are passed over, since the last one of the line is behind them.
  have htail : '"' ∉ ' ' :: (change.text role).toList :=
    mt List.mem_cons.1 (not_or.2 ⟨by decide, change.quote_not_mem_text role⟩)
  have hrole : (if ' ' :: role.word.toList ++ [' '] = " input ".toList then Role.input
      else Role.output) = role := by
    cases role <;> decide
  rw [toList_line]
  simp only [parts?, cut?_append hcolon, cut?_append hword, cutLast?_append htail, hrole,
    Option.bind_eq_bind, Option.bind_some, List.drop_left, Id.ofChars?_text, List.drop_succ_cons,
    List.drop_zero, SlotChange.ofChars?_text, String.ofList_toList]
  rfl

/-- A change is read from the line that shows it, and from no other. -/
theorem ofLine?_eq_some {line : String} {c : LinkChange} :
    ofLine? line = some c ↔ line = (LogEntry.link c).line := by
  rw [ofLine?, Option.filter_eq_some_iff, decide_eq_true_eq]
  constructor
  · rintro ⟨-, hline⟩
    exact hline.symm
  · rintro rfl
    exact ⟨parts?_line c, rfl⟩

/-- A slot may look like a link that another slot has taken. -/
example : ofLine? "TRACE op1: input \"a\" <- v2\" -/- v3" =
    some ⟨⟨1⟩, .input, "a\" <- v2", .unbound ⟨3⟩⟩ := by decide

/-- Changes with the same line are the same. -/
theorem line_injective {c c' : LinkChange}
    (h : (LogEntry.link c).line = (LogEntry.link c').line) : c = c' := by
  have hread : ofLine? (LogEntry.link c).line = some c' := ofLine?_eq_some.2 h
  rw [ofLine?_eq_some.2 rfl] at hread
  exact Option.some.inj hread

/-- Changes with the same text are the same. -/
theorem text_injective {c c' : LinkChange} (h : c.text = c'.text) : c = c' :=
  line_injective (congrArg ("TRACE " ++ ·) h)

end LinkChange

namespace LogEntry

/-- The change of a link that a report is about. -/
def change? : LogEntry → Option LinkChange
  | link c => some c
  | _ => none

/-- A line for debugging is not the line of a change. -/
theorem line_ne_line_link {e : LogEntry} (he : e.level = .debug) (c : LinkChange) :
    e.line ≠ (link c).line := by
  have hdebug : e.line.toList.head? = some 'D' := by
    rw [line, he, String.toList_append, String.toList_append]
    rfl
  have htrace : (link c).line.toList.head? = some 'T' := by
    rw [LinkChange.toList_line]
    rfl
  intro heq
  rw [heq, htrace] at hdebug
  exact absurd (Option.some.inj hdebug) (by decide)

/-- A change is read from the line of a report exactly when the report is about it. -/
theorem ofLine?_line (e : LogEntry) : LinkChange.ofLine? e.line = e.change? := by
  have hnone : e.level = .debug → LinkChange.ofLine? e.line = none := by
    intro he
    rw [Option.eq_none_iff_forall_ne_some]
    exact fun c hc => line_ne_line_link he c (LinkChange.ofLine?_eq_some.1 hc)
  cases e with
  | link c => exact LinkChange.ofLine?_eq_some.2 rfl
  | _ => exact hnone rfl

end LogEntry

end TensorGraph
