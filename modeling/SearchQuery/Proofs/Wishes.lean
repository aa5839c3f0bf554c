import Mathlib.Data.List.Basic
import SearchQuery.Proofs.Calls

/-!
# What wishes make of a query

What a wish adds to a query, and whether it is granted, depend on the wish alone and not on the
query that it meets.  So a run of wishes can be read off its list: each list of the query has what
the granted wishes add to it, in their order, and every other value is the last one that was wished.

* `Edit.clauseList?`, `Edit.predicate?` and those after them: what each setter is to do, said of the
  call alone.
* `Edit.isGranted`: whether it is granted.
* `Query.after`: the query after a list of wishes, field by field.
* `Query.toOption_edit`: one wish.
* `Step.foldl_query`: what wishes make of a query among operations.
* `Session.wishes_append`: a run of wishes.
-/

namespace SearchQuery

/-! ### What a wish says -/

/-- The predicate that asks this of a field, or the opposite.  A field without a name makes none. -/
def Predicate.asking? (field : String) (criterion : Criterion) (negated : Bool) :
    Option Predicate :=
  if named : Text.isBlankText field = false then some { field, criterion, negated, named } else none

namespace Edit

variable {κ : Type}

def clauseList? : Edit κ → Option ClauseList
  | .filter .. | .whereEq .. | .whereOp .. => some .must
  | .orWhere .. | .orWhereOp .. => some .should
  | .whereNot .. | .whereNotOp .. => some .mustNot
  | .whereIn .. | .whereNotIn .. | .whereBetween .. | .whereNear .. => some .must
  | _ => none

/-- What a comparison sign asks about a value.  `!=` and `<>` ask for the opposite of equality. -/
def comparison? (sign : String) (value : Scalar) : Option Criterion :=
  match Text.trim sign with
  | "=" | "==" | "!=" | "<>" => some (.equals value)
  | ">" => some (.bounded .above value)
  | ">=" => some (.bounded .atLeast value)
  | "<" => some (.bounded .below value)
  | "<=" => some (.bounded .atMost value)
  | _ => none

/-- The field that a wish tests, and what it asks of the field. -/
def question? : Edit κ → Option (String × Criterion)
  | .filter p => some (p.field, p.criterion)
  | .whereEq field value | .orWhere field value | .whereNot field value =>
    some (field, .equals value)
  | .whereOp field sign value | .orWhereOp field sign value | .whereNotOp field sign value =>
    (comparison? sign value).map fun c => (field, c)
  | .whereIn field values | .whereNotIn field values => some (field, .among values)
  | .whereBetween field low high => some (field, .between (.atLeast, low) (.atMost, high))
  | .whereNear source latitude longitude distance =>
    (Vicinity.make source latitude longitude distance).toOption.map fun place =>
      (source, .near place)
  | _ => none

/-- Whether a wish asks for the opposite: by `!=` or `<>`, as not one of some values, or by a
predicate that does. -/
def isOpposite : Edit κ → Bool
  | .filter p => p.negated
  | .whereOp _ sign _ | .orWhereOp _ sign _ | .whereNotOp _ sign _ =>
    Text.trim sign == "!=" || Text.trim sign == "<>"
  | .whereNotIn .. => true
  | _ => false

def predicate? (e : Edit κ) : Option Predicate :=
  e.question?.bind fun (field, criterion) =>
    Predicate.asking? field criterion e.isOpposite

/-- Whether a wish is granted: one that tests a field needs a predicate, the others nothing. -/
def isGranted (e : Edit κ) : Bool :=
  e.clauseList?.isNone || e.predicate?.isSome

def predicateIn? (list : ClauseList) (e : Edit κ) : Option Predicate :=
  if e.clauseList? = some list then e.predicate? else none

@[simp] def fullText? : Edit κ → Option FullText
  | .matchText keywords => some { keywords, field := "*" }
  | .matchField field keywords => some { keywords, field }
  | _ => none

@[simp] def sortKey? : Edit κ → Option SortKey
  | .orderBy field direction => some { field, direction }
  | .orderByDesc field => some { field, direction := .descending }
  | _ => none

@[simp] def limit? : Edit κ → Option UInt64
  | .limit n => some n
  | _ => none

@[simp] def offset? : Edit κ → Option UInt64
  | .offset n => some n
  | _ => none

@[simp] def maxMatches? : Edit κ → Option UInt64
  | .maxMatches n => some n
  | _ => none

@[simp] def isHighlight : Edit κ → Bool
  | .withHighlight => true
  | _ => false

@[simp] def aggregation? : Edit κ → Option (String × Aggregation)
  | .aggregate name field size => some (name, { field, size })
  | _ => none

@[simp] def selected : Edit κ → List String
  | .select columns => columns
  | _ => []

@[simp] def grouped : Edit κ → List String
  | .groupBy columns => columns
  | _ => []

@[simp] def condition? : Edit κ → Option String
  | .having condition => some condition
  | _ => none

@[simp] def raw? : Edit κ → Option RawQuery
  | .rawQuery sql mode => some { sql, mode }
  | _ => none

@[simp] def load? : Edit κ → Option (EagerLoad κ)
  | .withRelation relation => some { relation }
  | .withColumns relation columns => some { relation, projection := some columns }
  | .withScope relation scope => some { relation, scope := some scope }
  | _ => none

end Edit

variable {κ : Type}

/-- The query after wishes that are granted.  Its lists are continued in the order of the wishes, of
the aggregations with one name the last takes the place of the first, and of the other values the
last one stays. -/
def Query.after (q : Query κ) (es : List (Edit κ)) : Query κ where
  matching := q.matching ++ es.filterMap Edit.fullText?
  clauses :=
    { must := q.clauses.must ++ es.filterMap (Edit.predicateIn? .must)
      should := q.clauses.should ++ es.filterMap (Edit.predicateIn? .should)
      mustNot := q.clauses.mustNot ++ es.filterMap (Edit.predicateIn? .mustNot) }
  sort := q.sort ++ es.filterMap Edit.sortKey?
  limit := (es.filterMap Edit.limit?).getLast?.or q.limit
  offset := (es.filterMap Edit.offset?).getLast?.or q.offset
  maxMatches := (es.filterMap Edit.maxMatches?).getLast?.or q.maxMatches
  select := q.select ++ es.flatMap Edit.selected
  groupBy := q.groupBy ++ es.flatMap Edit.grouped
  having := q.having ++ es.filterMap Edit.condition?
  aggregations :=
    (es.filterMap Edit.aggregation?).foldl (fun as a => setNamed a.1 a.2 as) q.aggregations
  highlight := q.highlight || es.any Edit.isHighlight
  eager := q.eager ++ es.filterMap Edit.load?
  raw := (es.filterMap Edit.raw?).getLast?.or q.raw

/-! ### What becomes of a wish -/

theorem Predicate.toOption_make (field : String) {op : Operator} {operand : Operand}
    {criterion : Criterion} {negated : Bool}
    (h : Criterion.of op operand = .ok (criterion, negated)) :
    (make field op operand).toOption = asking? field criterion negated := by
  rw [make, h, asking?]
  split <;> rfl

theorem isOk_eq_isSome {ε α : Type} (x : Except ε α) : x.isOk = x.toOption.isSome := by
  cases x <;> rfl

theorem toOption_map {ε α β : Type} (f : α → β) (x : Except ε α) :
    (x.map f).toOption = x.toOption.map f := by
  cases x <;> rfl

namespace Edit

/-- A sign that is read asks what its operator asks, of the opposite for `!=` and `<>`. -/
theorem comparison?_of_ofSign? {sign : String} {op : Operator}
    (h : Operator.ofSign? sign = some op) (value : Scalar) :
    ∃ criterion, comparison? sign value = some criterion
      ∧ Criterion.of op (.scalar value)
        = .ok (criterion, Text.trim sign == "!=" || Text.trim sign == "<>") := by
  rw [Operator.ofSign?] at h
  rw [comparison?]
  generalize Text.trim sign = read at h ⊢
  split at h
  case h_9 => exact nomatch h
  all_goals
    obtain rfl := Option.some.inj h
    exact ⟨_, rfl, rfl⟩

theorem comparison?_eq_none {sign : String} (h : Operator.ofSign? sign = none)
    (value : Scalar) : comparison? sign value = none := by
  rw [Operator.ofSign?] at h
  rw [comparison?]
  generalize Text.trim sign = read at h ⊢
  split at h
  case h_9 => simp [*]
  all_goals exact absurd h (Option.some_ne_none _)

theorem predicate?_filter (p : Predicate) : (filter p : Edit κ).predicate? = some p := by
  rw [predicate?, question?, Option.bind_some]
  exact dif_pos p.named

theorem toOption_compare (field sign : String) (value : Scalar) :
    (Predicate.compare field sign value).toOption
      = (whereOp field sign value : Edit κ).predicate? := by
  rw [Predicate.compare, predicate?, question?, isOpposite]
  cases hop : Operator.ofSign? sign with
  | none =>
    rw [comparison?_eq_none hop]
    rfl
  | some op =>
    obtain ⟨criterion, hasked, hof⟩ := comparison?_of_ofSign? hop value
    rw [hasked]
    exact Predicate.toOption_make field hof

theorem toOption_compare_equal (field : String) (value : Scalar) :
    (Predicate.compare field "=" value).toOption = (whereEq field value : Edit κ).predicate? := by
  have hsign : Operator.ofSign? "=" = some .equal := by decide
  rw [Predicate.compare, hsign]
  exact Predicate.toOption_make field rfl

theorem toOption_isIn (negated : Bool) (field : String) (values : List Scalar) :
    ((Predicate.isIn field values).toOption.map fun p => if negated then p.negate else p)
      = Predicate.asking? field (.among values) negated := by
  rw [Predicate.isIn, Predicate.toOption_make field rfl, Predicate.asking?, Predicate.asking?]
  by_cases named : Text.isBlankText field = false
  · cases negated <;> simp [named, Predicate.negate]
  · simp [named]

theorem toOption_near (source : String) (latitude longitude distance : Float) :
    (Predicate.near source latitude longitude distance).toOption
      = (whereNear source latitude longitude distance : Edit κ).predicate? := by
  rw [Predicate.near, predicate?, question?]
  cases Vicinity.make source latitude longitude distance with
  | error e => rfl
  | ok place =>
    have hof : Criterion.of .near (.vicinity place) = .ok (.near place, false) := rfl
    exact Predicate.toOption_make source hof

end Edit

namespace Query

/-- The setters that compare a field differ in their list and sign only. -/
theorem toOption_compare (q : Query κ) (list : ClauseList) (field sign : String) (value : Scalar) :
    (q.compare list field sign value).toOption
      = (Edit.whereOp field sign value : Edit κ).predicate?.map (q.push list) := by
  rw [compare, toOption_map, Edit.toOption_compare]

theorem toOption_compare_equal (q : Query κ) (list : ClauseList) (field : String) (value : Scalar) :
    (q.compare list field "=" value).toOption
      = (Edit.whereEq field value : Edit κ).predicate?.map (q.push list) := by
  rw [compare, toOption_map, Edit.toOption_compare_equal]

theorem toOption_choose (q : Query κ) (negated : Bool) (field : String) (values : List Scalar) :
    (q.choose negated field values).toOption
      = (Predicate.asking? field (.among values) negated).map (q.push .must) := by
  rw [choose, toOption_map, ← Edit.toOption_isIn, Option.map_map]
  rfl

/-- A wish that tests a field adds its predicate to its list, or fails if there is none. -/
theorem toOption_edit_of_clauseList? (q : Query κ) {e : Edit κ} {list : ClauseList}
    (h : e.clauseList? = some list) : (q.edit e).toOption = e.predicate?.map (q.push list) := by
  cases e with
  | filter p =>
    obtain rfl := Option.some.inj h
    rw [Edit.predicate?_filter]
    rfl
  | whereEq field value | orWhere field value | whereNot field value =>
    obtain rfl := Option.some.inj h
    exact q.toOption_compare_equal _ field value
  | whereOp field sign value | orWhereOp field sign value | whereNotOp field sign value =>
    obtain rfl := Option.some.inj h
    exact q.toOption_compare _ field sign value
  | whereIn field values | whereNotIn field values =>
    obtain rfl := Option.some.inj h
    exact q.toOption_choose _ field values
  | whereBetween field low high =>
    obtain rfl := Option.some.inj h
    rw [edit, whereBetween, toOption_map]
    exact congrArg _ (Predicate.toOption_make field rfl)
  | whereNear source latitude longitude distance =>
    obtain rfl := Option.some.inj h
    rw [edit, whereNear, toOption_map, Edit.toOption_near]
  | _ => exact nomatch h

theorem after_nil (q : Query κ) : q.after [] = q := by
  simp [after]

theorem after_append (q : Query κ) (es fs : List (Edit κ)) :
    q.after (es ++ fs) = (q.after es).after fs := by
  simp [after, List.getLast?_append, Option.or_assoc, Bool.or_assoc]

theorem after_of_predicate? (q : Query κ) {e : Edit κ} {list : ClauseList}
    (h : e.clauseList? = some list) {p : Predicate} (hp : e.predicate? = some p) :
    q.after [e] = q.push list p := by
  have hin : ∀ l, e.predicateIn? l = if list = l then some p else none := by
    intro l
    simp [Edit.predicateIn?, h, hp]
  cases e
  case filter | whereEq | whereOp | orWhere | orWhereOp | whereNot | whereNotOp | whereIn
      | whereNotIn | whereBetween | whereNear =>
    cases list <;> simp [after, push, Clauses.push, hin, List.filterMap_cons]
  all_goals exact nomatch h

theorem toOption_edit_of_none (q : Query κ) {e : Edit κ} (h : e.clauseList? = none) :
    (q.edit e).toOption = some (q.after [e]) := by
  cases e
  case filter | whereEq | whereOp | orWhere | orWhereOp | whereNot | whereNotOp | whereIn
      | whereNotIn | whereBetween | whereNear => exact nomatch h
  all_goals
    simp [edit, after, Except.toOption, Edit.predicateIn?, Edit.clauseList?, List.filterMap_cons,
      matchText, matchField, addFullText, FullText.anywhere, FullText.anyField, orderBy,
      orderByDesc, withRelation, withColumns, withScope, addLoad]

/-- **One wish** is granted or not whatever the query is, and adds to the query what it says. -/
theorem toOption_edit (q : Query κ) (e : Edit κ) :
    (q.edit e).toOption = if e.isGranted then some (q.after [e]) else none := by
  cases h : e.clauseList? with
  | none =>
    rw [toOption_edit_of_none q h, if_pos (by simp [Edit.isGranted, h])]
  | some list =>
    rw [toOption_edit_of_clauseList? q h]
    cases hp : e.predicate? with
    | none => rw [if_neg (by simp [Edit.isGranted, h, hp]), Option.map_none]
    | some p =>
      rw [if_pos (by simp [Edit.isGranted, hp]), after_of_predicate? q h hp, Option.map_some]

end Query

/-! ### Wishes among other steps -/

namespace Step

def edit? : Step κ → Option (Edit κ)
  | .edit e => some e
  | .run _ => none

theorem query_edit (q : Query κ) (e : Edit κ) :
    (Step.edit e).query q = if e.isGranted then q.after [e] else q := by
  have hquery : (Step.edit e).query q = (q.edit e).toOption.getD q := by
    rw [query]
    cases q.edit e <;> rfl
  rw [hquery, q.toOption_edit]
  split <;> rfl

/-- **The query after steps** is what the granted wishes among them make of it. -/
theorem foldl_query (q : Query κ) (steps : List (Step κ)) :
    steps.foldl query q = q.after ((steps.filterMap edit?).filter Edit.isGranted) := by
  induction steps generalizing q with
  | nil => exact q.after_nil.symm
  | cons step rest ih =>
    rw [List.foldl_cons, ih]
    cases step with
    | run t => rfl
    | edit e =>
      have hcons : (edit e :: rest).filterMap edit? = e :: rest.filterMap edit? := rfl
      rw [query_edit, hcons]
      by_cases h : e.isGranted = true
      · rw [if_pos h, List.filter_cons_of_pos h, ← Query.after_append, List.singleton_append]
      · rw [if_neg h, List.filter_cons_of_neg h]

/-- What only wishes say that test no field is not lost with those that are refused. -/
theorem filterMap_granted {β : Type} {f : Edit κ → Option β}
    (h : ∀ e : Edit κ, e.clauseList? ≠ none → f e = none) (steps : List (Step κ)) :
    ((steps.filterMap edit?).filter Edit.isGranted).filterMap f
      = steps.filterMap fun step => step.edit?.bind f := by
  rw [List.filterMap_filter, List.filterMap_filterMap]
  refine List.filterMap_congr fun step _ => ?_
  cases step with
  | run t => rfl
  | edit e =>
    show (if e.isGranted then f e else none) = f e
    by_cases hlist : e.clauseList? = none
    · rw [if_pos (by simp [Edit.isGranted, hlist])]
    · rw [h e hlist, ite_self]

end Step

/-! ### Runs of wishes -/

namespace Session

variable {α : Type} [Record α] [Related κ α]

theorem step_edit (s : Session κ α) (e : Edit κ) :
    s.step (.edit e) = if e.isGranted then { s with query := s.query.after [e] } else s := by
  rw [step, edit, toOption_map, Query.toOption_edit]
  split <;> rfl

theorem run_edits (s : Session κ α) (es : List (Edit κ)) :
    s.run (es.map .edit) = { s with query := s.query.after (es.filter Edit.isGranted) } := by
  induction es generalizing s with
  | nil => rw [List.filter_nil, Query.after_nil]; rfl
  | cons e es ih =>
    rw [List.map_cons, run, List.foldl_cons, ← run, step_edit]
    by_cases h : e.isGranted = true
    · rw [if_pos h, ih, List.filter_cons_of_pos h, ← Query.after_append, List.singleton_append]
    · rw [if_neg h, ih, List.filter_cons_of_neg h]

/-- **Wishes only append, and a wish that is refused changes nothing.**  Whether a wish is granted
does not depend on the query that it meets; a run of wishes is the run of those that are granted;
and these make of the query what `Query.after` says, field by field, and change nothing else.  In a
chain with conditions among the wishes, the wishes count that are gone through. -/
theorem wishes_append (s : Session κ α) (es : List (Edit κ)) :
    let granted := es.filter Edit.isGranted
    (∀ (q : Query κ) (e : Edit κ), (q.edit e).isOk = e.isGranted)
      ∧ s.run (es.map .edit) = s.run (granted.map .edit)
      ∧ s.run (es.map .edit) = { s with query := s.query.after granted }
      ∧ ∀ chain : Chain (Step κ), chain.steps = es.map .edit →
        s.follow chain = { s with query := s.query.after granted } := by
  intro granted
  refine ⟨fun q e => ?_, ?_, s.run_edits es, fun chain hsteps => ?_⟩
  · rw [isOk_eq_isSome, q.toOption_edit]
    cases e.isGranted <;> rfl
  · rw [run_edits, run_edits, List.filter_filter]
    simp only [Bool.and_self]
  · rw [follow_eq_run, hsteps, run_edits]

/-- Among wishes that are granted, a sign that none can read and a field without a name. -/
example :
    let es : List (Edit Unit) := [.orWhereOp "price" " <> " (.integer 3), .limit 5,
      .orWhereOp "price" "~" (.integer 4), .whereNotIn " " [], .limit 7]
    let q := ({} : Query Unit).after (es.filter Edit.isGranted)
    q.clauses.should.map (fun p => (p.field, p.criterion, p.negated))
        = [("price", .equals (.integer 3), true)]
      ∧ q.clauses.must.length = 0 ∧ q.limit = some 7 := by
  decide +kernel

end Session

end SearchQuery
