import SearchQuery.Session

/-!
# The calls of a run

Which requests a session sends while wishes and operations follow one another.  `Step.calls` says
what one step is to send, by the query at that point alone.  What is sent is what the transport has
recorded.

* `Session.execute_plan`: a query is given to the transport once, and its answer decides what the
  query brings.
* `Session.perform_effect`: an operation sends its calls, and changes nothing but their record and
  the events.
* `Session.step_effect`: so does any step, and a wish that is granted changes the query.
* `Session.calls_run`: the calls of a run are those of its steps, one after the other.
-/

namespace SearchQuery

/-! ### What is to be sent -/

variable {κ : Type}

/-- The call that sends a query: the caller's own statement as it stands, a statement of the query
if it has clauses that only a statement has, or else a structured search. -/
def Query.call (q : Query κ) (index : String) (settings : Settings) : Call :=
  match q.raw with
  | some raw => .sql raw.sql raw.mode
  | none =>
    if q.groupBy = [] ∧ q.having = [] ∧ q.select = [] then .search (q.request index settings)
    else .sql (q.statement index settings).text .array

def pageSize (perPage : UInt64) : UInt64 :=
  if perPage = 0 then 15 else perPage

/-- The records before a page, as far as they can be counted. -/
def pageStart (perPage page : UInt64) : UInt64 :=
  UInt64.ofNat (min ((page.toNat - 1) * (pageSize perPage).toNat) (UInt64.size - 1))

namespace Terminal

/-- The query that an operation sends: only the first record and a page have a window of their
own. -/
def query (q : Query κ) : Terminal → Query κ
  | .first => { q with limit := some 1 }
  | .paginate perPage page =>
    { q with limit := some (pageSize perPage), offset := some (pageStart perPage page) }
  | _ => q

/-- The calls of an operation: one, unless facets are asked of a statement of the caller's own. -/
def calls (q : Query κ) (index : String) (settings : Settings) : Terminal → List Call
  | .facets => if q.raw = none then [.search (q.request index settings)] else []
  | t => [(t.query q).call index settings]

end Terminal

namespace Step

/-- The query after a step.  A wish that cannot be granted leaves it as it was, and so does an
operation. -/
def query (q : Query κ) : Step κ → Query κ
  | .edit e =>
    match q.edit e with
    | .ok edited => edited
    | .error _ => q
  | .run _ => q

def calls (q : Query κ) (index : String) (settings : Settings) : Step κ → List Call
  | .edit _ => []
  | .run t => t.calls q index settings

def callsOf (index : String) (settings : Settings) : Query κ → List (Step κ) → List Call
  | _, [] => []
  | q, step :: rest => step.calls q index settings ++ callsOf index settings (step.query q) rest

end Step

/-! ### What is sent -/

namespace Query

theorem isTabular_iff {q : Query κ} :
    q.isTabular = true ↔ ¬ (q.groupBy = [] ∧ q.having = [] ∧ q.select = []) := by
  simp [isTabular, Classical.or_iff_not_imp_left]

theorem plan_eq (q : Query κ) (index : String) (settings : Settings) :
    q.plan index settings = match q.raw with
      | some raw => .raw raw
      | none =>
        if q.groupBy = [] ∧ q.having = [] ∧ q.select = [] then
          .structured (q.request index settings)
        else .sql (q.statement index settings).text := by
  rw [plan]
  cases q.raw with
  | some raw => rfl
  | none =>
    by_cases h : q.groupBy = [] ∧ q.having = [] ∧ q.select = []
    · simp only [if_pos h, if_neg fun htabular => isTabular_iff.mp htabular h]
    · simp only [if_neg h, if_pos (isTabular_iff.mpr h)]

end Query

theorem toNat_max_sub_one (page : UInt64) : (max page 1 - 1).toNat = page.toNat - 1 := by
  have hmax : max page 1 = if page ≤ 1 then 1 else page := rfl
  have hone : page ≤ 1 ↔ page.toNat ≤ 1 := UInt64.le_iff_toNat_le
  rw [hmax]
  split
  · next h =>
    have hzero : page.toNat - 1 = 0 := Nat.sub_eq_zero_of_le (hone.mp h)
    rw [hzero]
    rfl
  · next h =>
    have hle : 1 ≤ page := by
      rw [UInt64.le_iff_toNat_le]
      exact Nat.le_of_not_le fun hlow => h (hone.mpr hlow)
    rw [UInt64.toNat_sub_of_le _ _ hle]
    rfl

theorem pageStart_eq (perPage page : UInt64) :
    pageStart perPage page = saturatingMul (max page 1 - 1) (pageSize perPage) := by
  rw [pageStart, saturatingMul, toNat_max_sub_one]

def Transport.answer (t : Transport) : Call → Except Error Payload
  | .search request => (t.search request).1.map .hits
  | .sql text mode => (t.sql text mode).1

namespace Session

theorem pageQuery_eq (q : Query κ) (perPage page : UInt64) :
    pageQuery q (if perPage = 0 then defaultPerPage else perPage) (max page 1)
      = (Terminal.paginate perPage page).query q := by
  rw [pageQuery, Terminal.query, pageStart_eq]
  rfl

variable {α : Type}

/-- One session comes from another by sending these calls and has this query.  Events apart, nothing
else has changed. -/
structure Effect (calls : List Call) (query : Query κ) (before after : Session κ α) : Prop where
  transport : after.transport
    = { before.transport with calls := before.transport.calls ++ calls }
  query : after.query = query
  prototype : after.prototype = before.prototype
  settings : after.settings = before.settings

theorem Effect.refl (s : Session κ α) : Effect [] s.query s s :=
  ⟨by rw [List.append_nil], rfl, rfl, rfl⟩

theorem Effect.trans {a b c : Session κ α} {first second : List Call} {p q : Query κ}
    (h : Effect first p a b) (g : Effect second q b c) : Effect (first ++ second) q a c where
  transport := by rw [g.transport, h.transport, List.append_assoc]
  query := g.query
  prototype := g.prototype.trans h.prototype
  settings := g.settings.trans h.settings

def recorded (s : Session κ α) (call : Call) : Session κ α :=
  { s with transport := s.transport.record call }

section

variable [Record α] (s : Session κ α)

theorem Effect.index {calls : List Call} {query : Query κ} {before after : Session κ α}
    (h : Effect calls query before after) : after.index = before.index := by
  rw [Session.index, Session.index, h.prototype]

def brought (payload : Payload) : Fetched α where
  records := Record.ofPayload s.prototype payload
  total := payload.total?

/-- **A query is given to the transport once**, whichever way it goes, and the answer to its call
decides what it brings. -/
theorem execute_plan (q : Query κ) :
    s.execute (q.plan s.index s.settings)
      = ((s.transport.answer (q.call s.index s.settings)).map s.brought,
        s.recorded (q.call s.index s.settings)) := by
  rw [Query.plan_eq, Query.call]
  cases q.raw with
  | some raw => rfl
  | none =>
    dsimp only
    split
    · rw [execute, ask, Transport.answer, mapResult]
      dsimp only
      cases (s.transport.search (q.request s.index s.settings)).1 <;> rfl
    · rfl

theorem facets_effect :
    Effect (Terminal.calls s.query s.index s.settings .facets) s.query s s.facets.2 := by
  rw [facets, Terminal.calls]
  cases hraw : s.query.raw with
  | some raw =>
    rw [if_neg (by simp), if_pos (by simp)]
    exact .refl s
  | none =>
    rw [if_pos rfl, if_neg (by simp)]
    exact ⟨rfl, rfl, rfl, rfl⟩

end

variable [Record α] [Related κ α] (s : Session κ α)

theorem fetch_effect (q : Query κ) (operation : Operation) :
    Effect [q.call s.index s.settings] s.query s (s.fetch q operation).2 := by
  rw [fetch, execute_plan]
  dsimp only
  split <;> exact ⟨rfl, rfl, rfl, rfl⟩

/-- **An operation sends its calls and changes nothing else**, whether it succeeds or fails. -/
theorem perform_effect (t : Terminal) :
    Effect (t.calls s.query s.index s.settings) s.query s (s.perform t).2 := by
  cases t with
  | get => exact s.fetch_effect s.query .get
  | first => exact s.fetch_effect { s.query with limit := some 1 } .first
  | last => exact s.fetch_effect s.query .last
  | count => exact s.fetch_effect s.query .count
  | paginate perPage page =>
    rw [Terminal.calls, ← pageQuery_eq]
    · exact s.fetch_effect _ .paginate
    · exact fun h => nomatch h
  | facets => exact s.facets_effect
  | toArray => exact s.fetch_effect s.query .get
  | toText => exact s.fetch_effect s.query .get
  | pluck member => exact s.fetch_effect s.query .get

theorem edit_effect (e : Edit κ) :
    Effect [] (Step.query s.query (.edit e)) s (s.step (.edit e)) := by
  rw [step, edit, Step.query]
  cases s.query.edit e with
  | ok edited => exact ⟨by rw [List.append_nil]; rfl, rfl, rfl, rfl⟩
  | error _ => exact .refl s

theorem step_effect (step : Step κ) :
    Effect (step.calls s.query s.index s.settings) (step.query s.query) s (s.step step) := by
  cases step with
  | edit e => exact s.edit_effect e
  | run t => exact s.perform_effect t

/-- What a run does is what its steps do, one after the other. -/
theorem run_effect (steps : List (Step κ)) :
    Effect (Step.callsOf s.index s.settings s.query steps) (steps.foldl Step.query s.query) s
      (s.run steps) := by
  induction steps generalizing s with
  | nil => exact .refl s
  | cons step rest ih =>
    have hstep := s.step_effect step
    have hrest := ih (s.step step)
    rw [hstep.index, hstep.settings, hstep.query] at hrest
    exact hstep.trans hrest

theorem follow_eq_run (chain : Chain (Step κ)) : s.follow chain = s.run chain.steps :=
  chain.run_eq_foldl step s

/-- **The calls of a run**, as the transport has recorded them, are those of its operations, in
their order, each for the query that the wishes before it have made.  Only the wishes that were
granted have changed the query, and nothing else has changed but the events.  A chain of wishes and
operations with conditions among them is the run of those that are gone through. -/
theorem calls_run (steps : List (Step κ)) :
    (s.run steps).transport = { s.transport with
        calls := s.transport.calls ++ Step.callsOf s.index s.settings s.query steps }
      ∧ (s.run steps).query = steps.foldl Step.query s.query
      ∧ (s.run steps).prototype = s.prototype ∧ (s.run steps).settings = s.settings
      ∧ ∀ chain : Chain (Step κ), chain.steps = steps → s.follow chain = s.run steps := by
  have h := s.run_effect steps
  refine ⟨h.transport, h.query, h.prototype, h.settings, ?_⟩
  rintro chain rfl
  exact s.follow_eq_run chain

end Session

end SearchQuery
