import SearchQuery.Proofs.Calls

/-!
# What a query brings

There are three ways to the engine, and behind them the same happens on each: the call is answered
with a payload or refused (`Transport.answer`), records are made of the payload, and what happened
is counted under the name of the way (`Query.path`).

* `Session.fetch_of_refused`, `Session.fetch_of_answered`: all that sending a query does.
* `Session.answered_of_fetch`: where something is brought, the call was answered.
-/

namespace SearchQuery

variable {κ : Type}

/-- The way of a query: its call is the caller's own statement, a statement of the library, or a
structured search. -/
def Query.path (q : Query κ) : Path :=
  match q.raw with
  | some _ => .raw
  | none => if q.groupBy = [] ∧ q.having = [] ∧ q.select = [] then .structured else .sql

theorem Query.path_plan (q : Query κ) (index : String) (settings : Settings) :
    (q.plan index settings).path = q.path := by
  rw [plan_eq, path]
  cases q.raw with
  | some raw => rfl
  | none =>
    dsimp only
    split <;> rfl

def Call.mode : Call → AnswerMode
  | .search _ => .object
  | .sql _ mode => mode

namespace Session

variable {α : Type} [Related κ α] (s : Session κ α)

theorem loadRelations_events (q : Query κ) (records : List α) :
    (s.loadRelations q records).2
      = if q.eagerLoads ≠ [] ∧ records ≠ [] then
          [.relationLoad (s.loadRelations q records).1.isOk, .relationsPerLoad q.eagerLoads.length]
        else [] := by
  rw [loadRelations]
  cases q.eagerLoads with
  | nil => rfl
  | cons load loads =>
    cases records with
    | nil => rfl
    | cons r records => rfl

variable [Record α]

/-- **A refused query** is a call, and nothing is recorded but the refusal and the time. -/
theorem fetch_of_refused {q : Query κ} {e : Error}
    (h : s.transport.answer (q.call s.index s.settings) = .error e) (operation : Operation) :
    s.fetch q operation
      = (.error e, (s.recorded (q.call s.index s.settings)).emit
          [.query q.path false, .seconds q.path operation]) := by
  rw [fetch, execute_plan, h, Query.path_plan]
  rfl

/-- **An answered query** is a call whose payload gives records.  Their number is recorded before
relations are loaded for them. -/
theorem fetch_of_answered {q : Query κ} {payload : Payload}
    (h : s.transport.answer (q.call s.index s.settings) = .ok payload) (operation : Operation) :
    let records := Record.ofPayload s.prototype payload
    s.fetch q operation
      = ((s.loadRelations q records).1.map fun records => { records, total := payload.total? },
        (s.recorded (q.call s.index s.settings)).emit
          ([.query q.path true, .results q.path records.length] ++ (s.loadRelations q records).2
            ++ [.seconds q.path operation])) := by
  intro records
  rw [fetch, execute_plan, h, Query.path_plan]
  rfl

theorem answered_of_fetch {q : Query κ} {operation : Operation} {fetched : Fetched α}
    (h : (s.fetch q operation).1 = .ok fetched) :
    ∃ payload, s.transport.answer (q.call s.index s.settings) = .ok payload
      ∧ fetched.total = payload.total? := by
  cases hanswer : s.transport.answer (q.call s.index s.settings) with
  | error e =>
    rw [s.fetch_of_refused hanswer] at h
    exact nomatch h
  | ok payload =>
    rw [s.fetch_of_answered hanswer] at h
    dsimp only at h
    cases hloaded : (s.loadRelations q (Record.ofPayload s.prototype payload)).1 with
    | error e =>
      rw [hloaded] at h
      exact nomatch h
    | ok records =>
      rw [hloaded] at h
      exact ⟨payload, rfl, congrArg Fetched.total (Except.ok.inj h).symm⟩

end Session

end SearchQuery
