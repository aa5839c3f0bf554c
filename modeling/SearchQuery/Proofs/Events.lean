import SearchQuery.Proofs.Answers
import SearchQuery.Proofs.Pagination
import SearchQuery.Proofs.Views

/-!
# What is recorded of a run

The events of a run account for all that it did.  Each operation is looked at by itself first, with
the session before it (`Performed`): which calls it is to make and under which names, how it ends,
how many records it makes.  `Performed.Accounted` says that its events tell just this.  There are
four ways for an operation to go: facets are asked for or rejected, and any other operation is
refused or answered.  A run is one operation after the other (`Session.log`), and before every step
the transport may be exchanged, so that answers and failures of all kinds follow one another.

* `Session.perform_eq`: every operation but the facets sends one query.
* `Performed.accounted_of_refused`, `Performed.accounted_of_answered`,
  `Performed.accounted_of_asked`, `Performed.accounted_of_rejected`: one operation.
* `Session.turns_adds`: what a run adds is what its operations add.
* `Session.accounts_of_turns`: a whole run.
-/

namespace SearchQuery

/-! ### Events of one kind -/

namespace Event

/-- A query that is counted: its way, and whether it was answered. -/
def counted? : Event → Option (Path × Bool)
  | .query path succeeded => some (path, succeeded)
  | _ => none

/-- A query whose time is taken: its way, and what it was sent for. -/
def timed? : Event → Option (Path × Operation)
  | .seconds path operation => some (path, operation)
  | _ => none

def found? : Event → Option (Path × Nat)
  | .results path count => some (path, count)
  | _ => none

def ofRelations : Event → Bool
  | .relationLoad _ => true
  | .relationsPerLoad _ => true
  | _ => false

def ofFacets : Event → Bool
  | .facetRequest => true
  | .facetAggregations _ => true
  | _ => false

theorem filter_relations {loading : List Event} (h : ∀ event ∈ loading, event.ofRelations = true) :
    loading.filterMap counted? = [] ∧ loading.filterMap timed? = [] ∧ loading.filterMap found? = []
      ∧ loading.filter ofRelations = loading ∧ loading.filter ofFacets = [] := by
  have hother : ∀ event ∈ loading, event.counted? = none ∧ event.timed? = none
      ∧ event.found? = none ∧ event.ofFacets = false := by
    intro event hevent
    have hkind := h event hevent
    cases event with
    | relationLoad succeeded => exact ⟨rfl, rfl, rfl, rfl⟩
    | relationsPerLoad count => exact ⟨rfl, rfl, rfl, rfl⟩
    | _ => exact absurd hkind Bool.false_ne_true
  refine ⟨?_, ?_, ?_, List.filter_eq_self.mpr h, ?_⟩
  · exact List.filterMap_eq_nil_iff.mpr fun event hevent => (hother event hevent).1
  · exact List.filterMap_eq_nil_iff.mpr fun event hevent => (hother event hevent).2.1
  · exact List.filterMap_eq_nil_iff.mpr fun event hevent => (hother event hevent).2.2.1
  · refine List.filter_eq_nil_iff.mpr fun event hevent => ?_
    rw [(hother event hevent).2.2.2]
    exact Bool.false_ne_true

end Event

/-! ### Operations -/

def Terminal.operation : Terminal → Operation
  | .first => .first
  | .last => .last
  | .count => .count
  | .paginate .. => .paginate
  | .facets => .facets
  | _ => .get

/-- How many records were found, where the outcome shows it. -/
def Outcome.size? {α : Type} : Outcome α → Option Nat
  | .records found => some found.length
  | .count n => some n
  | .page p => some p.items.length
  | .values vs => some vs.length
  | _ => none

/-- One operation of a run, with the session before it. -/
structure Performed (κ α : Type) where
  before : Session κ α
  terminal : Terminal

namespace Performed

variable {κ α : Type} [Record α] [Related κ α] (op : Performed κ α)

def result : Except Error (Outcome α) :=
  (op.before.perform op.terminal).1

def after : Session κ α :=
  (op.before.perform op.terminal).2

def calls : List Call :=
  op.after.transport.calls.drop op.before.transport.calls.length

def events : List Event :=
  op.after.events.drop op.before.events.length

def query : Query κ :=
  op.terminal.query op.before.query

def call : Call :=
  op.query.call op.before.index op.before.settings

/-- The calls that the operation is to make, each under the name of its way. -/
def sent : List (Path × Call) :=
  match op.terminal with
  | .facets =>
    if op.before.query.raw = none then [(.structured, .search op.before.request)] else []
  | _ => [(op.query.path, op.call)]

/-- The records that are made of the answer, none if there is no answer or if facets are asked
for. -/
def hydrated : List α :=
  if op.terminal = .facets then []
  else
    match op.before.transport.answer op.call with
    | .ok payload => Record.ofPayload op.before.prototype payload
    | .error _ => []

/-- The events of the operation account for it. -/
structure Accounted (op : Performed κ Document) : Prop where
  calls : op.calls = op.sent.map Prod.snd
  /-- Every call is counted under its way, and as it ended. -/
  counted : op.events.filterMap Event.counted?
    = op.sent.map fun sent => (sent.1, op.result.isOk)
  timed : op.events.filterMap Event.timed?
    = op.sent.map fun sent => (sent.1, op.terminal.operation)
  /-- An operation that makes a call ends in an error exactly if the transport does. -/
  refused : ∀ sent ∈ op.sent, ∀ error,
    op.result = .error error ↔ op.before.transport.answer sent.2 = .error error
  /-- One number of records for each answer but that of facets. -/
  found : op.events.filterMap Event.found?
    = if op.terminal ≠ .facets ∧ op.result.isOk then [(op.query.path, op.hydrated.length)] else []
  /-- And it is the number that the caller sees. -/
  shown : ∀ outcome, op.result = .ok outcome → ∀ n, outcome.size? = some n → n = op.hydrated.length
  /-- Relations are loaded where there are some and records to load them for. -/
  relations : op.events.filter Event.ofRelations
    = if op.query.eagerLoads ≠ [] ∧ op.hydrated ≠ [] then
        [.relationLoad true, .relationsPerLoad op.query.eagerLoads.length]
      else []
  facets : op.events.filter Event.ofFacets
    = if op.terminal = .facets ∧ op.before.query.raw = none then
        [.facetRequest, .facetAggregations op.before.query.aggregations.length]
      else []
  rejected : op.terminal = .facets → op.before.query.raw ≠ none →
    op.result = .error .facetsInRawMode ∧ op.events = [] ∧ op.calls = []

end Performed

namespace Session

variable {κ α : Type}

theorem mapResult_mapResult {β γ δ : Type} (f : β → γ) (g : γ → δ)
    (r : Except Error β × Session κ α) :
    mapResult g (mapResult f r) = mapResult (fun b => g (f b)) r := by
  obtain ⟨result, s⟩ := r
  cases result <;> rfl

variable [Record α] [Related κ α]

/-- **Every operation but the facets sends one query** and shows what it brings. -/
theorem perform_eq (s : Session κ α) {t : Terminal} (h : t ≠ .facets) :
    ∃ view : Fetched α → Outcome α,
      s.perform t = mapResult view (s.fetch (t.query s.query) t.operation)
        ∧ ∀ fetched n, (view fetched).size? = some n → n = fetched.records.length := by
  cases t with
  | get =>
    exact ⟨fun fetched => .records fetched.records, mapResult_mapResult ..,
      by simp [Outcome.size?, eq_comm]⟩
  | first =>
    exact ⟨fun fetched => .record fetched.records.head?, mapResult_mapResult ..,
      by simp [Outcome.size?]⟩
  | last =>
    exact ⟨fun fetched => .record fetched.records.getLast?, mapResult_mapResult ..,
      by simp [Outcome.size?]⟩
  | count =>
    exact ⟨fun fetched => .count fetched.records.length, mapResult_mapResult ..,
      by simp [Outcome.size?, eq_comm]⟩
  | paginate perPage page =>
    rw [perform, paginate_eq, mapResult_mapResult]
    exact ⟨_, rfl, by simp [Outcome.size?, eq_comm]⟩
  | facets => exact absurd rfl h
  | toArray =>
    rw [perform, toArray, get, mapResult_mapResult, mapResult_mapResult]
    exact ⟨_, rfl, by simp [Outcome.size?, eq_comm]⟩
  | toText =>
    rw [perform, toText, get, mapResult_mapResult, mapResult_mapResult]
    exact ⟨_, rfl, by simp [Outcome.size?]⟩
  | pluck member =>
    rw [perform, pluck, toArray, get, mapResult_mapResult, mapResult_mapResult,
      mapResult_mapResult]
    exact ⟨_, rfl, by simp [Outcome.size?, eq_comm]⟩

end Session

/-! ### One operation -/

namespace Performed

variable {κ α : Type} [Record α] (op : Performed κ α)

theorem sent_of_ne_facets (h : op.terminal ≠ .facets) : op.sent = [(op.query.path, op.call)] := by
  obtain ⟨before, terminal⟩ := op
  cases terminal with
  | facets => exact absurd rfl h
  | _ => rfl

theorem hydrated_of_refused {error : Error}
    (h : op.before.transport.answer op.call = .error error) : op.hydrated = [] := by
  rw [hydrated, h]
  split <;> rfl

theorem hydrated_of_answered (h : op.terminal ≠ .facets) {payload : Payload}
    (hanswer : op.before.transport.answer op.call = .ok payload) :
    op.hydrated = Record.ofPayload op.before.prototype payload := by
  rw [hydrated, if_neg h, hanswer]

variable [Related κ α]

theorem added (calls : List Call) (events : List Event)
    (hcalls : op.after.transport.calls = op.before.transport.calls ++ calls)
    (hevents : op.after.events = op.before.events ++ events) :
    op.calls = calls ∧ op.events = events := by
  rw [Performed.calls, Performed.events, hcalls, hevents]
  exact ⟨List.drop_left, List.drop_left⟩

theorem perform_eq (h : op.terminal ≠ .facets) :
    ∃ view : Fetched α → Outcome α,
      op.before.perform op.terminal
          = Session.mapResult view (op.before.fetch op.query op.terminal.operation)
        ∧ ∀ fetched n, (view fetched).size? = some n → n = fetched.records.length :=
  op.before.perform_eq h

variable {op : Performed κ Document}

theorem accounted_of_refused (h : op.terminal ≠ .facets) {error : Error}
    (hanswer : op.before.transport.answer op.call = .error error) : op.Accounted := by
  obtain ⟨view, hperform, -⟩ := op.perform_eq h
  rw [op.before.fetch_of_refused hanswer] at hperform
  have hresult : op.result = .error error := congrArg Prod.fst hperform
  obtain ⟨hcalls, hevents⟩ := op.added [op.call] _
    (congrArg (fun performed => performed.2.transport.calls) hperform)
    (congrArg (fun performed => performed.2.events) hperform)
  have hsent := op.sent_of_ne_facets h
  have hnone := op.hydrated_of_refused hanswer
  constructor
  case calls => rw [hcalls, hsent]; rfl
  case counted => rw [hevents, hsent, hresult]; rfl
  case timed => rw [hevents, hsent]; rfl
  case refused => simp [hsent, hresult, hanswer]
  case found => rw [hevents, hresult, if_neg (by simp [Except.isOk, Except.toBool])]; rfl
  case shown => simp [hresult]
  case relations => rw [hevents, hnone, if_neg (by simp)]; rfl
  case facets => rw [hevents, if_neg (by simp [h])]; rfl
  case rejected => exact fun hfacets => absurd hfacets h

theorem accounted_of_answered (h : op.terminal ≠ .facets) {payload : Payload}
    (hanswer : op.before.transport.answer op.call = .ok payload) : op.Accounted := by
  obtain ⟨view, hperform, hview⟩ := op.perform_eq h
  have hhydrated := op.hydrated_of_answered h hanswer
  rw [op.before.fetch_of_answered hanswer, ← hhydrated, Document.loadRelations_eq,
    Session.loadRelations_events, Document.loadRelations_eq] at hperform
  have hresult : op.result = .ok (view { records := op.hydrated, total := payload.total? }) :=
    congrArg Prod.fst hperform
  obtain ⟨hcalls, hevents⟩ := op.added [op.call] _
    (congrArg (fun performed => performed.2.transport.calls) hperform)
    (congrArg (fun performed => performed.2.events) hperform)
  have hsent := op.sent_of_ne_facets h
  -- The events of relations stand between the others, and no other list of events sees them.
  generalize hloading : ite (op.query.eagerLoads ≠ [] ∧ op.hydrated ≠ []) _ _ = loading at hevents
  have hkind : ∀ event ∈ loading, event.ofRelations = true := by
    intro event hevent
    rw [← hloading] at hevent
    split at hevent
    · rcases List.mem_pair.mp hevent with rfl | rfl <;> rfl
    · exact absurd hevent List.not_mem_nil
  obtain ⟨hcounted, htimed, hfound, hrelations, hfacets⟩ := Event.filter_relations hkind
  constructor
  case calls => rw [hcalls, hsent]; rfl
  case counted =>
    rw [hevents, hsent, hresult, List.filterMap_append, List.filterMap_append, hcounted]
    rfl
  case timed =>
    rw [hevents, hsent, List.filterMap_append, List.filterMap_append, htimed]
    rfl
  case refused => simp [hsent, hresult, hanswer]
  case found =>
    have hok : op.terminal ≠ .facets ∧ op.result.isOk = true := ⟨h, by rw [hresult]; rfl⟩
    rw [if_pos hok, hevents, List.filterMap_append, List.filterMap_append, hfound]
    rfl
  case shown =>
    intro outcome houtcome n hsize
    rw [hresult] at houtcome
    rw [← Except.ok.inj houtcome] at hsize
    exact hview _ n hsize
  case relations =>
    rw [hevents, List.filter_append, List.filter_append, hrelations, ← hloading]
    exact List.append_nil _
  case facets =>
    rw [hevents, List.filter_append, List.filter_append, hfacets, if_neg fun hboth => h hboth.1]
    rfl
  case rejected => exact fun hfacets => absurd hfacets h

theorem hydrated_of_facets (h : op.terminal = .facets) : op.hydrated = [] :=
  if_pos h

theorem accounted_of_asked (h : op.terminal = .facets) (hraw : op.before.query.raw = none) :
    op.Accounted := by
  have hperform : op.before.perform op.terminal
      = Session.mapResult .facets (
        (op.before.transport.search op.before.request).1.map Response.facets,
        (op.before.recorded (.search op.before.request)).emit [.facetRequest,
          .facetAggregations op.before.query.aggregations.length,
          .query .structured (op.before.transport.search op.before.request).1.isOk,
          .seconds .structured .facets]) := by
    rw [h, Session.perform, Session.facets, if_neg (by simp [hraw])]
    rfl
  obtain ⟨hcalls, hevents⟩ := op.added [.search op.before.request] _
    (congrArg (fun performed => performed.2.transport.calls) hperform)
    (congrArg (fun performed => performed.2.events) hperform)
  have hresult : op.result
      = ((op.before.transport.search op.before.request).1.map Response.facets).map .facets :=
    congrArg Prod.fst hperform
  have hsent : op.sent = [(.structured, .search op.before.request)] := by
    rw [sent, h]
    exact if_pos hraw
  have hok : op.result.isOk = (op.before.transport.search op.before.request).1.isOk := by
    rw [hresult]
    cases (op.before.transport.search op.before.request).1 <;> rfl
  have hnone := hydrated_of_facets h
  constructor
  case calls => rw [hcalls, hsent]; rfl
  case counted => rw [hevents, hsent, hok]; rfl
  case timed => rw [hevents, hsent, h]; rfl
  case refused =>
    intro sent hmem error
    obtain rfl := List.mem_singleton.mp (hsent ▸ hmem)
    rw [hresult, Transport.answer]
    cases (op.before.transport.search op.before.request).1 <;> simp [Except.map]
  case found => rw [hevents, if_neg (by simp [h])]; rfl
  case shown =>
    intro outcome houtcome n hsize
    rw [hresult] at houtcome
    cases hsearch : (op.before.transport.search op.before.request).1 with
    | error error =>
      rw [hsearch] at houtcome
      exact absurd houtcome (by simp [Except.map])
    | ok response =>
      rw [hsearch] at houtcome
      rw [← Except.ok.inj houtcome] at hsize
      exact absurd hsize (by simp [Outcome.size?])
  case relations => rw [hevents, hnone, if_neg (by simp)]; rfl
  case facets => rw [hevents, if_pos ⟨h, hraw⟩]; rfl
  case rejected => exact fun _ hrejected => absurd hraw hrejected

theorem accounted_of_rejected (h : op.terminal = .facets) (hraw : op.before.query.raw ≠ none) :
    op.Accounted := by
  have hperform : op.before.perform op.terminal = (.error .facetsInRawMode, op.before) := by
    have hsome : op.before.query.raw.isSome = true := Option.isSome_iff_ne_none.mpr hraw
    rw [h, Session.perform, Session.facets, if_pos hsome]
    rfl
  have hafter : op.after = op.before := congrArg Prod.snd hperform
  obtain ⟨hcalls, hevents⟩ := op.added [] []
    (by rw [hafter, List.append_nil]) (by rw [hafter, List.append_nil])
  have hresult : op.result = .error .facetsInRawMode := congrArg Prod.fst hperform
  have hsent : op.sent = [] := by
    rw [sent, h]
    exact if_neg hraw
  have hnone := hydrated_of_facets h
  constructor
  case calls => rw [hcalls, hsent]; rfl
  case counted => rw [hevents, hsent]; rfl
  case timed => rw [hevents, hsent]; rfl
  case refused => simp [hsent]
  case found => rw [hevents, if_neg (by simp [h])]; rfl
  case shown => simp [hresult]
  case relations => rw [hevents, hnone, if_neg (by simp)]; rfl
  case facets => rw [hevents, if_neg fun hboth => hraw hboth.2]; rfl
  case rejected => exact fun _ _ => ⟨hresult, hevents, hcalls⟩

/-- **The events of an operation account for it**, whichever way it goes. -/
theorem accounted (op : Performed κ Document) : op.Accounted := by
  by_cases h : op.terminal = .facets
  · by_cases hraw : op.before.query.raw = none
    · exact accounted_of_asked h hraw
    · exact accounted_of_rejected h hraw
  · cases hanswer : op.before.transport.answer op.call with
    | error error => exact accounted_of_refused h hanswer
    | ok payload => exact accounted_of_answered h hanswer

end Performed

/-! ### Runs -/

variable {κ : Type}

/-- A step of a run, and how the transport answers it. -/
structure Turn (κ : Type) where
  answers : Answers
  step : Step κ

def Turn.terminal? (t : Turn κ) : Option Terminal :=
  match t.step with
  | .edit _ => none
  | .run terminal => some terminal

namespace Session

variable {α : Type} [Record α]

def answering (s : Session κ α) (answers : Answers) : Session κ α :=
  { s with transport := { s.transport with toAnswers := answers } }

variable [Related κ α] (s : Session κ α)

def turn (t : Turn κ) : Session κ α :=
  (s.answering t.answers).step t.step

/-- The session after steps that are answered each in its own way. -/
def turns (ts : List (Turn κ)) : Session κ α :=
  ts.foldl turn s

/-- The operations among the steps, each with the session before it. -/
def log (s : Session κ α) : List (Turn κ) → List (Performed κ α)
  | [] => []
  | t :: rest =>
    match t.step with
    | .edit _ => log (s.turn t) rest
    | .run terminal => ⟨s.answering t.answers, terminal⟩ :: log (s.turn t) rest

theorem turns_eq_run (steps : List (Step κ)) :
    s.turns (steps.map fun step => ⟨s.transport.toAnswers, step⟩) = s.run steps := by
  induction steps generalizing s with
  | nil => rfl
  | cons step rest ih =>
    have hanswers : (s.step step).transport.toAnswers = s.transport.toAnswers := by
      rw [(s.step_effect step).transport]
    have hrest := ih (s.step step)
    rw [hanswers] at hrest
    exact hrest

theorem terminals_log (ts : List (Turn κ)) :
    (s.log ts).map Performed.terminal = ts.filterMap Turn.terminal? := by
  induction ts generalizing s with
  | nil => rfl
  | cons t rest ih =>
    obtain ⟨answers, step⟩ := t
    cases step with
    | edit e => exact ih _
    | run terminal => exact congrArg (List.cons terminal) (ih _)

theorem prefix_perform (t : Terminal) : s.events <+: (s.perform t).2.events := by
  by_cases h : t = .facets
  · rw [h, perform, facets]
    split
    · exact List.prefix_rfl
    · exact List.prefix_append ..
  · obtain ⟨view, hperform, -⟩ := s.perform_eq h
    rw [hperform]
    cases hanswer : s.transport.answer ((t.query s.query).call s.index s.settings) with
    | error error =>
      rw [s.fetch_of_refused hanswer]
      exact List.prefix_append ..
    | ok payload =>
      rw [s.fetch_of_answered hanswer]
      exact List.prefix_append ..

end Session

theorem Performed.after_eq {α : Type} [Record α] [Related κ α] (op : Performed κ α) :
    op.after.transport.calls = op.before.transport.calls ++ op.calls
      ∧ op.after.events = op.before.events ++ op.events := by
  have hcalls : op.before.transport.calls <+: op.after.transport.calls := by
    rw [after, (op.before.perform_effect op.terminal).transport]
    exact List.prefix_append ..
  exact ⟨(List.prefix_iff_eq_append.mp hcalls).symm,
    (List.prefix_iff_eq_append.mp (op.before.prefix_perform op.terminal)).symm⟩

namespace Session

/-- **What a run adds** is what its operations add, one after the other; wishes add nothing. -/
theorem turns_adds {α : Type} [Record α] [Related κ α] (s : Session κ α) (ts : List (Turn κ)) :
    (s.turns ts).transport.calls = s.transport.calls ++ (s.log ts).flatMap Performed.calls
      ∧ (s.turns ts).events = s.events ++ (s.log ts).flatMap Performed.events := by
  induction ts generalizing s with
  | nil => exact ⟨(List.append_nil s.transport.calls).symm, (List.append_nil s.events).symm⟩
  | cons t rest ih =>
    obtain ⟨hcalls, hevents⟩ := ih (s.turn t)
    obtain ⟨answers, step⟩ := t
    cases step with
    | edit e =>
      have hsame : (s.turn ⟨answers, .edit e⟩).transport.calls = s.transport.calls
          ∧ (s.turn ⟨answers, .edit e⟩).events = s.events := by
        rw [turn, step, edit]
        dsimp only
        cases (s.answering answers).query.edit e <;> exact ⟨rfl, rfl⟩
      rw [hsame.1] at hcalls
      rw [hsame.2] at hevents
      exact ⟨hcalls, hevents⟩
    | run terminal =>
      -- What the operation adds stands before what the rest of the run adds.
      have hadded := Performed.after_eq ⟨s.answering answers, terminal⟩
      change (s.turn ⟨answers, .run terminal⟩).transport.calls = s.transport.calls ++ _
        ∧ (s.turn ⟨answers, .run terminal⟩).events = s.events ++ _ at hadded
      rw [hadded.1, List.append_assoc] at hcalls
      rw [hadded.2, List.append_assoc] at hevents
      exact ⟨hcalls, hevents⟩

/-- **The events of a run account for every operation.**  The calls, the counted queries and the
times correspond to each other, in their order and by the names of their ways, and each operation
has events of its own that tell what it did. -/
theorem accounts_of_turns (s : Session κ Document) (ts : List (Turn κ)) :
    let log := s.log ts
    let sent := log.flatMap Performed.sent
    (∀ steps : List (Step κ), ts = steps.map (fun step => ⟨s.transport.toAnswers, step⟩) →
        s.turns ts = s.run steps)
      ∧ log.map Performed.terminal = ts.filterMap Turn.terminal?
      ∧ ∃ events, (s.turns ts).events = s.events ++ events
        ∧ (s.turns ts).transport.calls = s.transport.calls ++ sent.map Prod.snd
        ∧ (events.filterMap Event.counted?).map Prod.fst = sent.map Prod.fst
        ∧ (events.filterMap Event.timed?).map Prod.fst = sent.map Prod.fst
        ∧ events = log.flatMap Performed.events ∧ ∀ op ∈ log, op.Accounted := by
  intro log sent
  obtain ⟨hcalls, hevents⟩ := s.turns_adds ts
  refine ⟨?_, s.terminals_log ts, log.flatMap Performed.events, hevents, ?_, ?_, ?_, rfl,
    fun op _ => op.accounted⟩
  · rintro steps rfl
    exact s.turns_eq_run steps
  · rw [hcalls, List.map_flatMap]
    congr 1
    exact List.flatMap_congr fun op _ => op.accounted.calls
  · rw [List.filterMap_flatMap, List.map_flatMap, List.map_flatMap]
    refine List.flatMap_congr fun op _ => ?_
    rw [op.accounted.counted, List.map_map]
    rfl
  · rw [List.filterMap_flatMap, List.map_flatMap, List.map_flatMap]
    refine List.flatMap_congr fun op _ => ?_
    rw [op.accounted.timed, List.map_map]
    rfl

/-- An answer with relations, a transport that fails, facets of a statement of the caller's own, and
a body that cannot be read. -/
theorem accounts_of_turns_mixed :
    let s : Session Unit Document := {
      prototype := {}
      query := { eager := [{ relation := "a" }, { relation := "b" }, { relation := "a" }] } }
    let found : Answers := {
      response := { total := 9, hits := [{}, {}] }, body := .ofInt 1 }
    let failing : Answers := { found with failure := some "down" }
    let ts : List (Turn Unit) := [⟨found, .run .count⟩, ⟨failing, .run .facets⟩,
      ⟨found, .edit (.rawQuery "SHOW" .array)⟩, ⟨found, .run .facets⟩,
      ⟨found, .run (.paginate 0 0)⟩]
    (s.turns ts).events = [
        .query .structured true, .results .structured 2, .relationLoad true, .relationsPerLoad 2,
        .seconds .structured .count,
        .facetRequest, .facetAggregations 0, .query .structured false, .seconds .structured .facets,
        .query .raw false, .seconds .raw .paginate]
      ∧ (s.log ts).map (fun op => op.sent.map Prod.fst) = [[.structured], [.structured], [], [.raw]]
      ∧ ∀ op ∈ s.log ts, op.Accounted := by
  intro s found failing ts
  obtain ⟨-, -, -, -, -, -, -, -, haccounted⟩ := s.accounts_of_turns ts
  exact ⟨by decide, by decide, haccounted⟩

end Session

end SearchQuery
