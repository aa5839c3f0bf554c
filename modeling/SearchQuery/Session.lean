import SearchQuery.Chain
import SearchQuery.Edit
import SearchQuery.Hydration
import SearchQuery.Page
import SearchQuery.Plan
import SearchQuery.Transport

/-!
# Sessions

A query in the making together with what answers it: the prototype of its records, the transport and
the settings.  The transport records the calls that it is given, and a session the events on the
way, the latest last.
-/

namespace SearchQuery

structure Session (κ α : Type) where
  prototype : α
  transport : Transport := {}
  settings : Settings := {}
  query : Query κ := {}
  events : List Event := []

/-- Records, and the number of documents found if the engine has told it. -/
structure Fetched (α : Type) where
  records : List α
  total : Option UInt64

namespace Session

variable {κ α : Type}

/-- One more wish about the query.  A wish that cannot be granted changes nothing. -/
def edit (s : Session κ α) (e : Edit κ) : Except Error (Session κ α) :=
  (s.query.edit e).map fun q => { s with query := q }

def emit (s : Session κ α) (events : List Event) : Session κ α :=
  { s with events := s.events ++ events }

def ask {β : Type} (s : Session κ α) (call : Transport → Except Error β × Transport) :
    Except Error β × Session κ α :=
  let (answer, transport) := call s.transport
  (answer, { s with transport })

def mapResult {β γ : Type} (f : β → γ) (r : Except Error β × Session κ α) :
    Except Error γ × Session κ α :=
  (r.1.map f, r.2)

section

variable [Record α]

def index (s : Session κ α) : String :=
  String.intercalate "," (Record.schema s.prototype).indexes

def plan (s : Session κ α) : Plan :=
  s.query.plan s.index s.settings

def request (s : Session κ α) : Request :=
  s.query.request s.index s.settings

def statement (s : Session κ α) : Sql.Statement :=
  s.query.statement s.index s.settings

/-- Sends what a plan says and makes records of the answer. -/
def execute (s : Session κ α) : Plan → Except Error (Fetched α) × Session κ α
  | .raw raw => mapResult ofPayload (s.ask (·.sql raw.sql raw.mode))
  | .sql text => mapResult ofPayload (s.ask (·.sql text .array))
  | .structured request => mapResult ofResponse (s.ask (·.search request))
where
  ofPayload (payload : Payload) : Fetched α :=
    { records := Record.ofPayload s.prototype payload, total := payload.total? }
  ofResponse (response : Response) : Fetched α :=
    { records := Record.ofHits s.prototype response.hits, total := some response.total }

end

variable [Record α] [Related κ α]

/-- Loads the relations of the query for records.  Without relations or records nothing is to do. -/
def loadRelations (s : Session κ α) (q : Query κ) (records : List α) :
    Except Error (List α) × List Event :=
  let loads := q.eagerLoads
  if loads.isEmpty || records.isEmpty then (.ok records, [])
  else
    let result := Related.loadRelations s.prototype loads records
    (result, [.relationLoad result.isOk, .relationsPerLoad loads.length])

def fetch (s : Session κ α) (q : Query κ) (operation : Operation) :
    Except Error (Fetched α) × Session κ α :=
  let plan := q.plan s.index s.settings
  let (result, s) := s.execute plan
  match result with
  | .error e =>
    (.error e, s.emit [.query plan.path false, .seconds plan.path operation])
  | .ok fetched =>
    let (records, events) := s.loadRelations q fetched.records
    (records.map fun records => { fetched with records },
      s.emit ([.query plan.path true, .results plan.path fetched.records.length] ++ events
        ++ [.seconds plan.path operation]))

def get (s : Session κ α) : Except Error (List α) × Session κ α :=
  mapResult Fetched.records (s.fetch s.query .get)

/-- The first record that the query finds; no more than one is asked for. -/
def first (s : Session κ α) : Except Error (Option α) × Session κ α :=
  mapResult (·.records.head?) (s.fetch { s.query with limit := some 1 } .first)

def last (s : Session κ α) : Except Error (Option α) × Session κ α :=
  mapResult (·.records.getLast?) (s.fetch s.query .last)

def count (s : Session κ α) : Except Error Nat × Session κ α :=
  mapResult (·.records.length) (s.fetch s.query .count)

/-- The query for one page.  A page has at least one record and pages are counted from one. -/
def pageQuery (q : Query κ) (perPage page : UInt64) : Query κ :=
  { q with limit := some perPage, offset := some (saturatingMul (page - 1) perPage) }

def paginate (s : Session κ α) (perPage page : UInt64) : Except Error (Page α) × Session κ α :=
  let perPage := if perPage = 0 then defaultPerPage else perPage
  let page := max page 1
  mapResult (fun fetched =>
      { items := fetched.records
        total := fetched.total.getD (UInt64.ofNat fetched.records.length)
        perPage
        currentPage := page })
    (s.fetch (pageQuery s.query perPage page) .paginate)

/-- The facets of the query.  A statement of the caller's own has none. -/
def facets (s : Session κ α) : Except Error Facets × Session κ α :=
  if s.query.raw.isSome then (.error .facetsInRawMode, s)
  else
    let (result, s) := s.ask (·.search s.request)
    let events := [.facetRequest, .facetAggregations s.query.aggregations.length,
      .query .structured result.isOk, .seconds .structured .facets]
    (result.map Response.facets, s.emit events)

def toArray (s : Session κ α) : Except Error (List Json) × Session κ α :=
  mapResult (fun records => records.map Record.toJson) s.get

def toText (s : Session κ α) : Except Error String × Session κ α :=
  mapResult (fun records => (Json.array (records.map Record.inOrder)).text) s.get

/-- One member of each record that the query finds, `null` where there is none. -/
def pluck (s : Session κ α) (member : String) : Except Error (List Json) × Session κ α :=
  mapResult (fun values => values.map fun v => (v.member? member).getD .null) s.toArray

end Session

inductive Terminal where
  | get
  | first
  | last
  | count
  | paginate (perPage page : UInt64)
  | facets
  | toArray
  | toText
  | pluck (member : String)
  deriving DecidableEq, Repr

inductive Outcome (α : Type) where
  | records (records : List α)
  | record (record : Option α)
  | count (n : Nat)
  | page (page : Page α)
  | facets (facets : Facets)
  | values (values : List Json)
  | text (text : String)

/-- One step of a run: a wish about the query, or an operation that ends it. -/
inductive Step (κ : Type) where
  | edit (edit : Edit κ)
  | run (terminal : Terminal)

namespace Session

variable {κ α : Type} [Record α] [Related κ α]

def perform (s : Session κ α) : Terminal → Except Error (Outcome α) × Session κ α
  | .get => mapResult .records s.get
  | .first => mapResult .record s.first
  | .last => mapResult .record s.last
  | .count => mapResult .count s.count
  | .paginate perPage page => mapResult .page (s.paginate perPage page)
  | .facets => mapResult .facets s.facets
  | .toArray => mapResult .values s.toArray
  | .toText => mapResult .text s.toText
  | .pluck member => mapResult .values (s.pluck member)

def step (s : Session κ α) : Step κ → Session κ α
  | .edit e => (s.edit e).toOption.getD s
  | .run t => (s.perform t).2

def run (s : Session κ α) (steps : List (Step κ)) : Session κ α :=
  steps.foldl step s

def follow (s : Session κ α) (chain : Chain (Step κ)) : Session κ α :=
  chain.run step s

end Session

end SearchQuery
