import SearchQuery.Payload
import SearchQuery.Proofs.Json.Fields

/-!
# Responses are read back

A response that was read from a body is written as a body from which the same response is read,
although the two bodies may differ: a default is written for what is missing, nothing for `null`, an
object for an array of fields, and a floating-point number for a whole score.

A hit is known from what is written of it if none of its parts is written like a missing one
(`Hit.Distinguished`), and this holds of every hit that was read from a JSON value.

* `Hit.ofJson?_eq_some_iff`, `Response.hitsOfJson?_eq_some_iff`, `Response.ofBody?_eq_some_iff`,
  `Response.ofJson_eq_ok_iff`: what the readers make of the fields of a value.
* `Hit.ofJson?_toJson`, `Facets.ofJson?_toJson`, `Response.ofJson_toJson`: what is read back.
* `Hit.distinguished_of_ofJson?`, `Response.distinguished_of_ofJson`: what was read.
* `Response.read_again`: so every response that was read is read back.
-/

namespace SearchQuery

/-! ### Hits -/

namespace Hit

def fields : List (String × Json.Presence) :=
  [("_id", .defaulted), ("_score", .defaulted), ("_source", .defaulted), ("highlight", .defaulted)]

theorem ofJson?_eq_some_iff {v : Json} {h : Hit} :
    ofJson? v = some h ↔ ∃ id score source highlight,
      v.fields? fields = some [id, score, source, highlight]
      ∧ Json.nullable some id = some h.id
      ∧ Json.nullable Json.asFloat? score = some h.score
      ∧ Json.orDefault .empty (Json.dictionaryOf? some) source = some h.source
      ∧ Json.nullable some highlight = some h.highlight := by
  constructor
  · intro hread
    obtain ⟨found, hfound, hread⟩ := Option.bind_eq_some_iff.mp hread
    split at hread
    · next id score source highlight =>
      obtain ⟨id', hid, hread⟩ := Option.bind_eq_some_iff.mp hread
      obtain ⟨score', hscore, hread⟩ := Option.bind_eq_some_iff.mp hread
      obtain ⟨source', hsource, hread⟩ := Option.bind_eq_some_iff.mp hread
      obtain ⟨highlight', hhighlight, hread⟩ := Option.bind_eq_some_iff.mp hread
      obtain rfl := Option.some.inj hread
      exact ⟨id, score, source, highlight, hfound, hid, hscore, hsource, hhighlight⟩
    · exact nomatch hread
  · rintro ⟨id, score, source, highlight, hfound, hid, hscore, hsource, hhighlight⟩
    show (v.fields? fields).bind _ = some h
    rw [hfound, Option.bind_some]
    dsimp only
    rw [hid, hscore, hsource, hhighlight]
    rfl
/-- No part of the hit is written like a missing one. -/
structure Distinguished (h : Hit) : Prop where
  id : h.id ≠ some .null
  score : ∀ x, h.score = some x → x.isFinite = true
  highlight : h.highlight ≠ some .null

theorem fields?_toJson (h : Hit) :
    h.toJson.fields? fields = some [some (h.id.getD .null), h.score.map .ofFloat,
      some (.ofDictionary h.source), h.highlight] := by
  obtain ⟨id, score, source, highlight⟩ := h
  cases score <;> cases highlight <;>
    simp [toJson, fields, Json.fields?, Json.named?, Entries.find?]

/-- **A hit is read back** if none of its parts is written like a missing one. -/
theorem ofJson?_toJson {h : Hit} (hd : h.Distinguished) : ofJson? h.toJson = some h := by
  refine ofJson?_eq_some_iff.mpr ⟨_, _, _, _, h.fields?_toJson, ?_, ?_, ?_, ?_⟩
  · cases hid : h.id with
    | none => rfl
    | some id => exact Json.nullable_of_ne_null fun hnull => hd.id (hnull ▸ hid)
  · cases hscore : h.score with
    | none => rfl
    | some x =>
      -- Only a finite score is written as a number.
      rw [Option.map_some, Json.ofFloat_eq, if_pos (hd.score x hscore)]
      rfl
  · exact Json.orDefault_of_read (Json.dictionaryOf?_ofDictionary h.source)
  · cases hhighlight : h.highlight with
    | none => rfl
    | some v => exact Json.nullable_of_ne_null fun hnull => hd.highlight (hnull ▸ hhighlight)

theorem distinguished_of_ofJson? {v : Json} (hv : v.isRepresentable = true) {h : Hit}
    (hread : ofJson? v = some h) : h.Distinguished := by
  obtain ⟨id, score, source, highlight, hfound, hid, hscore, -, hhighlight⟩ :=
    ofJson?_eq_some_iff.mp hread
  constructor
  · intro hnull
    rw [hnull] at hid
    obtain ⟨w, -, hne, hw⟩ := Json.exists_of_nullable hid
    exact hne (Option.some.inj hw)
  · intro x hx
    rw [hx] at hscore
    obtain ⟨w, rfl, -, hw⟩ := Json.exists_of_nullable hscore
    have hpart : w.isRepresentable = true := Json.isRepresentable_of_fields? hv hfound (by simp)
    exact Json.isFinite_of_asFloat? hpart hw
  · intro hnull
    rw [hnull] at hhighlight
    obtain ⟨w, -, hne, hw⟩ := Json.exists_of_nullable hhighlight
    exact hne (Option.some.inj hw)

end Hit

/-! ### Facets -/

theorem Bucket.fields?_toJson (b : Bucket) :
    b.toJson.fields? [("key", .required), ("doc_count", .required)]
      = some [some b.key, some (.ofWord b.count)] := by
  simp [toJson, Json.fields?, Json.named?, Entries.find?]

theorem Bucket.ofJson?_toJson (b : Bucket) : ofJson? b.toJson = some b := by
  rw [ofJson?, fields?_toJson, Option.bind_eq_bind, Option.bind_some]
  dsimp only
  rw [Json.asWord?_ofWord]
  rfl

theorem Facet.ofJson?_toJson (f : Facet) : ofJson? f.toJson = some f := by
  have hbuckets : Json.listOf? Bucket.ofJson? (.array (f.buckets.map Bucket.toJson))
      = some f.buckets :=
    Json.listOf?_map fun b _ => b.ofJson?_toJson
  simp [toJson, ofJson?, Json.fields?, Json.named?, Entries.find?, Json.orDefault, hbuckets]

theorem Facets.ofJson?_toJson (fs : Facets) : ofJson? fs.toJson = some fs :=
  Json.dictionaryOf?_map Facet.ofJson?_toJson fs

/-! ### Responses -/

namespace Response

theorem hitsOfJson?_eq_some_iff {v : Json} {read : UInt64 × List Hit} :
    hitsOfJson? v = some read ↔ ∃ total hits,
      v.fields? [("total", .defaulted), ("hits", .defaulted)] = some [total, hits]
      ∧ Json.orDefault 0 Json.asWord? total = some read.1
      ∧ Json.orDefault [] (Json.listOf? Hit.ofJson?) hits = some read.2 := by
  constructor
  · intro hread
    obtain ⟨found, hfound, hread⟩ := Option.bind_eq_some_iff.mp hread
    split at hread
    · next total hits =>
      obtain ⟨total', htotal, hread⟩ := Option.bind_eq_some_iff.mp hread
      obtain ⟨hits', hhits, hread⟩ := Option.bind_eq_some_iff.mp hread
      obtain rfl := Option.some.inj hread
      exact ⟨total, hits, hfound, htotal, hhits⟩
    · exact nomatch hread
  · rintro ⟨total, hits, hfound, htotal, hhits⟩
    show (v.fields? _).bind _ = some read
    rw [hfound, Option.bind_some]
    dsimp only
    rw [htotal, hhits]
    rfl

theorem ofBody?_eq_some_iff {body : Json} {r : Response} :
    ofBody? body = some r ↔ ∃ hits facets,
      body.fields? [("hits", .defaulted), ("aggregations", .defaulted)] = some [hits, facets]
      ∧ Json.orDefault (0, []) hitsOfJson? hits = some (r.total, r.hits)
      ∧ Json.orDefault .empty Facets.ofJson? facets = some r.facets := by
  constructor
  · intro hread
    obtain ⟨found, hfound, hread⟩ := Option.bind_eq_some_iff.mp hread
    split at hread
    · next hits facets =>
      obtain ⟨⟨total', hits'⟩, hhits, hread⟩ := Option.bind_eq_some_iff.mp hread
      obtain ⟨facets', hfacets, hread⟩ := Option.bind_eq_some_iff.mp hread
      obtain rfl := Option.some.inj hread
      exact ⟨hits, facets, hfound, hhits, hfacets⟩
    · exact nomatch hread
  · rintro ⟨hits, facets, hfound, hhits, hfacets⟩
    show (body.fields? _).bind _ = some r
    rw [hfound, Option.bind_some]
    dsimp only
    rw [hhits, hfacets]
    rfl

theorem ofJson_eq_ok_iff {body : Json} {r : Response} :
    ofJson body = .ok r
      ↔ engineComplaint? body = none ∧ (∃ ms, body = .object ms) ∧ ofBody? body = some r := by
  unfold ofJson
  cases engineComplaint? body with
  | some message => simp
  | none =>
    cases body with
    | object ms => cases ofBody? (.object ms) <;> simp
    | _ => simp
def Distinguished (r : Response) : Prop :=
  ∀ hit ∈ r.hits, hit.Distinguished

def hitsJson (r : Response) : Json :=
  .object [("hits", .array (r.hits.map Hit.toJson)), ("total", .ofWord r.total)]

theorem fields?_hitsJson (r : Response) :
    r.hitsJson.fields? [("total", .defaulted), ("hits", .defaulted)]
      = some [some (.ofWord r.total), some (.array (r.hits.map Hit.toJson))] := by
  simp [hitsJson, Json.fields?, Json.named?, Entries.find?]

theorem fields?_toJson (r : Response) :
    r.toJson.fields? [("hits", .defaulted), ("aggregations", .defaulted)]
      = some [some r.hitsJson, some r.facets.toJson] := by
  simp [toJson, hitsJson, Json.fields?, Json.named?, Entries.find?]

/-- **A response is read back** if no part of a hit is written like a missing one. -/
theorem ofJson_toJson {r : Response} (hr : r.Distinguished) : ofJson r.toJson = .ok r := by
  have hhits : Json.listOf? Hit.ofJson? (.array (r.hits.map Hit.toJson)) = some r.hits :=
    Json.listOf?_map fun hit hmem => Hit.ofJson?_toJson (hr hit hmem)
  have hinner : hitsOfJson? r.hitsJson = some (r.total, r.hits) :=
    hitsOfJson?_eq_some_iff.mpr ⟨_, _, r.fields?_hitsJson,
      Json.orDefault_of_read (Json.asWord?_ofWord r.total), Json.orDefault_of_read hhits⟩
  have hbody : ofBody? r.toJson = some r :=
    ofBody?_eq_some_iff.mpr ⟨_, _, r.fields?_toJson, Json.orDefault_of_read hinner,
      Json.orDefault_of_read (Facets.ofJson?_toJson r.facets)⟩
  have hcomplaint : engineComplaint? r.toJson = none := by
    simp [engineComplaint?, toJson, Json.member?, Entries.find?]
  exact ofJson_eq_ok_iff.mpr ⟨hcomplaint, ⟨_, rfl⟩, hbody⟩

theorem distinguished_of_ofJson {body : Json} (hbody : body.isRepresentable = true) {r : Response}
    (h : ofJson body = .ok r) : r.Distinguished := by
  intro hit hmem
  obtain ⟨-, -, hread⟩ := ofJson_eq_ok_iff.mp h
  obtain ⟨hits, facets, hfound, hinner, -⟩ := ofBody?_eq_some_iff.mp hread
  rcases Json.orDefault_eq_some_iff.mp hinner with ⟨-, hdefault⟩ | ⟨v, rfl, hv⟩
  · rw [(Prod.mk.inj hdefault).2] at hmem
    exact absurd hmem List.not_mem_nil
  · have hpart : v.isRepresentable = true := Json.isRepresentable_of_fields? hbody hfound (by simp)
    obtain ⟨total, items, hfound, -, hitems⟩ := hitsOfJson?_eq_some_iff.mp hv
    rcases Json.orDefault_eq_some_iff.mp hitems with ⟨-, hdefault⟩ | ⟨w, rfl, hw⟩
    · have hnone : r.hits = [] := hdefault
      rw [hnone] at hmem
      exact absurd hmem List.not_mem_nil
    · have hlist : w.isRepresentable = true :=
        Json.isRepresentable_of_fields? hpart hfound (by simp)
      obtain ⟨vs, rfl, item, hitem, hreadItem⟩ := Json.of_mem_listOf? hw hmem
      rw [Json.isRepresentable, Json.areRepresentable_iff] at hlist
      exact Hit.distinguished_of_ofJson? (hlist item hitem) hreadItem

theorem payload_eq_ok_iff {body : Json} {p : Payload} :
    Payload.ofJson .object body = .ok p ↔ ∃ r, ofJson body = .ok r ∧ p = .hits r := by
  rw [Payload.ofJson]
  cases ofJson body <;> simp [Except.map, eq_comm]

/-- **Every response that was read is read back**: the body that is written of it gives it again,
also as the payload of a statement that asks for one object of hits. -/
theorem read_again {body : Json} (hbody : body.isRepresentable = true) :
    (∀ r, ofJson body = .ok r → ofJson r.toJson = .ok r)
      ∧ ∀ p, Payload.ofJson .object body = .ok p →
        ∃ r, p = .hits r ∧ Payload.ofJson .object r.toJson = .ok p := by
  have hresponse : ∀ r, ofJson body = .ok r → ofJson r.toJson = .ok r := by
    intro r h
    exact ofJson_toJson (distinguished_of_ofJson hbody h)
  refine ⟨hresponse, fun p h => ?_⟩
  obtain ⟨r, hread, rfl⟩ := payload_eq_ok_iff.mp h
  exact ⟨r, rfl, payload_eq_ok_iff.mpr ⟨r, hresponse r hread, rfl⟩⟩

/-- Hits and buckets as arrays of fields and as objects, with fields that are missing, `null` or
unknown, and with a whole score. -/
theorem read_again_mixed :
    let body : Json := .object [
      ("aggregations", .object [
        ("by_country", .array [.array [.array [.string "PT", .ofInt 3],
          .object [("doc_count", .ofInt 1), ("key", .null), ("share", .ofInt 2)]]]),
        ("by_year", .object [("other", .ofInt 5)])]),
      ("error", .string ""),
      ("hits", .array [.ofInt 9, .array [
        .array [.ofInt 7, .ofInt (-4)],
        .object [("_id", .null), ("_score", .number (.float 0.5)),
          ("_source", .object [("name", .string "Lisboa"), ("area", .null)]), ("highlight", .null)],
        .array [],
        .object [("highlight", .object [("name", .array [.string "Porto"])]),
          ("sort", .ofInt 1)]]]),
      ("took", .ofInt 1)]
    let r : Response := {
      total := 9
      hits := [
        { id := some (.ofInt 7), score := some (Float.ofInt (-4)) },
        { score := some 0.5, source := .ofList [("name", .string "Lisboa"), ("area", .null)] },
        {},
        { highlight := some (.object [("name", .array [.string "Porto"])]) }]
      facets := .ofList [
        ("by_country", { buckets := [⟨.string "PT", 3⟩, ⟨.null, 1⟩] }), ("by_year", {})] }
    body.isRepresentable = true ∧ ofJson body = .ok r ∧ ofJson r.toJson = .ok r
      ∧ Payload.ofJson .object body = .ok (.hits r)
      ∧ ∃ r', Payload.hits r = .hits r' ∧ Payload.ofJson .object r'.toJson = .ok (.hits r) := by
  intro body r
  have hbody : body.isRepresentable = true := by decide
  have hread : ofJson body = .ok r := by rfl
  have hpayload : Payload.ofJson .object body = .ok (.hits r) := by rfl
  exact ⟨hbody, hread, (read_again hbody).1 r hread, hpayload, (read_again hbody).2 _ hpayload⟩

end Response

end SearchQuery
