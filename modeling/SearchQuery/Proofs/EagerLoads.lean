import Mathlib.Data.List.Induction
import Mathlib.Data.List.Nodup
import SearchQuery.Proofs.Calls
import SearchQuery.Proofs.Wishes

/-!
# The relations of a run

A query keeps every load that was registered, also those of one relation and those without a name.
What is loaded is the first of each relation that has a name: a load that is registered later or
has no name neither takes the place of another nor keeps one away.

`FirstOfEach` says this of a list of registrations and a list of loads.  One more registration
keeps it, so it holds after all of them, by induction from the end of the list; and it leaves no
choice of the loads.

* `distinctLoads_concat`, `FirstOfEach.concat`: one more registration.
* `firstOfEach_distinctLoads`, `FirstOfEach.unique`: all registrations.
* `distinctLoads_eq_self`: loads of different relations stay as they are.
* `Session.eagerLoads_of_run`: the loads after a run.
-/

namespace SearchQuery

variable {κ : Type}

/-- One more load joins the others if its relation has a name that none of them has. -/
def joinLoad (loads : List (EagerLoad κ)) (load : EagerLoad κ) : List (EagerLoad κ) :=
  if load.relation = "" ∨ load.relation ∈ loads.map EagerLoad.relation then loads
  else loads ++ [load]

/-- The loads are the registrations that are the first of a relation with a name, as they were
registered and in the order in which the relations came. -/
structure FirstOfEach (registered loads : List (EagerLoad κ)) : Prop where
  sublist : loads.Sublist registered
  named : ∀ load ∈ loads, load.relation ≠ ""
  distinct : (loads.map EagerLoad.relation).Nodup
  complete : ∀ load ∈ registered,
    load.relation ≠ "" → load.relation ∈ loads.map EagerLoad.relation
  first : ∀ load ∈ loads, registered.find? (·.relation = load.relation) = some load
  order : loads.map EagerLoad.relation
    = ((registered.map EagerLoad.relation).filter (· ≠ "")).eraseDups

/-! ### One more registration -/

theorem joinLoad_of_known {loads : List (EagerLoad κ)} {load : EagerLoad κ}
    (h : load.relation = "" ∨ load.relation ∈ loads.map EagerLoad.relation) :
    joinLoad loads load = loads :=
  if_pos h

theorem joinLoad_of_new {loads : List (EagerLoad κ)} {load : EagerLoad κ}
    (hnamed : load.relation ≠ "")
    (hnew : load.relation ∉ loads.map EagerLoad.relation) : joinLoad loads load = loads ++ [load] :=
  if_neg (not_or.mpr ⟨hnamed, hnew⟩)

/-- A load may join before or after the loads of another relation have been taken away. -/
theorem joinLoad_cons_filter (head load : EagerLoad κ) (loads : List (EagerLoad κ)) :
    joinLoad (head :: loads.filter fun other => other.relation != head.relation) load
      = head :: (joinLoad loads load).filter fun other => other.relation != head.relation := by
  by_cases hsame : load.relation = head.relation
  · rw [joinLoad_of_known (.inr (by simp [hsame]))]
    unfold joinLoad
    split <;> simp [hsame]
  · have hmem : load.relation ∈ (loads.filter fun other => other.relation != head.relation).map
          EagerLoad.relation
        ↔ load.relation ∈ loads.map EagerLoad.relation := by
      simp only [List.mem_map, List.mem_filter, bne_iff_ne]
      exact ⟨fun ⟨l, hl, hrel⟩ => ⟨l, hl.1, hrel⟩,
        fun ⟨l, hl, hrel⟩ => ⟨l, ⟨hl, hrel ▸ hsame⟩, hrel⟩⟩
    simp only [joinLoad, List.map_cons, List.mem_cons, hsame, false_or, hmem]
    split <;> simp [hsame]

theorem distinctLoads_concat (registered : List (EagerLoad κ)) (load : EagerLoad κ) :
    distinctLoads (registered ++ [load]) = joinLoad (distinctLoads registered) load := by
  induction registered with
  | nil => by_cases h : load.relation = "" <;> simp [distinctLoads, joinLoad, h]
  | cons head rest ih =>
    rw [List.cons_append, distinctLoads, distinctLoads, ih]
    by_cases hhead : head.relation.isEmpty = true
    · rw [if_pos hhead, if_pos hhead]
    · rw [if_neg hhead, if_neg hhead, joinLoad_cons_filter]

theorem eraseDups_concat (names : List String) (name : String) :
    (names ++ [name]).eraseDups
      = if name ∈ names then names.eraseDups else names.eraseDups ++ [name] := by
  rw [List.eraseDups_append]
  by_cases h : name ∈ names
  · simp [List.removeAll, h]
  · simp [List.removeAll, h, List.eraseDups_cons]

namespace FirstOfEach

variable {registered loads : List (EagerLoad κ)} {load : EagerLoad κ}

theorem nil : FirstOfEach ([] : List (EagerLoad κ)) [] :=
  ⟨.slnil, nofun, .nil, nofun, nofun, rfl⟩

theorem concat_of_known (h : FirstOfEach registered loads)
    (hknown : load.relation = "" ∨ load.relation ∈ loads.map EagerLoad.relation) :
    FirstOfEach (registered ++ [load]) loads where
  sublist := h.sublist.trans (List.sublist_append_left _ _)
  named := h.named
  distinct := h.distinct
  complete l hl hnamed := by
    rcases List.mem_append.mp hl with hl | hl
    · exact h.complete l hl hnamed
    · obtain rfl := List.mem_singleton.mp hl
      exact hknown.resolve_left hnamed
  first l hl := by rw [List.find?_append, h.first l hl, Option.some_or]
  order := by
    rw [List.map_append, List.map_singleton, List.filter_append]
    by_cases hname : load.relation = ""
    · rw [hname, List.filter_cons_of_neg (by decide), List.filter_nil, List.append_nil, h.order]
    · have hmem := hknown.resolve_left hname
      rw [h.order, List.mem_eraseDups] at hmem
      rw [List.filter_cons_of_pos (by simpa using hname), List.filter_nil, eraseDups_concat,
        if_pos hmem, h.order]

theorem concat_of_new (h : FirstOfEach registered loads) (hnamed : load.relation ≠ "")
    (hnew : load.relation ∉ loads.map EagerLoad.relation) :
    FirstOfEach (registered ++ [load]) (loads ++ [load]) where
  sublist := h.sublist.append (List.Sublist.refl _)
  named := List.forall_mem_append.mpr ⟨h.named, List.forall_mem_singleton.mpr hnamed⟩
  distinct := by
    rw [List.map_append, List.map_singleton, ← List.concat_eq_append]
    exact h.distinct.concat hnew
  complete l hl hname := by
    rw [List.map_append, List.mem_append]
    rcases List.mem_append.mp hl with hl | hl
    · exact .inl (h.complete l hl hname)
    · exact .inr (List.mem_map_of_mem hl)
  first l hl := by
    rw [List.find?_append]
    rcases List.mem_append.mp hl with hl | hl
    · rw [h.first l hl, Option.some_or]
    · obtain rfl := List.mem_singleton.mp hl
      have hnone : registered.find? (·.relation = l.relation) = none := by
        refine List.find?_eq_none.mpr fun other hother hsame => hnew ?_
        have hrel : other.relation = l.relation := of_decide_eq_true hsame
        exact hrel ▸ h.complete other hother (hrel ▸ hnamed)
      rw [hnone, Option.none_or]
      exact List.find?_cons_of_pos (decide_eq_true rfl)
  order := by
    rw [h.order, List.mem_eraseDups] at hnew
    rw [List.map_append, List.map_append, List.map_singleton, List.filter_append,
      List.filter_cons_of_pos (by simpa using hnamed), List.filter_nil, eraseDups_concat,
      if_neg hnew, h.order]

/-- **One more registration** leaves the first of each relation. -/
theorem concat (h : FirstOfEach registered loads) (load : EagerLoad κ) :
    FirstOfEach (registered ++ [load]) (joinLoad loads load) := by
  by_cases hknown : load.relation = "" ∨ load.relation ∈ loads.map EagerLoad.relation
  · rw [joinLoad_of_known hknown]
    exact h.concat_of_known hknown
  · obtain ⟨hnamed, hnew⟩ := not_or.mp hknown
    rw [joinLoad_of_new hnamed hnew]
    exact h.concat_of_new hnamed hnew

theorem eq_filterMap_find? (h : FirstOfEach registered loads) :
    loads = (loads.map EagerLoad.relation).filterMap fun name =>
      registered.find? (·.relation = name) := by
  rw [List.filterMap_map]
  calc loads = loads.filterMap some := List.filterMap_some.symm
    _ = _ := List.filterMap_congr fun l hl => (h.first l hl).symm

/-- **There is one list of first loads.** -/
theorem unique {others : List (EagerLoad κ)} (h : FirstOfEach registered loads)
    (h' : FirstOfEach registered others) : others = loads := by
  rw [h'.eq_filterMap_find?, h.eq_filterMap_find?, h'.order, h.order]

end FirstOfEach

/-! ### All registrations -/

/-- **All registrations** leave the first of each relation. -/
theorem firstOfEach_distinctLoads (registered : List (EagerLoad κ)) :
    FirstOfEach registered (distinctLoads registered) := by
  induction registered using List.reverseRecOn with
  | nil => exact .nil
  | append_singleton rest load ih =>
    rw [distinctLoads_concat]
    exact ih.concat load

/-- A relation that comes again with other columns, and one without a name. -/
example :
    let registered : List (EagerLoad Unit) :=
      [{ relation := "country", projection := some ["id", "name"] },
        { relation := "country", scope := some () }, { relation := "" }, { relation := "owner" }]
    (distinctLoads registered).map (fun load => (load.relation, load.projection))
      = [("country", some ["id", "name"]), ("owner", none)] := by
  decide

theorem distinctLoads_eq_self {loads : List (EagerLoad κ)}
    (hnamed : ∀ load ∈ loads, load.relation ≠ "")
    (hdistinct : (loads.map EagerLoad.relation).Nodup) : distinctLoads loads = loads := by
  induction loads using List.reverseRecOn with
  | nil => rfl
  | append_singleton rest load ih =>
    obtain ⟨hrest, hload⟩ := List.forall_mem_append.mp hnamed
    rw [List.map_append, List.map_singleton, List.nodup_append] at hdistinct
    obtain ⟨hnodup, -, hne⟩ := hdistinct
    rw [distinctLoads_concat, ih hrest hnodup]
    refine joinLoad_of_new (hload load List.mem_cons_self) fun hmem => ?_
    exact hne _ hmem _ List.mem_cons_self rfl

/-! ### The loads of a run -/

namespace Step

def load? : Step κ → Option (EagerLoad κ)
  | .edit e => e.load?
  | .run _ => none

/-- **Steps register what they say**, behind what was registered before them. -/
theorem eager_foldl_query (q : Query κ) (steps : List (Step κ)) :
    (steps.foldl Step.query q).eager = q.eager ++ steps.filterMap load? := by
  have hload : (load? : Step κ → _) = fun step => step.edit?.bind Edit.load? := by
    funext step
    cases step <;> rfl
  have htests : ∀ e : Edit κ, e.clauseList? ≠ none → e.load? = none := by
    intro e hlist
    cases e with
    | withRelation _ | withColumns _ _ | withScope _ _ => exact absurd rfl hlist
    | _ => rfl
  rw [foldl_query, hload, ← filterMap_granted htests]
  rfl

end Step

namespace Session

variable {α : Type} [Record α] [Related κ α]

/-- **The loads after a run**, by what was registered before it and in it, are the first of each
relation with a name, and nothing else is.  A query that has registered just these loads all of
them. -/
theorem eagerLoads_of_run (s : Session κ α) (steps : List (Step κ)) :
    let registered := s.query.eager ++ steps.filterMap Step.load?
    let loads := (s.run steps).query.eagerLoads
    FirstOfEach registered loads
      ∧ (∀ others, FirstOfEach registered others → others = loads)
      ∧ ({ (s.run steps).query with eager := loads } : Query κ).eagerLoads = loads := by
  intro registered loads
  have hfirst : FirstOfEach registered loads := by
    show FirstOfEach registered (distinctLoads (s.run steps).query.eager)
    rw [(s.run_effect steps).query, Step.eager_foldl_query]
    exact firstOfEach_distinctLoads registered
  exact ⟨hfirst, fun _ hothers => hfirst.unique hothers,
    distinctLoads_eq_self hfirst.named hfirst.distinct⟩

end Session

end SearchQuery
