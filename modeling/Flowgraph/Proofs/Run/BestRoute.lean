import Mathlib.Data.List.Induction
import Flowgraph.Proofs.Endpoint.PathMatching
import Flowgraph.Run.Routing
/-!
# The best route

Routing goes through the controllers in order and keeps the best route so far; a later one takes its
place only with more segments that stand for themselves. What is kept at the end is the first of the
routes with the most such segments (`foldl_better_eq_some_iff`). Said of the model, the route of a
request leads to the first of the controllers that serve it with the most such segments
(`route?_eq_best`), and `Serves` says what it takes to serve a request: a slot for the verb, and a
written path that is not blank and whose segments are those of the requested one but for the names
in braces.
-/

namespace Flowgraph.Model

open PathTemplate (IsLiteral Fits captured segments requested)

/-! ## The best of some routes -/

/-- Whether a route is the first of those with the most segments that stand for themselves. -/
def IsBest (routes : List Route) (best : Route) : Prop :=
  ∃ earlier later, routes = earlier ++ best :: later ∧
    (∀ route ∈ earlier, route.literals < best.literals) ∧
    ∀ route ∈ later, route.literals ≤ best.literals

namespace IsBest

variable {routes : List Route} {best : Route}

theorem singleton (route : Route) : IsBest [route] route :=
  ⟨[], [], rfl, nofun, nofun⟩

theorem mem (h : IsBest routes best) : best ∈ routes := by
  obtain ⟨earlier, later, rfl, -⟩ := h
  exact List.mem_append_right _ List.mem_cons_self

theorem literals_le (h : IsBest routes best) {route : Route} (hmem : route ∈ routes) :
    route.literals ≤ best.literals := by
  obtain ⟨earlier, later, rfl, hearlier, hlater⟩ := h
  rcases List.mem_append.1 hmem with hmem | hmem
  · exact Nat.le_of_lt (hearlier route hmem)
  · rcases List.mem_cons.1 hmem with rfl | hmem
    · exact Nat.le_refl _
    · exact hlater route hmem

/-- The best route stays the best before one that is not better. -/
theorem concat_of_le (h : IsBest routes best) {next : Route} (hle : next.literals ≤ best.literals) :
    IsBest (routes ++ [next]) best := by
  obtain ⟨earlier, later, rfl, hearlier, hlater⟩ := h
  refine ⟨earlier, later ++ [next], by simp, hearlier, fun route hroute => ?_⟩
  rcases List.mem_append.1 hroute with hroute | hroute
  · exact hlater route hroute
  · rw [List.mem_singleton.1 hroute]
    exact hle

/-- A better route than the best one is the best of all. -/
theorem concat_of_lt (h : IsBest routes best) {next : Route} (hlt : best.literals < next.literals) :
    IsBest (routes ++ [next]) next :=
  ⟨routes, [], rfl, fun _ hroute => Nat.lt_of_le_of_lt (h.literals_le hroute) hlt, nofun⟩

/-- There is only one best route. -/
theorem unique {best' : Route} (h : IsBest routes best) (h' : IsBest routes best') :
    best = best' := by
  have hmem : best ∈ routes := h.mem
  have hmem' : best' ∈ routes := h'.mem
  have hle := h.literals_le hmem'
  have hle' := h'.literals_le hmem
  obtain ⟨earlier, later, rfl, hearlier, -⟩ := h
  obtain ⟨earlier', later', hsplit, hearlier', -⟩ := h'
  -- If one stood in front of the other, it would have fewer segments and be surpassed.
  rcases List.append_eq_append_iff.1 hsplit with ⟨between, rfl, hsame⟩ | ⟨between, rfl, hsame⟩
  · cases between with
    | nil => exact (List.cons.inj hsame).1
    | cons first rest =>
      obtain rfl := (List.cons.inj hsame).1
      have hlt := hearlier' best (List.mem_append_right _ List.mem_cons_self)
      exact absurd hle (Nat.not_le_of_lt hlt)
  · cases between with
    | nil => exact (List.cons.inj hsame).1.symm
    | cons first rest =>
      obtain rfl := (List.cons.inj hsame).1
      have hlt := hearlier best' (List.mem_append_right _ List.mem_cons_self)
      exact absurd hle' (Nat.not_le_of_lt hlt)

end IsBest

/-- What is kept is the best of the routes that were gone through. -/
theorem isBest_of_foldl_better {routes : List Route} {best : Route}
    (h : routes.foldl better none = some best) : IsBest routes best := by
  induction routes using List.reverseRecOn generalizing best with
  | nil => cases h
  | append_singleton routes next ih =>
    rw [List.foldl_append, List.foldl_cons, List.foldl_nil] at h
    cases hknown : routes.foldl better none with
    | none =>
      have hempty : routes = [] := by
        have hsome := isSome_foldl_better routes none
        simpa [hknown] using hsome
      rw [hknown] at h
      cases h
      rw [hempty]
      exact .singleton next
    | some known =>
      rw [hknown, better] at h
      split at h
      · next hlt =>
        cases h
        exact (ih hknown).concat_of_lt hlt
      · next hle =>
        cases h
        exact (ih hknown).concat_of_le (Nat.le_of_not_lt hle)

/-- **The route that is kept** is the first of those with the most segments that stand for
themselves. -/
theorem foldl_better_eq_some_iff {routes : List Route} {best : Route} :
    routes.foldl better none = some best ↔ IsBest routes best := by
  refine ⟨isBest_of_foldl_better, fun hbest => ?_⟩
  have hfilled : routes ≠ [] := List.ne_nil_of_mem hbest.mem
  have hsome : (routes.foldl better none).isSome := by
    rw [isSome_foldl_better]
    simpa using hfilled
  obtain ⟨kept, hkept⟩ := Option.isSome_iff_exists.1 hsome
  rw [hkept, (isBest_of_foldl_better hkept).unique hbest]

/-! ## The controllers of a model -/

/-- The best of the offers of some nodes is that of the first node whose offer no other one
surpasses. -/
theorem isBest_filterMap_iff {offer : Node → Option Route} {nodes : List Node} {best : Route} :
    IsBest (nodes.filterMap offer) best ↔ ∃ earlier node later,
      nodes = earlier ++ node :: later ∧ offer node = some best ∧
      (∀ other ∈ earlier, ∀ route, offer other = some route → route.literals < best.literals) ∧
      ∀ other ∈ later, ∀ route, offer other = some route → route.literals ≤ best.literals := by
  constructor
  · rintro ⟨front, back, hsplit, hfront, hback⟩
    obtain ⟨earlier, rest, rfl, rfl, hrest⟩ := List.filterMap_eq_append_iff.1 hsplit
    obtain ⟨passed, node, later, rfl, hpassed, hnode, rfl⟩ := List.filterMap_eq_cons_iff.1 hrest
    refine ⟨earlier ++ passed, node, later, by simp, hnode, fun other hother route hroute => ?_,
      fun other hother route hroute => ?_⟩
    · rcases List.mem_append.1 hother with hother | hother
      · exact hfront route (List.mem_filterMap.2 ⟨other, hother, hroute⟩)
      · exact absurd hroute (by simp [hpassed other hother])
    · exact hback route (List.mem_filterMap.2 ⟨other, hother, hroute⟩)
  · rintro ⟨earlier, node, later, rfl, hnode, hearlier, hlater⟩
    refine ⟨earlier.filterMap offer, later.filterMap offer, ?_, fun route hroute => ?_,
      fun route hroute => ?_⟩
    · rw [List.filterMap_append, List.filterMap_cons_some hnode]
    · obtain ⟨other, hother, hoffer⟩ := List.mem_filterMap.1 hroute
      exact hearlier other hother route hoffer
    · obtain ⟨other, hother, hoffer⟩ := List.mem_filterMap.1 hroute
      exact hlater other hother route hoffer

/-- Whether a node serves the requests for a path by a verb, with what its own path finds in the
requested one: how many of its segments stand for themselves, and the segments behind its names. -/
structure Serves (verb path : String) (node : Node) (found : PathTemplate.Match) : Prop where
  slot : ∃ entry, Keyed.get? verb node.actions = some entry
  template : ∃ template, Keyed.get? "path" node.properties = some (.text template) ∧
    Text.isBlankText template = false ∧ Fits (segments template.toList) (requested path) ∧
    found.literals = (segments template.toList).countP (IsLiteral ·) ∧
    found.parameters =
      Keyed.insertAll (captured (segments template.toList) (requested path)) []

theorem pathOf?_eq_some_iff {node : Node} {template : String} :
    pathOf? node = some template ↔
      Keyed.get? "path" node.properties = some (.text template) ∧
        Text.isBlankText template = false := by
  have htext (v : Value) : v.text? = some template ↔ v = .text template := by
    cases v <;> simp [Value.text?]
  simp [pathOf?, Option.filter_eq_some_iff, Option.bind_eq_some_iff, htext]

theorem routeTo?_eq_some_iff {method : Method} {path : String} {node : Node} {route : Route} :
    routeTo? method path node = some route ↔ ∃ found, Serves method.verb path node found ∧
      route = ⟨node.id, found.literals, found.parameters⟩ := by
  constructor
  · intro h
    unfold routeTo? at h
    split at h
    · next hslot =>
      obtain ⟨template, htemplate, h⟩ := Option.bind_eq_some_iff.1 h
      obtain ⟨found, hfound, h⟩ := Option.bind_eq_some_iff.1 h
      obtain ⟨hwritten, hfilled⟩ := pathOf?_eq_some_iff.1 htemplate
      obtain ⟨hfits, hparts⟩ := PathTemplate.matchPath?_eq_some_iff.1 hfound
      exact ⟨found, ⟨Option.isSome_iff_exists.1 hslot, template, hwritten, hfilled, hfits,
        by rw [hparts], by rw [hparts]⟩, (Option.some.inj h).symm⟩
    · cases h
  · rintro ⟨found, ⟨hslot, template, hwritten, hfilled, hfits, hliterals, hparameters⟩, rfl⟩
    have hfound : PathTemplate.matchPath? template path = some found := by
      rw [PathTemplate.matchPath?_eq_some_iff, ← hliterals, ← hparameters]
      exact ⟨hfits, rfl⟩
    have hhas : Keyed.has method.verb node.actions = true := Option.isSome_iff_exists.2 hslot
    rw [routeTo?, if_pos hhas, pathOf?_eq_some_iff.2 ⟨hwritten, hfilled⟩]
    simp only [Option.bind_eq_bind, Option.bind_some, hfound]
    rfl

/-- Whether a node is the first of those that serve a request with the most segments that stand for
themselves. -/
def ServesBest (verb path : String) (nodes : List Node) (node : Node)
    (found : PathTemplate.Match) : Prop :=
  ∃ earlier later, nodes = earlier ++ node :: later ∧ Serves verb path node found ∧
    (∀ other ∈ earlier, ∀ known, Serves verb path other known → known.literals < found.literals) ∧
    ∀ other ∈ later, ∀ known, Serves verb path other known → known.literals ≤ found.literals

theorem isBest_candidates_iff {model : Model} {method : Method} {path : String} {route : Route} :
    IsBest (model.candidates method path) route ↔ ∃ node found,
      ServesBest method.verb path (model.sectionNodes .controllers) node found ∧
        route = ⟨node.id, found.literals, found.parameters⟩ := by
  have hoffers (bound : Nat → Prop) (other : Node) :
      (∀ route, routeTo? method path other = some route → bound route.literals) ↔
        ∀ known, Serves method.verb path other known → bound known.literals := by
    simp only [routeTo?_eq_some_iff]
    constructor
    · exact fun h known hserves => h _ ⟨known, hserves, rfl⟩
    · rintro h route ⟨known, hserves, rfl⟩
      exact h known hserves
  rw [candidates, isBest_filterMap_iff]
  constructor
  · rintro ⟨earlier, node, later, hsplit, hnode, hearlier, hlater⟩
    obtain ⟨found, hserves, rfl⟩ := routeTo?_eq_some_iff.1 hnode
    refine ⟨node, found, ⟨earlier, later, hsplit, hserves, fun other hother => ?_,
      fun other hother => ?_⟩, rfl⟩
    · exact (hoffers (· < found.literals) other).1 (hearlier other hother)
    · exact (hoffers (· ≤ found.literals) other).1 (hlater other hother)
  · rintro ⟨node, found, ⟨earlier, later, hsplit, hserves, hearlier, hlater⟩, rfl⟩
    refine ⟨earlier, node, later, hsplit, routeTo?_eq_some_iff.2 ⟨found, hserves, rfl⟩,
      fun other hother => ?_, fun other hother => ?_⟩
    · exact (hoffers (· < found.literals) other).2 (hearlier other hother)
    · exact (hoffers (· ≤ found.literals) other).2 (hlater other hother)

/-- There is a best route exactly when some controller serves the request. -/
theorem isSome_best_iff {model : Model} {method : Method} {path : String} :
    ((model.candidates method path).foldl better none).isSome ↔
      ∃ node ∈ model.sectionNodes .controllers, ∃ found, Serves method.verb path node found := by
  rw [isSome_foldl_better, Option.isSome_none, Bool.false_or, Bool.not_eq_true',
    List.isEmpty_eq_false_iff_exists_mem]
  constructor
  · rintro ⟨route, hroute⟩
    obtain ⟨node, hnode, hroute⟩ := List.mem_filterMap.1 hroute
    obtain ⟨found, hserves, -⟩ := routeTo?_eq_some_iff.1 hroute
    exact ⟨node, hnode, found, hserves⟩
  · rintro ⟨node, hnode, found, hserves⟩
    exact ⟨_, List.mem_filterMap.2 ⟨node, hnode, routeTo?_eq_some_iff.2 ⟨found, hserves, rfl⟩⟩⟩

/-! ## Requests -/

/-- What holds for the method of a name and its verb, holds for one of the five verbs. -/
theorem exists_ofVerb?_iff {name : String} (p : String → Prop) :
    (∃ method, Method.ofVerb? name = some method ∧ p method.verb) ↔
      Text.asciiLower name ∈ ["get", "post", "put", "patch", "delete"] ∧
        p (Text.asciiLower name) := by
  have hverbs : ["get", "post", "put", "patch", "delete"] = Method.all.map Method.verb := rfl
  rw [hverbs, List.mem_map]
  constructor
  · rintro ⟨method, hmethod, hp⟩
    have hverb := Method.verb_of_ofVerb? hmethod
    exact ⟨⟨method, method.mem_all, hverb⟩, hverb ▸ hp⟩
  · rintro ⟨⟨method, -, hverb⟩, hp⟩
    exact ⟨method, Method.ofVerb?_eq_some_iff.2 hverb.symm, hverb ▸ hp⟩

/-- **Routing picks the best controller.** There is a route exactly when the method is one of the
five, in any case, and a controller serves the request; and then the route leads to the first of the
controllers that serve it with the most segments that stand for themselves, with what the path of
that one captured. -/
theorem route?_eq_best (model : Model) (method path : String) :
    ((model.route? method path).isSome ↔
      Text.asciiLower method ∈ ["get", "post", "put", "patch", "delete"] ∧
        ∃ node ∈ model.sectionNodes .controllers, ∃ found,
          Serves (Text.asciiLower method) path node found) ∧
    ∀ route, model.route? method path = some route ↔
      Text.asciiLower method ∈ ["get", "post", "put", "patch", "delete"] ∧
        ∃ node found, ServesBest (Text.asciiLower method) path (model.sectionNodes .controllers)
            node found ∧
          route = ⟨node.id, found.literals, found.parameters⟩ := by
  constructor
  · rw [← exists_ofVerb?_iff (fun verb => ∃ node ∈ model.sectionNodes .controllers,
      ∃ found, Serves verb path node found)]
    simp only [← isSome_best_iff, route?]
    cases Method.ofVerb? method <;> simp
  · intro route
    rw [← exists_ofVerb?_iff (fun verb => ∃ node found,
      ServesBest verb path (model.sectionNodes .controllers) node found ∧
        route = ⟨node.id, found.literals, found.parameters⟩)]
    simp only [route?, Option.bind_eq_some_iff, foldl_better_eq_some_iff, isBest_candidates_iff]

end Flowgraph.Model
