/-
**Mounting an operation.**

Mounting writes the names of the path parameters behind a prefix, each as a segment, and declares
the text as the prefix of a route. The text is then read like any other: cleaned, and cut at its
query.

* `Registry.cleanSegments_mounted` — names without a slash are read back as segments of their own;
* `Registry.names_mounted`, `Registry.mountable_of_names` — **the names of the mounted route** are
  those of the prefix and those of the path parameters exactly if neither hides a query and no name
  hides a slash;
* `Registry.unshared_of_legible` — among legible declarations mounting answers a route with the prefix
  that it declares;
* `Registry.mount_keeps_parameters` — and then every request routed there finds a value for each
  path parameter;
* `Registry.mount_loses_parameters` — a query in the prefix, a slash or a query in a name loses it.
-/

import Switchboard.Proofs.Path.Names
import Switchboard.Proofs.Registry.Callbacks
import Switchboard.Proofs.Registry.Separation
import Switchboard.Server.Cycle

namespace Switchboard

/-! ### The suffix of an operation -/

/-- The names of the parameters in the path. -/
def Param.pathNames (params : List Param) : List String :=
  (params.filter isPath).map Param.name

/-- The names of the path parameters, in the order of their declaration. -/
def Operation.pathNames (operation : Operation) : List String :=
  Param.pathNames operation.params

theorem Param.toList_suffix (params : List Param) :
    (suffix params).toList = ((pathNames params).map Path.segmentOf).flatMap ('/' :: ·) := by
  unfold suffix pathNames
  induction params.filter isPath with
  | nil => rfl
  | cons head tail hypothesis =>
    have first : head.segment.toList = '/' :: Path.segmentOf head.name := by
      unfold segment Path.segmentOf
      rw [String.toList_append]
      rfl
    rw [List.map_cons, String.join_cons, String.toList_append, hypothesis, first, List.map_cons,
      List.map_cons, List.flatMap_cons]

/-- A built operation requires its path parameters and has the suffix of those declared. -/
theorem OperationSpec.params_of_build {spec : OperationSpec} {operation : Operation}
    (built : spec.build = .ok operation) :
    operation.params = Param.requirePath spec.params
      ∧ operation.suffix = Param.suffix spec.params := by
  obtain ⟨methods, _, rfl⟩ := exists_of_build built
  exact ⟨rfl, rfl⟩

theorem OperationSpec.toList_suffix_of_build {spec : OperationSpec} {operation : Operation}
    (built : spec.build = .ok operation) :
    operation.suffix.toList
      = (operation.pathNames.map Path.segmentOf).flatMap ('/' :: ·) := by
  obtain ⟨params, suffix⟩ := params_of_build built
  rw [suffix, ← Param.suffix_requirePath, ← params]
  exact Param.toList_suffix operation.params

theorem OperationSpec.required_of_build {spec : OperationSpec} {operation : Operation}
    (built : spec.build = .ok operation) {param : Param} (member : param ∈ operation.params)
    (path : param.isPath = true) : param.required = true := by
  rw [(params_of_build built).1] at member
  obtain ⟨declared, _, rfl⟩ := List.mem_map.mp member
  unfold Param.require at path ⊢
  split at path
  · rename_i inPath
    rw [if_pos inPath]
  · rename_i elsewhere
    exact absurd path elsewhere

/-! ### The prefix of a mounted route -/

namespace Registry

open Switchboard.Path

theorem cleanSegments_trimSlashes (declared : String) :
    cleanSegments (trimSlashes declared).toList = cleanSegments declared.toList := by
  unfold trimSlashes
  rw [String.toList_ofList]
  induction declared.toList using List.reverseRecOn with
  | nil => rfl
  | append_singleton path last hypothesis =>
    rw [List.reverse_append, List.reverse_singleton, List.singleton_append, List.dropWhile_cons]
    by_cases slash : last = '/'
    · rw [slash, if_pos (by decide), hypothesis, cleanSegments_append_slash]
    · rw [if_neg (by simpa using slash), List.reverse_cons, List.reverse_reverse]

/-- The text that mounting declares as a prefix. -/
def mountedText (declared : String) (operation : Operation) : String :=
  trimSlashes declared ++ operation.suffix

/-- Nothing in the prefix or in the names of the path parameters is read as a query, and nothing in
the names as a slash. -/
structure Mountable (declared : String) (operation : Operation) : Prop where
  unqueried : '?' ∉ (clean declared).toList
  slashless : ∀ name ∈ operation.pathNames, '/' ∉ name.toList
  unqueriedNames : ∀ name ∈ operation.pathNames, '?' ∉ name.toList

section Names

variable {spec : OperationSpec} {operation : Operation} (built : spec.build = .ok operation)
include built

/-- **Names without a slash** are read back as segments behind those of the prefix. -/
theorem cleanSegments_mounted (declared : String)
    (slashless : ∀ name ∈ operation.pathNames, '/' ∉ name.toList) :
    cleanSegments (mountedText declared operation).toList
      = cleanSegments declared.toList ++ operation.pathNames.map segmentOf := by
  have proper : ∀ segment ∈ operation.pathNames.map segmentOf, Proper segment := by
    intro segment member
    obtain ⟨name, declares, rfl⟩ := List.mem_map.mp member
    exact proper_segmentOf (slashless name declares)
  unfold mountedText
  rw [String.toList_append, OperationSpec.toList_suffix_of_build built,
    cleanSegments_append _ proper, cleanSegments_trimSlashes]

/-- **Mountable operations keep the names** of the prefix and those of their path parameters. -/
theorem names_mounted {declared : String} (mountable : Mountable declared operation) :
    (Template.compile (decompose (mountedText declared operation)).whole).names
      = (Template.compile declared).names ++ operation.pathNames := by
  have segments := cleanSegments_mounted built declared mountable.slashless
  have unqueried : '?' ∉ (clean (mountedText declared operation)).toList := by
    intro member
    obtain ⟨segment, left, inside⟩ := (mem_clean_iff (by decide)).mp member
    rw [segments] at left
    rcases List.mem_append.mp left with before | behind
    · exact mountable.unqueried ((mem_clean_iff (by decide)).mpr ⟨segment, before, inside⟩)
    · obtain ⟨name, declares, rfl⟩ := List.mem_map.mp behind
      exact mountable.unqueriedNames name declares
        ((List.mem_cons.mp inside).resolve_left (by decide))
  have own : operation.pathNames.filterMap (fun name => nameOf? (segmentOf name))
      = operation.pathNames := by
    have named : (fun name => nameOf? (segmentOf name)) = some :=
      funext fun name => nameOf?_eq_some_iff.mpr rfl
    rw [named, List.filterMap_some]
  rw [whole_of_unqueried unqueried, Template.names_compile, cleanSegments_clean, segments,
    List.filterMap_append, Template.names_compile, List.filterMap_map]
  exact congrArg _ own

/-- **Only they do**, unless there is no path parameter to keep. -/
theorem mountable_of_names {declared : String} (some_name : operation.pathNames ≠ [])
    (same : (Template.compile (decompose (mountedText declared operation)).whole).names
      = (Template.compile declared).names ++ operation.pathNames) :
    Mountable declared operation := by
  -- a name of a template is a whole segment, in front of the cut
  have held : ∀ name ∈ operation.pathNames,
      segmentOf name ∈ cleanSegments (decompose (mountedText declared operation)).whole.toList := by
    intro name member
    rw [← Template.mem_names_compile, same]
    exact List.mem_append_right _ member
  have slashless : ∀ name ∈ operation.pathNames, '/' ∉ name.toList := by
    intro name member slash
    exact (proper_of_mem_cleanSegments (held name member)).slashless (List.mem_cons_of_mem _ slash)
  refine ⟨fun queried => ?_, slashless, fun name member query => ?_⟩
  · have segments := cleanSegments_mounted built declared slashless
    obtain ⟨segment, left, inside⟩ := (mem_clean_iff (by decide)).mp queried
    have longer : (clean (mountedText declared operation)).toList = (clean declared).toList
        ++ (operation.pathNames.map segmentOf).flatMap ('/' :: ·) := by
      have first : cleanSegments declared.toList ≠ [] := List.ne_nil_of_mem left
      rw [toList_clean, segments, render_of_ne_nil (List.append_ne_nil_of_left_ne_nil first _),
        toList_clean, render_of_ne_nil first, List.flatMap_append]
    have lost : (decompose (mountedText declared operation)).whole = (decompose declared).whole := by
      apply String.toList_inj.mp
      rw [toList_whole, toList_whole, longer, dropQuery_append_of_queried queried]
    have fewer := Template.length_names_whole_le declared
    rw [← lost, same, List.length_append] at fewer
    exact some_name (List.length_eq_zero_iff.mp (by omega))
  · exact not_mem_whole _
      (mem_of_mem_cleanSegments (held name member) (List.mem_cons_of_mem _ query))

/-- Without path parameters the prefix is read as it is declared. -/
theorem decompose_mounted_of_no_names (declared : String) (no_name : operation.pathNames = []) :
    decompose (mountedText declared operation) = decompose declared := by
  have segments := cleanSegments_mounted built declared
    (fun name member => absurd (no_name ▸ member) List.not_mem_nil)
  rw [no_name, List.map_nil, List.append_nil] at segments
  unfold decompose
  rw [clean_eq_iff.mpr segments]

end Names

/-! ### Requests to a mounted route -/

/-- What a router finds was captured by the template of the route. -/
theorem names_of_found {registry : Registry} {middleware : List Middleware} {method : Http.Method}
    {path : String} {route : Route} {handler : Handler} {captures : Captures}
    (found : (Router.build registry middleware).resolve method path
      = .found route handler captures) : captures.map Prod.fst = route.template.names := by
  rw [Router.resolve, Router.search_eq] at found
  split at found
  · rename_i candidate first
    obtain ⟨rfl, rfl, rfl⟩ := Resolution.found.inj found
    have taken := List.find?_some first
    obtain ⟨captures, matched⟩ := Option.isSome_iff_exists.mp (Bool.and_eq_true_iff.mp taken).1
    obtain ⟨own, held, ready⟩ := Router.compile?_eq_some_iff.mp
      (Router.mem_routes_build.mp (List.mem_of_find?_eq_some first)).2
    have template : candidate.template = candidate.route.template := by rw [ready]
    rw [matched, Option.getD_some, ← template]
    exact Template.names_of_match? matched
  · exact absurd found (Router.refuse_ne_found _ _ _ _)

theorem exists_lookup_of_mem_names {captures : Captures} {name : String}
    (member : name ∈ captures.map Prod.fst) : ∃ value, captures.lookup name = some value := by
  rw [← Option.isSome_iff_exists, Option.isSome_iff_ne_none]
  intro absent
  obtain ⟨entry, inside, same⟩ := List.mem_map.mp member
  exact key_ne_of_lookup_eq_none absent inside same

/-- The identity of the route that mounting declares is not that of a route with another prefix. -/
def Unshared (registry : Registry) (declared : String) (operation : Operation)
    (handler : Handler) : Prop :=
  ∀ route, registry.getRoute? (mountedRoute declared operation handler).id = some route →
    route.place.whole = (decompose (mountedText declared operation)).whole

/-- **Among legible declarations** identities are not shared. -/
theorem unshared_of_legible {history : List Registration} {declared : String}
    {operation : Operation} {handler : Handler} (built : ∀ call ∈ history, call.Declared)
    (legible : ∀ call ∈ history, call.Legible)
    (legibleToo : (mountedRoute declared operation handler).Legible handler.symbol) :
    Unshared (after history) declared operation handler := by
  intro route stored
  obtain ⟨listed, same⟩ := (filed_after history).getRoute?_eq_some_iff.mp stored
  obtain ⟨call, member, founding, brought⟩ := exists_call_of_mem_routeList listed
  have formed := (built call member).route_formed brought
  have formedToo : (mountedRoute declared operation handler).Formed handler.symbol :=
    Route.formed_assemble _ _ _ _ _ _
  have legibleFirst := (legible call member).route route founding brought
  exact (formed.agrees formedToo legibleFirst legibleToo same).2.1

/-- The route that mounting answers has the prefix that it declares. -/
theorem exists_mount (registry : Registry) (declared : String) {operation : Operation}
    {handler : Handler} (handled : operation.handler = some handler)
    (unshared : Unshared registry declared operation handler) :
    ∃ route, (registry.mount declared operation).1 = some route
      ∧ route.place.whole = (decompose (mountedText declared operation)).whole := by
  unfold mount
  rw [handled]
  show ∃ route, some (registry.registerRoute _ handler).1 = some route ∧ _
  unfold registerRoute
  cases filed : registry.getRoute? (mountedRoute declared operation handler).id with
  | some existing => exact ⟨existing, rfl, unshared existing filed⟩
  | none => exact ⟨_, rfl, rfl⟩

/-- What a handler is answered that asks for a parameter by its name. -/
def Answers (captures : Captures) (name : String) (answer : Option String) : Prop :=
  ∀ next serve cycle world, cycle.routed.captures = captures →
    (Program.param name next).run serve cycle world = (next answer).run serve cycle world

theorem answers_lookup (captures : Captures) (name : String) :
    Answers captures name (captures.lookup name) := by
  rintro next serve cycle world rfl
  rw [Program.param, Program.run]
  rfl

/-- **Mounting keeps every path parameter**: the route that is answered has the names of the prefix
and, behind them, those of the path parameters, if the operation is mountable there and, as long as
there is a path parameter to keep, only if it is. Then in every request that any router resolves to
this route a handler finds a value for each path parameter. -/
theorem mount_keeps_parameters (registry : Registry) (declared : String) {spec : OperationSpec}
    {operation : Operation} {handler : Handler} (built : spec.build = .ok operation)
    (handled : operation.handler = some handler)
    (unshared : Unshared registry declared operation handler) :
    ∃ route, (registry.mount declared operation).1 = some route
      ∧ (Mountable declared operation →
        route.template.names = (Template.compile declared).names ++ operation.pathNames)
      ∧ (operation.pathNames ≠ [] →
        route.template.names = (Template.compile declared).names ++ operation.pathNames →
        Mountable declared operation)
      ∧ (operation.pathNames = [] →
        route.template = Template.compile (decompose declared).whole)
      ∧ ∀ routed middleware method path runs captures,
        (Router.build routed middleware).resolve method path = .found route runs captures →
        captures.map Prod.fst = route.template.names
          ∧ (Mountable declared operation → ∀ param ∈ operation.params, param.isPath = true →
            param.required = true ∧ ∃ value, Answers captures param.name (some value)) := by
  obtain ⟨route, answer, place⟩ := exists_mount registry declared handled unshared
  have template : route.template
      = Template.compile (decompose (mountedText declared operation)).whole := by
    unfold Route.template
    rw [place]
  refine ⟨route, answer, fun mountable => ?_, fun some_name same => ?_, fun no_name => ?_,
    fun routed middleware method path runs captures found => ?_⟩
  · rw [template]
    exact names_mounted built mountable
  · rw [template] at same
    exact mountable_of_names built some_name same
  · rw [template, decompose_mounted_of_no_names built declared no_name]
  · have names := names_of_found found
    refine ⟨names, fun mountable param member inPath => ?_⟩
    have listed : param.name ∈ operation.pathNames :=
      List.mem_map_of_mem (List.mem_filter.mpr ⟨member, inPath⟩)
    have captured : param.name ∈ captures.map Prod.fst := by
      rw [names, template, names_mounted built mountable]
      exact List.mem_append_right _ listed
    obtain ⟨value, held⟩ := exists_lookup_of_mem_names captured
    refine ⟨OperationSpec.required_of_build built member inPath, value, ?_⟩
    rw [← held]
    exact answers_lookup captures param.name

/-- The registry behind one mounting. -/
theorem after_mounting (declared : String) {operation : Operation} {handler : Handler}
    (handled : operation.handler = some handler) :
    after [.mounting declared operation]
      = ({} : Registry).addRoute (mountedRoute declared operation handler) handler := by
  show (({} : Registry).mount declared operation).2 = _
  unfold mount
  rw [handled]
  rfl

theorem getRoute?_after_mounting (declared : String) {operation : Operation} {handler : Handler}
    (handled : operation.handler = some handler) :
    (after [.mounting declared operation]).getRoute? (mountedRoute declared operation handler).id
      = some (mountedRoute declared operation handler) := by
  rw [after_mounting declared handled]
  exact List.lookup_cons_self

theorem resolve_after_mounting (declared : String) {operation : Operation} {handler : Handler}
    (handled : operation.handler = some handler) {method : Http.Method} {path : String}
    (takes : (mountedRoute declared operation handler).Takes method path) :
    ∃ captures, (Router.build (after [.mounting declared operation]) []).resolve method path
      = .found (mountedRoute declared operation handler) handler captures := by
  refine resolve_of_lone ?_ ?_ takes
  · rw [after_mounting declared handled]
    rfl
  · rw [after_mounting declared handled]
    exact List.lookup_cons_self

/-- An operation with a parameter in the path and one in the query, mounted a second time. -/
theorem mount_keeps_parameters_user :
    let handler : Handler := ⟨"show", .skip⟩
    ∃ (operation : Operation) (route : Route) (captures : Captures),
      OperationSpec.build
        { params := [{ name := "id", location := .path }, { name := "page", location := .query }]
          types := ["GET"], handler := some handler } = .ok operation
      ∧ Mountable "/user/" operation
      ∧ ((after [.mounting "/user/" operation]).mount "/user/" operation).1 = some route
      ∧ route.template.names = ["id"]
      ∧ (Router.build (after [.mounting "/user/" operation]) []).resolve .get "/user/7"
        = .found route handler captures
      ∧ ∃ value, Answers captures "id" (some value) := by
  intro handler
  obtain ⟨operation, built, handled, names, suffix, methods⟩ : ∃ operation, OperationSpec.build
      { params := [{ name := "id", location := .path }, { name := "page", location := .query }]
        types := ["GET"], handler := some handler } = .ok operation
      ∧ operation.handler = some handler ∧ operation.pathNames = ["id"]
      ∧ operation.suffix = "/:id" ∧ operation.methods = [.get] :=
    ⟨_, rfl, rfl, rfl, rfl, rfl⟩
  have mountable : Mountable "/user/" operation := by
    refine ⟨by decide, ?_, ?_⟩
    · rw [names]
      decide
    · rw [names]
      decide
  have text : mountedText "/user/" operation = "/user/:id" := by
    unfold mountedText
    rw [suffix]
    decide
  have takes : (mountedRoute "/user/" operation handler).Takes .get "/user/7" := by
    refine ⟨?_, ?_⟩
    · show ((Template.compile (decompose (mountedText "/user/" operation)).whole).match?
        (clean "/user/7")).isSome = true
      rw [text]
      decide
    · show (operation.methods.isEmpty || operation.methods.contains .get) = true
      rw [methods]
      decide
  have filed := getRoute?_after_mounting "/user/" handled
  have unshared : Unshared (after [.mounting "/user/" operation]) "/user/" operation handler := by
    intro route stored
    rw [filed] at stored
    rw [← Option.some.inj stored]
    rfl
  obtain ⟨route, answer, keeps, -, -, requests⟩ := mount_keeps_parameters _ _ built handled unshared
  have mounted : route = mountedRoute "/user/" operation handler := by
    unfold mount registerRoute at answer
    rw [handled] at answer
    simp only [filed] at answer
    exact (Option.some.inj answer).symm
  obtain ⟨captures, found⟩ := resolve_after_mounting "/user/" handled takes
  rw [← mounted] at found
  obtain ⟨-, exposes⟩ := requests _ _ _ _ _ _ found
  have listed : "id" ∈ operation.pathNames := by
    rw [names]
    exact List.mem_cons_self
  obtain ⟨param, member, named⟩ := List.mem_map.mp listed
  obtain ⟨inside, inPath⟩ := List.mem_filter.mp member
  refine ⟨operation, route, captures, built, mountable, answer, ?_, found, ?_⟩
  · rw [keeps mountable, names]
    decide
  · rw [← named]
    exact (exposes mountable param inside inPath).2

/-- The declaration of an operation with one path parameter. -/
def specOf (name : String) : OperationSpec :=
  { params := [{ name, location := .path }], types := ["GET"], handler := some ⟨"h", .skip⟩ }

/-- The declared operation with one path parameter is mounted, and a request that is routed to it
finds no value for the parameter. -/
def Loses (declared name path : String) : Prop :=
  ∃ (operation : Operation) (route : Route) (captures : Captures),
    (specOf name).build = .ok operation
    ∧ (({} : Registry).mount declared operation).1 = some route
    ∧ route.template.names ≠ (Template.compile declared).names ++ [name]
    ∧ (Router.build (after [.mounting declared operation]) []).resolve .get path
      = .found route ⟨"h", .skip⟩ captures
    ∧ Answers captures name none

theorem loses_of_names {declared name path : String} {operation : Operation}
    (built : (specOf name).build = .ok operation)
    (handled : operation.handler = some ⟨"h", .skip⟩)
    (takes : (mountedRoute declared operation ⟨"h", .skip⟩).Takes .get path)
    (lost : name ∉ (mountedRoute declared operation ⟨"h", .skip⟩).template.names) :
    Loses declared name path := by
  obtain ⟨captures, found⟩ := resolve_after_mounting declared handled takes
  refine ⟨operation, _, captures, built, ?_, fun same => ?_, found, ?_⟩
  · unfold mount
    rw [handled]
    rfl
  · rw [same] at lost
    exact lost (List.mem_append_right _ (List.mem_singleton_self name))
  · have absent : captures.lookup name = none := by
      rw [List.lookup_eq_none_iff]
      intro entry member
      rw [bne_iff_ne]
      rintro rfl
      exact lost (names_of_found found ▸ List.mem_map_of_mem member)
    rw [← absent]
    exact answers_lookup captures name

/-- **A query in the prefix** takes the suffix with it, **a slash in a name** cuts the name in two,
and **a query in a name** cuts it off. -/
theorem mount_loses_parameters :
    Loses "/x?v" "id" "/x" ∧ Loses "/u" "a/b" "/u/7/b" ∧ Loses "/u" "a?b" "/u/7" := by
  refine ⟨?_, ?_, ?_⟩
  · exact loses_of_names rfl rfl ⟨by decide, by decide⟩ (by decide)
  · exact loses_of_names rfl rfl ⟨by decide, by decide⟩ (by decide)
  · exact loses_of_names rfl rfl ⟨by decide, by decide⟩ (by decide)

end Registry

end Switchboard
