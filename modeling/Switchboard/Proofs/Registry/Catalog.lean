/-
**The catalog of a registry.**

The catalog is an object with two lists. An entry has the members of the operation or route that it
shows, and no others, so handlers are left out.

* `Param.ShownBy`, `Operation.ShownBy`, `Route.ShownBy` — **an entry shows a descriptor**: each
  member is what the descriptor tells of it;
* `firstOperation?`, `firstRoute?` — the first descriptor with an identity among those that
  registrations bring; it is the one that is stored, `get?_after_eq_first`,
  `getRoute?_after_eq_first`;
* `catalogued_after` — **the catalog shows exactly what was registered**, each descriptor once and
  in the order of identities;
* `printable_catalog` — a catalog whose formats hold no doubles is printed and read back.
-/

import Switchboard.Proofs.Json.Reading
import Switchboard.Proofs.Json.RoundTrip
import Switchboard.Proofs.Registry.Permanence
import Mathlib.Data.List.Forall2

namespace Switchboard

/-! ### Entries -/

namespace Json

/-- An object has no members but those under some keys. -/
def HasOnly (value : Json) (keys : List String) : Prop :=
  ∀ key, (value.member? key).isSome = true → key ∈ keys

theorem hasOnly_ofMembers {members : List (String × Json)}
    (once : (members.map Prod.fst).Nodup) : (ofMembers members).HasOnly (members.map Prod.fst) := by
  intro key found
  rw [member?_ofMembers once] at found
  by_contra absent
  have nothing : members.lookup key = none := by
    refine List.lookup_eq_none_iff.mpr fun entry member => bne_iff_ne.mpr fun same => absent ?_
    rw [same]
    exact List.mem_map_of_mem member
  rw [nothing] at found
  cases found

end Json

/-- **An entry shows a parameter.** -/
structure Param.ShownBy (param : Param) (entry : Json) : Prop where
  name : entry.member? "name" = some (.string param.name)
  place : entry.member? "in" = some (.string param.location.name)
  required : entry.member? "required" = some (.bool param.required)
  format : entry.member? "format" = some param.format.value
  description : entry.member? "description" = some (.string param.description)
  only : entry.HasOnly ["name", "in", "required", "format", "description"]

theorem Param.shownBy_toJson (param : Param) : param.ShownBy param.toJson := by
  have once : (param.fields.map Prod.fst).Nodup := by
    show ["name", "in", "required", "format", "description"].Nodup
    decide
  have found := Json.member?_ofMembers once
  exact ⟨found _, found _, found _, found _, found _, Json.hasOnly_ofMembers once⟩

/-- Entries show parameters, one each and in their order. -/
def Param.AllShownBy (params : List Param) (entries : List Json) : Prop :=
  List.Forall₂ ShownBy params entries

theorem Param.allShownBy_map (params : List Param) :
    AllShownBy params (params.map fun param => Json.ofMembers param.fields) :=
  List.forall₂_map_right_iff.mpr (List.forall₂_same.mpr fun param _ => param.shownBy_toJson)

/-- **An entry shows an operation**, and nothing of its handler. -/
structure Operation.ShownBy (operation : Operation) (entry : Json) : Prop where
  id : entry.member? "id" = some (.string operation.id)
  description : entry.member? "description" = some (.string operation.description)
  types : entry.member? "types" = some (Json.strings operation.types)
  methods : entry.member? "methods" = some (Json.strings (operation.methods.map Http.Method.token))
  params : ∃ entries, entry.member? "params" = some (.array entries)
    ∧ Param.AllShownBy operation.params entries
  suffix : entry.member? "suffix" = some (.string operation.suffix)
  only : entry.HasOnly ["id", "description", "types", "methods", "params", "suffix"]

theorem Operation.shownBy_toJson (operation : Operation) :
    operation.ShownBy operation.toJson := by
  have once : ((operation.fields Json.ofMembers).map Prod.fst).Nodup := by
    show ["id", "description", "types", "methods", "params", "suffix"].Nodup
    decide
  have found := Json.member?_ofMembers once
  exact ⟨found _, found _, found _, found _, ⟨_, found _, Param.allShownBy_map _⟩, found _,
    Json.hasOnly_ofMembers once⟩

/-- **An entry shows a route**, and nothing of its handler. -/
structure Route.ShownBy (route : Route) (entry : Json) : Prop where
  id : entry.member? "id" = some (.string route.id)
  methods : entry.member? "methods" = some (Json.strings (route.methods.map Http.Method.token))
  whole : entry.member? "prefix" = some (.string route.place.whole)
  fixedPart : entry.member? "prefix_path" = some (.string route.place.fixedPart)
  paramPart : entry.member? "prefix_param" = some (.string route.place.paramPart)
  description : entry.member? "description" = some (.string route.description)
  produces : entry.member? "produces" = some (Json.strings route.produces)
  params : ∃ entries, entry.member? "params" = some (.array entries)
    ∧ Param.AllShownBy route.params entries
  only : entry.HasOnly ["id", "methods", "prefix", "prefix_path", "prefix_param", "description",
    "produces", "params"]

theorem Route.shownBy_toJson (route : Route) : route.ShownBy route.toJson := by
  have once : ((route.fields Json.ofMembers).map Prod.fst).Nodup := by
    show ["id", "methods", "prefix", "prefix_path", "prefix_param", "description", "produces",
      "params"].Nodup
    decide
  have found := Json.member?_ofMembers once
  exact ⟨found _, found _, found _, found _, found _, found _, found _,
    ⟨_, found _, Param.allShownBy_map _⟩, Json.hasOnly_ofMembers once⟩

namespace Registry

/-! ### What was registered -/

/-- The first operation with an identity among those that registrations bring. -/
def firstOperation? (history : List Registration) (id : String) : Option Operation :=
  (history.filterMap Registration.operation?).find? fun operation => decide (operation.id = id)

/-- The first route with an identity among those that registrations bring. -/
def firstRoute? (history : List Registration) (id : String) : Option Route :=
  (history.filterMap fun call => call.route?.map Prod.fst).find? fun route =>
    decide (route.id = id)

theorem find?_filterMap_singleton {α β : Type} (bring : α → Option β) (wanted : β → Bool)
    (call : α) : ([call].filterMap bring).find? wanted = (bring call).filter wanted := by
  cases brought : bring call with
  | none =>
    rw [List.filterMap_cons_none brought]
    rfl
  | some found =>
    rw [List.filterMap_cons_some brought, Option.filter_some, List.find?_cons]
    cases wanted found <;> rfl

/-- **The stored operation** of an identity is the first that was registered with it. -/
theorem get?_after_eq_first (history : List Registration) (id : String) :
    (after history).get? id = firstOperation? history id := by
  unfold firstOperation?
  induction history using List.reverseRecOn with
  | nil => rfl
  | append_singleton history call hypothesis =>
    rw [after_snoc, get?_enter, hypothesis, List.filterMap_append, List.find?_append,
      find?_filterMap_singleton]

/-- **The stored route** of an identity is the first that was registered with it. -/
theorem getRoute?_after_eq_first (history : List Registration) (id : String) :
    (after history).getRoute? id = firstRoute? history id := by
  unfold firstRoute?
  induction history using List.reverseRecOn with
  | nil => rfl
  | append_singleton history call hypothesis =>
    rw [after_snoc, getRoute?_enter (filed_after history), hypothesis, List.filterMap_append,
      List.find?_append, find?_filterMap_singleton]
    refine congrArg _ ?_
    unfold founding?
    cases call.route? with
    | none => rfl
    | some brought =>
      rw [Option.filter_some, Option.map_some, Option.filter_some]
      split <;> rfl

/-- **A value is the catalog of what was registered**: it lists some operations and routes, each
once and in the order of identities, and those are the first that were registered with their
identities. -/
structure Catalogued (history : List Registration) (value : Json) (operations : List Operation)
    (routes : List Route) : Prop where
  shownOperations : ∃ entries, value.member? "operations" = some (.array entries)
    ∧ List.Forall₂ Operation.ShownBy operations entries
  shownRoutes : ∃ entries, value.member? "routes" = some (.array entries)
    ∧ List.Forall₂ Route.ShownBy routes entries
  only : value.HasOnly ["operations", "routes"]
  operationOrder : Text.Ascending Operation.id operations
  routeOrder : Text.Ascending Route.id routes
  mem_operations_iff : ∀ operation,
    operation ∈ operations ↔ firstOperation? history operation.id = some operation
  mem_routes_iff : ∀ route, route ∈ routes ↔ firstRoute? history route.id = some route

/-- **The catalog of a registry shows exactly what was registered.** -/
theorem catalogued_after (history : List Registration) :
    Catalogued history (after history).catalog (after history).enumerate
      (after history).routeList := by
  have represented := represented_after history
  have once : ["operations", "routes"].Nodup := by decide
  have found : ∀ key, (after history).catalog.member? key
      = List.lookup key [("operations", .array ((after history).enumerate.map Operation.toJson)),
        ("routes", .array ((after history).routeList.map Route.toJson))] :=
    Json.member?_ofMembers once
  exact {
    shownOperations := ⟨_, found _, List.forall₂_map_right_iff.mpr
      (List.forall₂_same.mpr fun operation _ => operation.shownBy_toJson)⟩
    shownRoutes := ⟨_, found _, List.forall₂_map_right_iff.mpr
      (List.forall₂_same.mpr fun route _ => route.shownBy_toJson)⟩
    only := Json.hasOnly_ofMembers once
    operationOrder := represented.operations
    routeOrder := represented.routes
    mem_operations_iff := fun operation => by
      rw [← get?_after_eq_first, represented.get?_iff]
      exact ⟨fun member => ⟨member, rfl⟩, And.left⟩
    mem_routes_iff := fun route => by
      rw [← getRoute?_after_eq_first, represented.getRoute?_iff]
      exact ⟨fun member => ⟨member, rfl⟩, And.left⟩ }

end Registry

/-! ### The text of a catalog -/

/-- A value that is printed and read back by a reader with a limit on nesting. -/
structure Json.Printable (depth : Nat) (value : Json) : Prop where
  tidy : Every Tidy value
  whole : Every Whole value
  shallow : value.nesting < depth

namespace Json.Printable

variable {depth : Nat}

theorem string (positive : 0 < depth) (text : String) : Printable depth (.string text) :=
  ⟨.leaf trivial rfl, .leaf trivial rfl, positive⟩

theorem bool (positive : 0 < depth) (value : Bool) : Printable depth (.bool value) :=
  ⟨.leaf trivial rfl, .leaf trivial rfl, positive⟩

theorem array {items : List Json} (positive : 0 < depth)
    (each : ∀ item ∈ items, Printable depth item) : Printable (depth + 1) (.array items) where
  tidy := .node trivial fun item member => (each item member).tidy
  whole := .node trivial fun item member => (each item member).whole
  shallow := nesting_array_lt_iff.mpr
    ⟨Nat.succ_lt_succ positive, fun item member => (each item member).shallow⟩

theorem strings (positive : 0 < depth) (texts : List String) :
    Printable (depth + 1) (Json.strings texts) := by
  refine array positive fun item member => ?_
  obtain ⟨text, _, rfl⟩ := List.mem_map.mp member
  exact string positive text

theorem ofMembers {members : List (String × Json)} (positive : 0 < depth)
    (each : ∀ member ∈ members, Printable depth member.2) :
    Printable (depth + 1) (Json.ofMembers members) where
  tidy := tidy_ofMembers fun member listed => (each member listed).tidy
  whole := by
    obtain ⟨kept, built, -, among⟩ := exists_ofMembers members
    rw [built]
    exact .node trivial (List.forall_mem_map.mpr fun entry listed =>
      (each entry (among entry listed)).whole)
  shallow := by
    obtain ⟨kept, built, -, among⟩ := exists_ofMembers members
    rw [built]
    exact nesting_object_lt_iff.mpr ⟨Nat.succ_lt_succ positive, fun entry listed =>
      (each entry (among entry listed)).shallow⟩

end Json.Printable

section Printable

open Json (Printable)

variable {depth : Nat}

theorem Param.printable_toJson {param : Param} (format : Printable depth param.format.value) :
    Printable (depth + 1) param.toJson := by
  have positive : 0 < depth := Nat.zero_lt_of_lt format.shallow
  refine .ofMembers positive fun member listed => ?_
  simp only [fields, List.mem_cons, List.not_mem_nil, or_false] at listed
  rcases listed with rfl | rfl | rfl | rfl | rfl
  · exact .string positive _
  · exact .string positive _
  · exact .bool positive _
  · exact format
  · exact .string positive _

theorem Param.printable_all {params : List Param}
    (formats : ∀ param ∈ params, Printable depth param.format.value) :
    Printable (depth + 2) (.array (params.map fun param => Json.ofMembers param.fields)) := by
  refine .array (Nat.succ_pos depth) fun entry member => ?_
  obtain ⟨param, listed, rfl⟩ := List.mem_map.mp member
  exact printable_toJson (formats param listed)

theorem Operation.printable_toJson {operation : Operation}
    (formats : ∀ param ∈ operation.params, Printable depth param.format.value) :
    Printable (depth + 3) operation.toJson := by
  have text : ∀ text, Printable (depth + 2) (.string text) := .string (Nat.succ_pos _)
  have texts : ∀ texts, Printable (depth + 2) (Json.strings texts) := .strings (Nat.succ_pos _)
  refine .ofMembers (Nat.succ_pos _) fun member listed => ?_
  simp only [fields, List.mem_cons, List.not_mem_nil, or_false] at listed
  rcases listed with rfl | rfl | rfl | rfl | rfl | rfl
  · exact text _
  · exact text _
  · exact texts _
  · exact texts _
  · exact Param.printable_all formats
  · exact text _

theorem Route.printable_toJson {route : Route}
    (formats : ∀ param ∈ route.params, Printable depth param.format.value) :
    Printable (depth + 3) route.toJson := by
  have text : ∀ text, Printable (depth + 2) (.string text) := .string (Nat.succ_pos _)
  have texts : ∀ texts, Printable (depth + 2) (Json.strings texts) := .strings (Nat.succ_pos _)
  refine .ofMembers (Nat.succ_pos _) fun member listed => ?_
  simp only [fields, List.mem_cons, List.not_mem_nil, or_false] at listed
  rcases listed with rfl | rfl | rfl | rfl | rfl | rfl | rfl | rfl
  · exact text _
  · exact texts _
  · exact text _
  · exact text _
  · exact text _
  · exact text _
  · exact texts _
  · exact Param.printable_all formats

namespace Registry

/-- The parameters of all operations and routes. -/
def params (registry : Registry) : List Param :=
  registry.enumerate.flatMap Operation.params ++ registry.routeList.flatMap Route.params

/-- **A catalog is printed and read back** where five more lists and objects may stand around its
formats. -/
theorem printable_catalog {registry : Registry}
    (formats : ∀ param ∈ registry.params, Printable depth param.format.value) :
    Printable (depth + 5) registry.catalog := by
  have operations : Printable (depth + 4) (.array (registry.enumerate.map Operation.toJson)) := by
    refine .array (Nat.succ_pos _) fun entry member => ?_
    obtain ⟨operation, listed, rfl⟩ := List.mem_map.mp member
    exact operation.printable_toJson fun param among => formats param
      (List.mem_append_left _ (List.mem_flatMap.mpr ⟨operation, listed, among⟩))
  have routes : Printable (depth + 4) (.array (registry.routeList.map Route.toJson)) := by
    refine .array (Nat.succ_pos _) fun entry member => ?_
    obtain ⟨route, listed, rfl⟩ := List.mem_map.mp member
    exact route.printable_toJson fun param among => formats param
      (List.mem_append_right _ (List.mem_flatMap.mpr ⟨route, listed, among⟩))
  refine .ofMembers (Nat.succ_pos _) fun member listed => ?_
  simp only [List.mem_cons, List.not_mem_nil, or_false] at listed
  rcases listed with rfl | rfl
  · exact operations
  · exact routes

end Registry

end Printable

end Switchboard
