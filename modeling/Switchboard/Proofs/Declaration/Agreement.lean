/-
**The two builders agree on what is valid.**

An operation strikes blanks, letter case and repetitions out of its types, sorts them and resolves
what is left. A route resolves its methods as they are declared and drops those that it has already.
Both accept the same declarations and come to the same methods. Where they refuse a declaration,
they blame the same parameter; of several tokens that are no methods each blames its own, the route
the first as it is declared, and the operation the least in canonical form.

* `Declaration.Acceptable` — every parameter has a name, and every token is a method;
* `OperationSpec.exists_build_iff`, `RouteSpec.exists_build_iff` — **what is accepted**;
* `Declaration.Blamed` — the faults of a declaration that is not acceptable;
* `Declaration.least_of_normalTypes` — sorted tokens are resolved up to **the least that is no
  method**;
* `Declaration.builders_agree` — all of it.
-/

import Switchboard.Proofs.Declaration.Building

namespace Switchboard

/-- The name has a character that is not blank. -/
def Param.Named (param : Param) : Prop :=
  ∃ character ∈ param.name.toList, Text.isBlank character = false

theorem Param.isNameless_eq_false_iff {param : Param} :
    param.isNameless = false ↔ param.Named := by
  have blank : param.isNameless = true
      ↔ ∀ character ∈ param.name.toList, Text.isBlank character = true := by
    unfold isNameless Text.trim
    rw [String.isEmpty_iff, ← String.toList_inj, String.toList_ofList, String.toList_empty,
      Text.trimBy_eq_nil_iff]
  rw [← Bool.not_eq_true, blank]
  unfold Named
  simp only [not_forall, Bool.not_eq_true, exists_prop]

theorem Param.isNameless_eq_true_iff {param : Param} :
    param.isNameless = true ↔ ¬param.Named := by
  rw [← isNameless_eq_false_iff, Bool.not_eq_false]

namespace Declaration

/-- The token is a method once blanks are stripped and its letters are in upper case. -/
def IsMethod (token : String) : Prop :=
  Http.isToken (Text.upper (Text.trim token)) = true

/-- **What a builder accepts**: names for all parameters and methods for all tokens. -/
structure Acceptable (params : List Param) (tokens : List String) : Prop where
  named : ∀ param ∈ params, param.Named
  methods : ∀ token ∈ tokens, IsMethod token

/-- **What an operation and a route blame** in a declaration that is not acceptable. -/
inductive Blamed (params : List Param) (tokens : List String) :
    DeclarationError → DeclarationError → Prop
  /-- the first parameter without a name, whatever the tokens -/
  | param {before after : List Param} {param : Param} (cut : params = before ++ param :: after)
    (named : ∀ earlier ∈ before, earlier.Named) (nameless : ¬param.Named) :
    Blamed params tokens (.emptyParamName before.length) (.emptyParamName before.length)
  /-- the token that is least in canonical form, and the first token as it is declared -/
  | token (named : ∀ param ∈ params, param.Named) {least first : String}
    {before after : List String} (listed : least ∈ tokens) (invalid : ¬IsMethod least)
    (below : ∀ other ∈ tokens, ¬IsMethod other → canonical other = canonical least
      ∨ Text.precedes (canonical least) (canonical other) = true)
    (cut : tokens = before ++ first :: after) (methods : ∀ earlier ∈ before, IsMethod earlier)
    (invalidFirst : ¬IsMethod first) :
    Blamed params tokens (.invalidMethod (canonical least)) (.invalidMethod first)

/-! ### Parameters and tokens -/

theorem checkParams_eq_ok_iff_named {params : List Param} :
    checkParams params = .ok () ↔ ∀ param ∈ params, param.Named := by
  rw [checkParams_eq_ok_iff]
  exact forall₂_congr fun _ _ => Param.isNameless_eq_false_iff

theorem blamed_of_checkParams {params : List Param} {fault : DeclarationError}
    (refused : checkParams params = .error fault) (tokens : List String) :
    Blamed params tokens fault fault := by
  obtain ⟨before, param, after, cut, named, nameless, rfl⟩ := checkParams_eq_error_iff.mp refused
  exact .param cut (fun earlier member => Param.isNameless_eq_false_iff.mp (named earlier member))
    (Param.isNameless_eq_true_iff.mp nameless)

section Tokens

variable {tokens : List String} (listed : tokens ≠ [])
include listed

/-- Normal types are methods exactly if the declared tokens are. -/
theorem forall_normalTypes_iff :
    (∀ type ∈ normalTypes tokens, Http.isToken (canonical type) = true)
      ↔ ∀ token ∈ tokens, IsMethod token := by
  constructor
  · intro valid token member
    have normal := (mem_normalTypes_iff listed).mpr ⟨token, member, rfl⟩
    have form := valid _ normal
    rwa [canonical_canonical] at form
  · intro valid type member
    obtain ⟨token, declared, rfl⟩ := (mem_normalTypes_iff listed).mp member
    rw [canonical_canonical]
    exact valid token declared

/-- **Sorted tokens are resolved up to the least that is no method.** -/
theorem least_of_normalTypes {fault : DeclarationError}
    (refused : resolveAll (normalTypes tokens) = .error fault) :
    ∃ least ∈ tokens, ¬IsMethod least ∧ fault = .invalidMethod (canonical least)
      ∧ ∀ other ∈ tokens, ¬IsMethod other → canonical other = canonical least
        ∨ Text.precedes (canonical least) (canonical other) = true := by
  obtain ⟨before, type, after, cut, earlier, invalid, rfl⟩ := resolveAll_eq_error_iff.mp refused
  have normal : type ∈ normalTypes tokens := by
    rw [cut]
    exact List.mem_append_right _ List.mem_cons_self
  obtain ⟨least, declared, rfl⟩ := (mem_normalTypes_iff listed).mp normal
  rw [canonical_canonical] at invalid
  refine ⟨least, declared, Bool.eq_false_iff.mp invalid, rfl, fun other member notMethod => ?_⟩
  have ascending := ascending_normalTypes tokens
  have place := (mem_normalTypes_iff listed).mpr ⟨other, member, rfl⟩
  rw [cut] at ascending place
  rcases List.mem_append.mp place with front | back
  · have valid := earlier _ front
    rw [canonical_canonical] at valid
    exact absurd valid notMethod
  · rcases List.mem_cons.mp back with same | behind
    · exact .inl same
    · have ordered := List.pairwise_cons.mp (List.pairwise_append.mp ascending).2.1
      exact .inr (ordered.1 _ behind)

end Tokens

/-- The place of a method among others is that of its token among theirs. -/
theorem idxOf_token (methods : List Http.Method) (method : Http.Method) :
    (methods.map Http.Method.token).idxOf method.token = methods.idxOf method := by
  induction methods with
  | nil => rfl
  | cons head tail hypothesis =>
    rw [List.map_cons]
    by_cases here : head = method
    · rw [here, List.idxOf_cons_self, List.idxOf_cons_self]
    · rw [List.idxOf_cons_ne _ here,
        List.idxOf_cons_ne _ fun same => here (Http.Method.ext_token same), hypothesis]

end Declaration

/-! ### What is accepted -/

/-- **An operation is built** exactly if its declaration is acceptable. -/
theorem OperationSpec.exists_build_iff {spec : OperationSpec} (listed : spec.types ≠ []) :
    (∃ operation, spec.build = .ok operation)
      ↔ Declaration.Acceptable spec.params spec.types := by
  constructor
  · rintro ⟨operation, built⟩
    obtain ⟨checked, methods, resolved, -⟩ := build_eq_ok_iff.mp built
    refine ⟨Declaration.checkParams_eq_ok_iff_named.mp checked, ?_⟩
    rw [← Declaration.forall_normalTypes_iff listed, ← Declaration.exists_resolveAll_iff]
    exact ⟨methods, resolved⟩
  · rintro ⟨named, valid⟩
    rw [← Declaration.forall_normalTypes_iff listed, ← Declaration.exists_resolveAll_iff] at valid
    obtain ⟨methods, resolved⟩ := valid
    exact ⟨_, build_eq_ok_iff.mpr
      ⟨Declaration.checkParams_eq_ok_iff_named.mpr named, methods, resolved, rfl⟩⟩

/-- **A route is built** exactly if its declaration is acceptable. -/
theorem RouteSpec.exists_build_iff {spec : RouteSpec} {symbol : String} :
    (∃ route, spec.build symbol = .ok route)
      ↔ Declaration.Acceptable spec.params spec.methods := by
  constructor
  · rintro ⟨route, built⟩
    obtain ⟨checked, methods, resolved, -⟩ := build_eq_ok_iff.mp built
    exact ⟨Declaration.checkParams_eq_ok_iff_named.mp checked,
      Declaration.exists_resolveAll_iff.mp ⟨methods, resolved⟩⟩
  · rintro ⟨named, valid⟩
    obtain ⟨methods, resolved⟩ := Declaration.exists_resolveAll_iff.mpr valid
    exact ⟨_, build_eq_ok_iff.mpr
      ⟨Declaration.checkParams_eq_ok_iff_named.mpr named, methods, resolved, rfl⟩⟩

/-! ### What is built -/

/-- The methods of an operation: those that its types mean, each once, in byte order. -/
structure Declaration.Sorted (methods : List Http.Method) (tokens : List String) : Prop where
  meant : ∀ method, method ∈ methods
    ↔ ∃ token ∈ tokens, Text.upper (Text.trim token) = method.token
  once : methods.Nodup
  ascending : methods.Pairwise fun first second =>
    Text.precedes first.token second.token = true

/-- The methods of a route: those that its tokens mean, each once, in the order in which they occur
first. -/
structure Declaration.Collected (methods : List Http.Method) (tokens : List String) : Prop where
  meant : ∀ method, method ∈ methods
    ↔ ∃ token ∈ tokens, Text.upper (Text.trim token) = method.token
  once : methods.Nodup
  occurring : methods.Pairwise fun first second =>
    (tokens.map Declaration.canonical).idxOf first.token
      < (tokens.map Declaration.canonical).idxOf second.token

theorem Declaration.mem_iff_of_tokens {methods : List Http.Method} {types : List String}
    (tokens : methods.map Http.Method.token = types) (method : Http.Method) :
    method ∈ methods ↔ method.token ∈ types := by
  rw [← tokens, List.mem_map_of_injective fun _ _ => Http.Method.ext_token]

theorem OperationSpec.sorted_of_build {spec : OperationSpec} {operation : Operation}
    (listed : spec.types ≠ []) (built : spec.build = .ok operation) :
    Declaration.Sorted operation.methods spec.types := by
  obtain ⟨methods, resolved, rfl⟩ := exists_of_build built
  have tokens := Declaration.tokens_of_normalTypes resolved
  refine ⟨fun method => ?_, Declaration.nodup_of_normalTypes resolved, ?_⟩
  · rw [Declaration.mem_iff_of_tokens tokens]
    exact Declaration.mem_normalTypes_iff listed
  · have ascending := Declaration.ascending_normalTypes spec.types
    rw [← tokens] at ascending
    exact List.pairwise_map.mp ascending

theorem RouteSpec.collected_of_build {spec : RouteSpec} {symbol : String} {route : Route}
    (built : spec.build symbol = .ok route) :
    Declaration.Collected route.methods spec.methods := by
  obtain ⟨methods, resolved, rfl⟩ := exists_of_build built
  have tokens := Declaration.tokens_of_resolveAll resolved
  refine ⟨fun method => ?_, Declaration.nodup_keepFirst methods, ?_⟩
  · show method ∈ Declaration.keepFirst methods ↔ _
    rw [Declaration.mem_keepFirst, Declaration.mem_iff_of_tokens tokens]
    exact List.mem_map
  · refine (Declaration.pairwise_keepFirst methods).imp fun {first second} before => ?_
    rw [← tokens, Declaration.idxOf_token, Declaration.idxOf_token]
    exact before

/-! ### Agreement -/

/-- What is not acceptable is refused by both builders, and each blames its own fault. -/
theorem Declaration.exists_blamed {operation : OperationSpec} {route : RouteSpec}
    (params : operation.params = route.params) (tokens : operation.types = route.methods)
    (listed : route.methods ≠ []) (symbol : String)
    (refused : ¬Acceptable route.params route.methods) :
    ∃ fault faultToo, operation.build = .error fault ∧ route.build symbol = .error faultToo
      ∧ Blamed route.params route.methods fault faultToo := by
  cases checked : checkParams route.params with
  | error fault =>
    refine ⟨fault, fault, OperationSpec.build_eq_error_iff.mpr (.inl ?_),
      RouteSpec.build_eq_error_iff.mpr (.inl checked), blamed_of_checkParams checked _⟩
    rw [params]
    exact checked
  | ok nothing =>
    have named := checkParams_eq_ok_iff_named.mp checked
    have invalid : ¬∀ token ∈ route.methods, IsMethod token := fun valid => refused ⟨named, valid⟩
    cases resolved : resolveAll route.methods with
    | ok methods => exact absurd (exists_resolveAll_iff.mp ⟨methods, resolved⟩) invalid
    | error faultToo =>
      cases sorted : resolveAll (normalTypes route.methods) with
      | ok methods =>
        have valid := exists_resolveAll_iff.mp ⟨methods, sorted⟩
        exact absurd ((forall_normalTypes_iff listed).mp valid) invalid
      | error fault =>
        refine ⟨fault, faultToo, OperationSpec.build_eq_error_iff.mpr (.inr ?_),
          RouteSpec.build_eq_error_iff.mpr (.inr ⟨checked, resolved⟩), ?_⟩
        · rw [params, tokens]
          exact ⟨checked, sorted⟩
        · obtain ⟨least, member, notMethod, rfl, below⟩ := least_of_normalTypes listed sorted
          obtain ⟨before, first, after, cut, methods, notFirst, rfl⟩ :=
            resolveAll_eq_error_iff.mp resolved
          exact .token named member notMethod below cut methods (Bool.eq_false_iff.mp notFirst)

/-- **The two builders agree.** Of the same parameters and the same tokens, at least one of these,
an operation is built exactly if a route is, whatever its prefix and the handlers: if every
parameter has a name and every token is a method. Both have the methods that the tokens mean, each
once, the operation in byte order and the route in the order in which they occur first. Otherwise
both refuse: for the first parameter without a name if there is one, and else the operation for the
least token in canonical form that is no method, and the route for the first as it is declared. -/
theorem Declaration.builders_agree {operation : OperationSpec} {route : RouteSpec}
    (params : operation.params = route.params) (tokens : operation.types = route.methods)
    (listed : route.methods ≠ []) (symbol : String) :
    ((∃ built, operation.build = .ok built) ↔ Acceptable route.params route.methods)
      ∧ ((∃ built, route.build symbol = .ok built) ↔ Acceptable route.params route.methods)
      ∧ (∀ one other, operation.build = .ok one → route.build symbol = .ok other →
        Sorted one.methods route.methods ∧ Collected other.methods route.methods)
      ∧ (¬Acceptable route.params route.methods →
        ∃ fault faultToo, operation.build = .error fault ∧ route.build symbol = .error faultToo
          ∧ Blamed route.params route.methods fault faultToo) := by
  refine ⟨?_, RouteSpec.exists_build_iff, fun one other built builtToo => ⟨?_, ?_⟩,
    exists_blamed params tokens listed symbol⟩
  · rw [← params, ← tokens]
    exact OperationSpec.exists_build_iff (tokens ▸ listed)
  · rw [← tokens]
    exact OperationSpec.sorted_of_build (tokens ▸ listed) built
  · exact RouteSpec.collected_of_build builtToo

/-- Tokens in another order, with blanks and a repetition, are the methods `GET`, `POST` of the
operation and `POST`, `GET` of the route. Of two tokens that are no methods the operation blames
`A=`, and the route ` z z`. A parameter without a name is blamed by both before any token. -/
theorem Declaration.builders_agree_faults :
    (∃ one other,
      OperationSpec.build { types := ["post", " GET", "Post"] } = .ok one
        ∧ RouteSpec.build { methods := ["post", " GET", "Post"], declared := "/" } "show"
          = .ok other
        ∧ Sorted one.methods ["post", " GET", "Post"]
        ∧ Collected other.methods ["post", " GET", "Post"]
        ∧ one.methods.map Http.Method.token = ["GET", "POST"]
        ∧ other.methods.map Http.Method.token = ["POST", "GET"])
      ∧ Blamed [] ["get", " z z", "a="] (.invalidMethod "A=") (.invalidMethod " z z")
      ∧ Blamed [{ name := "page", location := .query }, { name := "\u00a0 ", location := .path }]
        ["a="] (.emptyParamName 1) (.emptyParamName 1) := by
  have notMethod : ¬IsMethod "a=" := by
    unfold IsMethod
    decide
  refine ⟨?accepted, ?token, ?param⟩
  case accepted =>
    have sorts : resolveAll (normalTypes ["post", " GET", "Post"])
      = .ok [.get, ⟨"POST", by decide⟩] := by rfl
    have collects : resolveAll ["post", " GET", "Post"]
      = .ok [⟨"POST", by decide⟩, .get, ⟨"POST", by decide⟩] := by rfl
    obtain ⟨one, built, sorted⟩ : ∃ one,
        OperationSpec.build { types := ["post", " GET", "Post"] } = .ok one
          ∧ one.methods.map Http.Method.token = ["GET", "POST"] :=
      ⟨_, OperationSpec.build_eq_ok_iff.mpr ⟨rfl, _, sorts, rfl⟩, rfl⟩
    obtain ⟨other, builtToo, collected⟩ : ∃ other,
        RouteSpec.build { methods := ["post", " GET", "Post"], declared := "/" } "show" = .ok other
          ∧ other.methods.map Http.Method.token = ["POST", "GET"] :=
      ⟨_, RouteSpec.build_eq_ok_iff.mpr ⟨rfl, _, collects, rfl⟩, rfl⟩
    obtain ⟨-, -, agree, -⟩ := @builders_agree { types := ["post", " GET", "Post"] }
      { methods := ["post", " GET", "Post"], declared := "/" } rfl rfl (by decide) "show"
    obtain ⟨both, bothToo⟩ := agree one other built builtToo
    exact ⟨one, other, built, builtToo, both, bothToo, sorted, collected⟩
  case token =>
    obtain ⟨-, -, -, refused⟩ := @builders_agree { types := ["get", " z z", "a="] }
      { methods := ["get", " z z", "a="], declared := "/" } rfl rfl (by decide) "show"
    obtain ⟨fault, faultToo, here, there, blamed⟩ := refused fun acceptable =>
      notMethod (acceptable.methods "a=" (by decide))
    have least : OperationSpec.build { types := ["get", " z z", "a="] }
      = .error (.invalidMethod "A=") := by rfl
    have first : RouteSpec.build { methods := ["get", " z z", "a="], declared := "/" } "show"
      = .error (.invalidMethod " z z") := by rfl
    cases here.symm.trans least
    cases there.symm.trans first
    exact blamed
  case param =>
    obtain ⟨-, -, -, refused⟩ := @builders_agree
      { params := [⟨"page", .query, false, .null, ""⟩, ⟨"\u00a0 ", .path, false, .null, ""⟩]
        types := ["a="] }
      { params := [⟨"page", .query, false, .null, ""⟩, ⟨"\u00a0 ", .path, false, .null, ""⟩]
        methods := ["a="], declared := "/" } rfl rfl (by decide) "show"
    obtain ⟨fault, faultToo, here, there, blamed⟩ := refused fun acceptable =>
      notMethod (acceptable.methods "a=" (by decide))
    have nameless : checkParams
        [⟨"page", .query, false, .null, ""⟩, ⟨"\u00a0 ", .path, false, .null, ""⟩]
      = .error (.emptyParamName 1) := by rfl
    cases here.symm.trans (OperationSpec.build_eq_error_iff.mpr (.inl nameless))
    cases there.symm.trans (RouteSpec.build_eq_error_iff.mpr (.inl nameless))
    exact blamed

end Switchboard
