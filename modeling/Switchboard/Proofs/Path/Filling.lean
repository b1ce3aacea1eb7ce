/-
**Templates and the paths they stand for.**

A template with values in the places of its parameters is a path. Matching is the way back: a clean
path matches exactly if it is the template with some values, and the captures are the names of the
template with these values.

* `fill`, `Fills` — **a template with values** in the places of its parameters, from left to right;
* `matchSegments_eq_some_iff` — segments match exactly if they are the filled ones;
* `lookup_of_matchSegments` — a name is answered with the segment in its leftmost place;
* `match?_clean_eq_some_iff`, `match?_fill` — **matching undoes filling, and filling matching**;
* `matching_inverts_filling` — all of it, for every declared prefix and every path.
-/

import Switchboard.Proofs.Path.Names

namespace Switchboard.Path.Template

/-! ### Filled templates -/

/-- The segments of a template with values in the places of its parameters, from left to right. -/
def fillParts : List Part → List String → List String
  | [], _ => []
  | .fixed text :: parts, values => text :: fillParts parts values
  | .param _ :: parts, value :: values => value :: fillParts parts values
  | .param _ :: _, [] => []

/-- The path of a template with values in the places of its parameters. -/
def fill (template : Template) (values : List String) : String :=
  String.ofList (render ((fillParts template.parts values).map String.toList))

/-- The captures give each name of a template a value that can be a segment, and the template with
these values is the path. -/
structure Fills (template : Template) (captures : Captures) (path : String) : Prop where
  names : captures.map Prod.fst = template.names
  values : ∀ value ∈ captures.map Prod.snd, Proper value.toList
  path : template.fill (captures.map Prod.snd) = path

/-- A filled segment is a fixed one or a value. -/
theorem mem_fillParts {parts : List Part} {values : List String} {segment : String}
    (member : segment ∈ fillParts parts values) : .fixed segment ∈ parts ∨ segment ∈ values := by
  induction parts, values using fillParts.induct with
  | case1 => cases member
  | case2 values text parts hypothesis =>
    rcases List.mem_cons.mp member with rfl | behind
    · exact Or.inl List.mem_cons_self
    · exact (hypothesis behind).imp_left (List.mem_cons_of_mem _)
  | case3 name parts value values hypothesis =>
    rcases List.mem_cons.mp member with rfl | behind
    · exact Or.inr List.mem_cons_self
    · exact (hypothesis behind).imp (List.mem_cons_of_mem _) (List.mem_cons_of_mem _)
  | case4 => cases member

/-- With a value for each name every value is filled in. -/
theorem mem_fillParts_of_mem {parts : List Part} {values : List String}
    (enough : values.length = (parts.filterMap Part.name?).length) {value : String}
    (member : value ∈ values) : value ∈ fillParts parts values := by
  induction parts, values using fillParts.induct with
  | case1 values =>
    rw [List.length_eq_zero_iff.mp enough] at member
    cases member
  | case2 values text parts hypothesis => exact List.mem_cons_of_mem _ (hypothesis enough member)
  | case3 name parts first values hypothesis =>
    rcases List.mem_cons.mp member with rfl | behind
    · exact List.mem_cons_self
    · exact List.mem_cons_of_mem _ (hypothesis (Nat.succ.inj enough) behind)
  | case4 => cases member

/-! ### Matching segments -/

/-- **Segments match exactly if they are the filled ones**, and the captures are the names with the
values. -/
theorem matchSegments_eq_some_iff {parts : List Part} {words : List String} {captures : Captures} :
    matchSegments parts words = some captures
      ↔ captures.map Prod.fst = parts.filterMap Part.name?
        ∧ fillParts parts (captures.map Prod.snd) = words := by
  induction parts, words using matchSegments.induct generalizing captures with
  | case1 =>
    rw [matchSegments, Option.some_inj]
    refine ⟨fun none => none ▸ ⟨rfl, rfl⟩, fun both => (List.map_eq_nil_iff.mp both.1).symm⟩
  | case2 parts word words hypothesis =>
    rw [matchSegments, if_pos rfl, hypothesis]
    exact and_congr_right fun _ => (List.cons_inj_right word).symm
  | case3 text parts word words different =>
    rw [matchSegments, if_neg different]
    constructor
    · intro none
      cases none
    · rintro ⟨-, filled⟩
      exact absurd (List.cons.inj filled).1 different
  | case4 name parts word words hypothesis =>
    rw [matchSegments, Option.map_eq_some_iff]
    constructor
    · rintro ⟨inner, found, rfl⟩
      obtain ⟨named, filled⟩ := hypothesis.mp found
      exact ⟨congrArg (name :: ·) named, congrArg (word :: ·) filled⟩
    · rintro ⟨named, filled⟩
      obtain ⟨⟨own, value⟩, inner, rfl, rfl, rest⟩ := List.map_eq_cons_iff.mp named
      obtain ⟨rfl, filledRest⟩ := List.cons.inj filled
      exact ⟨inner, hypothesis.mpr ⟨rest, filledRest⟩, rfl⟩
  | case5 parts words noEnd noFixed noParam =>
    have none : matchSegments parts words = none := by
      rw [matchSegments]
      all_goals assumption
    rw [none]
    refine iff_of_false (Option.some_ne_none captures).symm ?_
    -- the template or the path goes on where the other ends, and so would the filled segments
    rintro ⟨named, rfl⟩
    cases parts with
    | nil => exact noEnd rfl rfl
    | cons part parts =>
      cases part with
      | fixed text => exact noFixed _ _ _ _ rfl rfl
      | param name =>
        obtain ⟨⟨own, value⟩, inner, rfl, -, -⟩ := List.map_eq_cons_iff.mp named
        exact noParam _ _ _ _ rfl rfl

theorem bind_getElem?_succ {α : Type} (position : Option Nat) (first : α) (others : List α) :
    (position.map (· + 1)).bind ((first :: others)[·]?) = position.bind (others[·]?) := by
  cases position <;> rfl

/-- **A name is answered** with the segment in its leftmost place, and no other text is. -/
theorem lookup_of_matchSegments {parts : List Part} {words : List String} {captures : Captures}
    (matched : matchSegments parts words = some captures) (name : String) :
    captures.lookup name = (parts.idxOf? (.param name)).bind (words[·]?) := by
  induction parts, words using matchSegments.induct generalizing captures with
  | case1 =>
    cases matched
    rfl
  | case2 parts word words hypothesis =>
    rw [matchSegments, if_pos rfl] at matched
    have other : (Part.fixed word == Part.param name) = false := by
      rw [beq_eq_false_iff_ne]
      rintro ⟨⟩
    rw [hypothesis matched, List.idxOf?_cons, other, if_neg Bool.false_ne_true, bind_getElem?_succ]
  | case3 text parts word words different =>
    rw [matchSegments, if_neg different] at matched
    cases matched
  | case4 own parts word words hypothesis =>
    rw [matchSegments, Option.map_eq_some_iff] at matched
    obtain ⟨inner, found, rfl⟩ := matched
    rw [List.lookup_cons, hypothesis found, List.idxOf?_cons]
    by_cases same : name = own
    · rw [same, beq_self_eq_true, beq_self_eq_true]
      rfl
    · have other : (Part.param own == Part.param name) = false :=
        beq_eq_false_iff_ne.mpr fun equal => same (Part.param.inj equal).symm
      rw [beq_eq_false_iff_ne.mpr same, other, if_neg Bool.false_ne_true, bind_getElem?_succ]
  | case5 parts words noEnd noFixed noParam =>
    rw [matchSegments] at matched
    · cases matched
    all_goals assumption

/-! ### Clean paths -/

theorem proper_of_fixed_mem_compile {declared text : String}
    (member : .fixed text ∈ (compile declared).parts) : Proper text.toList := by
  rw [parts_compile] at member
  obtain ⟨segment, left, made⟩ := List.mem_map.mp member
  unfold Part.ofSegment at made
  split at made
  · cases made
  · rw [← Part.fixed.inj made, String.toList_ofList]
    exact proper_of_mem_cleanSegments left

/-- A value that can stand between two slashes. -/
structure Fitting (value : String) : Prop where
  named : value ≠ ""
  slashless : '/' ∉ value.toList

theorem Fitting.of_proper {value : String} (proper : Proper value.toList) : Fitting value where
  named empty := proper.ne_nil (String.toList_eq_nil_iff.mpr empty)
  slashless := proper.slashless

section

variable {declared : String} {values : List String}

/-- **The words of a filled template** are its filled segments. -/
theorem words_fill (fitting : ∀ value ∈ values, Fitting value) :
    words ((compile declared).fill values)
      = (fillParts (compile declared).parts values).map String.toList := by
  have filled : ∀ text ∈ fillParts (compile declared).parts values, Fitting text := by
    intro text member
    rcases mem_fillParts member with fixed | value
    · exact .of_proper (proper_of_fixed_mem_compile fixed)
    · exact fitting text value
  refine words_render ?_ ?_
  · intro segment member
    obtain ⟨text, inside, rfl⟩ := List.mem_map.mp member
    exact mt String.toList_eq_nil_iff.mp (filled text inside).named
  · intro segment member
    obtain ⟨text, inside, rfl⟩ := List.mem_map.mp member
    exact (filled text inside).slashless

/-- **A filled template matches**, and the captures are its names with the values. -/
theorem match?_fill (enough : values.length = (compile declared).names.length)
    (fitting : ∀ value ∈ values, Fitting value) :
    (compile declared).match? ((compile declared).fill values)
      = some ((compile declared).names.zip values) := by
  have read : (words ((compile declared).fill values)).map String.ofList
      = fillParts (compile declared).parts values := by
    rw [words_fill fitting, List.map_map]
    exact (List.map_congr_left fun text _ => String.ofList_toList).trans (List.map_id _)
  unfold match?
  rw [read, matchSegments_eq_some_iff, List.map_fst_zip (Nat.le_of_eq enough.symm),
    List.map_snd_zip (Nat.le_of_eq enough)]
  exact ⟨rfl, rfl⟩

/-- A template filled with segments is a clean path. -/
theorem clean_fill (proper : ∀ value ∈ values, Proper value.toList) :
    clean ((compile declared).fill values) = (compile declared).fill values := by
  have filled : ∀ segment ∈ (fillParts (compile declared).parts values).map String.toList,
      Proper segment := by
    intro segment member
    obtain ⟨text, inside, rfl⟩ := List.mem_map.mp member
    rcases mem_fillParts inside with fixed | value
    · exact proper_of_fixed_mem_compile fixed
    · exact proper text value
  apply String.toList_inj.mp
  unfold fill
  rw [toList_clean, String.toList_ofList, cleanSegments_render filled]

theorem fill_of_filled {raw : String}
    (filled : fillParts (compile declared).parts values
      = (words (clean raw)).map String.ofList) :
    (compile declared).fill values = clean raw := by
  have texts : ((words (clean raw)).map String.ofList).map String.toList = words (clean raw) := by
    rw [List.map_map]
    exact (List.map_congr_left fun segment _ => String.toList_ofList).trans (List.map_id _)
  unfold fill
  rw [filled, texts, words_clean]
  rfl

end

/-- **A clean path matches exactly if it is the template** with the captured values. -/
theorem match?_clean_eq_some_iff {declared raw : String} {captures : Captures} :
    (compile declared).match? (clean raw) = some captures
      ↔ Fills (compile declared) captures (clean raw) := by
  constructor
  · intro matched
    obtain ⟨named, filled⟩ := matchSegments_eq_some_iff.mp matched
    have enough : (captures.map Prod.snd).length
        = ((compile declared).parts.filterMap Part.name?).length := by
      rw [← named, List.length_map, List.length_map]
    refine ⟨named, fun value member => ?_, fill_of_filled filled⟩
    have inside := mem_fillParts_of_mem enough member
    rw [filled, words_clean] at inside
    obtain ⟨segment, left, rfl⟩ := List.mem_map.mp inside
    rw [String.toList_ofList]
    exact proper_of_mem_cleanSegments left
  · intro fills
    have enough : (captures.map Prod.snd).length = (compile declared).names.length := by
      rw [← fills.names, List.length_map, List.length_map]
    have zipped : (compile declared).names.zip (captures.map Prod.snd) = captures := by
      rw [← fills.names]
      exact (List.zip_of_prod rfl rfl).symm
    rw [← fills.path, match?_fill enough fun value member => .of_proper (fills.values value member),
      zipped]

/-- **Matching and filling are inverse.** A clean path matches the template of a declared prefix
exactly if it is the template with some values in the places of the parameters. The captures are the
names with these values in the order of the segments, each of them a proper segment, and a name is
answered with the segment in its leftmost place. Every choice of proper segments fills the template
to a clean path, which gives them back. -/
theorem matching_inverts_filling (declared raw : String) :
    (((compile declared).match? (clean raw)).isSome = true
        ↔ ∃ values : List String, values.length = (compile declared).names.length
          ∧ (∀ value ∈ values, Fitting value) ∧ (compile declared).fill values = clean raw)
      ∧ (∀ captures, (compile declared).match? (clean raw) = some captures
        ↔ Fills (compile declared) captures (clean raw))
      ∧ (∀ captures name, (compile declared).match? (clean raw) = some captures →
        captures.lookup name
          = ((compile declared).parts.idxOf? (.param name)).bind fun place =>
            ((words (clean raw)).map String.ofList)[place]?)
      ∧ ∀ values : List String, values.length = (compile declared).names.length →
        (∀ value ∈ values, Proper value.toList) →
        clean ((compile declared).fill values) = (compile declared).fill values
          ∧ (compile declared).match? ((compile declared).fill values)
            = some ((compile declared).names.zip values) := by
  refine ⟨⟨fun found => ?_, ?_⟩, fun captures => match?_clean_eq_some_iff,
    fun captures name matched => lookup_of_matchSegments matched name,
    fun values enough proper => ⟨clean_fill proper,
      match?_fill enough fun value member => .of_proper (proper value member)⟩⟩
  · obtain ⟨captures, matched⟩ := Option.isSome_iff_exists.mp found
    have fills := match?_clean_eq_some_iff.mp matched
    refine ⟨captures.map Prod.snd, ?_, fun value member => .of_proper (fills.values value member),
      fills.path⟩
    rw [← fills.names, List.length_map, List.length_map]
  · rintro ⟨values, enough, fitting, same⟩
    rw [← same, match?_fill enough fitting]
    rfl

/-- A name that stands twice in a template is answered with its first value, and both are filled in. -/
theorem matching_inverts_filling_repeated :
    let template := compile "users/./:id/:id/posts/:post/"
    let captures : Captures := [("id", "4:2"), ("id", ".a"), ("post", "7?q")]
    template.match? (clean "//users/4:2/x/.././.a/posts/7?q/") = some captures
      ∧ captures.lookup "id" = some "4:2"
      ∧ Fills template captures "/users/4:2/.a/posts/7?q"
      ∧ (∀ value ∈ ["b", "...", ":c"], Proper value.toList)
      ∧ clean (template.fill ["b", "...", ":c"]) = "/users/b/.../posts/:c"
      ∧ template.match? "/users/b/.../posts/:c"
        = some [("id", "b"), ("id", "..."), ("post", ":c")] := by
  intro template captures
  obtain ⟨-, exact, answers, inverse⟩ := matching_inverts_filling "users/./:id/:id/posts/:post/"
    "//users/4:2/x/.././.a/posts/7?q/"
  have matched : template.match? (clean "//users/4:2/x/.././.a/posts/7?q/") = some captures := by
    cbv
  have proper : ∀ value ∈ ["b", "...", ":c"], Proper value.toList := by
    intro value member
    have each : ∀ value ∈ ["b", "...", ":c"],
        isOrdinary value.toList = true ∧ '/' ∉ value.toList := by decide
    exact ⟨(each value member).1, (each value member).2⟩
  have filled : template.fill ["b", "...", ":c"] = "/users/b/.../posts/:c" := by decide
  obtain ⟨cleaned, given⟩ := inverse ["b", "...", ":c"] (by decide) proper
  refine ⟨matched, ?_, (exact captures).mp matched, proper, cleaned.trans filled, ?_⟩
  · rw [answers captures "id" matched]
    decide
  · rw [← filled]
    exact given

end Switchboard.Path.Template
