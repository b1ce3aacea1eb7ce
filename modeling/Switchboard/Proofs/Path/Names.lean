/-
**The names of a template.**

A segment declares a parameter if it starts with a colon, and the parameter has the name behind it.
A path that matches a template gives each name a value, and a second cleaning of what is left in
front of a query adds no name.

* `nameOf?_eq_some_iff` — **a segment declares a name** exactly if it is the segment of that name;
* `Template.names_of_match?` — **a path that matches** gives each name of the template a value;
* `Template.mem_names_compile` — a name of a template is a whole segment of the declared prefix;
* `Template.length_names_whole_le` — the cut of a query adds no name.
-/

import Switchboard.Proofs.Path.Query

namespace Switchboard.Path

/-! ### The names of a template -/

/-- The name of a segment of a template that is a parameter. -/
def Part.name? : Part → Option String
  | .fixed _ => none
  | .param name => some name

/-- The name of the parameter that a segment declares. -/
def nameOf? (segment : Segment) : Option String :=
  (Part.ofSegment segment).name?

/-- The segment that declares a parameter. -/
def segmentOf (name : String) : Segment :=
  ':' :: name.toList

theorem nameOf?_eq_some_iff {segment : Segment} {name : String} :
    nameOf? segment = some name ↔ segment = segmentOf name := by
  unfold nameOf? segmentOf Part.ofSegment
  split
  · rename_i rest
    rw [Part.name?, Option.some_inj, List.cons_inj_right]
    exact ⟨fun same => by rw [← same, String.toList_ofList],
      fun same => by rw [same, String.ofList_toList]⟩
  · rename_i unnamed
    constructor
    · intro named
      cases named
    · intro named
      exact absurd named (unnamed _)

theorem proper_segmentOf {name : String} (slashless : '/' ∉ name.toList) :
    Proper (segmentOf name) where
  ordinary := by
    unfold segmentOf isOrdinary
    simp
  slashless member := slashless ((List.mem_cons.mp member).resolve_left (by decide))

namespace Template

/-- The names of the parameters of a template, in the order of its segments. -/
def names (template : Template) : List String :=
  template.parts.filterMap Part.name?

theorem names_of_matchSegments {parts : List Part} {words : List String} {captures : Captures}
    (matched : matchSegments parts words = some captures) :
    captures.map Prod.fst = parts.filterMap Part.name? := by
  induction parts, words using matchSegments.induct generalizing captures with
  | case1 =>
    cases matched
    rfl
  | case2 parts word words hypothesis =>
    rw [matchSegments, if_pos rfl] at matched
    exact hypothesis matched
  | case3 text parts word words different =>
    rw [matchSegments, if_neg different] at matched
    cases matched
  | case4 name parts word words hypothesis =>
    rw [matchSegments, Option.map_eq_some_iff] at matched
    obtain ⟨inner, found, rfl⟩ := matched
    rw [List.map_cons, hypothesis found]
    rfl
  | case5 parts words noEnd noFixed noParam =>
    rw [matchSegments] at matched
    · cases matched
    all_goals assumption

/-- **A path that matches** gives each name of the template a value. -/
theorem names_of_match? {template : Template} {path : String} {captures : Captures}
    (matched : template.match? path = some captures) :
    captures.map Prod.fst = template.names :=
  names_of_matchSegments matched

theorem names_compile (declared : String) :
    (compile declared).names = (cleanSegments declared.toList).filterMap nameOf? := by
  unfold names
  rw [parts_compile, List.filterMap_map]
  rfl

theorem mem_names_compile {declared name : String} :
    name ∈ (compile declared).names ↔ segmentOf name ∈ cleanSegments declared.toList := by
  rw [names_compile, List.mem_filterMap]
  constructor
  · rintro ⟨segment, member, named⟩
    rw [← nameOf?_eq_some_iff.mp named]
    exact member
  · intro member
    exact ⟨_, member, nameOf?_eq_some_iff.mpr rfl⟩

/-! ### Names and the cut of a query -/

theorem sublist_follow (place : List Segment) (piece : Segment) :
    (follow place piece).Sublist (piece :: place) := by
  unfold follow
  split
  · exact List.sublist_cons_self piece place
  · split
    · exact (List.drop_sublist 1 place).trans (List.sublist_cons_self piece place)
    · exact List.Sublist.refl _

theorem isSome_nameOf?_append {piece : Segment} (named : (nameOf? piece).isSome = true)
    (behind : List Char) : (nameOf? (piece ++ behind)).isSome = true := by
  obtain ⟨name, found⟩ := Option.isSome_iff_exists.mp named
  have longer : nameOf? (piece ++ behind) = some (String.ofList (name.toList ++ behind)) := by
    rw [nameOf?_eq_some_iff, nameOf?_eq_some_iff.mp found, segmentOf, segmentOf,
      String.toList_ofList, List.cons_append]
  rw [longer]
  rfl

theorem countP_cut_le {segments before : List Segment} {piece : Segment}
    (cut : Cut segments before piece) :
    (before ++ [piece]).countP (fun segment => (nameOf? segment).isSome)
      ≤ segments.countP fun segment => (nameOf? segment).isSome := by
  cases cut with
  | root => exact Nat.le_of_eq rfl
  | none => exact Nat.le_refl _
  | query before piece behind after =>
    rw [List.countP_append, List.countP_append, List.countP_singleton, List.countP_cons]
    by_cases named : (nameOf? piece).isSome = true
    · rw [if_pos named, if_pos (isSome_nameOf?_append named _)]
      omega
    · rw [if_neg named]
      omega

/-- The cut of a query adds no name. -/
theorem length_names_whole_le (declared : String) :
    (compile (decompose declared).whole).names.length ≤ (compile declared).names.length := by
  obtain ⟨before, piece, cut, written⟩ := exists_cut declared
  obtain ⟨proper, slashless⟩ := cut.proper fun _ => proper_of_mem_cleanSegments
  have kept : (follow before.reverse piece).reverse.Sublist (before ++ [piece]) := by
    have followed := (sublist_follow before.reverse piece).reverse
    rw [List.reverse_cons, List.reverse_reverse] at followed
    exact followed
  rw [names_compile, names_compile, written, cleanSegments_of_cut proper slashless,
    List.length_filterMap_eq_countP, List.length_filterMap_eq_countP]
  exact kept.countP_le.trans (countP_cut_le cut)

end Template

end Switchboard.Path
