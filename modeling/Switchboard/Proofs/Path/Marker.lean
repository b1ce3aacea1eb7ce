/-
**The marker in a prefix and the segments of its template.**

A declared prefix is split as a text, at the first slash with a colon behind it. Its template is
read segment by segment, after one more cleaning, and tells a parameter by the colon in front of it.
Both come to the same: in front of the marker all segments are fixed, and from there on the template
goes on with what is read behind the marker alone.

* `splitAtMarker_flatMap` — **the marker stands in front of the first segment** that declares a
  parameter;
* `cleanSegments_flatMap_append` — a last piece that climbs takes away only a segment of its own
  part, so **the two parts are cleaned apart**;
* `split_matches_template` — the split of every declaration, with the templates of its parts.
-/

import Switchboard.Proofs.Path.Climbing

namespace Switchboard.Path

/-! ### The text -/

section Text

/-- In front of the marker there is none. -/
theorem not_infix_splitAtMarker (path : List Char) :
    ¬ ['/', ':'] <:+: (splitAtMarker path).1 := by
  induction path using splitAtMarker.induct with
  | case1 => decide
  | case2 character =>
    intro marker
    exact absurd marker.length_le (by simp [splitAtMarker])
  | case3 first second rest marked =>
    rw [splitAtMarker, if_pos marked]
    intro marker
    exact absurd marker.length_le (by simp)
  | case4 first second rest unmarked before behind cut hypothesis =>
    have joined := append_splitAtMarker (second :: rest)
    rw [cut] at joined hypothesis
    rw [splitAtMarker, if_neg unmarked, cut]
    intro marker
    rcases List.infix_cons_iff.mp marker with ⟨others, same⟩ | later
    · -- a marker at the start would be one in the path, too
      cases same
      exact unmarked ⟨rfl, (List.cons.inj joined).1.symm⟩
    · exact hypothesis later

/-- The rest of a path begins with the marker, or there is none. -/
theorem splitAtMarker_snd (path : List Char) :
    (splitAtMarker path).2 = [] ∨ ['/', ':'] <+: (splitAtMarker path).2 := by
  induction path using splitAtMarker.induct with
  | case1 => exact .inl rfl
  | case2 character => exact .inl rfl
  | case3 first second rest marked =>
    rw [splitAtMarker, if_pos marked, marked.1, marked.2]
    exact .inr ⟨rest, rfl⟩
  | case4 first second rest unmarked before behind cut hypothesis =>
    rw [cut] at hypothesis
    rw [splitAtMarker, if_neg unmarked, cut]
    exact hypothesis

/-- A character that begins no marker stands in front of what is split behind it. -/
theorem splitAtMarker_cons {character : Char} {path : List Char}
    (unmarked : ¬(character = '/' ∧ path.head? = some ':')) :
    splitAtMarker (character :: path)
      = (character :: (splitAtMarker path).1, (splitAtMarker path).2) := by
  cases path with
  | nil => rfl
  | cons second rest =>
    rw [List.head?_cons, Option.some_inj] at unmarked
    rw [splitAtMarker, if_neg unmarked]

theorem splitAtMarker_append {segment : Segment} (slashless : '/' ∉ segment) (path : List Char) :
    splitAtMarker (segment ++ path)
      = (segment ++ (splitAtMarker path).1, (splitAtMarker path).2) := by
  induction segment with
  | nil => rfl
  | cons head tail hypothesis =>
    obtain ⟨other, rest⟩ := not_or.mp (mt List.mem_cons.mpr slashless)
    rw [List.cons_append, splitAtMarker_cons fun marked => other marked.1.symm, hypothesis rest]
    rfl

end Text

/-! ### The segments -/

/-- The segment declares no parameter. -/
def isFixed (segment : Segment) : Bool :=
  (Part.ofSegment segment).isFixed

theorem isFixed_eq_true_iff {segment : Segment} :
    isFixed segment = true ↔ segment.head? ≠ some ':' := by
  unfold isFixed Part.ofSegment
  split
  · exact iff_of_false Bool.false_ne_true (not_not_intro rfl)
  · rename_i unnamed
    refine iff_of_true rfl fun named => ?_
    obtain ⟨name, rfl⟩ := List.head?_eq_some_iff.mp named
    exact unnamed name rfl

/-- **The marker stands in front of the first segment** that declares a parameter. -/
theorem splitAtMarker_flatMap {segments : List Segment}
    (slashless : ∀ segment ∈ segments, '/' ∉ segment) :
    splitAtMarker (segments.flatMap ('/' :: ·))
      = ((segments.takeWhile isFixed).flatMap ('/' :: ·),
        (segments.dropWhile isFixed).flatMap ('/' :: ·)) := by
  induction segments with
  | nil => rfl
  | cons segment rest hypothesis =>
    obtain ⟨own, others⟩ := List.forall_mem_cons.mp slashless
    by_cases fixed : isFixed segment = true
    · have unmarked : ¬('/' = '/' ∧ (segment ++ rest.flatMap ('/' :: ·)).head? = some ':') := by
        rintro ⟨-, colon⟩
        cases segment with
        | nil =>
          cases rest with
          | nil => cases colon
          | cons next rest => cases Option.some.inj colon
        | cons head tail => exact isFixed_eq_true_iff.mp fixed colon
      rw [List.takeWhile_cons_of_pos fixed, List.dropWhile_cons_of_pos fixed, List.flatMap_cons,
        List.cons_append, splitAtMarker_cons unmarked, splitAtMarker_append own,
        hypothesis others]
      rfl
    · rw [List.takeWhile_cons_of_neg fixed, List.dropWhile_cons_of_neg fixed]
      rw [isFixed_eq_true_iff, not_not] at fixed
      obtain ⟨name, rfl⟩ := List.head?_eq_some_iff.mp fixed
      rfl

/-- Segments that are left of fixed ones are fixed. -/
theorem isFixed_of_mem_cleanSegments {segments : List Segment}
    (slashless : ∀ segment ∈ segments, '/' ∉ segment)
    (fixed : ∀ segment ∈ segments, isFixed segment = true) :
    ∀ segment ∈ cleanSegments (segments.flatMap ('/' :: ·)), isFixed segment = true := by
  intro segment member
  have piece := mem_of_mem_resolve member
  rw [pieces_of_slashless slashless] at piece
  rcases List.mem_cons.mp piece with rfl | inside
  · rfl
  · exact fixed segment inside

/-- **Two texts are cleaned apart** if the last piece of the second does not climb, or climbs out of
a segment in front of it there. -/
theorem cleanSegments_flatMap_append {front back : List Segment} {piece : Segment}
    (proper : ∀ segment ∈ front ++ back, Proper segment) (slashless : '/' ∉ piece)
    (inward : back ≠ [] ∨ piece ≠ parent) :
    cleanSegments ((front ++ (back ++ [piece])).flatMap ('/' :: ·))
      = cleanSegments (front.flatMap ('/' :: ·))
        ++ cleanSegments ((back ++ [piece]).flatMap ('/' :: ·)) := by
  obtain ⟨properFront, properBack⟩ := List.forall_mem_append.mp proper
  have room : [piece].count parent ≤ back.reverse.length + [piece].countP isOrdinary := by
    rcases inward with filled | other
    · have some_back := List.length_pos_iff.mpr filled
      have once : [piece].count parent ≤ 1 := List.count_le_length
      rw [List.length_reverse]
      omega
    · rw [List.count_eq_zero.mpr fun same => other (List.mem_singleton.mp same).symm]
      exact Nat.zero_le _
  obtain ⟨reached, -, leads⟩ := follow_inward room
  have alone := leads []
  rw [List.append_nil, List.append_nil] at alone
  have first : cleanSegments (front.flatMap ('/' :: ·)) = front :=
    cleanSegments_append [] properFront
  rw [← List.append_assoc, cleanSegments_of_cut proper slashless, first,
    cleanSegments_of_cut properBack slashless, List.reverse_append, leads, alone,
    List.reverse_append, List.reverse_reverse]

/-! ### The prefix and its template -/

/-- The parts of a prefix are told by its text and by its template alike. -/
structure DeclaredPrefix.Split (parts : DeclaredPrefix) : Prop where
  joined : parts.fixedPart ++ parts.paramPart = parts.whole
  unmarked : ¬ ['/', ':'] <:+: parts.fixedPart.toList
  fixed : ∀ part ∈ (Template.compile parts.fixedPart).parts, part.isFixed = true
  marked : parts.paramPart = "" ∨ ['/', ':'] <+: parts.paramPart.toList
  unnamed : parts.paramPart = "" →
    ∀ part ∈ (Template.compile parts.whole).parts, part.isFixed = true
  appended : (Template.compile parts.whole).parts
    = (Template.compile parts.fixedPart).parts ++ (Template.compile parts.paramPart).parts

theorem toList_parts (declared : String) :
    (decompose declared).fixedPart.toList
        = (splitAtMarker (decompose declared).whole.toList).1
      ∧ (decompose declared).paramPart.toList
        = (splitAtMarker (decompose declared).whole.toList).2 := by
  unfold decompose
  rw [String.toList_ofList, String.toList_ofList, String.toList_ofList]
  exact ⟨rfl, rfl⟩

/-- The pieces of a prefix in front of the first that declares a parameter, and what is read of
them and behind them. -/
theorem exists_front (declared : String) :
    ∃ front : List Segment, (∀ segment ∈ front, '/' ∉ segment)
      ∧ (∀ segment ∈ front, isFixed segment = true)
      ∧ (decompose declared).fixedPart.toList = front.flatMap ('/' :: ·)
      ∧ cleanSegments (decompose declared).whole.toList
        = cleanSegments (decompose declared).fixedPart.toList
          ++ cleanSegments (decompose declared).paramPart.toList := by
  obtain ⟨before, piece, cut, written⟩ := exists_cut declared
  obtain ⟨proper, slashless⟩ := cut.proper fun _ => proper_of_mem_cleanSegments
  have free : ∀ segment ∈ before ++ [piece], '/' ∉ segment :=
    List.forall_mem_append.mpr ⟨fun segment member => (proper segment member).slashless,
      List.forall_mem_singleton.mpr slashless⟩
  obtain ⟨fixedPart, paramPart⟩ := toList_parts declared
  rw [written, splitAtMarker_flatMap free] at fixedPart paramPart
  refine ⟨(before ++ [piece]).takeWhile isFixed,
    fun segment member => free segment (List.takeWhile_subset _ member),
    fun segment member => List.mem_takeWhile_imp member, fixedPart, ?_⟩
  rw [written, fixedPart, paramPart]
  have joined := List.takeWhile_append_dropWhile (p := isFixed) (l := before ++ [piece])
  have marked := List.head?_dropWhile_not isFixed (before ++ [piece])
  generalize (before ++ [piece]).takeWhile isFixed = front at joined ⊢
  generalize (before ++ [piece]).dropWhile isFixed = behind at joined marked ⊢
  rcases List.eq_nil_or_concat behind with rfl | ⟨back, last, rfl⟩
  · rw [← joined, List.append_nil]
    exact (List.append_nil _).symm
  · rw [List.concat_eq_append] at joined marked ⊢
    rw [← List.append_assoc] at joined
    obtain ⟨rfl, same⟩ := List.append_inj' joined rfl
    cases same
    rw [List.append_assoc]
    refine cleanSegments_flatMap_append proper slashless ?_
    by_cases filled : back = []
    · -- the piece is the first that declares a parameter, so it does not climb
      refine .inr ?_
      rintro rfl
      rw [filled] at marked
      cases marked
    · exact .inl filled

/-- **The split of a prefix is that of its template.** The two parts of every declared prefix make
it up; the first holds no marker and only fixed segments, the second begins with a marker or is
empty, and it is empty only if the template of the prefix has no parameter. The segments of that
template are those of the first part and, behind them, those of the second. -/
theorem split_matches_template (declared : String) : (decompose declared).Split := by
  obtain ⟨fixedText, paramText⟩ := toList_parts declared
  obtain ⟨front, slashless, fixed, written, appended⟩ := exists_front declared
  have joined : (decompose declared).fixedPart ++ (decompose declared).paramPart
      = (decompose declared).whole := by
    rw [← String.toList_inj, String.toList_append, fixedText, paramText, append_splitAtMarker]
  have fixedParts : ∀ part ∈ (Template.compile (decompose declared).fixedPart).parts,
      part.isFixed = true := by
    rw [Template.parts_compile, written, List.forall_mem_map]
    exact isFixed_of_mem_cleanSegments slashless fixed
  refine ⟨joined, ?_, fixedParts, ?_, fun none => ?_, ?_⟩
  · rw [fixedText]
    exact not_infix_splitAtMarker _
  · rw [← String.toList_eq_nil_iff, paramText]
    exact splitAtMarker_snd _
  · rw [none, String.append_empty] at joined
    rw [← joined]
    exact fixedParts
  · rw [Template.parts_compile, Template.parts_compile, Template.parts_compile, appended,
      List.map_append]

example :
    decompose "/a:b/:c/..?d" = { whole := "/a:b/:c/..", fixedPart := "/a:b", paramPart := "/:c/.." }
      ∧ (Template.compile "/a:b/:c/..").parts = [.fixed "a:b"]
      ∧ (Template.compile "/:c/..").parts = [] := by
  decide

end Switchboard.Path
