/-
**Cleaning reads back what it writes.**

A cleaned path is written from the segments that are left of a path. Cut at its slashes it gives
these segments again, so the segments, the cleaned path and the template compiled from it all tell
the same.

* `cleanSegments_append` — **segments behind a path** are left behind what is left of the path;
* `cleanSegments_append_slash_append` — any text behind a slash is read from there on;
* `cleanSegments_render` — the text of proper segments is read back as these segments;
* `clean_clean` — a cleaned path is clean;
* `Template.parts_compile`, `Template.compile_eq_iff` — **a template tells the cleaned path** that it
  was compiled from.
-/

import Switchboard.Path.Template
import Mathlib.Data.List.Basic

namespace Switchboard.Path

/-! ### Segments that are left -/

/-- A segment that cleaning leaves. -/
structure Proper (segment : Segment) : Prop where
  ordinary : isOrdinary segment = true
  slashless : '/' ∉ segment

theorem Proper.ne_nil {segment : Segment} (proper : Proper segment) : segment ≠ [] := by
  rintro rfl
  exact absurd proper.ordinary (by decide)

/-- A segment is left only if it was there. -/
theorem mem_of_mem_resolve {segments : List Segment} {segment : Segment}
    (member : segment ∈ resolve segments) : segment ∈ segments := by
  have kept (rest place : List Segment) (left : segment ∈ rest.foldl follow place) :
      segment ∈ rest ∨ segment ∈ place := by
    induction rest generalizing place with
    | nil => exact Or.inr left
    | cons head tail hypothesis =>
      rcases hypothesis (follow place head) left with later | here
      · exact Or.inl (List.mem_cons_of_mem _ later)
      · unfold follow at here
        split at here
        · exact Or.inr here
        · split at here
          · exact Or.inr (List.mem_of_mem_drop here)
          · rcases List.mem_cons.mp here with rfl | before
            · exact Or.inl List.mem_cons_self
            · exact Or.inr before
  exact (kept segments [] (List.mem_reverse.mp member)).resolve_right List.not_mem_nil

theorem proper_of_mem_cleanSegments {path : List Char} {segment : Segment}
    (member : segment ∈ cleanSegments path) : Proper segment where
  ordinary := ordinary_of_mem_resolve _ segment member
  slashless := Text.not_mem_of_mem_split '/' path segment (mem_of_mem_resolve member)

/-- **Segments behind a path** are left behind what is left of the path. -/
theorem cleanSegments_append {segments : List Segment} (path : List Char)
    (proper : ∀ segment ∈ segments, Proper segment) :
    cleanSegments (path ++ segments.flatMap ('/' :: ·)) = cleanSegments path ++ segments := by
  have cut : pieces (path ++ segments.flatMap ('/' :: ·)) = pieces path ++ segments :=
    Text.split_append_flatMap path fun segment member => (proper segment member).slashless
  unfold cleanSegments resolve
  rw [cut, List.foldl_append,
    foldl_follow_of_ordinary fun segment member => (proper segment member).ordinary,
    List.reverse_append, List.reverse_reverse]

/-- What stands behind a slash is followed from where the path in front of it leads. -/
theorem cleanSegments_append_slash_append (path behind : List Char) :
    cleanSegments (path ++ '/' :: behind)
      = ((pieces behind).foldl follow (cleanSegments path).reverse).reverse := by
  have cut : pieces (path ++ '/' :: behind) = pieces path ++ pieces behind :=
    Text.split_append '/' path behind
  unfold cleanSegments resolve
  rw [cut, List.foldl_append, List.reverse_reverse]

/-- A slash at the end of a path adds nothing. -/
theorem cleanSegments_append_slash (path : List Char) :
    cleanSegments (path ++ ['/']) = cleanSegments path := by
  rw [cleanSegments_append_slash_append]
  exact List.reverse_reverse (cleanSegments path)

theorem render_of_ne_nil {segments : List Segment} (some_segment : segments ≠ []) :
    render segments = segments.flatMap ('/' :: ·) := by
  unfold render
  rw [if_neg (mt List.isEmpty_iff.mp some_segment)]

/-- **Proper segments are read back** from their text. -/
theorem cleanSegments_render {segments : List Segment}
    (proper : ∀ segment ∈ segments, Proper segment) :
    cleanSegments (render segments) = segments := by
  by_cases empty : segments = []
  · rw [empty]
    decide
  · have read := cleanSegments_append [] proper
    rw [List.nil_append] at read
    rw [render_of_ne_nil empty, read]
    rfl

theorem toList_clean (path : String) :
    (clean path).toList = render (cleanSegments path.toList) :=
  String.toList_ofList

theorem cleanSegments_clean (path : String) :
    cleanSegments (clean path).toList = cleanSegments path.toList := by
  rw [toList_clean]
  exact cleanSegments_render fun _ => proper_of_mem_cleanSegments

/-- **A cleaned path is clean.** -/
theorem clean_clean (path : String) : clean (clean path) = clean path := by
  show String.ofList (render (cleanSegments (clean path).toList)) = _
  rw [cleanSegments_clean]
  rfl

theorem clean_eq_iff {first second : String} :
    clean first = clean second ↔ cleanSegments first.toList = cleanSegments second.toList := by
  constructor
  · intro same
    rw [← cleanSegments_clean first, same, cleanSegments_clean]
  · intro same
    unfold clean
    rw [same]

/-! ### Templates -/

/-- **Segments are the words of their text**, if none is empty and none holds a slash. -/
theorem words_render {segments : List Segment} (named : ∀ segment ∈ segments, segment ≠ [])
    (slashless : ∀ segment ∈ segments, '/' ∉ segment) :
    words (String.ofList (render segments)) = segments := by
  unfold words
  rw [String.toList_ofList]
  by_cases empty : segments = []
  · rw [empty]
    decide
  · have cut : pieces (segments.flatMap ('/' :: ·)) = [] :: segments :=
      Text.split_append_flatMap [] slashless
    have kept : ∀ segment ∈ segments, (!segment.isEmpty) = true := by
      intro segment member
      rw [Bool.not_eq_true', Bool.eq_false_iff]
      exact mt List.isEmpty_iff.mp (named segment member)
    rw [render_of_ne_nil empty, cut, List.filter_cons_of_neg (by decide),
      List.filter_eq_self.mpr kept]

/-- A cleaned path has no words but the segments that are left. -/
theorem words_clean (path : String) : words (clean path) = cleanSegments path.toList :=
  words_render (fun _ member => (proper_of_mem_cleanSegments member).ne_nil)
    fun _ member => (proper_of_mem_cleanSegments member).slashless

/-- A segment is told by the part of a template that it makes. -/
theorem Part.ofSegment_injective : Function.Injective Part.ofSegment := by
  intro first second same
  unfold Part.ofSegment at same
  split at same
  · split at same
    · rw [String.ofList_inj.mp (Part.param.inj same)]
    · cases same
  · split at same
    · cases same
    · exact String.ofList_inj.mp (Part.fixed.inj same)

namespace Template

theorem ext_parts {first second : Template} (same : first.parts = second.parts) :
    first = second := by
  cases first
  cases second
  rw [Template.mk.injEq]
  exact same

/-- **The parts of a template** are the segments that are left of the declared prefix. -/
theorem parts_compile (declared : String) :
    (compile declared).parts = (cleanSegments declared.toList).map Part.ofSegment := by
  unfold compile
  rw [words_clean]

/-- **A template tells the cleaned prefix** that it was compiled from. -/
theorem compile_eq_iff {first second : String} :
    compile first = compile second ↔ clean first = clean second := by
  have told : (compile first).parts = (compile second).parts
      ↔ cleanSegments first.toList = cleanSegments second.toList := by
    rw [parts_compile, parts_compile]
    exact (List.map_injective_iff.mpr Part.ofSegment_injective).eq_iff
  rw [clean_eq_iff, ← told]
  exact ⟨congrArg parts, ext_parts⟩

end Template

end Switchboard.Path
