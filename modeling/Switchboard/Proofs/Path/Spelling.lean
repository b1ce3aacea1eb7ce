/-
**Templates written as prefixes.**

A template keeps the segments of a cleaned prefix, those that declare a parameter without the colon
in front. The colon can be put back, and no fixed text begins with one, so nothing of the cleaned
prefix is lost, whatever colons stand in it.

* `Part.segment_ofSegment` — a part is written as the segment that it was made from;
* `Template.spelling_compile` — **a template is written as the cleaned prefix** that it was compiled
  from;
* `Template.fixedCount_compile`, `Template.length_names_compile` — its fixed segments and its names
  are counted by the colons in front of segments;
* `Template.compile_tells_clean` — so templates are equal where the cleaned prefixes are, and their
  fixed segments and names together are as many as the segments of the cleaned prefix.
-/

import Switchboard.Proofs.Path.Marker
import Switchboard.Proofs.Path.Names

namespace Switchboard.Path

/-- A part of a template as a segment of a prefix. -/
def Part.segment : Part → Segment
  | .fixed text => text.toList
  | .param name => segmentOf name

/-- **A part is written as the segment** that it was made from. -/
theorem Part.segment_ofSegment (segment : Segment) : (ofSegment segment).segment = segment := by
  unfold ofSegment
  split
  · rename_i name
    show ':' :: (String.ofList name).toList = ':' :: name
    rw [String.toList_ofList]
  · exact String.toList_ofList

/-- The segment begins with the colon of a parameter. -/
def isMarked (segment : Segment) : Bool :=
  segment.head? == some ':'

theorem isFixed_eq_not_isMarked (segment : Segment) : isFixed segment = !isMarked segment := by
  rw [Bool.eq_iff_iff, isFixed_eq_true_iff, Bool.not_eq_true', isMarked, beq_eq_false_iff_ne]

theorem isSome_nameOf? (segment : Segment) : (nameOf? segment).isSome = isMarked segment := by
  rw [Bool.eq_iff_iff, Option.isSome_iff_exists, isMarked, beq_iff_eq, List.head?_eq_some_iff]
  constructor
  · rintro ⟨name, declared⟩
    exact ⟨name.toList, nameOf?_eq_some_iff.mp declared⟩
  · rintro ⟨name, rfl⟩
    exact ⟨String.ofList name, nameOf?_eq_some_iff.mpr (by rw [segmentOf, String.toList_ofList])⟩

namespace Template

/-- A template as the text of a prefix. -/
def spelling (template : Template) : String :=
  String.ofList (render (template.parts.map Part.segment))

/-- **A template is written as the cleaned prefix** that it was compiled from. -/
theorem spelling_compile (declared : String) : (compile declared).spelling = clean declared := by
  have written : Part.segment ∘ Part.ofSegment = id := funext Part.segment_ofSegment
  unfold spelling
  rw [parts_compile, List.map_map, written, List.map_id]
  rfl

/-- The fixed segments of a template are those of the cleaned prefix without a colon in front. -/
theorem fixedCount_compile (declared : String) :
    (compile declared).fixedCount
      = (words (clean declared)).countP fun segment => !isMarked segment := by
  have unmarked : Part.isFixed ∘ Part.ofSegment = fun segment => !isMarked segment :=
    funext isFixed_eq_not_isMarked
  unfold fixedCount
  rw [parts_compile, List.countP_map, unmarked, words_clean]

/-- The names of a template are as many as the segments of the cleaned prefix with a colon in
front. -/
theorem length_names_compile (declared : String) :
    (compile declared).names.length = (words (clean declared)).countP isMarked := by
  have marked : (fun segment => (nameOf? segment).isSome) = isMarked := funext isSome_nameOf?
  rw [names_compile, List.length_filterMap_eq_countP, marked, words_clean]

/-- **A template tells the cleaned prefix, and nothing else.** Templates are equal exactly if the
cleaned prefixes are, and each is written as the cleaned prefix. Its fixed segments are those of the
cleaned prefix without a colon in front, its names belong to those with one, and together they are
as many as the segments of the cleaned prefix. -/
theorem compile_tells_clean (first second : String) :
    (compile first = compile second ↔ clean first = clean second)
      ∧ (compile first).spelling = clean first
      ∧ (compile first).fixedCount
        = (words (clean first)).countP (fun segment => !isMarked segment)
      ∧ (compile first).names.length = (words (clean first)).countP isMarked
      ∧ (compile first).fixedCount + (compile first).names.length
        = (words (clean first)).length := by
  have fixed := fixedCount_compile first
  have named := length_names_compile first
  refine ⟨compile_eq_iff, spelling_compile first, fixed, named, ?_⟩
  have unmarked : (fun segment => decide ¬isMarked segment = true)
      = fun segment => !isMarked segment := by
    funext segment
    rw [decide_not, Bool.decide_eq_true]
  have total : (words (clean first)).length = (words (clean first)).countP isMarked
      + (words (clean first)).countP (fun segment => !isMarked segment) := by
    rw [← unmarked]
    exact List.length_eq_countP_add_countP isMarked
  rw [fixed, named, total, Nat.add_comm]

example : (compile "a/../::x/:/b:").parts = [.param ":x", .param "", .fixed "b:"] := by
  decide

end Template

end Switchboard.Path
