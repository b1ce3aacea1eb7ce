/-
**A query that climbs.**

A declaration is cleaned together with its query, and loses the query afterwards. The slashes of the
query cut it into segments like any other text, and a `..` among them leads one place up. As long as
the query stays below the segment in which it begins, that segment is still there when the query is
cut off, and the prefix is what stands in front of the query. A query that climbs out takes that
segment away with it, and what stands behind it comes to stand in the prefix.

* `follow_inward`, `foldl_follow_inward` — one segment, and segments one after another, that keep to
  some places **leave those further out** as they are;
* `Climbs`, `Climbs.exists_leavesAfter` — segments that do not, and the first `..` that leads out;
* `whole_of_inward` — **a query that does not climb** leaves the last piece in front of it as it is;
* `decompose_of_leavesAfter` — **a query that climbs** takes the segment away in which it begins;
* `prefix_without_query` — **the prefix is what is declared in front of the query, cleaned**, if the
  query does not climb, and then exactly if that ends where a cleaned path ends;
* `query_spoils_prefix` — otherwise it is not.
-/

import Switchboard.Proofs.Path.Query
import Mathlib.Data.List.Infix

namespace Switchboard.Path

/-! ### Segments that climb -/

/-- The segment that leads one place up. -/
abbrev parent : Segment := ['.', '.']

/-- Some start of the segments leads out of the place where they begin. -/
def Climbs (segments : List Segment) : Prop :=
  ∃ start, start <+: segments ∧ start.countP isOrdinary < start.count parent

instance (segments : List Segment) : Decidable (Climbs segments) :=
  decidable_of_iff (∃ start ∈ segments.inits, start.countP isOrdinary < start.count parent) <| by
    simp only [List.mem_inits, Climbs]

theorem skipped_or_parent_or_ordinary (segment : Segment) :
    (segment = [] ∨ segment = ['.']) ∨ segment = parent ∨ isOrdinary segment = true := by
  by_cases skipped : segment = [] ∨ segment = ['.']
  · exact Or.inl skipped
  · by_cases climbs : segment = parent
    · exact Or.inr (Or.inl climbs)
    · obtain ⟨named, moves⟩ := not_or.mp skipped
      refine Or.inr (Or.inr ?_)
      simp only [isOrdinary, Bool.and_eq_true, bne_iff_ne, ne_eq]
      exact ⟨⟨named, moves⟩, climbs⟩

theorem counts_cons (head : Segment) (tail : List Segment) :
    (head :: tail).count parent = [head].count parent + tail.count parent
      ∧ (head :: tail).countP isOrdinary = [head].countP isOrdinary + tail.countP isOrdinary :=
  ⟨(List.count_append : ([head] ++ tail).count parent = _),
    (List.countP_append : ([head] ++ tail).countP isOrdinary = _)⟩

/-- **One segment** that does not lead out of the places `inner` leaves those further out as they
are. -/
theorem follow_inward {segment : Segment} {inner : List Segment}
    (kept : [segment].count parent ≤ inner.length + [segment].countP isOrdinary) :
    ∃ reached : List Segment,
      reached.length + [segment].count parent = inner.length + [segment].countP isOrdinary
        ∧ ∀ outer, follow (inner ++ outer) segment = reached ++ outer := by
  rcases skipped_or_parent_or_ordinary segment with skipped | rfl | ordinary
  · refine ⟨inner, ?_, fun outer => if_pos skipped⟩
    rcases skipped with rfl | rfl <;> rfl
  · have room : 1 ≤ inner.length := kept
    obtain ⟨place, places, rfl⟩ := List.exists_cons_of_length_pos room
    exact ⟨places, rfl, fun _ => rfl⟩
  · have ordinaries : [segment].countP isOrdinary = 1 := by
      rw [List.countP_singleton, if_pos ordinary]
    have parents : [segment].count parent = 0 := by
      rw [List.count_eq_zero, List.mem_singleton]
      rintro rfl
      exact absurd ordinary (by decide)
    refine ⟨segment :: inner, ?_, fun outer => ?_⟩
    · rw [ordinaries, parents]
      rfl
    · exact foldl_follow_of_ordinary (List.forall_mem_singleton.mpr ordinary) (inner ++ outer)

/-- **Segments no start of which leads out** of the places `inner` leave those further out as they
are. -/
theorem foldl_follow_inward {segments inner : List Segment}
    (kept : ∀ start, start <+: segments →
      start.count parent ≤ inner.length + start.countP isOrdinary) :
    ∃ reached : List Segment,
      reached.length + segments.count parent = inner.length + segments.countP isOrdinary
        ∧ ∀ outer, segments.foldl follow (inner ++ outer) = reached ++ outer := by
  induction segments generalizing inner with
  | nil => exact ⟨inner, rfl, fun _ => rfl⟩
  | cons head tail hypothesis =>
    obtain ⟨places, counts, leads⟩ := follow_inward (kept [head] ⟨tail, rfl⟩)
    have keptLater : ∀ start, start <+: tail →
        start.count parent ≤ places.length + start.countP isOrdinary := by
      intro start front
      have bound := kept (head :: start) ((List.prefix_cons_inj head).mpr front)
      rw [(counts_cons head start).1, (counts_cons head start).2] at bound
      omega
    obtain ⟨reached, countsLater, led⟩ := hypothesis keptLater
    refine ⟨reached, ?_, fun outer => ?_⟩
    · rw [(counts_cons head tail).1, (counts_cons head tail).2]
      omega
    · rw [List.foldl_cons, leads, led]

/-- Segments that do not climb stay below the place where they begin. -/
theorem foldl_follow_of_not_climbs {segments : List Segment} (inward : ¬ Climbs segments) :
    ∃ reached : List Segment,
      reached.length + segments.count parent = segments.countP isOrdinary
        ∧ ∀ outer, segments.foldl follow outer = reached ++ outer := by
  have kept : ∀ start, start <+: segments →
      start.count parent ≤ ([] : List Segment).length + start.countP isOrdinary := by
    intro start front
    have bound := Nat.le_of_not_lt fun climbs => inward ⟨start, front, climbs⟩
    rwa [List.length_nil, Nat.zero_add]
  obtain ⟨reached, length, led⟩ := foldl_follow_inward kept
  refine ⟨reached, ?_, led⟩
  rwa [List.length_nil, Nat.zero_add] at length

/-- The segments up to the `..` that climbs, and those behind it: those in front of it lead back to
where they begin. -/
structure LeavesAfter (segments within after : List Segment) : Prop where
  cut : segments = within ++ parent :: after
  inward : ¬ Climbs within
  back : within.count parent = within.countP isOrdinary

theorem LeavesAfter.foldl_follow {segments within after : List Segment}
    (leaves : LeavesAfter segments within after) (segment : Segment) (outer : List Segment) :
    segments.foldl follow (segment :: outer) = after.foldl follow outer := by
  obtain ⟨reached, length, led⟩ := foldl_follow_of_not_climbs leaves.inward
  have none : reached = [] := List.eq_nil_of_length_eq_zero (by have := leaves.back; omega)
  rw [leaves.cut, List.foldl_append, led, none]
  rfl

/-- **Segments that climb do so at a first `..`.** -/
theorem Climbs.exists_leavesAfter {segments : List Segment} (climbs : Climbs segments) :
    ∃ within after, LeavesAfter segments within after := by
  induction segments using List.reverseRecOn with
  | nil =>
    obtain ⟨start, front, more⟩ := climbs
    rw [List.prefix_nil.mp front] at more
    exact absurd more (by decide)
  | append_singleton segments last hypothesis =>
    by_cases before : Climbs segments
    · obtain ⟨within, after, leaves⟩ := hypothesis before
      refine ⟨within, after ++ [last], ?_, leaves.inward, leaves.back⟩
      rw [leaves.cut, List.append_assoc, List.cons_append]
    · obtain ⟨start, front, more⟩ := climbs
      have all : start = segments ++ [last] := by
        refine (List.prefix_concat_iff.mp front).resolve_right fun shorter => ?_
        exact before ⟨start, shorter, more⟩
      have bound := Nat.le_of_not_lt fun climbs => before ⟨segments, List.prefix_refl _, climbs⟩
      rw [all, List.countP_append, List.count_append] at more
      have parentLast : last = parent := by
        by_contra other
        have none : [last].count parent = 0 :=
          List.count_eq_zero.mpr fun member => other (List.mem_singleton.mp member).symm
        omega
      subst parentLast
      have one : [parent].count parent = 1 ∧ [parent].countP isOrdinary = 0 := by decide
      exact ⟨segments, [], rfl, before, by omega⟩

theorem LeavesAfter.climbs {segments within after : List Segment}
    (leaves : LeavesAfter segments within after) : Climbs segments := by
  refine ⟨within ++ [parent], ⟨after, ?_⟩, ?_⟩
  · rw [leaves.cut, List.append_assoc, List.singleton_append]
  · rw [List.countP_append, List.count_append, leaves.back]
    exact Nat.lt_succ_self _

/-! ### The query of a declaration -/

/-- The segments of a query behind the one in which it begins. -/
def beyond (path : List Char) : List Segment :=
  (pieces (path.dropWhile (· != '?'))).tail

/-- The pieces of a path in front of its query, the last of them apart. -/
theorem exists_pieces_front (path : List Char) :
    ∃ before piece, pieces (dropQuery path) = before ++ [piece] := by
  obtain ⟨before, piece, parts⟩ :=
    (List.eq_nil_or_concat (pieces (dropQuery path))).resolve_left (Text.split_ne_nil '/' _)
  exact ⟨before, piece, parts.trans (List.concat_eq_append ..)⟩

theorem exists_query {path : List Char} (queried : '?' ∈ path) :
    ∃ query, path.dropWhile (· != '?') = '?' :: query := by
  induction path with
  | nil => cases queried
  | cons head tail hypothesis =>
    by_cases here : head = '?'
    · rw [here]
      exact ⟨tail, rfl⟩
    · obtain ⟨query, rest⟩ := hypothesis ((List.mem_cons.mp queried).resolve_left (Ne.symm here))
      have passed : (head != '?') = true := bne_iff_ne.mpr here
      exact ⟨query, by rw [List.dropWhile_cons, if_pos passed, rest]⟩

/-- **A query joins the segment** in which it begins to the last piece in front of it. -/
theorem exists_pieces_queried {path : List Char} (queried : '?' ∈ path) {before : List Segment}
    {piece : Segment} (parts : pieces (dropQuery path) = before ++ [piece]) :
    ∃ behind, pieces path = before ++ (piece ++ '?' :: behind) :: beyond path := by
  obtain ⟨query, rest⟩ := exists_query queried
  have whole : dropQuery path ++ '?' :: query = path := by
    rw [← rest]
    exact List.takeWhile_append_dropWhile
  obtain ⟨first, others, cut⟩ := List.exists_cons_of_ne_nil (Text.split_ne_nil '/' query)
  have begins : Text.split '/' ('?' :: query) = ('?' :: first) :: others := by
    rw [Text.split, if_neg (by decide), cut]
  refine ⟨first, ?_⟩
  unfold beyond
  rw [rest, pieces, pieces, begins]
  conv_lhs => rw [← whole]
  exact Text.split_append_of_pieces parts begins

/-- The segment in which a query begins names something. -/
theorem follow_queried (place : List Segment) (piece behind : Segment) :
    follow place (piece ++ '?' :: behind) = (piece ++ '?' :: behind) :: place := by
  have other (segment : Segment) (free : '?' ∉ segment) : piece ++ '?' :: behind ≠ segment := by
    rintro rfl
    exact free (by simp)
  have ordinary : isOrdinary (piece ++ '?' :: behind) = true := by
    simp only [isOrdinary, Bool.and_eq_true, bne_iff_ne, ne_eq]
    exact ⟨⟨other [] (by decide), other ['.'] (by decide)⟩, other parent (by decide)⟩
  exact foldl_follow_of_ordinary (List.forall_mem_singleton.mpr ordinary) place

theorem decompose_eq_iff {first second : String} :
    decompose first = decompose second ↔ (decompose first).whole = (decompose second).whole := by
  constructor
  · exact congrArg DeclaredPrefix.whole
  · intro same
    have texts := congrArg String.toList same
    rw [toList_whole, toList_whole] at texts
    unfold decompose
    rw [texts]

/-- The prefix depends on the cleaned path only. -/
theorem decompose_of_clean {first second : String} (same : clean first = clean second) :
    decompose first = decompose second := by
  unfold decompose
  rw [same]

theorem not_mem_of_mem_front {path : List Char} {before : List Segment} {piece segment : Segment}
    (parts : pieces (dropQuery path) = before ++ [piece]) (member : segment ∈ before ++ [piece]) :
    '?' ∉ segment ∧ '/' ∉ segment := by
  rw [← parts] at member
  exact ⟨fun inside => not_mem_dropQuery path (mem_of_mem_pieces member inside),
    Text.not_mem_of_mem_split '/' _ segment member⟩

/-! ### What the query leaves -/

/-- What is declared in front of the query. -/
def front (declared : String) : String :=
  String.ofList (dropQuery declared.toList)

theorem toList_front (declared : String) : (front declared).toList = dropQuery declared.toList :=
  String.toList_ofList

section

variable {declared : String} {before : List Segment} {piece : Segment}

theorem cleanSegments_front (parts : pieces (dropQuery declared.toList) = before ++ [piece]) :
    cleanSegments (front declared).toList = (follow (resolve before).reverse piece).reverse := by
  unfold cleanSegments resolve
  rw [toList_front, parts, List.foldl_append, List.reverse_reverse]
  rfl

/-- **A query that does not climb** leaves the last piece in front of it as it is, behind what the
pieces before it lead to. -/
theorem whole_of_inward (queried : '?' ∈ declared.toList)
    (inward : ¬ Climbs (beyond declared.toList))
    (parts : pieces (dropQuery declared.toList) = before ++ [piece]) :
    (decompose declared).whole.toList = (resolve before ++ [piece]).flatMap ('/' :: ·) := by
  obtain ⟨behind, cut⟩ := exists_pieces_queried queried parts
  obtain ⟨reached, -, led⟩ := foldl_follow_of_not_climbs inward
  have left : cleanSegments declared.toList
      = resolve before ++ (piece ++ '?' :: behind) :: reached.reverse := by
    unfold cleanSegments resolve
    rw [cut, List.foldl_append, List.foldl_cons, led, follow_queried, List.reverse_append,
      List.reverse_cons, List.append_assoc, List.singleton_append]
  have free : ∀ segment ∈ resolve before, '?' ∉ segment := fun segment member =>
    (not_mem_of_mem_front parts (List.mem_append_left _ (mem_of_mem_resolve member))).1
  have freePiece : '?' ∉ piece := (not_mem_of_mem_front parts (by simp)).1
  rw [toList_whole, toList_clean, left, dropQuery_render free freePiece]

theorem proper_resolve_front (parts : pieces (dropQuery declared.toList) = before ++ [piece]) :
    ∀ segment ∈ resolve before, Proper segment := fun segment member =>
  { ordinary := ordinary_of_mem_resolve before segment member
    slashless :=
      (not_mem_of_mem_front parts (List.mem_append_left _ (mem_of_mem_resolve member))).2 }

end

/-- **Cleaned once more**, a prefix is what is declared in front of its query, cleaned, unless the
query climbs. -/
theorem clean_whole_of_inward {declared : String} (inward : ¬ Climbs (beyond declared.toList)) :
    clean (decompose declared).whole = clean (front declared) := by
  by_cases queried : '?' ∈ declared.toList
  · obtain ⟨before, piece, parts⟩ := exists_pieces_front declared.toList
    have slashless : '/' ∉ piece := (not_mem_of_mem_front parts (by simp)).2
    rw [clean_eq_iff, whole_of_inward queried inward parts,
      cleanSegments_of_cut (proper_resolve_front parts) slashless, cleanSegments_front parts]
  · rw [whole_of_unqueried (not_mem_clean queried), clean_clean, front,
      dropQuery_of_unqueried queried, String.ofList_toList]

theorem beyond_of_unqueried {path : List Char} (unqueried : '?' ∉ path) : beyond path = [] := by
  have none : path.dropWhile (· != '?') = [] := by
    rw [List.dropWhile_eq_nil_iff]
    intro character member
    rw [bne_iff_ne]
    rintro rfl
    exact unqueried member
  unfold beyond
  rw [none]
  rfl

/-- **A query that climbs** takes the segment away in which it begins, and what it has behind the
`..` that climbs comes to stand in the prefix. -/
theorem decompose_of_leavesAfter {declared : String} {before within after : List Segment}
    {piece : Segment} (parts : pieces (dropQuery declared.toList) = before ++ [piece])
    (leaves : LeavesAfter (beyond declared.toList) within after) :
    decompose declared = decompose (String.ofList (['/'].intercalate (before ++ after))) := by
  have queried : '?' ∈ declared.toList := by
    by_contra unqueried
    have cut := leaves.cut
    rw [beyond_of_unqueried unqueried] at cut
    exact List.append_ne_nil_of_right_ne_nil _ (List.cons_ne_nil _ _) cut.symm
  obtain ⟨behind, cut⟩ := exists_pieces_queried queried parts
  have slashless : ∀ segment ∈ before ++ after, '/' ∉ segment := by
    intro segment member
    refine Text.not_mem_of_mem_split '/' declared.toList segment ?_
    rw [← pieces, cut, leaves.cut]
    rcases List.mem_append.mp member with early | late
    · exact List.mem_append_left _ early
    · simp [late]
  have left : cleanSegments declared.toList = resolve (before ++ after) := by
    unfold cleanSegments resolve
    rw [cut, List.foldl_append, List.foldl_cons, follow_queried, leaves.foldl_follow,
      List.foldl_append]
  have joined : cleanSegments (['/'].intercalate (before ++ after)) = resolve (before ++ after) := by
    cases some_segment : before ++ after with
    | nil => rfl
    | cons first others =>
      rw [some_segment] at slashless
      unfold cleanSegments pieces
      rw [Text.split_intercalate slashless]
  apply decompose_of_clean
  rw [clean_eq_iff, String.toList_ofList, left, joined]

/-! ### When a prefix is clean -/

/-- What stands in front of a query ends where a cleaned path ends: in a segment that names
something or, without any, in the slash of the root. -/
def Ends (path : List Char) : Prop :=
  ∃ piece, (pieces path).getLast? = some piece
    ∧ (isOrdinary piece = true ∨ piece = [] ∧ cleanSegments path = [])

/-- The prefix of a declaration is what is declared in front of its query, cleaned, and stays as it
is when it is cleaned or declared again. -/
structure Normalized (declared : String) : Prop where
  whole : (decompose declared).whole = clean (front declared)
  query : decompose declared = decompose (front declared)
  clean : clean (decompose declared).whole = (decompose declared).whole
  segments : (decompose declared).whole = "/"
    ∨ ∀ segment ∈ (pieces (decompose declared).whole.toList).tail, Proper segment
  again : decompose (decompose declared).whole = decompose declared

theorem settled_of_inward_iff {declared : String} (queried : '?' ∈ declared.toList)
    (inward : ¬ Climbs (beyond declared.toList)) :
    Settled (decompose declared).whole ↔ Ends (dropQuery declared.toList) := by
  obtain ⟨before, piece, parts⟩ := exists_pieces_front declared.toList
  have written := whole_of_inward queried inward parts
  have last : (pieces (dropQuery declared.toList)).getLast? = some piece := by
    rw [parts, List.getLast?_concat]
  have read : pieces (decompose declared).whole.toList = [] :: (resolve before ++ [piece]) := by
    rw [written]
    refine pieces_of_slashless fun segment member => ?_
    rcases List.mem_append.mp member with early | late
    · exact (proper_resolve_front parts segment early).slashless
    · rw [List.mem_singleton.mp late]
      exact (not_mem_of_mem_front parts (by simp)).2
  have lastToo : (pieces (decompose declared).whole.toList).getLast? = some piece := by
    rw [read, ← List.cons_append, List.getLast?_concat]
  have front := cleanSegments_front parts
  rw [toList_front] at front
  constructor
  · rintro (root | ⟨found, named, ordinary⟩)
    · rw [root] at read
      have none : resolve before ++ [piece] = [] ++ [[]] := (List.cons.inj read).2.symm
      obtain ⟨nowhere, alone⟩ := List.append_inj' none rfl
      cases alone
      refine ⟨[], last, Or.inr ⟨rfl, ?_⟩⟩
      rw [front, nowhere]
      rfl
    · rw [lastToo] at named
      exact ⟨found, last.trans named, Or.inl ordinary⟩
  · rintro ⟨found, named, ordinary | ⟨rfl, nothing⟩⟩
    · rw [last] at named
      exact Or.inr ⟨found, lastToo.trans named, ordinary⟩
    · rw [last] at named
      cases named
      rw [front] at nothing
      have nowhere : resolve before = [] := by simpa [follow] using nothing
      rw [nowhere] at written
      exact Or.inl (String.toList_inj.mp written)

/-- A prefix declared again is cleaned, and is the same exactly if it was clean. -/
theorem decompose_whole_iff (declared : String) :
    decompose (decompose declared).whole = decompose declared
      ↔ clean (decompose declared).whole = (decompose declared).whole := by
  rw [decompose_eq_iff, whole_of_unqueried (not_mem_clean (not_mem_whole declared))]

/-- A prefix is clean exactly if it is the root or all its segments are proper. -/
theorem clean_whole_iff_proper (declared : String) :
    clean (decompose declared).whole = (decompose declared).whole
      ↔ (decompose declared).whole = "/"
        ∨ ∀ segment ∈ (pieces (decompose declared).whole.toList).tail, Proper segment := by
  rw [← settled_whole_iff]
  obtain ⟨before, piece, cut, written⟩ := exists_cut declared
  obtain ⟨proper, slashless⟩ := cut.proper fun _ => proper_of_mem_cleanSegments
  have read : pieces (decompose declared).whole.toList = [] :: (before ++ [piece]) := by
    rw [written]
    exact pieces_of_slashless (List.forall_mem_append.mpr
      ⟨fun segment member => (proper segment member).slashless,
        List.forall_mem_singleton.mpr slashless⟩)
  unfold Settled
  rw [read, ← List.cons_append, List.getLast?_concat, List.cons_append, List.tail_cons]
  refine or_congr_right ⟨?_, fun all => ⟨piece, rfl, (all piece (by simp)).ordinary⟩⟩
  rintro ⟨last, same, ordinary⟩
  cases same
  exact List.forall_mem_append.mpr
    ⟨proper, List.forall_mem_singleton.mpr ⟨ordinary, slashless⟩⟩

theorem normalized_iff {declared : String} (inward : ¬ Climbs (beyond declared.toList)) :
    Normalized declared ↔ clean (decompose declared).whole = (decompose declared).whole := by
  refine ⟨Normalized.clean, fun same => ?_⟩
  have front := clean_whole_of_inward inward
  have whole : (decompose declared).whole = clean (Path.front declared) := by rw [← same, front]
  refine ⟨whole, ?_, same, (clean_whole_iff_proper declared).mp same,
    (decompose_whole_iff declared).mpr same⟩
  have unqueried : '?' ∉ (clean (Path.front declared)).toList := by
    rw [← whole]
    exact not_mem_whole declared
  rw [decompose_eq_iff, whole_of_unqueried unqueried, whole]

/-- **The prefix is what is declared in front of the query, cleaned**, and neither cleaning nor
declaring it again changes it, as long as the query does not climb out of the segment in which it
begins: without a query, and, exactly then with one, if what stands in front of the query ends where
a cleaned path ends. Otherwise its last piece is kept as it is and only a second cleaning takes it
away. A query that climbs takes its segment away, and the rest is declared without it. -/
theorem prefix_without_query (declared : String) :
    (¬ Climbs (beyond declared.toList) →
      (Normalized declared ↔ '?' ∉ declared.toList ∨ Ends (dropQuery declared.toList))
      ∧ clean (decompose declared).whole = clean (front declared)
      ∧ ('?' ∈ declared.toList → ∀ before piece,
          pieces (dropQuery declared.toList) = before ++ [piece] →
          (decompose declared).whole.toList = (resolve before ++ [piece]).flatMap ('/' :: ·)))
    ∧ (Climbs (beyond declared.toList) ↔
        ∃ within after, LeavesAfter (beyond declared.toList) within after)
    ∧ (∀ before piece within after, pieces (dropQuery declared.toList) = before ++ [piece] →
        LeavesAfter (beyond declared.toList) within after →
        decompose declared = decompose (String.ofList (['/'].intercalate (before ++ after))))
    ∧ '?' ∉ (decompose declared).whole.toList
    ∧ (clean (decompose declared).whole = (decompose declared).whole
        ↔ (decompose declared).whole = "/"
          ∨ ∀ segment ∈ (pieces (decompose declared).whole.toList).tail, Proper segment)
    ∧ (decompose (decompose declared).whole = decompose declared
        ↔ clean (decompose declared).whole = (decompose declared).whole) := by
  refine ⟨fun inward => ⟨?_, clean_whole_of_inward inward, fun queried before piece parts =>
    whole_of_inward queried inward parts⟩, ⟨Climbs.exists_leavesAfter, ?_⟩,
    fun before piece within after parts leaves => decompose_of_leavesAfter parts leaves,
    not_mem_whole declared, clean_whole_iff_proper declared, decompose_whole_iff declared⟩
  · rw [normalized_iff inward, ← settled_whole_iff]
    by_cases queried : '?' ∈ declared.toList
    · rw [settled_of_inward_iff queried inward, or_iff_right (not_not_intro queried)]
    · exact iff_of_true (settled_of_unqueried (not_mem_clean queried)) (Or.inl queried)
  · rintro ⟨within, after, leaves⟩
    exact leaves.climbs

/-- A query that stays below its segment, and one that climbs out of it. -/
theorem prefix_without_query_user :
    ¬ Climbs (beyond "/user/:id?page/1/../2".toList) ∧ Normalized "/user/:id?page/1/../2"
    ∧ (decompose "/user/:id?page/1/../2").whole = "/user/:id"
    ∧ LeavesAfter (beyond "/user/:id?page/../list".toList) [] ["list".toList]
    ∧ decompose "/user/:id?page/../list" = decompose "/user/list" := by
  have inward : ¬ Climbs (beyond "/user/:id?page/1/../2".toList) := by decide
  have ends : Ends (dropQuery "/user/:id?page/1/../2".toList) :=
    ⟨":id".toList, by decide, Or.inl (by decide)⟩
  have leaves : LeavesAfter (beyond "/user/:id?page/../list".toList) [] ["list".toList] :=
    ⟨by decide, by decide, by decide⟩
  have normalized := ((prefix_without_query _).1 inward).1.mpr (Or.inr ends)
  refine ⟨inward, normalized, ?_, leaves, ?_⟩
  · rw [normalized.whole]
    decide
  · have joined : "/user/list" = String.ofList
        (['/'].intercalate ([[], "user".toList] ++ ["list".toList])) := by decide
    rw [joined]
    exact (prefix_without_query _).2.2.1 _ ":id".toList _ _ (by decide) leaves

/-- **A query spoils the prefix in front of it**: behind a slash or behind `..` the prefix is not
clean, and a query that climbs writes into it. -/
theorem query_spoils_prefix :
    let cleaned (declared : String) : String := clean (front declared)
    (decompose "/a/?x").whole = "/a/" ∧ cleaned "/a/?x" = "/a"
    ∧ (decompose "/a/..?x").whole = "/a/.." ∧ cleaned "/a/..?x" = "/"
    ∧ (decompose "/a?x/../b").whole = "/b" ∧ cleaned "/a?x/../b" = "/a"
    ∧ clean "/a/" ≠ "/a/" ∧ decompose "/a/" ≠ decompose "/a/?x" := by
  decide

end Switchboard.Path
