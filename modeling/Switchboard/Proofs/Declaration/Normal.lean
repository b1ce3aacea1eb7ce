/-
**Normal forms of declared types.**

The types of a declaration are brought into canonical form, put in byte order and freed of
repetitions before they are resolved to methods.

* `canonical_canonical` — a token in canonical form stays as it is;
* `mem_normalTypes_iff` — normal types are the canonical forms of declared ones, if there are any;
* `ascending_normalTypes` — **normal types are in ascending order**, so none stands twice;
* `normalTypes_eq_of_canonical`, `normalTypes_normalTypes` — they depend on the canonical forms
  alone, and are their own normal types;
* `resolveAll_cons_eq_ok_iff`, `tokens_of_resolveAll` — the methods that tokens mean have their
  canonical forms as tokens;
* `isToken_of_mem_normalTypes` — **normal types that resolve are tokens themselves;**
* `mem_keepFirst`, `nodup_keepFirst`, `pairwise_keepFirst` — **what is kept of a list at its first
  occurrences**: every value once, in their order;
* `nodup_of_normalTypes`, `keepFirst_of_nodup` — the methods of normal types are all different, and
  where this is so none is dropped as a repetition.
-/

import Switchboard.Declaration.Check
import Switchboard.Proofs.Text.Order
import Switchboard.Proofs.Text.Stripping
import Mathlib.Data.List.Nodup

namespace Switchboard

namespace Text

/-! ### Letters and blanks -/

/-- A character stays as it is in upper case, or it is one of the small letters. -/
theorem toUpper_eq_or_exists (character : Char) :
    character.toUpper = character ∨ ∃ place : Fin 26, character = Char.ofNat (97 + place) := by
  by_cases small : 97 ≤ character.toNat ∧ character.toNat ≤ 122
  · refine Or.inr ⟨⟨character.toNat - 97, by omega⟩, ?_⟩
    show character = Char.ofNat (97 + (character.toNat - 97))
    rw [Nat.add_sub_cancel' small.1, Char.ofNat_toNat]
  · refine Or.inl ?_
    unfold Char.toUpper
    rw [dif_neg]
    rintro ⟨low, high⟩
    exact small ⟨UInt32.le_iff_toNat_le.mp low, UInt32.le_iff_toNat_le.mp high⟩

theorem isBlank_toUpper (character : Char) : isBlank character.toUpper = isBlank character := by
  rcases toUpper_eq_or_exists character with same | ⟨place, rfl⟩
  · rw [same]
  · revert place
    decide

theorem toUpper_toUpper (character : Char) :
    character.toUpper.toUpper = character.toUpper := by
  rcases toUpper_eq_or_exists character with same | ⟨place, rfl⟩
  · rw [same, same]
  · revert place
    decide

theorem upper_upper (text : String) : upper (upper text) = upper text := by
  have same : Char.toUpper ∘ Char.toUpper = Char.toUpper := funext toUpper_toUpper
  simp [upper, same]

theorem trim_trim (text : String) : trim (trim text) = trim text := by
  simp [trim, trimBy_trimBy]

/-- Blanks can be stripped before or after the letters are changed. -/
theorem trim_upper (text : String) : trim (upper text) = upper (trim text) := by
  simp [trim, upper, trimBy_map isBlank_toUpper]

end Text

namespace Declaration

/-! ### Types -/

/-- A token in canonical form stays as it is. -/
theorem canonical_canonical (token : String) : canonical (canonical token) = canonical token := by
  unfold canonical
  rw [Text.trim_upper, Text.upper_upper, Text.trim_trim]

theorem trim_canonical (token : String) : Text.trim (canonical token) = canonical token := by
  unfold canonical
  rw [Text.trim_upper, Text.trim_trim]

theorem upper_canonical (token : String) : Text.upper (canonical token) = canonical token :=
  Text.upper_upper _

/-- **Normal types** are the canonical forms of the declared ones, if there are any. -/
theorem mem_normalTypes_iff {declared : List String} (listed : declared ≠ []) {type : String} :
    type ∈ normalTypes declared ↔ ∃ token ∈ declared, canonical token = type := by
  unfold normalTypes
  rw [if_neg (mt List.isEmpty_iff.mp listed), Text.mem_dedupAdjacent,
    (Text.sortBy_perm _ _).mem_iff, List.mem_map]

/-- Normal types are the standard ones or canonical forms of declared ones. -/
theorem mem_normalTypes {declared : List String} {type : String}
    (member : type ∈ normalTypes declared) :
    type ∈ standardTypes ∨ ∃ token ∈ declared, canonical token = type := by
  by_cases listed : declared = []
  · rw [listed] at member
    exact Or.inl member
  · exact Or.inr ((mem_normalTypes_iff listed).mp member)

theorem canonical_of_mem_normalTypes {declared : List String} {type : String}
    (member : type ∈ normalTypes declared) : canonical type = type := by
  rcases mem_normalTypes member with standard | ⟨token, _, rfl⟩
  · have each : ∀ type ∈ standardTypes, canonical type = type := by decide
    exact each type standard
  · exact canonical_canonical token

/-- A token that resolves is one in canonical form. -/
theorem isToken_of_resolve_eq_ok {token : String} {method : Http.Method}
    (resolved : resolve token = .ok method) : Http.isToken (canonical token) = true := by
  unfold resolve Http.Method.ofString? at resolved
  by_cases valid : Http.isToken (canonical token) = true
  · exact valid
  · simp [valid] at resolved

/-- The normal types of a declaration are in ascending order. -/
theorem ascending_normalTypes (declared : List String) :
    Text.Ascending id (normalTypes declared) := by
  unfold normalTypes
  split
  · show standardTypes.Pairwise _
    decide
  · exact Text.ascending_dedupAdjacent_sortBy _

/-- There is always a normal type. -/
theorem normalTypes_ne_nil (declared : List String) : normalTypes declared ≠ [] := by
  cases declared with
  | nil => exact List.cons_ne_nil _ _
  | cons token rest =>
    refine List.ne_nil_of_mem (a := canonical token) ?_
    exact (mem_normalTypes_iff (List.cons_ne_nil _ _)).mpr ⟨token, List.mem_cons_self, rfl⟩

/-- **Tokens of the same canonical forms** have the same normal types. -/
theorem normalTypes_eq_of_canonical {first second : List String}
    (same : ∀ type, (∃ token ∈ first, canonical token = type)
      ↔ ∃ token ∈ second, canonical token = type) : normalTypes first = normalTypes second := by
  cases first with
  | nil =>
    cases second with
    | nil => rfl
    | cons token rest =>
      obtain ⟨other, member, -⟩ := (same _).mpr ⟨token, List.mem_cons_self, rfl⟩
      cases member
  | cons token rest =>
    have listed : second ≠ [] := by
      obtain ⟨other, member, -⟩ := (same _).mp ⟨token, List.mem_cons_self, rfl⟩
      exact List.ne_nil_of_mem member
    refine (ascending_normalTypes _).eq_of_mem_iff (ascending_normalTypes _) fun type => ?_
    rw [mem_normalTypes_iff (List.cons_ne_nil _ _), mem_normalTypes_iff listed]
    exact same type

/-- **Normal types are normal.** -/
theorem normalTypes_normalTypes (declared : List String) :
    normalTypes (normalTypes declared) = normalTypes declared := by
  refine (ascending_normalTypes _).eq_of_mem_iff (ascending_normalTypes _) fun type => ?_
  rw [mem_normalTypes_iff (normalTypes_ne_nil declared)]
  constructor
  · rintro ⟨token, member, rfl⟩
    rw [canonical_of_mem_normalTypes member]
    exact member
  · intro member
    exact ⟨type, member, canonical_of_mem_normalTypes member⟩

theorem token_of_resolve {token : String} {method : Http.Method}
    (resolved : resolve token = .ok method) : method.token = canonical token := by
  unfold resolve at resolved
  split at resolved
  · rename_i found
    cases resolved
    exact Http.Method.token_of_ofString? found
  · cases resolved

/-- Tokens are resolved one after another. -/
theorem resolveAll_cons_eq_ok_iff {head : String} {tail : List String}
    {methods : List Http.Method} :
    resolveAll (head :: tail) = .ok methods
      ↔ ∃ method others, resolve head = .ok method ∧ resolveAll tail = .ok others
        ∧ methods = method :: others := by
  have opened : resolveAll (head :: tail)
      = (resolve head >>= fun method => resolveAll tail >>= fun others =>
        pure (method :: others)) := List.mapM_cons
  rw [opened]
  cases resolve head with
  | error fault => exact ⟨nofun, nofun⟩
  | ok method =>
    cases resolveAll tail with
    | error fault => exact ⟨nofun, nofun⟩
    | ok others =>
      constructor
      · intro resolved
        cases resolved
        exact ⟨method, others, rfl, rfl, rfl⟩
      · rintro ⟨_, _, first, rest, rfl⟩
        cases first
        cases rest
        rfl

theorem exists_resolve_of_mem {tokens : List String} {methods : List Http.Method}
    (resolved : resolveAll tokens = .ok methods) {token : String} (member : token ∈ tokens) :
    ∃ method, resolve token = .ok method := by
  induction tokens generalizing methods with
  | nil => cases member
  | cons head tail hypothesis =>
    obtain ⟨method, others, first, rest, -⟩ := resolveAll_cons_eq_ok_iff.mp resolved
    rcases List.mem_cons.mp member with rfl | behind
    · exact ⟨method, first⟩
    · exact hypothesis rest behind

/-- **The methods that tokens mean** have the canonical forms of these as their tokens. -/
theorem tokens_of_resolveAll {tokens : List String} {methods : List Http.Method}
    (resolved : resolveAll tokens = .ok methods) :
    methods.map Http.Method.token = tokens.map canonical := by
  induction tokens generalizing methods with
  | nil =>
    cases resolved
    rfl
  | cons head tail hypothesis =>
    obtain ⟨method, others, first, rest, rfl⟩ := resolveAll_cons_eq_ok_iff.mp resolved
    rw [List.map_cons, List.map_cons, token_of_resolve first, hypothesis rest]

/-- **Normal types that resolve are tokens themselves.** -/
theorem isToken_of_mem_normalTypes {declared : List String} {methods : List Http.Method}
    (resolved : resolveAll (normalTypes declared) = .ok methods) {type : String}
    (member : type ∈ normalTypes declared) : Http.isToken type = true := by
  obtain ⟨method, found⟩ := exists_resolve_of_mem resolved member
  rw [← canonical_of_mem_normalTypes member]
  exact isToken_of_resolve_eq_ok found

/-! ### Methods -/

section KeepFirst

variable {α : Type} [DecidableEq α]

/-- The last value is kept unless it stands in front of itself. -/
theorem keepFirst_concat (values : List α) (value : α) :
    keepFirst (values ++ [value])
      = if value ∈ keepFirst values then keepFirst values else keepFirst values ++ [value] := by
  unfold keepFirst
  rw [List.foldl_append]
  rfl

theorem mem_keepFirst {values : List α} {other : α} :
    other ∈ keepFirst values ↔ other ∈ values := by
  induction values using List.reverseRecOn with
  | nil => rfl
  | append_singleton values value hypothesis =>
    rw [keepFirst_concat, List.mem_append, List.mem_singleton]
    split
    · rename_i known
      rw [hypothesis, or_iff_left_of_imp]
      rintro rfl
      exact hypothesis.mp known
    · rw [List.mem_append, List.mem_singleton, hypothesis]

theorem nodup_keepFirst (values : List α) : (keepFirst values).Nodup := by
  induction values using List.reverseRecOn with
  | nil => exact List.nodup_nil
  | append_singleton values value hypothesis =>
    rw [keepFirst_concat]
    split
    · exact hypothesis
    · rename_i fresh
      exact List.nodup_append_comm.mp (List.nodup_cons.mpr ⟨fresh, hypothesis⟩)

/-- **Values are kept in the order of their first occurrences.** -/
theorem pairwise_keepFirst (values : List α) :
    (keepFirst values).Pairwise fun first second => values.idxOf first < values.idxOf second := by
  induction values using List.reverseRecOn with
  | nil => exact List.Pairwise.nil
  | append_singleton values value hypothesis =>
    have kept : (keepFirst values).Pairwise fun first second =>
        (values ++ [value]).idxOf first < (values ++ [value]).idxOf second := by
      refine hypothesis.imp_of_mem fun one other before => ?_
      rwa [List.idxOf_append_of_mem (mem_keepFirst.mp one),
        List.idxOf_append_of_mem (mem_keepFirst.mp other)]
    rw [keepFirst_concat]
    split
    · exact kept
    · rename_i fresh
      refine List.pairwise_append.mpr
        ⟨kept, List.pairwise_singleton _ _, fun first known last same => ?_⟩
      rw [List.mem_singleton.mp same, List.idxOf_append_of_mem (mem_keepFirst.mp known),
        List.idxOf_append_of_notMem (mt mem_keepFirst.mpr fresh)]
      exact Nat.lt_add_right _ (List.idxOf_lt_length_iff.mpr (mem_keepFirst.mp known))

/-- Without repetitions every value is kept. -/
theorem keepFirst_of_nodup {values : List α} (once : values.Nodup) : keepFirst values = values := by
  induction values using List.reverseRecOn with
  | nil => rfl
  | append_singleton values value hypothesis =>
    obtain ⟨before, -, apart⟩ := List.nodup_append.mp once
    have fresh : value ∉ values := fun known => apart value known value List.mem_cons_self rfl
    rw [keepFirst_concat, hypothesis before, if_neg fresh]

end KeepFirst

section Resolved

variable {declared : List String} {methods : List Http.Method}
  (resolved : resolveAll (normalTypes declared) = .ok methods)
include resolved

/-- The methods of normal types are spelled like them. -/
theorem tokens_of_normalTypes : methods.map Http.Method.token = normalTypes declared := by
  rw [tokens_of_resolveAll resolved]
  exact (List.map_congr_left fun _ => canonical_of_mem_normalTypes).trans (List.map_id _)

theorem nodup_of_normalTypes : methods.Nodup := by
  have once := (ascending_normalTypes declared).nodup
  rw [← tokens_of_normalTypes resolved] at once
  exact List.Nodup.of_map _ once

end Resolved

end Declaration

end Switchboard
