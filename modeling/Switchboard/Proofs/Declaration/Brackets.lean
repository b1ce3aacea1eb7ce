/-
**Reading an identity back.**

An identity is a symbol and bracketed texts, written as they are. It can be read in one way only if
the texts keep its brackets apart: `[` in front of the first text does not look like a part of the
symbol, and a boundary `][` does not look like a part of a text.

* `symbol_inj` — the bracket in front of the first text is found again;
* `boundary_inj` — **the first boundary** behind a text without one is found again;
* `last_inj` — **the last text** is found again if bracket-free words follow and it does not end in
  such a word itself;
* `legibleOperation_of_bracketless`, `legibleRoute_of_bracketless` — texts without brackets keep the
  brackets of their identity apart;
* `operationIdentity_inj`, `routeIdentity_inj` — what both kinds of identities determine.
-/

import Switchboard.Declaration.Identity
import Mathlib.Data.List.Basic

namespace Switchboard.Declaration

/-! ### Identities as characters -/

/-- Texts behind a boundary each. -/
def bounded (parts : List (List Char)) : List Char :=
  parts.flatMap fun part => ']' :: '[' :: part

/-- A word that could stand between brackets without any of its own. -/
def BracketFree (word : List Char) : Prop :=
  '[' ∉ word ∧ ']' ∉ word

/-- The text ends in a boundary and a word. -/
def EndsIn (word text : List Char) : Prop :=
  (']' :: '[' :: word) <:+ text

@[simp] theorem bounded_nil : bounded [] = [] := rfl

@[simp] theorem bounded_cons (part : List Char) (parts : List (List Char)) :
    bounded (part :: parts) = ']' :: '[' :: (part ++ bounded parts) := rfl

theorem toList_bracket (part : String) : (bracket part).toList = '[' :: part.toList ++ [']'] := by
  unfold bracket
  rw [String.toList_append, String.toList_append]
  rfl

/-- **The characters of an identity.** -/
theorem toList_identity (symbol part : String) (parts : List String) :
    (identity symbol (part :: parts)).toList
      = symbol.toList ++ '[' :: (part.toList ++ bounded (parts.map String.toList)) ++ [']'] := by
  have closed : ∀ (part : List Char) (parts : List String),
      part ++ ']' :: (parts.map bracket).flatMap String.toList
        = part ++ bounded (parts.map String.toList) ++ [']'] := by
    intro part parts
    induction parts generalizing part with
    | nil => simp
    | cons head tail hypothesis =>
      have behind := hypothesis (part ++ ']' :: '[' :: head.toList)
      simp only [List.map_cons, List.flatMap_cons, toList_bracket, bounded_cons]
      simpa using behind
  unfold identity
  rw [String.toList_append, String.toList_join]
  simp only [List.map_cons, List.flatMap_cons, toList_bracket]
  simpa using closed part.toList parts

/-! ### Finding the brackets again -/

/-- The bracket in front of the first text is found again where no symbol holds one with an opener
of a text behind it. -/
theorem symbol_inj {openers first second behind other : List Char}
    (bracketLess : '[' ∉ openers)
    (opened : ∃ opener ∈ openers, ∃ rest, behind = opener :: rest)
    (openedToo : ∃ opener ∈ openers, ∃ rest, other = opener :: rest)
    (plain : ∀ opener ∈ openers, ¬ ['[', opener] <:+: first)
    (plainToo : ∀ opener ∈ openers, ¬ ['[', opener] <:+: second)
    (same : first ++ '[' :: behind = second ++ '[' :: other) :
    first = second ∧ behind = other := by
  -- the longer symbol would hold the bracket of the shorter one and the opener behind it
  have shorter : ∀ {first second behind other : List Char} (extra : List Char),
      (∃ opener ∈ openers, ∃ rest, behind = opener :: rest) →
      (∀ opener ∈ openers, ¬ ['[', opener] <:+: second) →
      second = first ++ extra → '[' :: behind = extra ++ '[' :: other → extra = [] := by
    intro first second behind other extra opened plain longer rest
    obtain ⟨opener, listed, tail, rfl⟩ := opened
    rcases extra with _ | ⟨bracket, extra⟩
    · rfl
    · obtain ⟨rfl, inside⟩ := List.cons.inj rest
      rcases extra with _ | ⟨next, extra⟩
      · obtain ⟨rfl, _⟩ := List.cons.inj inside
        exact absurd listed bracketLess
      · obtain ⟨rfl, _⟩ := List.cons.inj inside
        exact absurd ⟨first, extra, by simp [longer]⟩ (plain opener listed)
  rcases List.append_eq_append_iff.mp same with ⟨extra, longer, rest⟩ | ⟨extra, longer, rest⟩
  · obtain rfl := shorter extra opened plainToo longer rest
    exact ⟨by simpa using longer.symm, by simpa using rest⟩
  · obtain rfl := shorter extra openedToo plain longer rest
    exact ⟨by simpa using longer, by simpa using rest.symm⟩

/-- **The first boundary** behind a text without one is found again. -/
theorem boundary_inj {first second behind other : List Char}
    (unbroken : ¬ [']', '['] <:+: first) (unbrokenToo : ¬ [']', '['] <:+: second)
    (same : first ++ ']' :: '[' :: behind = second ++ ']' :: '[' :: other) :
    first = second ∧ behind = other := by
  have shorter : ∀ {first second behind other : List Char} (extra : List Char),
      ¬ [']', '['] <:+: second → second = first ++ extra →
      ']' :: '[' :: behind = extra ++ ']' :: '[' :: other → extra = [] := by
    intro first second behind other extra unbroken longer rest
    rcases extra with _ | ⟨closing, extra⟩
    · rfl
    · obtain ⟨rfl, inside⟩ := List.cons.inj rest
      rcases extra with _ | ⟨opening, extra⟩
      · cases inside
      · obtain ⟨rfl, _⟩ := List.cons.inj inside
        exact absurd ⟨first, extra, by simp [longer]⟩ unbroken
  rcases List.append_eq_append_iff.mp same with ⟨extra, longer, rest⟩ | ⟨extra, longer, rest⟩
  · obtain rfl := shorter extra unbrokenToo longer rest
    exact ⟨by simpa using longer.symm, by simpa using rest⟩
  · obtain rfl := shorter extra unbroken longer rest
    exact ⟨by simpa using longer, by simpa using rest.symm⟩

/-- A part of bounded words that more of them follow ends in one of the words. -/
theorem endsIn_of_bounded_eq_append {words others : List (List Char)} {front : List Char}
    (free : ∀ word ∈ words, BracketFree word) (some : front ≠ [])
    (same : bounded words = front ++ bounded others) : ∃ word ∈ words, EndsIn word front := by
  induction words generalizing front with
  | nil =>
    rw [bounded_nil] at same
    exact absurd (List.append_eq_nil_iff.mp same.symm).1 some
  | cons word rest hypothesis =>
    have cut : (']' :: '[' :: word) ++ bounded rest = front ++ bounded others := same
    rcases List.append_eq_append_iff.mp cut with ⟨extra, longer, behind⟩ | ⟨extra, longer, behind⟩
    · by_cases empty : extra = []
      · exact ⟨word, List.mem_cons_self, by simp [EndsIn, longer, empty]⟩
      · obtain ⟨later, member, ends⟩ :=
          hypothesis (fun word member => free word (List.mem_cons_of_mem _ member)) empty behind
        exact ⟨later, List.mem_cons_of_mem _ member,
          longer ▸ ends.trans (List.suffix_append _ _)⟩
    · rcases extra with _ | ⟨closing, extra⟩
      · exact ⟨word, List.mem_cons_self, by simp [EndsIn, longer]⟩
      · -- the rest would begin inside the first word, with a bracket
        have bracket : closing = ']' := by
          cases others with
          | nil => simp at behind
          | cons other others => exact (List.cons.inj behind).1.symm
        subst bracket
        obtain ⟨opening, front, rfl⟩ := List.exists_cons_of_ne_nil some
        have inside : ']' ∈ '[' :: word := by
          rw [(List.cons.inj longer).2]
          simp
        have other : ']' ∈ word := by simpa using inside
        exact absurd other (free word List.mem_cons_self).2

/-- **The last text** is found again. -/
theorem last_inj {first second : List Char} {words others : List (List Char)}
    (free : ∀ word ∈ words, BracketFree word) (freeToo : ∀ word ∈ others, BracketFree word)
    (plain : ∀ word ∈ others, ¬ EndsIn word first) (plainToo : ∀ word ∈ words, ¬ EndsIn word second)
    (same : first ++ bounded words = second ++ bounded others) :
    first = second ∧ bounded words = bounded others := by
  rcases List.append_eq_append_iff.mp same with ⟨extra, longer, rest⟩ | ⟨extra, longer, rest⟩
  · by_cases empty : extra = []
    · exact ⟨by simpa [empty] using longer.symm, by simpa [empty] using rest⟩
    · obtain ⟨word, member, ends⟩ := endsIn_of_bounded_eq_append free empty rest
      exact absurd (longer ▸ ends.trans (List.suffix_append _ _)) (plainToo word member)
  · by_cases empty : extra = []
    · exact ⟨by simpa [empty] using longer, by simpa [empty] using rest.symm⟩
    · obtain ⟨word, member, ends⟩ := endsIn_of_bounded_eq_append freeToo empty rest
      exact absurd (longer ▸ ends.trans (List.suffix_append _ _)) (plain word member)

/-- A word without brackets does not end in a boundary. -/
theorem BracketFree.not_endsIn {text : List Char} (free : BracketFree text) (word : List Char) :
    ¬ EndsIn word text :=
  fun ends => free.2 (ends.subset List.mem_cons_self)

/-- Bracket-free words are found again behind their boundaries. -/
theorem bounded_inj {words others : List (List Char)} (free : ∀ word ∈ words, BracketFree word)
    (freeToo : ∀ word ∈ others, BracketFree word) (same : bounded words = bounded others) :
    words = others := by
  induction words generalizing others with
  | nil =>
    cases others with
    | nil => rfl
    | cons other others => cases same
  | cons word rest hypothesis =>
    cases others with
    | nil => cases same
    | cons other others =>
      simp only [bounded_cons, List.cons.injEq, true_and] at same
      have freeRest := fun word member => free word (List.mem_cons_of_mem _ member)
      have freeOthers := fun word member => freeToo word (List.mem_cons_of_mem _ member)
      obtain ⟨rfl, behind⟩ := last_inj freeRest freeOthers
        (fun later _ => (free word List.mem_cons_self).not_endsIn later)
        (fun later _ => (freeToo other List.mem_cons_self).not_endsIn later) same
      rw [hypothesis freeRest freeOthers behind]

/-! ### What identities determine -/

theorem bracketFree_of_isToken {text : String} (token : Http.isToken text = true) :
    BracketFree text.toList := by
  have each : ∀ character ∈ text.toList, Http.isTokenCharacter character = true := by
    unfold Http.isToken at token
    rw [Bool.and_eq_true, List.all_eq_true] at token
    exact token.2
  constructor
  · intro member
    exact absurd (each _ member) (by decide)
  · intro member
    exact absurd (each _ member) (by decide)

/-- The text does not end in a boundary and a method. -/
def PlainEnd (text : String) : Prop :=
  ∀ method : Http.Method, ¬ EndsIn method.token.toList text.toList

/-- The text is empty or begins with a slash. -/
def IsPath (text : String) : Prop :=
  text = "" ∨ ∃ rest, text.toList = '/' :: rest

/-- A text with a plain end does not end in a boundary and a token. -/
theorem PlainEnd.not_endsIn {text : String} (plain : PlainEnd text) {words : List String}
    (tokens : ∀ word ∈ words, Http.isToken word = true) :
    ∀ word ∈ words.map String.toList, ¬ EndsIn word text.toList := by
  intro word member
  obtain ⟨token, listed, rfl⟩ := List.mem_map.mp member
  exact plain ⟨token, tokens token listed⟩

theorem bracketFree_of_tokens {words : List String}
    (tokens : ∀ word ∈ words, Http.isToken word = true) :
    ∀ word ∈ words.map String.toList, BracketFree word := by
  intro word member
  obtain ⟨token, listed, rfl⟩ := List.mem_map.mp member
  exact bracketFree_of_isToken (tokens token listed)

/-- **The last text and the tokens behind it** are found again. -/
theorem tokens_inj {last lastToo : String} {words others : List String}
    (tokens : ∀ word ∈ words, Http.isToken word = true)
    (tokensToo : ∀ word ∈ others, Http.isToken word = true)
    (plain : PlainEnd last) (plainToo : PlainEnd lastToo)
    (same : last.toList ++ bounded (words.map String.toList)
      = lastToo.toList ++ bounded (others.map String.toList)) :
    last = lastToo ∧ words = others := by
  have free := bracketFree_of_tokens tokens
  have freeToo := bracketFree_of_tokens tokensToo
  obtain ⟨lasts, behind⟩ := last_inj free freeToo (plain.not_endsIn tokensToo)
    (plainToo.not_endsIn tokens) same
  refine ⟨String.toList_inj.mp lasts, ?_⟩
  exact List.map_injective_iff.mpr (fun _ _ => String.toList_inj.mp)
    (bounded_inj free freeToo behind)

/-- The texts of an operation keep the brackets of its identity apart. -/
structure LegibleOperation (symbol suffix description : String) : Prop where
  symbolPath : ¬ ['[', '/'] <:+: symbol.toList
  symbolBlank : ¬ ['[', ']'] <:+: symbol.toList
  suffix : ¬ [']', '['] <:+: suffix.toList
  description : PlainEnd description

/-- The texts of a route keep the brackets of its identity apart. -/
structure LegibleRoute (symbol whole : String) : Prop where
  symbol : ¬ ['[', '/'] <:+: symbol.toList
  whole : PlainEnd whole

theorem plainEnd_of_bracketless {text : String} (absent : ']' ∉ text.toList) : PlainEnd text :=
  fun _ ends => absent (ends.subset List.mem_cons_self)

/-- **An operation without brackets in its texts is legible.** -/
theorem legibleOperation_of_bracketless {symbol suffix description : String}
    (symbolFree : '[' ∉ symbol.toList) (suffixFree : ']' ∉ suffix.toList)
    (descriptionFree : ']' ∉ description.toList) :
    LegibleOperation symbol suffix description where
  symbolPath inside := symbolFree (inside.subset List.mem_cons_self)
  symbolBlank inside := symbolFree (inside.subset List.mem_cons_self)
  suffix inside := suffixFree (inside.subset List.mem_cons_self)
  description := plainEnd_of_bracketless descriptionFree

/-- **A route without brackets in its texts is legible.** -/
theorem legibleRoute_of_bracketless {symbol whole : String} (symbolFree : '[' ∉ symbol.toList)
    (wholeFree : ']' ∉ whole.toList) : LegibleRoute symbol whole where
  symbol inside := symbolFree (inside.subset List.mem_cons_self)
  whole := plainEnd_of_bracketless wholeFree

/-- **What the identity of a legible operation determines.** -/
theorem operationIdentity_inj {symbol suffix description : String} {types : List String}
    {symbolToo suffixToo descriptionToo : String} {typesToo : List String}
    (legible : LegibleOperation symbol suffix description)
    (legibleToo : LegibleOperation symbolToo suffixToo descriptionToo)
    (path : IsPath suffix) (pathToo : IsPath suffixToo)
    (tokens : ∀ type ∈ types, Http.isToken type = true)
    (tokensToo : ∀ type ∈ typesToo, Http.isToken type = true)
    (same : operationIdentity symbol suffix description types
      = operationIdentity symbolToo suffixToo descriptionToo typesToo) :
    symbol = symbolToo ∧ suffix = suffixToo ∧ description = descriptionToo
      ∧ types = typesToo := by
  have characters := congrArg String.toList same
  unfold operationIdentity at characters
  rw [toList_identity, toList_identity, List.append_left_inj, List.map_cons, List.map_cons,
    bounded_cons, bounded_cons] at characters
  have opened : ∀ {suffix : String} (behind : List Char), IsPath suffix →
      ∃ opener ∈ ['/', ']'], ∃ rest, suffix.toList ++ ']' :: behind = opener :: rest := by
    rintro suffix behind (rfl | ⟨rest, shape⟩)
    · exact ⟨']', by simp, behind, rfl⟩
    · exact ⟨'/', by simp, rest ++ ']' :: behind, by rw [shape]; rfl⟩
  have plain : ∀ {symbol suffix description : String},
      LegibleOperation symbol suffix description →
      ∀ opener ∈ ['/', ']'], ¬ ['[', opener] <:+: symbol.toList := by
    intro symbol suffix description legible opener listed
    rcases List.mem_cons.mp listed with rfl | listed
    · exact legible.symbolPath
    · rw [List.mem_singleton.mp listed]
      exact legible.symbolBlank
  obtain ⟨symbols, behind⟩ := symbol_inj (by decide) (opened _ path) (opened _ pathToo)
    (plain legible) (plain legibleToo) characters
  obtain ⟨suffixes, texts⟩ := boundary_inj legible.suffix legibleToo.suffix behind
  obtain ⟨descriptions, words⟩ := tokens_inj tokens tokensToo legible.description
    legibleToo.description texts
  exact ⟨String.toList_inj.mp symbols, String.toList_inj.mp suffixes, descriptions, words⟩

/-- **What the identity of a legible route determines.** -/
theorem routeIdentity_inj {symbol whole : String} {methods : List Http.Method}
    {symbolToo wholeToo : String} {methodsToo : List Http.Method}
    (legible : LegibleRoute symbol whole) (legibleToo : LegibleRoute symbolToo wholeToo)
    (path : ∃ rest, whole.toList = '/' :: rest) (pathToo : ∃ rest, wholeToo.toList = '/' :: rest)
    (same : routeIdentity symbol whole methods = routeIdentity symbolToo wholeToo methodsToo) :
    symbol = symbolToo ∧ whole = wholeToo ∧ methods = methodsToo := by
  have characters := congrArg String.toList same
  unfold routeIdentity at characters
  rw [toList_identity, toList_identity, List.append_left_inj] at characters
  have opened : ∀ {whole : String} (behind : List Char), (∃ rest, whole.toList = '/' :: rest) →
      ∃ opener ∈ ['/'], ∃ rest, whole.toList ++ behind = opener :: rest := by
    rintro whole behind ⟨rest, shape⟩
    exact ⟨'/', by simp, rest ++ behind, by rw [shape]; rfl⟩
  have plain : ∀ {symbol whole : String}, LegibleRoute symbol whole →
      ∀ opener ∈ ['/'], ¬ ['[', opener] <:+: symbol.toList := by
    intro symbol whole legible opener listed
    rw [List.mem_singleton.mp listed]
    exact legible.symbol
  obtain ⟨symbols, behind⟩ := symbol_inj (by decide) (opened _ path) (opened _ pathToo)
    (plain legible) (plain legibleToo) characters
  have tokens : ∀ methods : List Http.Method,
      ∀ word ∈ methods.map Http.Method.token, Http.isToken word = true := by
    intro methods word member
    obtain ⟨method, _, rfl⟩ := List.mem_map.mp member
    exact method.isToken_token
  obtain ⟨wholes, words⟩ := tokens_inj (tokens methods) (tokens methodsToo) legible.whole
    legibleToo.whole behind
  refine ⟨String.toList_inj.mp symbols, wholes, ?_⟩
  exact List.map_injective_iff.mpr (fun _ _ => Http.Method.ext_token) words

end Switchboard.Declaration
