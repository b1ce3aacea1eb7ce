/-
**Declared lengths.**

A response may declare a length of its own in a header field. Only the first value of that name
counts, and only if it spells a word of 64 bits: blanks, a plus sign perhaps, digits, and blanks.
Under any other header the length is that of the body.

* `Spells` — **how the bytes of a value spell a number**, behind a given sign;
* `Response.Declares` — the first declared length spells a word of 64 bits;
* `FieldValue.number?_eq_some_iff` — a value is read as the number that it spells;
* `Response.declaredLength?_eq_some_iff` — so what is declared is what is read;
* `Response.Undeclaring` — values that declare nothing, each for a reason;
* `Response.contentLength_of_header` — **the length of every response**, whatever its header;
* `Response.contentLength_of_signed` — a plus sign is read over.
-/

import Switchboard.Http.Message
import Switchboard.Proofs.Text.Numeral

namespace Switchboard.Http

/-! ### Bytes of a value -/

/-- The character that a byte shows. -/
def shown (octet : UInt8) : Char :=
  Char.ofNat octet.toNat

/-- What holds of the bytes, checked one by one, holds of each. -/
theorem octet_forall (property : UInt8 → Prop)
    (holds : ∀ code, code < 256 → property (UInt8.ofNat code)) (octet : UInt8) :
    property octet := by
  have checked := holds octet.toNat octet.toNat_lt
  rw [UInt8.ofNat_toNat] at checked
  exact checked

/-- The byte is a blank in visible text: a space or a tab. -/
def isBlankByte (octet : UInt8) : Bool :=
  octet == 32 || octet == 9

/-- The byte is a decimal digit. -/
def isDigitByte (octet : UInt8) : Bool :=
  decide (48 ≤ octet) && decide (octet ≤ 57)

/-- The byte of a plus sign. -/
def plusByte : UInt8 := 43

/-- The number that the byte of a digit stands for. -/
def digitOf (octet : UInt8) : Nat :=
  octet.toNat - 48

theorem visible_of_isBlankByte :
    ∀ octet, isBlankByte octet = true → isVisibleByte octet = true :=
  octet_forall _ (by decide +kernel)

theorem visible_of_isDigitByte :
    ∀ octet, isDigitByte octet = true → isVisibleByte octet = true :=
  octet_forall _ (by decide +kernel)

theorem isBlank_shown : ∀ octet, isVisibleByte octet = true →
    Text.isBlank (shown octet) = isBlankByte octet :=
  octet_forall _ (by decide +kernel)

theorem isDigit_shown : ∀ octet, isVisibleByte octet = true →
    (shown octet).isDigit = isDigitByte octet :=
  octet_forall _ (by decide +kernel)

theorem shown_eq_plus_iff : ∀ octet, shown octet = '+' ↔ octet = plusByte :=
  octet_forall _ (by decide +kernel)

theorem valueOf_shown : ∀ octet, Text.valueOf (shown octet) = digitOf octet :=
  octet_forall _ (by decide +kernel)

/-! ### Values that spell a number -/

/-- No sign, or a plus sign. -/
def IsSign (sign : List UInt8) : Prop :=
  sign = [] ∨ sign = [plusByte]

/-- Bytes spell a number behind a sign: with blanks around them, or with nothing, stand the sign and
some digits, and the number is the one that the digits stand for. -/
inductive Spells (sign : List UInt8) : List UInt8 → Nat → Prop
  | intro (front digits back : List UInt8) (first : ∀ octet ∈ front, isBlankByte octet = true)
      (last : ∀ octet ∈ back, isBlankByte octet = true) (some_digit : digits ≠ [])
      (digit : ∀ octet ∈ digits, isDigitByte octet = true) :
      Spells sign (front ++ (sign ++ digits) ++ back) (Text.decimal (digits.map digitOf))

theorem decimal_shown (digits : List UInt8) :
    Text.decimal ((digits.map shown).map Text.valueOf) = Text.decimal (digits.map digitOf) := by
  rw [List.map_map]
  exact congrArg Text.decimal (List.map_congr_left fun octet _ => valueOf_shown octet)

section Spelling

variable {sign octets : List UInt8} {number : Nat}

/-- A byte of what spells a number is a blank, a digit or one of the sign. -/
theorem Spells.of_mem (spells : Spells sign octets number) {octet : UInt8}
    (member : octet ∈ octets) :
    isBlankByte octet = true ∨ isDigitByte octet = true ∨ octet ∈ sign := by
  cases spells with
  | intro front digits back first last some_digit digit =>
    rcases List.mem_append.mp member with member | inBack
    · rcases List.mem_append.mp member with inFront | member
      · exact .inl (first octet inFront)
      · rcases List.mem_append.mp member with inSign | inDigits
        · exact .inr (.inr inSign)
        · exact .inr (.inl (digit octet inDigits))
    · exact .inl (last octet inBack)

theorem Spells.exists_digit (spells : Spells sign octets number) :
    ∃ octet ∈ octets, isDigitByte octet = true := by
  cases spells with
  | intro front digits back first last some_digit digit =>
    obtain ⟨octet, member⟩ := List.exists_mem_of_ne_nil digits some_digit
    refine ⟨octet, ?_, digit octet member⟩
    exact List.mem_append_left back (List.mem_append_right front (List.mem_append_right sign member))

theorem Spells.visible (spells : Spells sign octets number) (signed : IsSign sign) :
    ∀ octet ∈ octets, isVisibleByte octet = true := by
  intro octet member
  rcases spells.of_mem member with blank | digit | inSign
  · exact visible_of_isBlankByte octet blank
  · exact visible_of_isDigitByte octet digit
  · rcases signed with rfl | rfl
    · cases inSign
    · rw [List.mem_singleton.mp inSign]
      decide

/-- Bytes that spell a number show a numeral with blanks around it. -/
theorem Spells.exists_numeral (spells : Spells sign octets number) (signed : IsSign sign) :
    ∃ front signText digitsText middle back, octets.map shown = front ++ middle ++ back
      ∧ (∀ character ∈ front, Text.isBlank character = true)
      ∧ (∀ character ∈ back, Text.isBlank character = true)
      ∧ Text.Numeral signText digitsText middle number := by
  cases spells with
  | intro front digits back first last some_digit digit =>
    have blank (octets : List UInt8) (blanks : ∀ octet ∈ octets, isBlankByte octet = true) :
        ∀ character ∈ octets.map shown, Text.isBlank character = true := by
      intro character member
      obtain ⟨octet, inside, rfl⟩ := List.mem_map.mp member
      rw [isBlank_shown octet (visible_of_isBlankByte octet (blanks octet inside))]
      exact blanks octet inside
    refine ⟨front.map shown, sign.map shown, digits.map shown, (sign ++ digits).map shown,
      back.map shown, ?_, blank front first, blank back last, ?_, List.map_append,
      mt List.map_eq_nil_iff.mp some_digit, ?_, decimal_shown digits⟩
    · rw [List.map_append, List.map_append]
    · rcases signed with rfl | rfl
      · exact .inl rfl
      · exact .inr rfl
    · intro character member
      obtain ⟨octet, inside, rfl⟩ := List.mem_map.mp member
      rw [isDigit_shown octet (visible_of_isDigitByte octet (digit octet inside))]
      exact digit octet inside

/-- Visible bytes that show a numeral with blanks around it spell its number. -/
theorem exists_spells_of_numeral (visible : ∀ octet ∈ octets, isVisibleByte octet = true)
    {front signText digitsText middle back : List Char}
    (text : octets.map shown = front ++ middle ++ back)
    (first : ∀ character ∈ front, Text.isBlank character = true)
    (last : ∀ character ∈ back, Text.isBlank character = true)
    (numeral : Text.Numeral signText digitsText middle number) :
    ∃ sign, IsSign sign ∧ Spells sign octets number := by
  obtain ⟨signed, rfl, some_digit, digit, value⟩ := numeral
  -- the parts of the text are shown by parts of the bytes
  obtain ⟨others, back, rfl, othersText, rfl⟩ := List.map_eq_append_iff.mp text
  obtain ⟨front, middle, rfl, rfl, middleText⟩ := List.map_eq_append_iff.mp othersText
  obtain ⟨sign, digits, rfl, rfl, rfl⟩ := List.map_eq_append_iff.mp middleText
  refine ⟨sign, ?_, ?_⟩
  · rcases signed with unsigned | plus
    · exact .inl (List.map_eq_nil_iff.mp unsigned)
    · obtain ⟨octet, rfl, shows⟩ := List.map_eq_singleton_iff.mp plus
      exact .inr (congrArg (fun octet => [octet]) ((shown_eq_plus_iff octet).mp shows))
  · rw [← value, decimal_shown]
    refine .intro front digits back ?_ ?_ (mt List.map_eq_nil_iff.mpr some_digit) ?_
    · intro octet member
      rw [← isBlank_shown octet (visible octet (by simp [member]))]
      exact first _ (List.mem_map_of_mem member)
    · intro octet member
      rw [← isBlank_shown octet (visible octet (by simp [member]))]
      exact last _ (List.mem_map_of_mem member)
    · intro octet member
      rw [← isDigit_shown octet (visible octet (by simp [member]))]
      exact digit _ (List.mem_map_of_mem member)

end Spelling

namespace FieldValue

/-- The number that the text of a value is, stripped of blanks and of one plus sign. -/
def number? (value : FieldValue) : Option Nat :=
  value.text?.bind fun text => Text.readDigits? (Text.dropPlus (Text.trim text).toList)

theorem text?_eq_some_iff {value : FieldValue} {text : String} :
    value.text? = some text ↔ (∀ octet ∈ value.octets, isVisibleByte octet = true)
      ∧ String.ofList (value.octets.map shown) = text := by
  unfold text?
  rw [Option.ite_none_right_eq_some, List.all_eq_true, Option.some_inj]
  rfl

/-- **A value is read as the number that it spells**, behind a plus sign or none. -/
theorem number?_eq_some_iff {value : FieldValue} {number : Nat} :
    value.number? = some number ↔ ∃ sign, IsSign sign ∧ Spells sign value.octets number := by
  unfold number?
  rw [Option.bind_eq_some_iff]
  constructor
  · rintro ⟨text, found, read⟩
    obtain ⟨visible, rfl⟩ := text?_eq_some_iff.mp found
    obtain ⟨front, sign, digits, middle, back, whole, first, last, numeral⟩ :=
      Text.readDigits?_trim_eq_some_iff.mp read
    rw [String.toList_ofList] at whole
    exact exists_spells_of_numeral visible whole first last numeral
  · rintro ⟨sign, signed, spells⟩
    refine ⟨_, text?_eq_some_iff.mpr ⟨spells.visible signed, rfl⟩,
      Text.readDigits?_trim_eq_some_iff.mpr ?_⟩
    rw [String.toList_ofList]
    exact spells.exists_numeral signed

end FieldValue

/-! ### The first declared length -/

/-- The first value of a name. -/
def Header.first? (header : Header) (name : FieldName) : Option FieldValue :=
  (header.fields.find? fun field => field.1 = name).map Prod.snd

theorem Header.get?_text (header : Header) (name : FieldName) :
    header.get? name.text = header.first? name := by
  have same : isNamed name.text = fun field => decide (field.1 = name) := by
    funext field
    unfold isNamed
    rw [name.lower_text, beq_eq_decide]
    exact decide_eq_decide.mpr ⟨FieldName.ext_text, congrArg FieldName.text⟩
  unfold get? getAll first?
  rw [List.head?_map, List.head?_filter, same]

namespace Response

/-- The first declared length spells a word of 64 bits. -/
def Declares (response : Response) (number : Nat) : Prop :=
  ∃ value sign, response.header.first? Http.contentLength = some value ∧ IsSign sign
    ∧ Spells sign value.octets number ∧ number < 2 ^ 64

/-- **What is declared is what is read.** -/
theorem declaredLength?_eq_some_iff {response : Response} {number : Nat} :
    response.declaredLength? = some number ↔ response.Declares number := by
  have word : number ≤ Text.greatestWord ↔ number < 2 ^ 64 := Nat.lt_succ_iff.symm
  have read : response.declaredLength? = some number
      ↔ ∃ value, response.header.first? Http.contentLength = some value
        ∧ value.number? = some number ∧ number ≤ Text.greatestWord := by
    show ((response.header.get? Http.contentLength.text).bind FieldValue.text?).bind
      (fun text => Text.readWord? (Text.trim text).toList) = some number ↔ _
    rw [Header.get?_text, Option.bind_assoc, Option.bind_eq_some_iff]
    refine exists_congr fun value => and_congr_right fun _ => ?_
    unfold FieldValue.number?
    rw [Option.bind_eq_some_iff, Option.bind_eq_some_iff, ← exists_and_right]
    refine exists_congr fun text => ?_
    rw [Text.readWord?_eq_some_iff, and_assoc]
  rw [read]
  constructor
  · rintro ⟨value, found, spelled, fits⟩
    obtain ⟨sign, signed, spells⟩ := FieldValue.number?_eq_some_iff.mp spelled
    exact ⟨value, sign, found, signed, spells, word.mp fits⟩
  · rintro ⟨value, sign, found, signed, spells, fits⟩
    exact ⟨value, found, FieldValue.number?_eq_some_iff.mpr ⟨sign, signed, spells⟩, word.mpr fits⟩

theorem contentLength_of_declares {response : Response} {number : Nat}
    (declares : response.Declares number) : response.contentLength = number := by
  unfold contentLength
  rw [declaredLength?_eq_some_iff.mpr declares]
  rfl

theorem contentLength_of_not_declares {response : Response}
    (none : ∀ number, ¬response.Declares number) :
    response.contentLength = response.body.length := by
  refine contentLength_of_none (Option.eq_none_iff_forall_ne_some.mpr fun number declared => ?_)
  exact none number (declaredLength?_eq_some_iff.mp declared)

/-- A value that declares no length: some byte of it is neither blank nor digit nor plus sign, or
none is a digit, or the number that it spells exceeds a word of 64 bits. -/
inductive Undeclaring (value : FieldValue) : Prop
  | stranger (octet : UInt8) (member : octet ∈ value.octets) (blank : isBlankByte octet = false)
      (digit : isDigitByte octet = false) (plus : octet ≠ plusByte)
  | digitless (none : ∀ octet ∈ value.octets, isDigitByte octet = false)
  | excess (sign : List UInt8) (number : Nat) (signed : IsSign sign)
      (spells : Spells sign value.octets number) (large : 2 ^ 64 ≤ number)

theorem not_declares_of_undeclaring {response : Response} {value : FieldValue}
    (found : response.header.first? Http.contentLength = some value)
    (undeclaring : Undeclaring value) (number : Nat) : ¬response.Declares number := by
  rintro ⟨other, sign, foundToo, signed, spells, fits⟩
  rw [found, Option.some_inj] at foundToo
  subst foundToo
  cases undeclaring with
  | stranger octet member blank digit plus =>
    rcases spells.of_mem member with isBlank | isDigit | inSign
    · rw [blank] at isBlank
      cases isBlank
    · rw [digit] at isDigit
      cases isDigit
    · rcases signed with rfl | rfl
      · cases inSign
      · exact plus (List.mem_singleton.mp inSign)
  | digitless none =>
    obtain ⟨octet, member, digit⟩ := spells.exists_digit
    rw [none octet member] at digit
    cases digit
  | excess signToo large signedToo spellsToo exceeds =>
    have read := FieldValue.number?_eq_some_iff.mpr ⟨sign, signed, spells⟩
    rw [FieldValue.number?_eq_some_iff.mpr ⟨signToo, signedToo, spellsToo⟩, Option.some_inj] at read
    omega

/-- **Only a well-formed length overrides that of the body.** If the first declared length, without
the blanks around it, is digits behind a plus sign or none, and the number of them is a word of 64
bits, the response has this length. Under every other header it is as long as its body: where no
length is declared, and where the first value holds a byte of another kind, or no digit, or a number
of more than 64 bits. -/
theorem contentLength_of_header (response : Response) :
    (∀ number, response.Declares number → response.contentLength = number)
      ∧ ((∀ number, ¬response.Declares number) → response.contentLength = response.body.length)
      ∧ (response.header.first? Http.contentLength = none →
        response.contentLength = response.body.length)
      ∧ ∀ value, response.header.first? Http.contentLength = some value → Undeclaring value →
        response.contentLength = response.body.length := by
  refine ⟨fun number => contentLength_of_declares, contentLength_of_not_declares, fun absent => ?_,
    fun value found undeclaring =>
      contentLength_of_not_declares (not_declares_of_undeclaring found undeclaring)⟩
  refine contentLength_of_not_declares ?_
  rintro number ⟨value, sign, found, -⟩
  rw [absent] at found
  cases found

/-- Responses of five bytes with two declared lengths, of which the first one counts: digits between
blanks, digits with a blank inside, and digits behind a minus sign. -/
theorem contentLength_of_header_first :
    let value (text : String) (valid : (Text.bytes text).all isValueByte = true) : FieldValue :=
      ⟨Text.bytes text, valid⟩
    let response (first : FieldValue) : Response :=
      { header := ⟨[(Http.contentLength, first), (Http.contentLength, value "7" (by decide))]⟩
        body := Text.bytes "hello" }
    let padded := value " 042\t" (by decide)
    let divided := value "4 2" (by decide)
    let negative := value "-1" (by decide)
    ((response padded).Declares 42 ∧ (response padded).contentLength = 42)
      ∧ ((∀ number, ¬(response divided).Declares number) ∧ (response divided).contentLength = 5)
      ∧ (Undeclaring negative ∧ (response negative).contentLength = 5)
      ∧ ({ body := Text.bytes "hello" } : Response).contentLength = 5 := by
  intro value response padded divided negative
  have spells : Spells [] padded.octets 42 :=
    .intro [32] [48, 52, 50] [9] (List.all_eq_true.mp (by decide)) (List.all_eq_true.mp (by decide))
      (by decide) (List.all_eq_true.mp (by decide))
  have declares : (response padded).Declares 42 :=
    ⟨padded, [], rfl, .inl rfl, spells, by decide⟩
  have unread : (response divided).declaredLength? = none := by decide
  have undeclared (number : Nat) : ¬(response divided).Declares number := by
    rw [← declaredLength?_eq_some_iff, unread]
    exact Option.some_ne_none number ∘ Eq.symm
  have undeclaring : Undeclaring negative :=
    .stranger 45 (by decide) (by decide) (by decide) (by decide)
  exact ⟨⟨declares, (contentLength_of_header _).1 42 declares⟩,
    ⟨undeclared, (contentLength_of_header (response divided)).2.1 undeclared⟩,
    ⟨undeclaring, (contentLength_of_header (response negative)).2.2.2 negative rfl undeclaring⟩,
    (contentLength_of_header _).2.2.1 rfl⟩

/-- **A plus sign is read over**: a response that declares a signed length has that length. -/
theorem contentLength_of_signed :
    let value : FieldValue := ⟨Text.bytes "+0", by decide⟩
    let response : Response :=
      { header := ⟨[(Http.contentLength, value)]⟩, body := Text.bytes "hello" }
    response.header.first? Http.contentLength = some value
      ∧ (∀ number, ¬Spells [] value.octets number)
      ∧ response.contentLength = 0 ∧ response.body.length = 5 := by
  intro value response
  have inside : plusByte ∈ value.octets := by decide
  refine ⟨rfl, fun number spells => ?_, by decide, by decide⟩
  rcases spells.of_mem inside with blank | digit | inSign
  · cases blank
  · cases digit
  · cases inSign

end Response

end Switchboard.Http
