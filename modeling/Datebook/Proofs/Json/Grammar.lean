import Datebook.Json.Record
import Datebook.Proofs.Json.Text

/-!
# The grammar of JSON

A JSON value is a word, a number, a string, an array or an object. An array holds values, an object
holds keys with values; commas stand between them, and white space may stand around every value and
around every key. A number has any size, and a string holds any bytes but quotation marks,
backslashes and control characters, and escapes of which none has to be half of a pair.

Nothing here refers to a reader. That a reader takes a value of the grammar, and nothing of what
follows it, is proved of each part where the part is defined; what follows must only not go on like
a number.

## Main definitions

* `Datebook.Json.IsStringBody`, `Datebook.Json.IsNumber`, `Datebook.Json.IsScalar`
* `Datebook.Json.IsJson`: values, and what arrays and objects hold.

## Main results

* `Datebook.Json.skipValue_of_isJson`: a value is passed over.
-/

namespace Datebook.Json

/-! ### White space -/

/-- White space, or nothing. -/
def IsBlank (bs : Bytes) : Prop :=
  ∀ b ∈ bs, isSpace b = true

theorem isBlank_nil : IsBlank [] := by
  simp [IsBlank]

theorem skipSpace_append {ws : Bytes} (h : IsBlank ws) (bs : Bytes) :
    skipSpace (ws ++ bs) = skipSpace bs :=
  List.dropWhile_append_of_pos h

/-- White space ends at the first byte that is none. -/
theorem skipSpace_append_cons {ws : Bytes} (h : IsBlank ws) {b : UInt8} (hb : isSpace b = false)
    (bs : Bytes) : skipSpace (ws ++ b :: bs) = b :: bs := by
  rw [skipSpace_append h, skipSpace, List.dropWhile_cons_of_neg (by simp [hb])]

theorem skipSpace_cons {b : UInt8} (h : isSpace b = false) (bs : Bytes) :
    skipSpace (b :: bs) = b :: bs :=
  skipSpace_append_cons isBlank_nil h bs

/-! ### Strings -/

/-- The letters of the short escapes, with the characters that they stand for. -/
def shortEscapes : List (Char × Char) :=
  [('"', '"'), ('\\', '\\'), ('/', '/'), ('b', '\x08'), ('f', '\x0c'), ('n', '\n'), ('r', '\r'),
    ('t', '\t')]

/-- Four hexadecimal digits that stand for a number. -/
structure IsCode (digits : Bytes) (n : Nat) : Prop where
  length : digits.length = 4
  value : hexValue? digits = some n

/-- What may stand between the quotation marks of a string. -/
inductive IsStringBody : Bytes → Prop
  | empty : IsStringBody []
  | plain {b : UInt8} {bs : Bytes} (self : StandsForItself b) (rest : IsStringBody bs) :
    IsStringBody (b :: bs)
  | short {letter c : Char} {bs : Bytes} (known : (letter, c) ∈ shortEscapes)
    (rest : IsStringBody bs) : IsStringBody (byte '\\' :: byte letter :: bs)
  | code {digits bs : Bytes} {n : Nat} (code : IsCode digits n) (rest : IsStringBody bs) :
    IsStringBody (byte '\\' :: byte 'u' :: (digits ++ bs))

theorem shortEscape?_of_mem : ∀ p ∈ shortEscapes,
    shortEscape? (byte p.1) = some (byte p.2) ∧ byte p.1 ≠ byte 'u' ∧ p.1.toNat < 128 ∧
      p.2.toNat < 128 := by
  decide

/-- Four digits are collected before they are looked at. -/
theorem IsCode.exists_eq {digits : Bytes} {n : Nat} (h : IsCode digits n) :
    ∃ a b c d, digits = [a, b, c, d] ∧ hexValue? [a, b, c, d] = some n := by
  obtain ⟨a, b, c, d, rfl⟩ : ∃ a b c d, digits = [a, b, c, d] := by
    match digits, h.length with
    | [a, b, c, d], _ => exact ⟨a, b, c, d, rfl⟩
  exact ⟨a, b, c, d, rfl, h.value⟩

theorem skipStringFrom_code {digits : Bytes} {n : Nat} (h : IsCode digits n) (bs : Bytes) :
    skipStringFrom false (some []) (digits ++ bs) = skipStringFrom false none bs := by
  obtain ⟨a, b, c, d, rfl, hvalue⟩ := h.exists_eq
  have hseen : skipStringFrom false (some []) ([a, b, c, d] ++ bs) =
      skipStringFrom false (some [a, b, c]) (d :: bs) := rfl
  rw [hseen, skipStringFrom]
  simp only [List.length_cons, List.length_nil, Nat.lt_irrefl, if_false, List.cons_append,
    List.nil_append, hvalue]

/-- A string is passed over up to its closing quotation mark. -/
theorem skipString_of_isStringBody {body : Bytes} (h : IsStringBody body) (rest : Bytes) :
    skipString (body ++ byte '"' :: rest) = .ok rest := by
  rw [skipString]
  induction h with
  | empty => rfl
  | @plain b bs self _ ih =>
    rw [List.cons_append, skipStringFrom, if_neg self.1, if_neg self.2.1, if_neg self.2.2, ih]
  | @short letter c bs known _ ih =>
    obtain ⟨hescape, hletter, -⟩ := shortEscape?_of_mem _ known
    rw [List.cons_append, List.cons_append, skipStringFrom, if_neg (by decide), if_pos rfl,
      skipStringFrom, if_neg hletter, hescape]
    exact ih
  | @code digits bs n code _ ih =>
    rw [List.cons_append, List.cons_append, List.append_assoc, skipStringFrom,
      if_neg (by decide), if_pos rfl, skipStringFrom, if_pos rfl, skipStringFrom_code code, ih]

/-! ### Numbers -/

/-- One digit or more. -/
structure IsDigits (ds : Bytes) : Prop where
  nonempty : ds ≠ []
  digits : ∀ d ∈ ds, isDigit d = true

/-- The fraction of a number, if it has one. -/
inductive IsFraction : Bytes → Prop
  | none : IsFraction []
  | some {ds : Bytes} (hds : IsDigits ds) : IsFraction (byte '.' :: ds)

/-- The exponent of a number, if it has one. -/
inductive IsExponent : Bytes → Prop
  | none : IsExponent []
  | some {mark : UInt8} {sign ds : Bytes} (hmark : mark = byte 'e' ∨ mark = byte 'E')
    (hsign : sign = [] ∨ sign = [byte '+'] ∨ sign = [byte '-']) (hds : IsDigits ds) :
    IsExponent (mark :: (sign ++ ds))

/-- A number without a sign. Only a zero alone begins with one. -/
inductive IsUnsigned : Bytes → Prop
  | parts {whole fraction exponent : Bytes} (hwhole : IsDigits whole)
    (hzero : whole.head? = some (byte '0') → whole.length = 1) (hfraction : IsFraction fraction)
    (hexponent : IsExponent exponent) : IsUnsigned (whole ++ (fraction ++ exponent))

/-- A number. -/
inductive IsNumber : Bytes → Prop
  | unsigned {bs : Bytes} (h : IsUnsigned bs) : IsNumber bs
  | negative {bs : Bytes} (h : IsUnsigned bs) : IsNumber (byte '-' :: bs)

/-- The text goes on with neither a digit nor a point. -/
def EndsFraction (rest : Bytes) : Prop :=
  ∀ b ∈ rest.head?, isDigit b = false ∧ b ≠ byte '.'

variable {rest : Bytes}

theorem IsExponent.endsFraction {exponent : Bytes} (h : IsExponent exponent)
    (hrest : EndsNumber rest) : EndsFraction (exponent ++ rest) := by
  cases h with
  | none => exact fun b hb => ⟨(hrest b hb).1, (hrest b hb).2.1⟩
  | some hmark =>
    intro b hb
    obtain rfl := Option.some.inj hb
    rcases hmark with rfl | rfl <;> decide

theorem IsFraction.endsDigits {fraction : Bytes} (h : IsFraction fraction)
    (hrest : EndsFraction rest) : EndsDigits (fraction ++ rest) := by
  cases h with
  | none => exact fun b hb => (hrest b hb).1
  | some =>
    intro b hb
    obtain rfl := Option.some.inj hb
    decide

theorem IsUnsigned.exists_cons {bs : Bytes} (h : IsUnsigned bs) :
    ∃ b more, bs = b :: more ∧ isDigit b = true := by
  obtain @⟨whole, fraction, exponent, hwhole, -, -, -⟩ := h
  obtain ⟨b, more, rfl⟩ := List.exists_cons_of_ne_nil hwhole.nonempty
  exact ⟨b, more ++ (fraction ++ exponent), rfl, hwhole.digits b List.mem_cons_self⟩

theorem IsNumber.startsNumber {bs : Bytes} (h : IsNumber bs) :
    ∃ b more, bs = b :: more ∧ startsNumber b = true := by
  cases h with
  | unsigned h =>
    obtain ⟨b, more, rfl, hb⟩ := h.exists_cons
    exact ⟨b, more, rfl, by simp [Json.startsNumber, hb]⟩
  | negative => exact ⟨_, _, rfl, by decide⟩

theorem hasLeadingZero_eq_false {whole : Bytes}
    (h : whole.head? = some (byte '0') → whole.length = 1) : hasLeadingZero whole = false := by
  simp only [hasLeadingZero, Bool.and_eq_false_iff, beq_eq_false_iff_ne, bne_eq_false_iff_eq]
  exact or_iff_not_imp_left.mpr fun hzero => h (not_not.mp hzero)

theorem skipDigits_append {ds : Bytes} (hds : IsDigits ds) (h : EndsDigits rest) :
    skipDigits (ds ++ rest) = .ok rest := by
  obtain ⟨htake, hdrop⟩ := takeWhile_isDigit_append hds.digits h
  rw [skipDigits, htake, hdrop, if_neg hds.nonempty]

theorem skipFraction_append {fraction : Bytes} (h : IsFraction fraction)
    (hrest : EndsFraction rest) : skipFraction (fraction ++ rest) = .ok rest := by
  cases h with
  | none =>
    match rest with
    | [] => rfl
    | b :: rest => exact if_neg (hrest b rfl).2
  | some hds =>
    rw [List.cons_append, skipFraction, if_pos rfl]
    exact skipDigits_append hds fun b hb => (hrest b hb).1

/-- The sign of an exponent is taken before its digits. -/
theorem exponentSign_append {sign ds : Bytes}
    (hsign : sign = [] ∨ sign = [byte '+'] ∨ sign = [byte '-']) (hds : IsDigits ds) :
    ∃ negative, ∀ rest, exponentSign (sign ++ ds ++ rest) = (negative, ds ++ rest) := by
  rcases hsign with rfl | rfl | rfl
  · obtain ⟨d, more, rfl⟩ := List.exists_cons_of_ne_nil hds.nonempty
    have hd := hds.digits d List.mem_cons_self
    have hminus : d ≠ byte '-' := by rintro rfl; exact absurd hd (by decide)
    have hplus : d ≠ byte '+' := by rintro rfl; exact absurd hd (by decide)
    exact ⟨false, fun rest => by simp [exponentSign, hminus, hplus]⟩
  · exact ⟨false, fun _ => rfl⟩
  · exact ⟨true, fun _ => rfl⟩

theorem skipExponent_append {exponent : Bytes} (h : IsExponent exponent)
    (hrest : EndsNumber rest) : skipExponent (exponent ++ rest) = .ok rest := by
  cases h with
  | none =>
    match rest with
    | [] => rfl
    | b :: rest =>
      obtain ⟨-, -, he, hE⟩ := hrest b rfl
      exact if_neg (by simp [he, hE])
  | some hmark hsign hds =>
    obtain ⟨negative, hexponent⟩ := exponentSign_append hsign hds
    rw [List.cons_append, skipExponent, if_pos hmark, hexponent]
    exact skipDigits_append hds hrest.endsDigits

/-- A number is passed over, whatever its size. -/
theorem skipNumber_append {bs : Bytes} (h : IsNumber bs) (hrest : EndsNumber rest) :
    skipNumber (bs ++ rest) = .ok rest := by
  have hunsigned {bs : Bytes} (h : IsUnsigned bs) :
      (do skipExponent (← skipFraction (← skipWhole (bs ++ rest)))) = .ok rest := by
    obtain @⟨whole, fraction, exponent, hwhole, hzero, hfraction, hexponent⟩ := h
    have hdigits := hfraction.endsDigits (hexponent.endsFraction hrest)
    have hskip : skipWhole (whole ++ (fraction ++ (exponent ++ rest))) =
        .ok (fraction ++ (exponent ++ rest)) := by
      rw [skipWhole, (takeWhile_isDigit_append hwhole.digits hdigits).1,
        hasLeadingZero_eq_false hzero, skipDigits_append hwhole hdigits]
      rfl
    rw [List.append_assoc, List.append_assoc, hskip]
    simp only [ok_bind, skipFraction_append hfraction (hexponent.endsFraction hrest),
      skipExponent_append hexponent hrest]
  cases h with
  | unsigned h =>
    obtain ⟨b, more, rfl, hb⟩ := h.exists_cons
    have hminus : b ≠ byte '-' := by rintro rfl; exact absurd hb (by decide)
    rw [skipNumber, List.cons_append, skipSign, if_neg hminus]
    exact hunsigned h
  | negative h => exact hunsigned h

/-! ### Values -/

/-- A value that holds no other values. -/
inductive IsScalar : Bytes → Prop
  | word {w : Bytes} (h : w = bytesOf "null" ∨ w = bytesOf "true" ∨ w = bytesOf "false") :
    IsScalar w
  | number {bs : Bytes} (h : IsNumber bs) : IsScalar bs
  | string {body : Bytes} (h : IsStringBody body) : IsScalar (byte '"' :: (body ++ [byte '"']))

/-- The byte that opens an array or an object. -/
def Frame.opening : Frame → UInt8
  | .array => byte '['
  | .object => byte '\x7b'

/-- What stands before a value in an array, which is nothing, or in an object, which is a key. -/
inductive IsLabel : Frame → (key : Bytes) → Bytes → Prop
  | array : IsLabel .array [] []
  | object {ws key ws' : Bytes} (hws : IsBlank ws) (hkey : IsStringBody key) (hws' : IsBlank ws') :
    IsLabel .object key (ws ++ (byte '"' :: (key ++ (byte '"' :: (ws' ++ [byte ':'])))))

/-- The parts of a text: a value, or what an array or an object holds, as the values with the keys
that stand before them. -/
inductive Part where
  | value
  | items (frame : Frame) (held : List (Bytes × Bytes))

/-- A text of the grammar of JSON. -/
inductive IsJson : Part → Bytes → Prop
  | scalar {v : Bytes} (h : IsScalar v) : IsJson .value v
  | empty {frame : Frame} {ws : Bytes} (hws : IsBlank ws) :
    IsJson .value (frame.opening :: (ws ++ [frame.closing]))
  | full {frame : Frame} {held : List (Bytes × Bytes)} {text : Bytes}
    (h : IsJson (.items frame held) text) :
    IsJson .value (frame.opening :: (text ++ [frame.closing]))
  | last {frame : Frame} {key label ws v ws' : Bytes} (hlabel : IsLabel frame key label)
    (hws : IsBlank ws) (hv : IsJson .value v) (hws' : IsBlank ws') :
    IsJson (.items frame [(key, v)]) (label ++ (ws ++ (v ++ ws')))
  | more {frame : Frame} {key label ws v ws' text : Bytes} {held : List (Bytes × Bytes)}
    (hlabel : IsLabel frame key label) (hws : IsBlank ws) (hv : IsJson .value v)
    (hws' : IsBlank ws') (h : IsJson (.items frame held) text) :
    IsJson (.items frame ((key, v) :: held)) (label ++ (ws ++ (v ++ (ws' ++ byte ',' :: text))))

/-! ### How values begin -/

/-- A scalar begins with neither white space nor a byte that opens or closes. -/
theorem IsScalar.exists_cons {v : Bytes} (h : IsScalar v) :
    ∃ b bs, v = b :: bs ∧ isSpace b = false ∧ openFrame? b = none ∧
      ∀ frame : Frame, b ≠ frame.closing := by
  have hnumber {b : UInt8} (hb : startsNumber b = true) : isSpace b = false ∧
      openFrame? b = none ∧ ∀ frame : Frame, b ≠ frame.closing := by
    refine ⟨isSpace_of_startsNumber hb, ?_, ?_⟩
    · have harray : b ≠ byte '[' := by rintro rfl; exact absurd hb (by decide)
      have hobject : b ≠ byte '\x7b' := by rintro rfl; exact absurd hb (by decide)
      rw [openFrame?, if_neg harray, if_neg hobject]
    · rintro (_ | _) rfl <;> exact absurd hb (by decide)
  cases h with
  | word h =>
    obtain ⟨b, bs, rfl, hb⟩ :
        ∃ b bs, v = b :: bs ∧ (b = byte 'n' ∨ b = byte 't' ∨ b = byte 'f') := by
      rcases h with rfl | rfl | rfl
      · exact ⟨byte 'n', bytesOf "ull", by decide, by decide⟩
      · exact ⟨byte 't', bytesOf "rue", by decide, by decide⟩
      · exact ⟨byte 'f', bytesOf "alse", by decide, by decide⟩
    refine ⟨b, bs, rfl, ?_⟩
    rcases hb with rfl | rfl | rfl <;> refine ⟨by decide, by decide, ?_⟩ <;>
      rintro (_ | _) <;> decide
  | number h =>
    obtain ⟨b, bs, rfl, hb⟩ := h.startsNumber
    exact ⟨b, bs, rfl, hnumber hb⟩
  | string h => exact ⟨_, _, rfl, by decide, by decide, by rintro (_ | _) <;> decide⟩

theorem Frame.opening_spec (frame : Frame) : isSpace frame.opening = false ∧
    openFrame? frame.opening = some frame ∧ ∀ frame' : Frame, frame.opening ≠ frame'.closing := by
  cases frame <;> refine ⟨by decide, by decide, ?_⟩ <;> rintro (_ | _) <;> decide

theorem Frame.closing_spec (frame : Frame) :
    isSpace frame.closing = false ∧ frame.closing ≠ byte ',' := by
  cases frame <;> decide

/-- A value begins with neither white space nor a closing byte. -/
theorem IsJson.exists_cons {v : Bytes} (h : IsJson .value v) :
    ∃ b bs, v = b :: bs ∧ isSpace b = false ∧ ∀ frame : Frame, b ≠ frame.closing := by
  cases h with
  | scalar h =>
    obtain ⟨b, bs, hv, hspace, -, hclosing⟩ := h.exists_cons
    exact ⟨b, bs, hv, hspace, hclosing⟩
  | @empty frame ws hws => exact ⟨_, _, rfl, frame.opening_spec.1, frame.opening_spec.2.2⟩
  | @full frame held text h => exact ⟨_, _, rfl, frame.opening_spec.1, frame.opening_spec.2.2⟩

/-- What an array or an object holds begins, behind white space, with no closing byte. -/
theorem IsJson.exists_skipSpace {frame : Frame} {held : List (Bytes × Bytes)} {text : Bytes}
    (h : IsJson (.items frame held) text) (rest : Bytes) :
    ∃ b more, skipSpace (text ++ rest) = b :: more ∧ ∀ frame : Frame, b ≠ frame.closing := by
  have hstart {key label ws v : Bytes} (hlabel : IsLabel frame key label) (hws : IsBlank ws)
      (hv : IsJson .value v) (bs : Bytes) :
      ∃ b more, skipSpace (label ++ (ws ++ (v ++ bs))) = b :: more ∧
        ∀ frame : Frame, b ≠ frame.closing := by
    cases hlabel with
    | array =>
      obtain ⟨b, more, rfl, hspace, hclosing⟩ := hv.exists_cons
      exact ⟨b, more ++ bs, skipSpace_append_cons hws hspace _, hclosing⟩
    | object hws' =>
      rw [List.append_assoc, List.cons_append, skipSpace_append_cons hws' (by decide)]
      exact ⟨_, _, rfl, by rintro (_ | _) <;> decide⟩
  cases h with
  | last hlabel hws hv =>
    simp only [List.append_assoc]
    exact hstart hlabel hws hv _
  | more hlabel hws hv =>
    simp only [List.append_assoc]
    exact hstart hlabel hws hv _

/-! ### Passing over a value -/

theorem expectWord_append (word rest : Bytes) : expectWord word (word ++ rest) = .ok rest := by
  induction word with
  | nil => rfl
  | cons w word ih => rw [List.cons_append, expectWord, if_pos rfl, ih]

theorem skipScalar_append {v : Bytes} (h : IsScalar v) (hrest : EndsNumber rest) :
    skipScalar (v ++ rest) = .ok rest := by
  cases h with
  | word h =>
    rcases h with rfl | rfl | rfl
    · exact expectWord_append (bytesOf "ull") rest
    · exact expectWord_append (bytesOf "rue") rest
    · exact expectWord_append (bytesOf "alse") rest
  | string h =>
    rw [List.cons_append, List.append_assoc, skipScalar, if_pos rfl]
    exact skipString_of_isStringBody h rest
  | number h =>
    obtain ⟨b, bs, rfl, hb⟩ := h.startsNumber
    have hne {c : UInt8} (hc : startsNumber c = false) : b ≠ c := by
      rintro rfl
      simp [hb] at hc
    rw [List.cons_append, skipScalar, if_neg (hne (by decide)), if_neg (hne (by decide)),
      if_neg (hne (by decide)), if_neg (hne (by decide)), if_pos hb, ← List.cons_append,
      skipNumber_append h hrest]

theorem expectColon_append {ws : Bytes} (hws : IsBlank ws) (rest : Bytes) :
    expectColon (ws ++ byte ':' :: rest) = .ok rest := by
  rw [expectColon, skipSpace_append_cons hws (by decide)]
  exact if_pos rfl

theorem skipLabel_append {frame : Frame} {key label : Bytes} (h : IsLabel frame key label)
    (rest : Bytes) : skipLabel frame (label ++ rest) = .ok rest := by
  cases h with
  | array => rfl
  | object hws hkey hws' =>
    simp only [List.append_assoc, List.cons_append, List.nil_append, skipLabel, skipKey]
    rw [skipSpace_append_cons hws (by decide)]
    dsimp only
    rw [if_pos rfl, skipString_of_isStringBody hkey]
    exact expectColon_append hws' rest

theorem skipInside_scalar {stack : List Frame} {bs left more : Bytes} {b : UInt8}
    (hspace : skipSpace bs = b :: more) (hopen : openFrame? b = none)
    (hscalar : skipScalar (b :: more) = .ok left) : skipInside stack bs = skipAfter stack left := by
  rw [skipInside]
  split
  · next hnil => simp [hspace] at hnil
  · next b' more' hcons =>
    obtain ⟨rfl, rfl⟩ := List.cons.inj (hspace.symm.trans hcons)
    split
    · split
      · next herror => simp [hscalar] at herror
      · next hok => rw [Except.ok.inj (hscalar.symm.trans hok)]
    · next hsome => simp [hopen] at hsome

/-- An array or an object that is opened is closed at once, or goes on with what it holds. -/
theorem skipInside_opening {stack : List Frame} {frame : Frame} {bs inner more : Bytes}
    {c : UInt8} (hspace : skipSpace bs = frame.opening :: inner)
    (hinner : skipSpace inner = c :: more) :
    skipInside stack bs =
      if c = frame.closing then skipAfter stack more
      else skipLabel frame inner >>= skipInside (frame :: stack) := by
  rw [skipInside]
  split
  · next hnil => simp [hspace] at hnil
  · next b' inner' hcons =>
    obtain ⟨rfl, rfl⟩ := List.cons.inj (hspace.symm.trans hcons)
    split
    · next hnone => simp [frame.opening_spec.2.1] at hnone
    · next frame' hsome =>
      obtain rfl := Option.some.inj (frame.opening_spec.2.1.symm.trans hsome)
      split
      · next hnil => simp [hinner] at hnil
      · next c' more' hcons =>
        obtain ⟨rfl, rfl⟩ := List.cons.inj (hinner.symm.trans hcons)
        split
        · rfl
        · split
          · next herror => rw [herror]; rfl
          · next hok => rw [hok]; rfl

/-- Behind a value stands the end of what it lies in, or a comma and another value. -/
theorem skipAfter_cons {outer : List Frame} {frame : Frame} {bs more : Bytes} {b : UInt8}
    (hspace : skipSpace bs = b :: more) :
    skipAfter (frame :: outer) bs =
      if b = frame.closing then skipAfter outer more
      else if b = byte ',' then skipLabel frame more >>= skipInside (frame :: outer)
      else .error .malformed := by
  rw [skipAfter]
  split
  · next hnil => simp [hspace] at hnil
  · next b' more' hcons =>
    obtain ⟨rfl, rfl⟩ := List.cons.inj (hspace.symm.trans hcons)
    split
    · rfl
    · split
      · split
        · next herror => rw [herror]; rfl
        · next hok => rw [hok]; rfl
      · rfl

/-- What stands behind a value and white space does not go on like a number. -/
theorem endsNumber_append_cons {ws : Bytes} (hws : IsBlank ws) {b : UInt8}
    (hb : b = byte ',' ∨ ∃ frame : Frame, b = frame.closing) (bs : Bytes) :
    EndsNumber (ws ++ b :: bs) := by
  cases ws with
  | nil =>
    intro c hc
    obtain rfl := Option.some.inj hc
    rcases hb with rfl | ⟨_ | _, rfl⟩ <;> decide
  | cons w ws =>
    intro c hc
    obtain rfl := Option.some.inj hc
    have hw : isSpace w = true := hws w List.mem_cons_self
    refine ⟨?_, ?_, ?_, ?_⟩
    · rw [← Bool.not_eq_true]
      intro hdigit
      have hnumber := isSpace_of_startsNumber (b := w) (by simp [startsNumber, hdigit])
      simp [hw] at hnumber
    all_goals
      rintro rfl
      exact absurd hw (by decide)

/-- The reader passes over a part of a text: over a value with the white space before it, and from
inside an array or an object to its end. -/
def PassedOver : Part → Bytes → Prop
  | .value, v => ∀ stack ws rest, IsBlank ws → EndsNumber rest →
    skipInside stack (ws ++ (v ++ rest)) = skipAfter stack rest
  | .items frame _, text => ∀ stack rest,
    (skipLabel frame (text ++ frame.closing :: rest) >>= skipInside (frame :: stack)) =
      skipAfter stack rest

theorem passedOver_of_isJson {part : Part} {text : Bytes} (h : IsJson part text) :
    PassedOver part text := by
  induction h with
  | scalar h =>
    intro stack ws rest hws hrest
    obtain ⟨b, bs, rfl, hspace, hopen, -⟩ := h.exists_cons
    exact skipInside_scalar (skipSpace_append_cons hws hspace _) hopen (skipScalar_append h hrest)
  | @empty frame ws' hws' =>
    intro stack ws rest hws _
    rw [List.cons_append, List.append_assoc, List.singleton_append,
      skipInside_opening (skipSpace_append_cons hws frame.opening_spec.1 _)
        (skipSpace_append_cons hws' frame.closing_spec.1 rest), if_pos rfl]
  | @full frame held text h ih =>
    intro stack ws rest hws _
    obtain ⟨b, more, hinner, hclosing⟩ := h.exists_skipSpace (frame.closing :: rest)
    rw [List.cons_append, List.append_assoc, List.singleton_append,
      skipInside_opening (skipSpace_append_cons hws frame.opening_spec.1 _) hinner,
      if_neg (hclosing frame), ih]
  | @last frame key label ws v ws' hlabel hws hv hws' ih =>
    intro stack rest
    have hends := endsNumber_append_cons hws' (Or.inr ⟨frame, rfl⟩) rest
    simp only [List.append_assoc]
    rw [skipLabel_append hlabel]
    exact (ih _ ws _ hws hends).trans <|
      (skipAfter_cons (skipSpace_append_cons hws' frame.closing_spec.1 rest)).trans (if_pos rfl)
  | @more frame key label ws v ws' text held hlabel hws hv hws' h ih ihmore =>
    intro stack rest
    have hends := endsNumber_append_cons hws' (Or.inl rfl) (text ++ frame.closing :: rest)
    simp only [List.append_assoc, List.cons_append]
    rw [skipLabel_append hlabel]
    refine (ih _ ws _ hws hends).trans <|
      (skipAfter_cons (skipSpace_append_cons hws' (by decide) _)).trans ?_
    rw [if_neg (Ne.symm frame.closing_spec.2), if_pos rfl, ihmore]

/-- **A value is passed over, with the white space before it and nothing after it.** -/
theorem skipValue_of_isJson {ws v : Bytes} (hws : IsBlank ws) (hv : IsJson .value v)
    (hrest : EndsNumber rest) : skipValue (ws ++ (v ++ rest)) = .ok rest := by
  have hpassed := passedOver_of_isJson hv [] ws rest hws hrest
  rw [skipValue, hpassed, skipAfter]

end Datebook.Json
