import Datebook.Proofs.Json.Grammar

/-!
# Values read alone

Where a value of a known kind is asked for, what becomes of a value of the grammar depends on
neither the white space before it nor what follows it: it is read as it would be alone, or fails
with the problem that it would have alone, and where it is read nothing else is. A string that
spells characters, each for itself or escaped, is read as these characters.

## Main definitions

* `Datebook.Json.Settles`: a reader comes to the same outcome on a text whatever follows.
* `Datebook.Json.Spells`: the characters that a string stands for.

## Main results

* `Datebook.Json.settles_readString`, `Datebook.Json.settles_readNumber`
* `Datebook.Json.readString_of_spells`
* `Datebook.Json.readCell_append`
-/

namespace Datebook.Json

variable {α : Type} {rest : Bytes}

/-- A reader comes to the same outcome on a text whatever follows, as long as it does not go on like
a number, and leaves what follows. -/
def Settles (read : Bytes → Except ReadError (α × Bytes)) (bs : Bytes) : Prop :=
  ∃ outcome : Except ReadError α, ∀ rest, EndsNumber rest →
    read (bs ++ rest) = outcome.map (·, rest)

theorem settles_of_error {read : Bytes → Except ReadError (α × Bytes)} {bs : Bytes} (e : ReadError)
    (h : ∀ rest, EndsNumber rest → read (bs ++ rest) = .error e) : Settles read bs :=
  ⟨.error e, h⟩

theorem Settles.congr {read read' : Bytes → Except ReadError (α × Bytes)} {bs bs' : Bytes}
    (h : Settles read' bs') (heq : ∀ rest, read (bs ++ rest) = read' (bs' ++ rest)) :
    Settles read bs := by
  obtain ⟨outcome, houtcome⟩ := h
  exact ⟨outcome, fun rest hrest => (heq rest).trans (houtcome rest hrest)⟩

/-! ### Strings -/

theorem readStringFrom_code {digits : Bytes} {n : Nat} (h : IsCode digits n) (read bs : Bytes) :
    readStringFrom (.unicode none []) read (digits ++ bs) =
      if isLowSurrogate n then .error .malformed
      else if isHighSurrogate n then readStringFrom (.lowMark n) read bs
      else readStringFrom .plain (pushChar n read) bs := by
  obtain ⟨a, b, c, d, rfl, hvalue⟩ := h.exists_eq
  have hseen : readStringFrom (.unicode none []) read ([a, b, c, d] ++ bs) =
      readStringFrom (.unicode none [a, b, c]) read (d :: bs) := rfl
  rw [hseen, readStringFrom.eq_def]
  simp only [List.length_cons, List.length_nil, Nat.lt_irrefl, if_false, List.cons_append,
    List.nil_append, hvalue]

theorem readStringFrom_lowCode {digits : Bytes} {n : Nat} (h : IsCode digits n) (high : Nat)
    (read bs : Bytes) :
    readStringFrom (.unicode (some high) []) read (digits ++ bs) =
      if isLowSurrogate n then readStringFrom .plain (pushChar (pairValue high n) read) bs
      else .error .malformed := by
  obtain ⟨a, b, c, d, rfl, hvalue⟩ := h.exists_eq
  have hseen : readStringFrom (.unicode (some high) []) read ([a, b, c, d] ++ bs) =
      readStringFrom (.unicode (some high) [a, b, c]) read (d :: bs) := rfl
  rw [hseen, readStringFrom.eq_def]
  simp only [List.length_cons, List.length_nil, Nat.lt_irrefl, if_false, List.cons_append,
    List.nil_append, hvalue]

/-- A string settles what is read of it, both from the text itself and where the second half of a
pair is awaited. -/
theorem settles_readStringFrom {body : Bytes} (h : IsStringBody body) :
    (∀ read, Settles (readStringFrom .plain read) (body ++ [byte '"'])) ∧
      ∀ high read, Settles (readStringFrom (.lowMark high) read) (body ++ [byte '"']) := by
  induction h with
  | empty =>
    refine ⟨fun read => ?_, fun high read =>
      settles_of_error .malformed fun rest _ => if_neg (by decide)⟩
    cases htext : textOf? read.reverse with
    | none =>
      refine settles_of_error .malformed fun rest _ => ?_
      rw [List.nil_append, List.singleton_append, readStringFrom, if_pos rfl, htext]
    | some s =>
      refine ⟨.ok s, fun rest _ => ?_⟩
      rw [List.nil_append, List.singleton_append, readStringFrom, if_pos rfl, htext]
      rfl
  | @plain b bs self _ ih =>
    refine ⟨fun read => (ih.1 (b :: read)).congr fun rest => ?_,
      fun high read => settles_of_error .malformed fun rest _ => if_neg self.2.1⟩
    rw [List.cons_append, List.cons_append, readStringFrom, if_neg self.1, if_neg self.2.1,
      if_neg self.2.2]
  | @short letter c bs known _ ih =>
    obtain ⟨hescape, hletter, -⟩ := shortEscape?_of_mem _ known
    refine ⟨fun read => (ih.1 (byte c :: read)).congr fun rest => ?_,
      fun high read => settles_of_error .malformed fun rest _ => ?_⟩
    · simp only [List.cons_append]
      rw [readStringFrom, if_neg (by decide), if_pos rfl, readStringFrom, if_neg hletter, hescape]
    · simp only [List.cons_append]
      rw [readStringFrom, if_pos rfl]
      exact if_neg hletter
  | @code digits bs n code _ ih =>
    constructor
    · intro read
      have hread (rest : Bytes) : readStringFrom .plain read
          (byte '\\' :: byte 'u' :: (digits ++ bs) ++ [byte '"'] ++ rest) =
            readStringFrom (.unicode none []) read (digits ++ (bs ++ [byte '"'] ++ rest)) := by
        simp only [List.cons_append, List.append_assoc]
        rw [readStringFrom, if_neg (by decide), if_pos rfl, readStringFrom, if_pos rfl]
      by_cases hlow : isLowSurrogate n = true
      · refine settles_of_error .malformed fun rest _ => ?_
        rw [hread, readStringFrom_code code, if_pos hlow]
      by_cases hhigh : isHighSurrogate n = true
      · refine (ih.2 n read).congr fun rest => ?_
        rw [hread, readStringFrom_code code, if_neg hlow, if_pos hhigh]
      · refine (ih.1 (pushChar n read)).congr fun rest => ?_
        rw [hread, readStringFrom_code code, if_neg hlow, if_neg hhigh]
    · intro high read
      have hread (rest : Bytes) : readStringFrom (.lowMark high) read
          (byte '\\' :: byte 'u' :: (digits ++ bs) ++ [byte '"'] ++ rest) =
            readStringFrom (.unicode (some high) []) read
              (digits ++ (bs ++ [byte '"'] ++ rest)) := by
        simp only [List.cons_append, List.append_assoc]
        rw [readStringFrom, if_pos rfl, readStringFrom, if_pos rfl]
      by_cases hlow : isLowSurrogate n = true
      · refine (ih.1 (pushChar (pairValue high n) read)).congr fun rest => ?_
        rw [hread, readStringFrom_lowCode code, if_pos hlow]
      · refine settles_of_error .malformed fun rest _ => ?_
        rw [hread, readStringFrom_lowCode code, if_neg hlow]

theorem settles_readString {body : Bytes} (h : IsStringBody body) :
    Settles readString (body ++ [byte '"']) :=
  (settles_readStringFrom h).1 []

/-- The number is half of a pair. -/
def IsSurrogate (n : Nat) : Prop :=
  isLowSurrogate n = true ∨ isHighSurrogate n = true

/-- What stands between the quotation marks of a key stands for characters: each for itself, or
escaped by a letter, by its number, or by the pair of numbers of its halves. -/
inductive Spells : Bytes → List Char → Prop
  | empty : Spells [] []
  | plain {c : Char} {bs : Bytes} {cs : List Char} (hquote : c ≠ '"') (hbackslash : c ≠ '\\')
    (hspace : 32 ≤ c.toNat) (h : Spells bs cs) : Spells (String.utf8EncodeChar c ++ bs) (c :: cs)
  | short {letter c : Char} {bs : Bytes} {cs : List Char} (known : (letter, c) ∈ shortEscapes)
    (h : Spells bs cs) : Spells (byte '\\' :: byte letter :: bs) (c :: cs)
  | code {digits bs : Bytes} {n : Nat} {cs : List Char} (code : IsCode digits n)
    (hwhole : ¬ IsSurrogate n) (h : Spells bs cs) :
    Spells (byte '\\' :: byte 'u' :: (digits ++ bs)) (Char.ofNat n :: cs)
  | pair {digits digits' bs : Bytes} {high low : Nat} {cs : List Char} (code : IsCode digits high)
    (code' : IsCode digits' low) (hhigh : isHighSurrogate high = true)
    (hlow : isLowSurrogate low = true) (h : Spells bs cs) :
    Spells (byte '\\' :: byte 'u' :: (digits ++ byte '\\' :: byte 'u' :: (digits' ++ bs)))
      (Char.ofNat (pairValue high low) :: cs)

theorem isStringBody_append {bs : Bytes} (h : ∀ b ∈ bs, StandsForItself b) {more : Bytes}
    (hmore : IsStringBody more) : IsStringBody (bs ++ more) := by
  induction bs with
  | nil => exact hmore
  | cons b bs ih =>
    rw [List.forall_mem_cons] at h
    exact .plain h.1 (ih h.2)

/-- What spells characters may stand in a string. -/
theorem Spells.isStringBody {body : Bytes} {cs : List Char} (h : Spells body cs) :
    IsStringBody body := by
  induction h with
  | empty => exact .empty
  | plain hquote hbackslash hspace _ ih =>
    exact isStringBody_append (fun _ => standsForItself_of_mem hquote hbackslash hspace) ih
  | short known _ ih => exact .short known ih
  | code code _ _ ih => exact .code code ih
  | pair code code' _ _ _ ih => exact .code code (.code code' ih)

/-- Characters that need no escape spell themselves. -/
theorem spells_bytesOfChars {cs : List Char}
    (h : ∀ c ∈ cs, c ≠ '"' ∧ c ≠ '\\' ∧ 32 ≤ c.toNat) : Spells (bytesOfChars cs) cs := by
  induction cs with
  | nil => exact .empty
  | cons c cs ih =>
    rw [List.forall_mem_cons] at h
    exact .plain h.1.1 h.1.2.1 h.1.2.2 (ih h.2)

theorem readStringFrom_of_spells {body : Bytes} {cs : List Char} (h : Spells body cs)
    (read rest : Bytes) :
    readStringFrom .plain read (body ++ rest) =
      readStringFrom .plain ((bytesOfChars cs).reverse ++ read) rest := by
  induction h generalizing read with
  | empty => rfl
  | plain hquote hbackslash hspace _ ih =>
    rw [List.append_assoc,
      readStringFrom_append fun _ => standsForItself_of_mem hquote hbackslash hspace, ih]
    simp [bytesOfChars]
  | @short letter c bs cs known _ ih =>
    obtain ⟨hescape, hletter, -, hascii⟩ := shortEscape?_of_mem _ known
    rw [List.cons_append, List.cons_append, readStringFrom, if_neg (by decide), if_pos rfl,
      readStringFrom, if_neg hletter, hescape]
    dsimp only
    rw [ih, bytesOfChars_cons hascii, List.reverse_cons, List.append_assoc, List.singleton_append]
  | code code hwhole _ ih =>
    rw [IsSurrogate, not_or] at hwhole
    rw [List.cons_append, List.cons_append, List.append_assoc, readStringFrom,
      if_neg (by decide), if_pos rfl, readStringFrom, if_pos rfl, readStringFrom_code code,
      if_neg hwhole.1, if_neg hwhole.2, ih]
    simp [bytesOfChars, pushChar]
  | @pair digits digits' bs high low cs code code' hhigh hlow _ ih =>
    have hnotLow : isLowSurrogate high ≠ true := by
      intro hboth
      simp only [isHighSurrogate, isLowSurrogate, Bool.and_eq_true, decide_eq_true_eq] at hhigh hboth
      omega
    simp only [List.cons_append, List.append_assoc]
    rw [readStringFrom, if_neg (by decide), if_pos rfl, readStringFrom, if_pos rfl,
      readStringFrom_code code, if_neg hnotLow, if_pos hhigh, readStringFrom, if_pos rfl,
      readStringFrom, if_pos rfl, readStringFrom_lowCode code', if_pos hlow, ih]
    simp [bytesOfChars, pushChar]

/-- A key is read as the name that it spells. -/
theorem readString_of_spells {body : Bytes} {name : String} (h : Spells body name.toList)
    (rest : Bytes) : readString (body ++ byte '"' :: rest) = .ok (name, rest) := by
  rw [readString, readStringFrom_of_spells h, List.append_nil, readStringFrom, if_pos rfl,
    List.reverse_reverse, textOf?_bytesOfChars, String.ofList_toList]

/-! ### Numbers -/

theorem readDigits_append {ds : Bytes} (hds : IsDigits ds) (h : EndsDigits rest) :
    readDigits (ds ++ rest) = .ok (ds, rest) := by
  obtain ⟨htake, hdrop⟩ := takeWhile_isDigit_append hds.digits h
  rw [readDigits, htake, hdrop, if_neg (by simp [hds.nonempty]), if_neg hds.nonempty]

theorem exists_readFraction {fraction : Bytes} (h : IsFraction fraction) :
    ∃ found, ∀ rest, EndsFraction rest →
      readFraction (fraction ++ rest) = .ok (found, rest) := by
  cases h with
  | none =>
    refine ⟨none, fun rest hrest => ?_⟩
    match rest with
    | [] => rfl
    | b :: rest => exact if_neg (hrest b rfl).2
  | @some ds hds =>
    refine ⟨some ds, fun rest hrest => ?_⟩
    rw [List.cons_append, readFraction, if_pos rfl,
      readDigits_append hds fun b hb => (hrest b hb).1]
    rfl

theorem exists_readExponent {exponent : Bytes} (h : IsExponent exponent) :
    ∃ found, ∀ rest, EndsNumber rest →
      readExponent (exponent ++ rest) = .ok (found, rest) := by
  cases h with
  | none => exact ⟨none, fun rest hrest => readExponent_of_endsNumber hrest⟩
  | @some mark sign ds hmark hsign hds =>
    obtain ⟨negative, hnegative⟩ := exponentSign_append hsign hds
    refine ⟨some (if negative then -Int.ofNat (digitsValue ds) else Int.ofNat (digitsValue ds)),
      fun rest hrest => ?_⟩
    rw [List.cons_append, readExponent, if_pos hmark, hnegative]
    simp only [readDigits_append hds hrest.endsDigits, ok_bind]

theorem settles_readUnsigned {bs : Bytes} (h : IsUnsigned bs) : Settles readUnsigned bs := by
  obtain @⟨whole, fraction, exponent, hwhole, hzero, hfraction, hexponent⟩ := h
  obtain ⟨point, hpoint⟩ := exists_readFraction hfraction
  obtain ⟨scale, hscale⟩ := exists_readExponent hexponent
  refine ⟨if exceedsFloat whole (point.getD []) (scale.getD 0) then .error .malformed
    else .ok (if point.isNone && scale.isNone then some (digitsValue whole) else none),
    fun rest hrest => ?_⟩
  have hends := hexponent.endsFraction hrest
  have hread : readWhole (whole ++ (fraction ++ (exponent ++ rest))) =
      .ok (whole, fraction ++ (exponent ++ rest)) := by
    simp only [readWhole, readDigits_append hwhole (hfraction.endsDigits hends), ok_bind,
      hasLeadingZero_eq_false hzero, Bool.false_eq_true, if_false]
  simp only [readUnsigned, List.append_assoc, hread, hpoint _ hends, hscale _ hrest, ok_bind]
  split
  · rfl
  · split <;> rfl

theorem settles_readNumber {bs : Bytes} (h : IsNumber bs) : Settles readNumber bs := by
  cases h with
  | unsigned h =>
    obtain ⟨b, more, rfl, hb⟩ := h.exists_cons
    have hminus : b ≠ byte '-' := by rintro rfl; exact absurd hb (by decide)
    obtain ⟨outcome, houtcome⟩ := settles_readUnsigned h
    refine ⟨outcome.map (·.map Int.ofNat), fun rest hrest => ?_⟩
    rw [List.cons_append, readNumber, if_neg hminus, ← List.cons_append, houtcome rest hrest]
    cases outcome <;> rfl
  | negative h =>
    obtain ⟨outcome, houtcome⟩ := settles_readUnsigned h
    refine ⟨outcome.map (·.bind fun n => if n = 0 then none else some (-Int.ofNat n)),
      fun rest hrest => ?_⟩
    rw [List.cons_append, readNumber, if_pos rfl, houtcome rest hrest]
    cases outcome <;> rfl

theorem settles_readInteger {bs : Bytes} (h : IsNumber bs) : Settles readInteger bs := by
  obtain ⟨outcome, houtcome⟩ := settles_readNumber h
  obtain e | _ | n := outcome
  · exact settles_of_error e fun rest hrest => by rw [readInteger, houtcome rest hrest]; rfl
  · exact settles_of_error .mismatch fun rest hrest => by
      rw [readInteger, houtcome rest hrest]
      rfl
  · refine ⟨if inWord n then .ok n else .error .mismatch, fun rest hrest => ?_⟩
    have hread : readInteger (bs ++ rest) =
        if inWord n then .ok (n, rest) else .error .mismatch := by
      rw [readInteger, houtcome rest hrest]
      rfl
    rw [hread]
    split <;> rfl

/-! ### Values -/

theorem mismatchAfter_map {β : Type} (outcome : Except ReadError α) (f : α → β) :
    mismatchAfter (outcome.map f) = mismatchAfter outcome := by
  cases outcome <;> rfl

/-- The problem with a value of the wrong kind lies in the value. -/
theorem exists_wrongValue {v : Bytes} (h : IsJson .value v) :
    ∃ e, ∀ rest, EndsNumber rest → wrongValue (v ++ rest) = e := by
  have hframe (frame : Frame) (bs : Bytes) : wrongValue (frame.opening :: bs) = .mismatch := by
    rw [wrongValue, frame.opening_spec.2.1]
    rfl
  cases h with
  | empty => exact ⟨.mismatch, fun rest _ => hframe _ _⟩
  | full => exact ⟨.mismatch, fun rest _ => hframe _ _⟩
  | scalar h =>
    cases h with
    | word h =>
      refine ⟨.mismatch, fun rest hrest => ?_⟩
      have hskip := skipScalar_append (.word h) hrest
      have hwrong : wrongValue (v ++ rest) = mismatchAfter (skipScalar (v ++ rest)) := by
        rcases h with rfl | rfl | rfl <;> rfl
      rw [hwrong, hskip]
      rfl
    | @string body h =>
      obtain ⟨outcome, houtcome⟩ := settles_readString h
      refine ⟨mismatchAfter outcome, fun rest hrest => ?_⟩
      have hwrong : wrongValue (byte '"' :: (body ++ [byte '"']) ++ rest) =
          mismatchAfter (readString (body ++ [byte '"'] ++ rest)) := rfl
      rw [hwrong, houtcome rest hrest, mismatchAfter_map]
    | number h =>
      obtain ⟨b, bs, rfl, hb⟩ := h.startsNumber
      obtain ⟨outcome, houtcome⟩ := settles_readNumber h
      refine ⟨mismatchAfter outcome, fun rest hrest => ?_⟩
      have hne {c : UInt8} (hc : startsNumber c = false) : b ≠ c := by
        rintro rfl
        simp [hb] at hc
      have hopen : openFrame? b = none := by
        rw [openFrame?, if_neg (hne (by decide)), if_neg (hne (by decide))]
      rw [List.cons_append, wrongValue, hopen, if_neg (by simp), if_neg (hne (by decide)),
        if_pos hb, ← List.cons_append, houtcome rest hrest, mismatchAfter_map]

theorem readCell_cons {b : UInt8} (hb : isSpace b = false) (kind : Kind) (bs : Bytes) :
    readCell kind (b :: bs) = readCellFrom kind b bs := by
  rw [readCell, skipSpace_cons hb]

theorem settles_readInstant {body : Bytes} (h : IsStringBody body) :
    Settles readInstant (body ++ [byte '"']) := by
  obtain ⟨outcome, houtcome⟩ := settles_readString h
  cases outcome with
  | error e =>
    refine settles_of_error e fun rest hrest => ?_
    rw [readInstant, houtcome rest hrest]
    rfl
  | ok s =>
    have hread {rest : Bytes} (hrest : EndsNumber rest) :
        readInstant (body ++ [byte '"'] ++ rest) =
          ((Instant.ofRelaxed? s).elim (.error .mismatch) fun i => .ok (.instant i, rest)) := by
      rw [readInstant, houtcome rest hrest]
      cases hinstant : Instant.ofRelaxed? s <;> simp [Except.map, ok_bind, hinstant]
    refine ⟨(Instant.ofRelaxed? s).elim (.error .mismatch) fun i => .ok (.instant i),
      fun rest hrest => ?_⟩
    rw [hread hrest]
    cases Instant.ofRelaxed? s <;> rfl

/-- A value of another kind than the one that is asked for is refused whatever follows it. -/
theorem settles_of_wrongValue {v : Bytes} (h : IsJson .value v) {kind : Kind}
    (hcell : ∀ rest, readCell kind (v ++ rest) = .error (wrongValue (v ++ rest))) :
    Settles (readCell kind) v := by
  obtain ⟨e, hwrong⟩ := exists_wrongValue h
  exact settles_of_error e fun rest hrest => by rw [hcell, hwrong rest hrest]

theorem settles_readCell_word {w : Bytes}
    (h : w = bytesOf "null" ∨ w = bytesOf "true" ∨ w = bytesOf "false") (kind : Kind) :
    Settles (readCell kind) w := by
  have hjson : IsJson .value w := .scalar (.word h)
  rcases h with rfl | rfl | rfl
  · cases kind with
    | optionalInstant =>
      refine ⟨.ok .null, fun rest hrest => ?_⟩
      have hcell : readCell .optionalInstant (bytesOf "null" ++ rest) =
          (do .ok (.null, ← expectWord (bytesOf "ull") (bytesOf "ull" ++ rest))) := rfl
      rw [hcell, expectWord_append]
      rfl
    | number | text | instant => exact settles_of_wrongValue hjson fun rest => rfl
  all_goals
    refine settles_of_wrongValue hjson fun rest => ?_
    cases kind <;> rfl

theorem settles_readCell_string {body : Bytes} (h : IsStringBody body) (kind : Kind) :
    Settles (readCell kind) (byte '"' :: (body ++ [byte '"'])) := by
  cases kind with
  | number => exact settles_of_wrongValue (.scalar (.string h)) fun rest => rfl
  | text =>
    obtain ⟨outcome, houtcome⟩ := settles_readString h
    refine ⟨outcome.map .text, fun rest hrest => ?_⟩
    have hcell : readCell .text (byte '"' :: (body ++ [byte '"']) ++ rest) =
        (do let r ← readString (body ++ [byte '"'] ++ rest); .ok (.text r.1, r.2)) := rfl
    rw [hcell, houtcome rest hrest]
    cases outcome <;> rfl
  | instant | optionalInstant => exact (settles_readInstant h).congr fun rest => rfl

theorem settles_readCell_number {v : Bytes} (h : IsNumber v) (kind : Kind) :
    Settles (readCell kind) v := by
  have hjson : IsJson .value v := .scalar (.number h)
  obtain ⟨b, bs, rfl, hb⟩ := h.startsNumber
  have hne {c : UInt8} (hc : startsNumber c = false) : b ≠ c := by
    rintro rfl
    simp [hb] at hc
  have hspace := isSpace_of_startsNumber hb
  have hquote := hne (c := byte '"') (by decide)
  have hnull := hne (c := byte 'n') (by decide)
  by_cases hkind : kind = .number
  · obtain ⟨outcome, houtcome⟩ := settles_readInteger h
    refine ⟨outcome.map .number, fun rest hrest => ?_⟩
    rw [List.cons_append, readCell_cons hspace, readCellFrom, if_pos ⟨hkind, hb⟩,
      ← List.cons_append, houtcome rest hrest]
    cases outcome <;> rfl
  · refine settles_of_wrongValue hjson fun rest => ?_
    rw [List.cons_append, readCell_cons hspace, readCellFrom, if_neg (by simp [hkind]),
      if_neg (by simp [hquote]), if_neg (by simp [hquote]), if_neg (by simp [hnull])]

/-- Where a cell of a kind is asked for, a value settles what is read. -/
theorem settles_readCell {v : Bytes} (h : IsJson .value v) (kind : Kind) :
    Settles (readCell kind) v := by
  cases h with
  | scalar hscalar =>
    cases hscalar with
    | word hword => exact settles_readCell_word hword kind
    | number hnumber => exact settles_readCell_number hnumber kind
    | string hbody => exact settles_readCell_string hbody kind
  | @empty frame _ hws =>
    refine settles_of_wrongValue (.empty hws) fun rest => ?_
    cases frame <;> cases kind <;> rfl
  | @full frame _ _ hitems =>
    refine settles_of_wrongValue (.full hitems) fun rest => ?_
    cases frame <;> cases kind <;> rfl

theorem endsNumber_nil : EndsNumber [] := by
  simp [EndsNumber]

/-- **A value is read as it would be alone.** -/
theorem readCell_append {ws v : Bytes} (hws : IsBlank ws) (hv : IsJson .value v)
    (hrest : EndsNumber rest) (kind : Kind) :
    readCell kind (ws ++ (v ++ rest)) = (readCell kind v).map fun r => (r.1, rest) := by
  obtain ⟨outcome, houtcome⟩ := settles_readCell hv kind
  have halone := houtcome [] endsNumber_nil
  rw [List.append_nil] at halone
  have hblank (bs : Bytes) : readCell kind (ws ++ bs) = readCell kind bs := by
    rw [readCell, readCell, skipSpace_append hws]
  rw [hblank, houtcome rest hrest, halone]
  cases outcome <;> rfl

end Datebook.Json
