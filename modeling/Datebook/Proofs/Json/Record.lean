import Datebook.Json.Record
import Datebook.Proofs.Instant.Text
import Datebook.Proofs.Json.Grammar

/-!
# Reading back a record

A value of a known kind is read as it was written, up to what becomes of an instant on paper. From
there it is one step from member to member: the reader takes the comma, the name, the colon and the
value, and finds what follows. An object of known members with different names is therefore read as
these members, in the order in which they were written.

## Main definitions

* `Datebook.Json.Cell.toChars`, `Datebook.Json.Cell.asWritten`: the written form of a value, and the
  value that it stands for.
* `Datebook.Json.Cell.Fits`: a value of a kind, with a number of 64 bits.

## Main results

* `Datebook.Json.readMember_cases`, `Datebook.Json.readMembers_cases`: what reading a member and
  reading all members of an object has found.
* `Datebook.Json.readCell_toChars`
* `Datebook.Json.readMembers_written`
* `Datebook.Json.decodeRecord_object`
-/

namespace Datebook.Json

/-! ### Values -/

namespace Cell

/-- The written form of a value. -/
def toChars : Cell → List Char
  | .number n => Json.number n
  | .text s => Json.text s
  | .instant i => Json.instant i
  | .null => ['n', 'u', 'l', 'l']

/-- The value that the written form of a value stands for. -/
def asWritten : Cell → Cell
  | .instant i => .instant i.asWritten
  | cell => cell

/-- The value is one of the kind, and a number has 64 bits. -/
def Fits : Kind → Cell → Prop
  | .number, .number n => inWord n = true
  | .text, .text _ => True
  | .instant, .instant _ => True
  | .optionalInstant, .instant _ => True
  | .optionalInstant, .null => True
  | _, _ => False

end Cell

/-- A quoted text is read as it was written, after its first quotation mark. -/
theorem bytesOfChars_quoteChars_append (cs : List Char) (rest : Bytes) :
    bytesOfChars (quoteChars cs) ++ rest =
      byte '"' :: (bytesOfChars (cs.flatMap quoteChar) ++ byte '"' :: rest) := by
  rw [bytesOfChars_quoteChars, List.cons_append, List.append_assoc, List.singleton_append]

/-- A text is read as a cell that holds it. -/
theorem readCell_text (s : String) (rest : Bytes) :
    readCell .text (bytesOfChars (text s) ++ rest) = .ok (.text s, rest) := by
  rw [text, bytesOfChars_quoteChars_append, readCell, skipSpace_cons (by decide)]
  dsimp only
  rw [readCellFrom, if_neg (by decide), if_pos (by decide), readString_flatMap_quoteChar,
    String.ofList_toList]
  rfl

/-- An instant is read as a cell that holds what was written of it. -/
theorem readCell_instant {kind : Kind} (hkind : kind = .instant ∨ kind = .optionalInstant)
    (i : Instant) (rest : Bytes) :
    readCell kind (bytesOfChars (instant i) ++ rest) = .ok (.instant i.asWritten, rest) := by
  have hnumber : ¬ (kind = .number ∧ startsNumber (byte '"') = true) := by
    rintro ⟨rfl, -⟩
    simp at hkind
  have htext : ¬ (kind = .text ∧ byte '"' = byte '"') := by
    rintro ⟨rfl, -⟩
    simp at hkind
  have hread : Instant.ofRelaxed? (String.ofList i.toChars) = some i.asWritten := i.ofRelaxed?_text
  rw [instant, bytesOfChars_quoteChars_append, readCell, skipSpace_cons (by decide)]
  dsimp only
  rw [readCellFrom, if_neg hnumber, if_neg htext, if_pos ⟨hkind, rfl⟩, readInstant,
    readString_flatMap_quoteChar]
  simp only [ok_bind, hread]

/-- A number of 64 bits is read as a cell that holds it. -/
theorem readCell_number {n : Int} (hn : inWord n = true) {rest : Bytes} (h : EndsNumber rest) :
    readCell .number (bytesOfChars (number n) ++ rest) = .ok (.number n, rest) := by
  obtain ⟨b, bs, hbs, hstarts⟩ := exists_bytesOfChars_number_eq n
  rw [readCell, hbs, List.cons_append, skipSpace_cons (isSpace_of_startsNumber hstarts)]
  dsimp only
  rw [readCellFrom, if_pos ⟨rfl, hstarts⟩, ← List.cons_append, ← hbs, readInteger_number hn h]
  rfl

/-- A number that is read as a cell, of whatever size, is the one that was written. -/
theorem eq_of_readCell_number {n : Int} {rest left : Bytes} {cell : Cell} (hends : EndsNumber rest)
    (h : readCell .number (bytesOfChars (number n) ++ rest) = .ok (cell, left)) :
    cell = .number n := by
  obtain ⟨b, bs, hbs, hstarts⟩ := exists_bytesOfChars_number_eq n
  rw [readCell, hbs, List.cons_append, skipSpace_cons (isSpace_of_startsNumber hstarts)] at h
  dsimp only at h
  rw [readCellFrom, if_pos ⟨rfl, hstarts⟩, ← List.cons_append, ← hbs] at h
  obtain ⟨⟨m, r⟩, hm, hcell⟩ := bind_eq_ok_iff.mp h
  obtain ⟨rfl, -⟩ := eq_of_readInteger_number hends hm
  simp only [Except.ok.injEq, Prod.mk.injEq] at hcell
  exact hcell.1.symm

/-- A value is read as what was written of it. -/
theorem readCell_toChars {kind : Kind} {cell : Cell} (hfits : cell.Fits kind) {rest : Bytes}
    (h : EndsNumber rest) :
    readCell kind (bytesOfChars cell.toChars ++ rest) = .ok (cell.asWritten, rest) := by
  cases kind <;> cases cell <;> simp only [Cell.Fits] at hfits
  case number.number n => exact readCell_number hfits h
  case text.text s => exact readCell_text s rest
  case instant.instant i => exact readCell_instant (Or.inl rfl) i rest
  case optionalInstant.instant i => exact readCell_instant (Or.inr rfl) i rest
  case optionalInstant.null =>
    rw [Cell.toChars]
    iterate 4 rw [bytesOfChars_cons (by decide)]
    rfl

/-! ### What was read -/

/-- A known member is read as a cell of its kind after a colon, and is what is found. -/
theorem readMember_cases {layout : Layout} {seen : List String} {name : String} {bs left : Bytes}
    {found : Members} (h : readMember layout seen name bs = .ok (found, left)) :
    layout.lookup name = none ∧ found = [] ∨
      ∃ kind atCell cell, layout.lookup name = some kind ∧ expectColon bs = .ok atCell ∧
        readCell kind atCell = .ok (cell, left) ∧ found = [(name, cell)] := by
  rw [readMember] at h
  split at h
  · next kind hkind =>
    split at h
    · simp at h
    · obtain ⟨atCell, hcolon, h⟩ := bind_eq_ok_iff.mp h
      obtain ⟨⟨cell, rest⟩, hcell, h⟩ := bind_eq_ok_iff.mp h
      simp only [Except.ok.injEq, Prod.mk.injEq] at h
      obtain ⟨rfl, rfl⟩ := h
      exact Or.inr ⟨kind, atCell, cell, hkind, hcolon, hcell, rfl⟩
  · next hnone =>
    obtain ⟨atValue, -, h⟩ := bind_eq_ok_iff.mp h
    obtain ⟨rest, -, h⟩ := bind_eq_ok_iff.mp h
    simp only [Except.ok.injEq, Prod.mk.injEq] at h
    exact Or.inl ⟨hnone, h.1.symm⟩

/-- The members of an object are none, or a first member and those that are read after it. -/
theorem readMembers_cases {layout : Layout} {first : Bool} {seen : List String} {bs rest : Bytes}
    {members : Members} (h : readMembers layout first seen bs = .ok (members, rest)) :
    nextItem .object first bs = .ok (false, rest) ∧ members = [] ∨
      ∃ atKey name atValue found left others,
        nextItem .object first bs = .ok (true, atKey) ∧ readKey atKey = .ok (name, atValue) ∧
          readMember layout seen name atValue = .ok (found, left) ∧
          readMembers layout false (found.map Prod.fst ++ seen) left = .ok (others, rest) ∧
          members = found ++ others := by
  rw [readMembers] at h
  split at h
  · simp at h
  · next r hitem =>
    simp only [Except.ok.injEq, Prod.mk.injEq] at h
    obtain ⟨rfl, rfl⟩ := h
    exact Or.inl ⟨hitem, rfl⟩
  · next r hitem =>
    split at h
    · simp at h
    · next name r' hkey =>
      split at h
      · simp at h
      · next found left hmember =>
        split at h
        · simp at h
        · next others r'' hothers =>
          simp only [Except.ok.injEq, Prod.mk.injEq] at h
          obtain ⟨rfl, rfl⟩ := h
          exact Or.inr ⟨r, name, r', found, left, others, hitem, hkey, hmember, hothers, rfl⟩

/-! ### Members -/

variable {layout : Layout} {seen : List String} {rest : Bytes}

/-- A known member that was not read before is read as what was written of it. -/
theorem readMember_toChars {name : String} {kind : Kind} {cell : Cell}
    (hkind : layout.lookup name = some kind) (hfits : cell.Fits kind) (hseen : name ∉ seen)
    (h : EndsNumber rest) :
    readMember layout seen name (byte ':' :: (bytesOfChars cell.toChars ++ rest)) =
      .ok ([(name, cell.asWritten)], rest) := by
  have hcolon (bs : Bytes) : expectColon (byte ':' :: bs) = .ok bs := rfl
  rw [readMember, hkind]
  dsimp only
  rw [if_neg hseen, hcolon]
  simp only [ok_bind, readCell_toChars hfits h]

/-- The reader of an object goes from one member to the next. -/
theorem readMembers_step {first : Bool} {seen : List String} {bs atKey atValue : Bytes}
    {name : String} (hitem : nextItem .object first bs = .ok (true, atKey))
    (hkey : readKey atKey = .ok (name, atValue)) :
    readMembers layout first seen bs =
      readMember layout seen name atValue >>= fun r =>
        readMembers layout false (r.1.map Prod.fst ++ seen) r.2 >>= fun others =>
          .ok (r.1 ++ others.1, others.2) := by
  rw [readMembers]
  split
  · next heq => simp [hitem] at heq
  · next heq => simp [hitem] at heq
  · next heq =>
    obtain rfl := snd_eq_of_ok (hitem.symm.trans heq)
    split
    · next hbad => simp [hkey] at hbad
    · next hok =>
      obtain ⟨rfl, rfl⟩ := Prod.mk.inj (Except.ok.inj (hkey.symm.trans hok))
      split
      · next hbad => rw [hbad, error_bind]
      · next hok =>
        rw [hok, ok_bind]
        split
        · next hbad => rw [hbad, error_bind]
        · next hok => rw [hok, ok_bind]

theorem readMembers_of_readMember {first : Bool} {bs atKey atValue left : Bytes} {name : String}
    {found others : Members} (hitem : nextItem .object first bs = .ok (true, atKey))
    (hkey : readKey atKey = .ok (name, atValue))
    (hmember : readMember layout seen name atValue = .ok (found, left))
    (hothers : readMembers layout false (found.map Prod.fst ++ seen) left = .ok (others, rest)) :
    readMembers layout first seen bs = .ok (found ++ others, rest) := by
  rw [readMembers_step hitem hkey, hmember]
  simp only [ok_bind, hothers]

/-- The written form of a member. -/
def memberChars (m : String × Cell) : List Char :=
  member m.1 m.2.toChars

theorem bytesOfChars_memberChars (m : String × Cell) (bs : Bytes) :
    bytesOfChars (memberChars m) ++ bs =
      byte '"' :: (bytesOfChars (m.1.toList.flatMap quoteChar) ++ byte '"' :: byte ':' ::
        (bytesOfChars m.2.toChars ++ bs)) := by
  rw [memberChars, member, bytesOfChars_append, bytesOfChars_cons (by decide), List.append_assoc,
    text, bytesOfChars_quoteChars_append, List.cons_append]

/-- The members of a record are known, have different names, and hold what the layout says. -/
structure Conforms (layout : Layout) (members : Members) : Prop where
  /-- No two members have the same name. -/
  nodup : (members.map Prod.fst).Nodup
  /-- Each member holds a value of the kind that it is known with. -/
  fits : ∀ m ∈ members, ∃ kind, layout.lookup m.1 = some kind ∧ m.2.Fits kind

theorem Conforms.tail {m : String × Cell} {ms : Members} (h : Conforms layout (m :: ms)) :
    Conforms layout ms where
  nodup := (List.nodup_cons.mp h.nodup).2
  fits := fun _ hm => h.fits _ (List.mem_cons_of_mem m hm)

theorem endsNumber_comma (bs : Bytes) : EndsNumber (byte ',' :: bs) :=
  endsNumber_append_cons isBlank_nil (Or.inl rfl) bs

/-- What follows a member that was written: a comma and another, or the end of the object. -/
theorem endsNumber_members (ms : Members) (rest : Bytes) :
    EndsNumber
      (bytesOfChars (ms.flatMap fun m => ',' :: memberChars m) ++ byte '\x7d' :: rest) := by
  cases ms with
  | nil => exact endsNumber_append_cons isBlank_nil (Or.inr ⟨.object, rfl⟩) rest
  | cons m ms =>
    rw [List.flatMap_cons, List.cons_append, bytesOfChars_cons (by decide)]
    exact endsNumber_comma _

/-- A known member is read first, and the members after it are read from there. -/
theorem readMembers_memberChars {first : Bool} {m : String × Cell} {ms others : Members}
    {bs : Bytes} (hconforms : Conforms layout (m :: ms)) (hseen : m.1 ∉ seen)
    (hitem : nextItem .object first bs = .ok (true, bytesOfChars (memberChars m) ++
      (bytesOfChars (ms.flatMap fun m => ',' :: memberChars m) ++ byte '\x7d' :: rest)))
    (hothers : readMembers layout false (m.1 :: seen)
      (bytesOfChars (ms.flatMap fun m => ',' :: memberChars m) ++ byte '\x7d' :: rest) =
        .ok (others, rest)) :
    readMembers layout first seen bs = .ok ((m.1, m.2.asWritten) :: others, rest) := by
  obtain ⟨kind, hkind, hfits⟩ := hconforms.fits m List.mem_cons_self
  have hmember := readMember_toChars hkind hfits hseen (endsNumber_members ms rest)
  rw [bytesOfChars_memberChars] at hitem
  refine readMembers_of_readMember hitem ?_ hmember hothers
  rw [readKey, if_pos rfl, readString_flatMap_quoteChar, String.ofList_toList]

/-- Members that follow others are read as what was written of them. -/
theorem readMembers_written {members : Members} (hconforms : Conforms layout members)
    (hseen : ∀ m ∈ members, m.1 ∉ seen) :
    readMembers layout false seen
        (bytesOfChars (members.flatMap fun m => ',' :: memberChars m) ++ byte '\x7d' :: rest) =
      .ok (members.map fun m => (m.1, m.2.asWritten), rest) := by
  induction members generalizing seen with
  | nil =>
    rw [readMembers]
    rfl
  | cons m ms ih =>
    rw [List.forall_mem_cons] at hseen
    have hnames : m.1 ∉ ms.map Prod.fst := (List.nodup_cons.mp hconforms.nodup).1
    refine readMembers_memberChars hconforms hseen.1 ?_ (ih hconforms.tail ?_)
    · rw [List.flatMap_cons, List.cons_append, bytesOfChars_cons (by decide), bytesOfChars_append,
        List.cons_append, List.append_assoc, bytesOfChars_memberChars]
      rfl
    · intro m' hm'
      rw [List.mem_cons, not_or]
      refine ⟨?_, hseen.2 m' hm'⟩
      intro h
      exact hnames (h ▸ List.mem_map_of_mem hm')

/-! ### Records -/

theorem commaSeparated_cons (part : List Char) (parts : List (List Char)) :
    commaSeparated (part :: parts) = part ++ parts.flatMap fun part => ',' :: part := by
  induction parts generalizing part with
  | nil => simp [commaSeparated]
  | cons next parts ih =>
    have hnext : commaSeparated (part :: next :: parts) =
        part ++ ',' :: commaSeparated (next :: parts) := rfl
    rw [hnext, ih, List.flatMap_cons, List.cons_append]

/-- **An object of known members is read as what was written of them.** -/
theorem decodeRecord_object {α : Type} {members : Members} (hconforms : Conforms layout members)
    (make : Members → Except ReadError α) :
    decodeRecord layout make
        (bytesOfChars (object (members.map fun m => (m.1, m.2.toChars)))) =
      make (members.map fun m => (m.1, m.2.asWritten)) := by
  have hread : readRecord layout
      (bytesOfChars (object (members.map fun m => (m.1, m.2.toChars)))) =
        .ok (members.map fun m => (m.1, m.2.asWritten), []) := by
    have hopen (bs : Bytes) :
        readRecord layout (byte '\x7b' :: bs) = readMembers layout true [] bs := rfl
    rw [object, List.cons_append, bytesOfChars_cons (by decide), bytesOfChars_append,
      bytesOfChars_cons (by decide), show bytesOfChars [] = [] from rfl, hopen]
    cases members with
    | nil =>
      rw [readMembers]
      rfl
    | cons m ms =>
      have hparts : ((m :: ms).map fun m => (m.1, m.2.toChars)).map (fun m => member m.1 m.2) =
          memberChars m :: ms.map memberChars := by
        rw [List.map_map]
        rfl
      rw [hparts, commaSeparated_cons, List.flatMap_map, bytesOfChars_append, List.append_assoc]
      refine readMembers_memberChars hconforms List.not_mem_nil ?_
        (readMembers_written hconforms.tail ?_)
      · rw [bytesOfChars_memberChars]
        rfl
      · intro m' hm' hmem
        have hnames : m.1 ∉ ms.map Prod.fst := (List.nodup_cons.mp hconforms.nodup).1
        exact hnames (List.mem_singleton.mp hmem ▸ List.mem_map_of_mem hm')
  rw [decodeRecord, hread]
  simp only [ok_bind]
  cases make (members.map fun m => (m.1, m.2.asWritten)) <;> rfl

end Datebook.Json
