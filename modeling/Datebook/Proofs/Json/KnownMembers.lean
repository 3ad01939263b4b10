import Datebook.Proofs.Json.Alone
import Datebook.Proofs.Json.Record

/-!
# Known members

A record is read from an array of the values of its members, in the order of the layout, or from an
object in which the members may come in any order and others may stand among them. Either way every
value of a known member is read as it would be alone, and those of the others are passed over,
whatever they hold: the record is read if each known member is, and then it consists of them.

## Main definitions

* `Datebook.Json.Holds`: a text is an array or an object that holds certain keys and values.
* `Datebook.Json.cell?`, `Datebook.Json.isReadable`, `Datebook.Json.found`: what becomes of members
  that are read alone.

## Main results

* `Datebook.Json.toOption_readRecord_array`, `Datebook.Json.toOption_readRecord_object`
-/

namespace Datebook.Json

variable {rest : Bytes}

/-! ### Members read alone -/

/-- The cell of a member whose name is known, if its value is read alone as one of its kind. -/
def cell? (layout : Layout) (m : String × Bytes) : Option Cell :=
  (layout.lookup m.1).bind fun kind => (readCell kind m.2).toOption.map Prod.fst

/-- The name of a member is one of the layout. -/
def isKnown (layout : Layout) (m : String × Bytes) : Bool :=
  (layout.lookup m.1).isSome

/-- A member is not known, or its value can be read. -/
def isReadable (layout : Layout) (m : String × Bytes) : Bool :=
  !isKnown layout m || (cell? layout m).isSome

/-- The cells of the known members. -/
def found (layout : Layout) (ms : List (String × Bytes)) : Members :=
  ms.filterMap fun m => (cell? layout m).map (m.1, ·)

variable {layout : Layout} {m : String × Bytes} {ms : List (String × Bytes)}

theorem cell?_of_not_isKnown (h : isKnown layout m = false) : cell? layout m = none := by
  have hnone : layout.lookup m.1 = none := by simpa [isKnown] using h
  rw [cell?, hnone]
  rfl

theorem found_cons (m : String × Bytes) (ms : List (String × Bytes)) :
    found layout (m :: ms) = found layout [m] ++ found layout ms := by
  rw [← List.singleton_append, found, List.filterMap_append]
  rfl

/-- What is found of one member is under its name, and that is known. -/
theorem mem_found_singleton {cell : String × Cell} (h : cell ∈ found layout [m]) :
    cell.1 = m.1 ∧ isKnown layout m = true := by
  obtain ⟨m', hm', hcell⟩ := List.mem_filterMap.mp h
  obtain rfl := List.mem_singleton.mp hm'
  obtain ⟨c, hc, rfl⟩ := Option.map_eq_some_iff.mp hcell
  refine ⟨rfl, ?_⟩
  rw [← Bool.not_eq_false]
  intro hunknown
  rw [cell?_of_not_isKnown hunknown] at hc
  simp at hc

/-! ### Items -/

/-- What comes first in an array or an object needs no comma before it. -/
theorem nextItem_first {frame : Frame} {bs more : Bytes} {b : UInt8}
    (hspace : skipSpace bs = b :: more) (hb : ∀ frame : Frame, b ≠ frame.closing) :
    nextItem frame true bs = .ok (true, b :: more) := by
  rw [nextItem, hspace]
  dsimp only
  rw [if_neg (hb frame), if_pos rfl]

/-- Other items stand behind a comma. -/
theorem nextItem_comma {frame : Frame} {ws inner more : Bytes} {b : UInt8} (hws : IsBlank ws)
    (hinner : skipSpace inner = b :: more) (hb : ∀ frame : Frame, b ≠ frame.closing) :
    nextItem frame false (ws ++ byte ',' :: inner) = .ok (true, b :: more) := by
  rw [nextItem, skipSpace_append_cons hws (by decide)]
  dsimp only
  rw [if_neg (Ne.symm frame.closing_spec.2), if_neg (by simp), if_pos rfl, hinner]
  exact if_neg (hb frame)

theorem nextItem_closing (frame : Frame) (first : Bool) {ws : Bytes} (hws : IsBlank ws)
    (rest : Bytes) : nextItem frame first (ws ++ frame.closing :: rest) = .ok (false, rest) := by
  rw [nextItem, skipSpace_append_cons hws frame.closing_spec.1]
  exact if_pos rfl

/-- The reader of a member of an object goes on with the other members. -/
theorem readMembers_closing (layout : Layout) (first : Bool) (seen : List String) {ws : Bytes}
    (hws : IsBlank ws) (rest : Bytes) :
    readMembers layout first seen (ws ++ Frame.object.closing :: rest) = .ok ([], rest) := by
  have hitem := nextItem_closing .object first hws rest
  rw [readMembers]
  split
  · next heq => simp [hitem] at heq
  · next heq => rw [snd_eq_of_ok (hitem.symm.trans heq)]
  · next heq => simp [hitem] at heq

/-! ### Members of an object -/

/-- A member is read alone, or passed over. -/
theorem toOption_readMember {seen : List String} {ws ws' : Bytes} (hws : IsBlank ws)
    (hws' : IsBlank ws') (hv : IsJson .value m.2) (hrest : EndsNumber rest)
    (hseen : isKnown layout m = true → m.1 ∉ seen) :
    (readMember layout seen m.1 (ws ++ byte ':' :: (ws' ++ (m.2 ++ rest)))).toOption =
      if isReadable layout m then some (found layout [m], rest) else none := by
  rw [readMember]
  cases hkind : layout.lookup m.1 with
  | none =>
    have hunknown : isKnown layout m = false := by simp [isKnown, hkind]
    simp only [expectColon_append hws, ok_bind, skipValue_of_isJson hws' hv hrest]
    simp [isReadable, hunknown, found, cell?_of_not_isKnown hunknown, Except.toOption]
  | some kind =>
    have hknown : isKnown layout m = true := by simp [isKnown, hkind]
    dsimp only
    rw [if_neg (hseen hknown), expectColon_append hws]
    simp only [ok_bind, readCell_append hws' hv hrest]
    cases hcell : readCell kind m.2 with
    | error e =>
      simp [isReadable, hknown, cell?, hkind, hcell, Except.toOption, Except.map, error_bind]
    | ok r =>
      simp [isReadable, cell?, hkind, hcell, Except.toOption, Except.map, found, ok_bind]

/-- From a key on, an object is read if its value is and if what follows it is. -/
theorem toOption_readMembers_cons {key ws ws' left bs : Bytes} {first : Bool} {seen : List String}
    (hkey : Spells key m.1.toList) (hws : IsBlank ws) (hws' : IsBlank ws')
    (hv : IsJson .value m.2) (hleft : EndsNumber left)
    (hseen : isKnown layout m = true → m.1 ∉ seen)
    (hitem : nextItem .object first bs =
      .ok (true, byte '"' :: (key ++ byte '"' :: (ws ++ byte ':' :: (ws' ++ (m.2 ++ left))))))
    (hothers :
      (readMembers layout false ((found layout [m]).map Prod.fst ++ seen) left).toOption =
        if ms.all (isReadable layout) then some (found layout ms, rest) else none) :
    (readMembers layout first seen bs).toOption =
      if (m :: ms).all (isReadable layout) then some (found layout (m :: ms), rest) else none := by
  have hread : readKey (byte '"' ::
      (key ++ byte '"' :: (ws ++ byte ':' :: (ws' ++ (m.2 ++ left))))) =
        .ok (m.1, ws ++ byte ':' :: (ws' ++ (m.2 ++ left))) := by
    rw [readKey, if_pos rfl, readString_of_spells hkey]
  rw [readMembers_step hitem hread, toOption_bind, toOption_readMember hws hws' hv hleft hseen,
    found_cons m ms, List.all_cons]
  cases isReadable layout m with
  | false => rfl
  | true =>
    rw [if_pos rfl, Option.bind_some, toOption_bind, hothers, Bool.true_and]
    split <;> rfl

/-- A member is written with a key that spells its name, and with its value. -/
def Spelled (m : String × Bytes) (held : Bytes × Bytes) : Prop :=
  Spells held.1 m.1.toList ∧ m.2 = held.2

/-- What an object holds is read from the first of its members that is reached. -/
theorem toOption_readMembers {held : List (Bytes × Bytes)} {text bs : Bytes}
    (hspelled : List.Forall₂ Spelled ms held) (h : IsJson (.items .object held) text)
    (hnodup : ((ms.filter (isKnown layout)).map Prod.fst).Nodup) {first : Bool}
    {seen : List String} (hseen : ∀ m ∈ ms, isKnown layout m = true → m.1 ∉ seen)
    (hitem : nextItem .object first bs =
      .ok (true, skipSpace (text ++ Frame.object.closing :: rest))) :
    (readMembers layout first seen bs).toOption =
      if ms.all (isReadable layout) then some (found layout ms, rest) else none := by
  induction hspelled generalizing text bs first seen with
  | nil => cases h
  | @cons m stored ms held hm hms ih =>
    obtain ⟨key, v⟩ := stored
    obtain ⟨hkey, rfl⟩ : Spells key m.1.toList ∧ m.2 = v := hm
    have hseenm := hseen m List.mem_cons_self
    cases h with
    | last hlabel hws hv hws' =>
      cases hms
      cases hlabel with
      | object hws₁ _ hws₂ =>
        simp only [List.append_assoc, List.cons_append, List.nil_append] at hitem
        rw [skipSpace_append_cons hws₁ (by decide)] at hitem
        refine toOption_readMembers_cons hkey hws₂ hws hv
          (endsNumber_append_cons hws' (Or.inr ⟨.object, rfl⟩) rest) hseenm hitem ?_
        rw [readMembers_closing layout false _ hws']
        rfl
    | @more _ _ _ _ _ _ text _ hlabel hws hv hws' h =>
      obtain ⟨b, more, hspace, hb⟩ := h.exists_skipSpace (Frame.object.closing :: rest)
      cases hlabel with
      | object hws₁ _ hws₂ =>
        simp only [List.append_assoc, List.cons_append, List.nil_append] at hitem
        rw [skipSpace_append_cons hws₁ (by decide)] at hitem
        refine toOption_readMembers_cons hkey hws₂ hws hv
          (endsNumber_append_cons hws' (Or.inl rfl) (text ++ Frame.object.closing :: rest)) hseenm
          hitem (ih h ?_ ?_ ?_)
        · exact hnodup.sublist (((List.sublist_cons_self m ms).filter _).map _)
        · intro m' hm' hknown'
          rw [List.mem_append, not_or]
          refine ⟨fun hmem => ?_, hseen m' (List.mem_cons_of_mem m hm') hknown'⟩
          -- A name that comes twice would be that of two known members.
          obtain ⟨cell, hcell, hname⟩ := List.mem_map.mp hmem
          obtain ⟨hcellName, hknown⟩ := mem_found_singleton hcell
          rw [List.filter_cons_of_pos hknown, List.map_cons, List.nodup_cons] at hnodup
          refine hnodup.1 (List.mem_map.mpr ⟨m', List.mem_filter.mpr ⟨hm', hknown'⟩, ?_⟩)
          exact hname.symm.trans hcellName
        · rw [hspace]
          exact nextItem_comma hws' hspace hb

/-! ### Values of an array -/

/-- An array may end before its values are those of all members. -/
theorem readElements_closing (layout : Layout) (first : Bool) {ws : Bytes} (hws : IsBlank ws)
    (rest : Bytes) :
    readElements layout first (ws ++ Frame.array.closing :: rest) = .ok ([], rest) := by
  cases layout with
  | nil =>
    have hend : expectEnd (ws ++ Frame.array.closing :: rest) = .ok rest := by
      rw [expectEnd, skipSpace_append_cons hws Frame.array.closing_spec.1]
      exact if_pos rfl
    rw [readElements, hend]
    rfl
  | cons known layout =>
    rw [readElements, nextItem_closing .array first hws]
    rfl

/-- From a value on, an array is read if the value is and if what follows it is. -/
theorem toOption_readElements_cons {name : String} {kind : Kind} {others : Layout}
    {v left bs : Bytes} {first : Bool} (hkind : layout.lookup name = some kind)
    (hv : IsJson .value v) (hleft : EndsNumber left)
    (hitem : nextItem .array first bs = .ok (true, v ++ left))
    (hothers : (readElements others false left).toOption =
      if ms.all (isReadable layout) then some (found layout ms, rest) else none) :
    (readElements ((name, kind) :: others) first bs).toOption =
      if ((name, v) :: ms).all (isReadable layout) then some (found layout ((name, v) :: ms), rest)
      else none := by
  have hread := readCell_append isBlank_nil hv hleft kind
  rw [List.nil_append] at hread
  have hstep : readElements ((name, kind) :: others) first bs =
      (readCell kind v >>= fun r =>
        readElements others false left >>= fun more => .ok ((name, r.1) :: more.1, more.2)) := by
    rw [readElements, hitem]
    simp only [ok_bind, if_true, hread]
    cases readCell kind v <;> rfl
  rw [hstep, toOption_bind, List.all_cons, found_cons]
  cases hcell : readCell kind v with
  | error e =>
    have hbad : isReadable layout (name, v) = false := by
      simp [isReadable, isKnown, cell?, hkind, hcell, Except.toOption]
    rw [hbad]
    rfl
  | ok r =>
    have hgood : isReadable layout (name, v) = true := by
      simp [isReadable, cell?, hkind, hcell, Except.toOption]
    have hfound : found layout [(name, v)] = [(name, r.1)] := by
      simp [found, cell?, hkind, hcell, Except.toOption]
    have hok : (Except.ok r : Except ReadError (Cell × Bytes)).toOption = some r := rfl
    rw [hgood, hfound, Bool.true_and, hok, Option.bind_some, toOption_bind, hothers]
    split <;> rfl

/-- The values that are left in an array are those of the next members. -/
theorem toOption_readElements {held : List (Bytes × Bytes)} {text bs : Bytes} {next : Layout}
    (hnext : ∀ p ∈ next, layout.lookup p.1 = some p.2) (hfew : held.length ≤ next.length)
    (h : IsJson (.items .array held) text) {first : Bool}
    (hitem : nextItem .array first bs =
      .ok (true, skipSpace (text ++ Frame.array.closing :: rest))) :
    (readElements next first bs).toOption =
      if ((next.map Prod.fst).zip (held.map Prod.snd)).all (isReadable layout) then
        some (found layout ((next.map Prod.fst).zip (held.map Prod.snd)), rest)
      else none := by
  have hvalue {ws v : Bytes} (hws : IsBlank ws) (hv : IsJson .value v) (left : Bytes) :
      skipSpace (ws ++ (v ++ left)) = v ++ left := by
    obtain ⟨b, more, rfl, hspace, -⟩ := hv.exists_cons
    exact skipSpace_append_cons hws hspace _
  induction held generalizing text bs next first with
  | nil => cases h
  | cons stored held ih =>
    match next with
    | [] => simp at hfew
    | (name, kind) :: others =>
      rw [List.forall_mem_cons] at hnext
      cases h with
      | last hlabel hws hv hws' =>
        cases hlabel
        simp only [List.nil_append, List.append_assoc, hvalue hws hv] at hitem
        refine toOption_readElements_cons hnext.1 hv
          (endsNumber_append_cons hws' (Or.inr ⟨.array, rfl⟩) rest) hitem ?_
        rw [readElements_closing others false hws']
        cases others <;> rfl
      | @more _ _ _ _ _ _ text _ hlabel hws hv hws' h =>
        obtain ⟨b, more, hspace, hb⟩ := h.exists_skipSpace (Frame.array.closing :: rest)
        cases hlabel
        simp only [List.nil_append, List.append_assoc, List.cons_append, hvalue hws hv] at hitem
        refine toOption_readElements_cons hnext.1 hv
          (endsNumber_append_cons hws' (Or.inl rfl) (text ++ Frame.array.closing :: rest)) hitem
          (ih hnext.2 (Nat.le_of_succ_le_succ hfew) h ?_)
        rw [hspace]
        exact nextItem_comma hws' hspace hb

/-! ### Records -/

/-- The text is an array or an object with exactly these keys and values, with white space around
it. -/
def Holds (frame : Frame) (held : List (Bytes × Bytes)) (text : Bytes) : Prop :=
  ∃ ws body ws', IsBlank ws ∧ IsBlank ws' ∧
    text = ws ++ frame.opening :: (body ++ frame.closing :: ws') ∧
    (held = [] ∧ IsBlank body ∨ IsJson (.items frame held) body)

/-- What members make that are read alone. -/
def readAlone? {α : Type} (layout : Layout) (make : Members → α) (ms : List (String × Bytes)) :
    Option α :=
  if ms.all (isReadable layout) then some (make (found layout ms)) else none

theorem toOption_decodeRecord {α : Type} {make : Members → α} {text ws : Bytes} (hws : IsBlank ws)
    (h : (readRecord layout text).toOption =
      if ms.all (isReadable layout) then some (found layout ms, ws) else none) :
    (decodeRecord layout (fun members => .ok (make members)) text).toOption =
      readAlone? layout make ms := by
  have hend : skipSpace ws = [] := by
    have hall := skipSpace_append hws []
    rwa [List.append_nil] at hall
  rw [decodeRecord, toOption_bind, h, readAlone?]
  split
  · simp [ok_bind, hend, Except.toOption]
  · rfl

theorem lookup_eq_some_iff_mem {β : Type} {l : List (String × β)} (hnodup : (l.map Prod.fst).Nodup)
    {name : String} {b : β} : l.lookup name = some b ↔ (name, b) ∈ l := by
  induction l with
  | nil => simp
  | cons p l ih =>
    obtain ⟨name', b'⟩ := p
    rw [List.map_cons, List.nodup_cons] at hnodup
    rw [List.lookup_cons, List.mem_cons, Prod.mk.injEq]
    by_cases hname : name = name'
    · subst hname
      have hnot : (name, b) ∉ l := fun hmem => hnodup.1 (List.mem_map.mpr ⟨_, hmem, rfl⟩)
      simp [hnot, eq_comm]
    · have hbeq : (name == name') = false := beq_eq_false_iff_ne.mpr hname
      simp [hbeq, hname, ih hnodup.2]

/-- **A record is read from an array as its members are read alone.** -/
theorem toOption_decodeRecord_array {α : Type} (make : Members → α) {held : List (Bytes × Bytes)}
    {text : Bytes} (hlayout : (layout.map Prod.fst).Nodup) (hfew : held.length ≤ layout.length)
    (h : Holds .array held text) :
    (decodeRecord layout (fun members => .ok (make members)) text).toOption =
      readAlone? layout make ((layout.map Prod.fst).zip (held.map Prod.snd)) := by
  obtain ⟨ws, body, ws', hws, hws', rfl, hbody⟩ := h
  have hopen :
      readRecord layout (ws ++ Frame.array.opening :: (body ++ Frame.array.closing :: ws')) =
        readElements layout true (body ++ Frame.array.closing :: ws') := by
    rw [readRecord, skipSpace_append_cons hws (by decide)]
    rfl
  refine toOption_decodeRecord hws' ?_
  rw [hopen]
  rcases hbody with ⟨rfl, hblank⟩ | hitems
  · rw [readElements_closing layout true hblank]
    cases layout <;> rfl
  · obtain ⟨b, more, hspace, hb⟩ := hitems.exists_skipSpace (Frame.array.closing :: ws')
    refine toOption_readElements (fun p hp => (lookup_eq_some_iff_mem hlayout).mpr hp) hfew hitems
      ?_
    rw [hspace]
    exact nextItem_first hspace hb

/-- **A record is read from an object as its known members are read alone.** -/
theorem toOption_decodeRecord_object {α : Type} (make : Members → α) {held : List (Bytes × Bytes)}
    {text : Bytes} (hspelled : List.Forall₂ Spelled ms held)
    (hnodup : ((ms.filter (isKnown layout)).map Prod.fst).Nodup) (h : Holds .object held text) :
    (decodeRecord layout (fun members => .ok (make members)) text).toOption =
      readAlone? layout make ms := by
  obtain ⟨ws, body, ws', hws, hws', rfl, hbody⟩ := h
  have hopen : readRecord layout
      (ws ++ Frame.object.opening :: (body ++ Frame.object.closing :: ws')) =
        readMembers layout true [] (body ++ Frame.object.closing :: ws') := by
    rw [readRecord, skipSpace_append_cons hws (by decide)]
    rfl
  refine toOption_decodeRecord hws' ?_
  rw [hopen]
  rcases hbody with ⟨rfl, hblank⟩ | hitems
  · rw [readMembers_closing layout true [] hblank]
    cases hspelled
    rfl
  · obtain ⟨b, more, hspace, hb⟩ := hitems.exists_skipSpace (Frame.object.closing :: ws')
    refine toOption_readMembers hspelled hitems hnodup (fun _ _ _ => List.not_mem_nil) ?_
    rw [hspace]
    exact nextItem_first hspace hb

/-! ### The order of members -/

/-- Members that are not known are of no consequence. -/
theorem found_filter_isKnown (ms : List (String × Bytes)) :
    found layout (ms.filter (isKnown layout)) = found layout ms := by
  induction ms with
  | nil => rfl
  | cons m ms ih =>
    rw [found_cons m ms, ← ih, List.filter_cons]
    split
    · rw [← found_cons]
    · next hunknown =>
      have hnone : found layout [m] = [] := by
        simp [found, cell?_of_not_isKnown (Bool.not_eq_true _ ▸ hunknown)]
      rw [hnone, List.nil_append]

theorem all_isReadable_filter (ms : List (String × Bytes)) :
    (ms.filter (isKnown layout)).all (isReadable layout) = ms.all (isReadable layout) := by
  rw [List.all_filter]
  refine List.all_congr rfl fun m => ?_
  cases h : isKnown layout m <;> simp [isReadable, h]

theorem lookup_eq_of_perm {β : Type} {l l' : List (String × β)} (hnodup : (l.map Prod.fst).Nodup)
    (h : l.Perm l') (name : String) : l.lookup name = l'.lookup name := by
  have hnodup' : (l'.map Prod.fst).Nodup := (h.map Prod.fst).nodup_iff.mp hnodup
  ext b
  rw [lookup_eq_some_iff_mem hnodup, lookup_eq_some_iff_mem hnodup', h.mem_iff]

theorem map_fst_found_sublist (ms : List (String × Bytes)) :
    ((found layout ms).map Prod.fst).Sublist (ms.map Prod.fst) := by
  induction ms with
  | nil => exact .slnil
  | cons m ms ih =>
    rw [found_cons, List.map_append, List.map_cons]
    cases hcell : cell? layout m with
    | none =>
      have hnone : found layout [m] = [] := by simp [found, hcell]
      rw [hnone]
      exact ih.cons m.1
    | some cell =>
      have hsome : found layout [m] = [(m.1, cell)] := by simp [found, hcell]
      rw [hsome]
      exact ih.cons_cons m.1

/-- Members that are not known, and the order of those that are, make no difference to a record that
is made from its members by their names. -/
theorem readAlone?_eq_of_perm {α : Type} {make : Members → α} {known : List (String × Bytes)}
    (hmake : ∀ members members' : Members,
      (∀ name, members.lookup name = members'.lookup name) → make members = make members')
    (hnodup : (known.map Prod.fst).Nodup) (h : (ms.filter (isKnown layout)).Perm known) :
    readAlone? layout make ms = readAlone? layout make known := by
  have hall : ms.all (isReadable layout) = known.all (isReadable layout) := by
    rw [← all_isReadable_filter]
    exact h.all_eq
  have hfound : (found layout ms).Perm (found layout known) := by
    rw [← found_filter_isKnown]
    exact h.filterMap _
  rw [readAlone?, readAlone?, hall]
  split
  · have hnames : ((found layout known).map Prod.fst).Nodup :=
      hnodup.sublist (map_fst_found_sublist known)
    exact congrArg some (hmake _ _ fun name => (lookup_eq_of_perm hnames hfound.symm name).symm)
  · rfl

end Datebook.Json
