import Datebook.Http.Request
import Datebook.Proofs.Event.KnownMembers
import Datebook.Proofs.Instant.Strict
import Mathlib.Data.List.Nodup

/-!
# Dates in queries and in bodies

The date in a query is read by the strict reader, with plain dates beside, and the instants in a
body by the relaxed one. Where the strict reader has an answer it is also that of the relaxed
reader, so that a text that stands for an instant in a query stands for the same instant in a body.
An instant that was written into a body can be put into a query, in the years in which its text is
strict.

## Main definitions

* `Datebook.Event.Carries`: the values that a body holds for the members of an event.

## Main results

* `Datebook.Event.onTime_of_carries`
* `Datebook.Http.date?_text`
* `Datebook.Http.dates_agree`
-/

namespace Datebook

namespace Event

open Json

variable {ms : List (String × Bytes)} {body : Bytes} {i : Instant}

/-- A body is an object with these members, in which no known name comes twice, or an array of the
values of these members, which are then the first of an event. -/
inductive Carries (ms : List (String × Bytes)) (body : Bytes) : Prop
  | object {held : List (Bytes × Bytes)} (holds : Holds .object held body)
    (spelled : List.Forall₂ Spelled ms held)
    (nodup : ((ms.filter (isKnown layout)).map Prod.fst).Nodup)
  | array {held : List (Bytes × Bytes)} (holds : Holds .array held body)
    (few : held.length ≤ layout.length) (named_eq : ms = named (held.map Prod.snd))

theorem Carries.nodup (h : Carries ms body) :
    ((ms.filter (isKnown layout)).map Prod.fst).Nodup := by
  cases h with
  | object holds spelled nodup => exact nodup
  | array holds few named_eq =>
    rw [named_eq]
    exact (nodup_named _).sublist (List.filter_sublist.map _)

/-- A body is read as its members are read alone. -/
theorem Carries.toOption_decode (h : Carries ms body) :
    (decode body).toOption = readAlone? layout ofMembers ms := by
  cases h with
  | object holds spelled nodup => exact toOption_decodeRecord_object ofMembers spelled nodup holds
  | array holds few named_eq =>
    rw [named_eq]
    exact toOption_decodeRecord_array ofMembers nodup_layout few holds

/-- A member that is found has its own cell. -/
theorem lookup_found {name : String} {v : Bytes} {cell : Cell}
    (hnodup : ((ms.filter (isKnown layout)).map Prod.fst).Nodup) (hmem : (name, v) ∈ ms)
    (hcell : cell? layout (name, v) = some cell) : (found layout ms).lookup name = some cell := by
  have hknown : isKnown layout (name, v) = true := by
    by_contra hunknown
    rw [cell?_of_not_isKnown (Bool.not_eq_true _ ▸ hunknown)] at hcell
    cases hcell
  rw [← found_filter_isKnown, lookup_eq_some_iff_mem (hnodup.sublist (map_fst_found_sublist _)),
    found, List.mem_filterMap]
  exact ⟨(name, v), List.mem_filter.mpr ⟨hmem, hknown⟩, by rw [hcell]; rfl⟩

/-- The cell of a string that spells an instant. -/
theorem cell?_onTime {text : String} {spelling : Bytes} (hspells : Spells spelling text.toList)
    (h : Instant.ofRelaxed? text = some i) :
    cell? layout ("onTime", byte '"' :: (spelling ++ [byte '"'])) = some (.instant i) := by
  have hread : readCell .instant (byte '"' :: (spelling ++ [byte '"'])) = .ok (.instant i, []) := by
    have hcell : readCell .instant (byte '"' :: (spelling ++ [byte '"'])) =
        readInstant (spelling ++ [byte '"']) := rfl
    rw [hcell, readInstant, readString_of_spells hspells []]
    simp [ok_bind, h]
  have hkind : layout.lookup "onTime" = some .instant := rfl
  rw [cell?, hkind, Option.bind_some, hread]
  rfl

/-- **A body that begins at a text is read, if its other members are, and begins at the instant that
the text stands for.** -/
theorem onTime_of_carries (hbody : Carries ms body) {text : String} {spelling : Bytes}
    (hspells : Spells spelling text.toList) (h : Instant.ofRelaxed? text = some i)
    (hmem : ("onTime", byte '"' :: (spelling ++ [byte '"'])) ∈ ms) :
    ((∃ e, decode body = .ok e) ↔ ∀ m ∈ ms, m.1 ≠ "onTime" → isReadable layout m = true) ∧
      ∀ e, decode body = .ok e → e.onTime = i := by
  have hcell := cell?_onTime hspells h
  have hdecode := hbody.toOption_decode
  have hreadable : ms.all (isReadable layout) = true ↔
      ∀ m ∈ ms, m.1 ≠ "onTime" → isReadable layout m = true := by
    rw [List.all_eq_true]
    refine ⟨fun hall m hm _ => hall m hm, fun hothers m hm => ?_⟩
    by_cases hname : m.1 = "onTime"
    · -- The name is known, so that it comes once.
      have hknown : isKnown layout m = true := by
        rw [isKnown, hname]
        rfl
      obtain rfl := List.inj_on_of_nodup_map hbody.nodup (List.mem_filter.mpr ⟨hm, hknown⟩)
        (List.mem_filter.mpr ⟨hmem, rfl⟩) hname
      rw [isReadable, hcell]
      exact Bool.or_true _
    · exact hothers m hm hname
  rw [readAlone?] at hdecode
  constructor
  · rw [← hreadable]
    constructor
    · rintro ⟨e, he⟩
      by_contra hnot
      rw [if_neg hnot, he] at hdecode
      cases hdecode
    · intro hall
      rw [if_pos hall] at hdecode
      cases hresult : decode body with
      | ok e => exact ⟨e, rfl⟩
      | error e =>
        rw [hresult] at hdecode
        cases hdecode
  · intro e he
    rw [he] at hdecode
    split at hdecode
    · obtain rfl := Option.some.inj hdecode
      rw [ofMembers, Members.instant?, lookup_found hbody.nodup hmem hcell]
      rfl
    · cases hdecode

end Event

namespace Http

open Json (Spells byte bytesOf bytesOfChars isBlank_nil spells_bytesOfChars)
open Text (trimChars)

/-! ### The date in a query -/

/-- The written form of an instant is read in the years from 0 to 9999, as what it stands for. -/
theorem date?_text (i : Instant) :
    date? i.text =
      if 0 ≤ i.date.year ∧ i.date.year ≤ 9999 then some i.asWritten else none := by
  rw [date?, Instant.text, String.toList_ofList, Instant.trimChars_toChars]
  split
  · next h => rw [Instant.ofStrict?_toChars h, Option.some_or]
  · next h =>
    rw [Instant.ofStrict?_toChars_eq_none h, Instant.ofPlainDate?_toChars, Option.or_none]

/-- A plain date of the years from 0 to 9999, and the same with the time of its midnight. -/
theorem exists_date?_eq {date : Date} (hdate : date.isValid = true)
    (h : 0 ≤ date.year ∧ date.year ≤ 9999) :
    ∃ i, Instant.midnight? date.dayNumber = some i ∧
      date? (String.ofList (Instant.dateChars date)) = some i ∧
      date? (String.ofList (Instant.dateChars date ++ "T00:00:00Z".toList)) = some i := by
  obtain ⟨i, hmidnight, hsame, hleap, hchars⟩ := Instant.exists_midnight?_of_year hdate h
  have htext : date? i.text = some i := by
    rw [date?_text, hsame, if_pos h, Instant.asWritten_eq_self hleap]
  refine ⟨i, hmidnight, ?_, ?_⟩
  · rw [date?, String.toList_ofList, Instant.trimChars_dateChars,
      Instant.ofStrict?_dateChars hdate h, Option.none_or, Instant.ofPlainDate?_dateChars hdate,
      hmidnight]
  · rwa [← hchars]

/-- **Dates mean the same in queries and in bodies.** A text in the strict form, which may have
white space around it in a query, stands for an instant there; a body that begins at the text
without the white space is read, if its other members are, and begins at that instant. Of the
instants that a text stands for at all, those in the years from 0 to 9999 are the ones that can be
put into a query as they are written. A plain date of these years is the same as its midnight. -/
theorem dates_agree :
    (∀ text i, Instant.ofStrict? (trimChars text.toList) = some i →
      date? text = some i ∧
      ∀ ms body spelling, Event.Carries ms body → Spells spelling (trimChars text.toList) →
        ("onTime", byte '"' :: (spelling ++ [byte '"'])) ∈ ms →
        ((∃ e, Event.decode body = .ok e) ↔
          ∀ m ∈ ms, m.1 ≠ "onTime" → Json.isReadable Event.layout m = true) ∧
        ∀ e, Event.decode body = .ok e → e.onTime = i) ∧
    (∀ i : Instant, date? i.text = some i ↔
      (0 ≤ i.date.year ∧ i.date.year ≤ 9999) ∧ ∃ s, Instant.ofRelaxed? s = some i) ∧
    ∀ date : Date, date.isValid = true → 0 ≤ date.year ∧ date.year ≤ 9999 →
      ∃ i, Instant.midnight? date.dayNumber = some i ∧
        date? (String.ofList (Instant.dateChars date)) = some i ∧
        date? (String.ofList (Instant.dateChars date ++ "T00:00:00Z".toList)) = some i := by
  refine ⟨fun text i h => ⟨?_, fun ms body spelling hbody hspells hmem => ?_⟩, fun i => ?_,
    fun date => exists_date?_eq⟩
  · rw [date?, h]
    rfl
  · have htrimmed : (Text.trim text).toList = trimChars text.toList := String.toList_ofList
    rw [← htrimmed] at h hspells
    exact Event.onTime_of_carries hbody hspells (Instant.ofRelaxed?_of_ofStrict? h) hmem
  · rw [date?_text, ← Instant.leapEndsMinute_iff]
    constructor
    · intro hread
      split at hread
      · next hyear =>
        have hsame : i.asWritten = i := Option.some.inj hread
        refine ⟨hyear, Instant.leapEndsMinute_iff.mpr ⟨i.text, ?_⟩⟩
        rw [Instant.ofRelaxed?_text, hsame]
      · cases hread
    · rintro ⟨hyear, hleap⟩
      rw [if_pos hyear, Instant.asWritten_eq_self hleap]

/-- A leap second of the year 0 with ten digits of a fraction, ahead of universal time, in which it
comes within the last hour of the year before. -/
def newYear : List Char :=
  "0000-01-01T00:59:60.1234567891+01:30".toList

/-- An event that begins at the leap second. -/
def newYearBody : Json.Bytes :=
  bytesOf "\x7b\"id\":7,\"onTime\":\"0000-01-01T00:59:60.1234567891+01:30\"\x7d"

theorem spells_newYear : Spells (bytesOfChars newYear) newYear := by
  have hplain : (newYear.all fun c => c ≠ '"' ∧ c ≠ '\\' ∧ 32 ≤ c.toNat) = true := by decide
  exact spells_bytesOfChars fun c hc => of_decide_eq_true (List.all_eq_true.mp hplain c hc)

theorem carries_newYearBody :
    Event.Carries [("id", bytesOf "7"),
      ("onTime", byte '"' :: (bytesOfChars newYear ++ [byte '"']))] newYearBody := by
  have hid : Spells (bytesOfChars "id".toList) "id".toList := spells_bytesOfChars (by simp)
  have honTime : Spells (bytesOfChars "onTime".toList) "onTime".toList :=
    spells_bytesOfChars (by simp)
  have hseven : Json.IsJson .value (bytesOf "7") := by
    have hdigits : Json.IsDigits (bytesOf "7") := ⟨by decide, List.all_eq_true.mp (by decide)⟩
    exact .scalar (.number (.unsigned (.parts hdigits (by decide) .none .none)))
  have hitems := Json.IsJson.more (.object isBlank_nil hid.isStringBody isBlank_nil)
    isBlank_nil hseven isBlank_nil
    (.last (.object isBlank_nil honTime.isStringBody isBlank_nil) isBlank_nil
      (.scalar (.string spells_newYear.isStringBody)) isBlank_nil)
  exact .object ⟨[], _, [], isBlank_nil, isBlank_nil, by decide, Or.inr hitems⟩
    (.cons ⟨hid, rfl⟩ (.cons ⟨honTime, rfl⟩ .nil)) (by decide)

/-- The leap second is the same in a query, with white space around it, and in a body. It is written
with a sign, so that it cannot be put into a query again, unlike the last instant of the year 9999.
The leap day of the year 0 is the same as its midnight. -/
theorem newYear_agrees :
    let leap : Instant := ⟨-719529, 84599, 1123456789, by decide, by decide, by decide, by decide⟩
    let last : Instant := ⟨2932896, 86399, 1999999999, by decide, by decide, by decide, by decide⟩
    date? (String.ofList (' ' :: newYear ++ [' '])) = some leap ∧
      (∃ e, Event.decode newYearBody = .ok e ∧ e.onTime = leap) ∧
      date? leap.text ≠ some leap ∧ date? last.text = some last ∧
      date? "0000-02-29" = date? "0000-02-29T00:00:00Z" := by
  intro leap last
  obtain ⟨hstrict, hwritten, hplain⟩ := dates_agree
  have htrim : trimChars (String.ofList (' ' :: newYear ++ [' '])).toList = newYear := by decide
  obtain ⟨hquery, hbody⟩ := hstrict (String.ofList (' ' :: newYear ++ [' '])) leap (by decide)
  obtain ⟨hreads, hbegins⟩ :=
    hbody _ _ _ carries_newYearBody (htrim.symm ▸ spells_newYear) (by decide)
  refine ⟨hquery, ?_, ?_, ?_, ?_⟩
  · obtain ⟨e, he⟩ := hreads.mpr (by decide)
    exact ⟨e, he, hbegins e he⟩
  · exact fun h => absurd ((hwritten leap).mp h).1 (by decide)
  · exact (hwritten last).mpr ⟨by decide, last.text, by decide⟩
  · obtain ⟨i, -, hdate, hmidnight⟩ := hplain ⟨0, 2, 29⟩ (by decide) (by decide)
    exact hdate.trans hmidnight.symm

end Http

end Datebook
