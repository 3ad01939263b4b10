import Datebook.Proofs.Http.Footprint
import Datebook.Proofs.Json.Text

/-!
# The path of an event

The path of an event ends in its id, written as a decimal numeral. Other paths name the event as
well, with a plus sign, zeros or percent-encoded digits; whichever it is, the number that a path
names has 64 bits, and what is asked of the path is asked of the event with that number.

## Main definitions

* `Datebook.Http.eventPath`

## Main results

* `Datebook.Http.eventId?_eventPath`
* `Datebook.Http.respond?_get`, `Datebook.Http.respond?_put`
-/

namespace Datebook

open Json (Bytes byte bytesOf bytesOfChars)

namespace Text

theorem splitAll_of_notMem {mark : Char} {cs : List Char} (h : mark ∉ cs) :
    splitAll mark cs = [cs] := by
  induction cs with
  | nil => rfl
  | cons c cs ih =>
    rw [List.mem_cons, not_or] at h
    rw [splitAll, if_neg (Ne.symm h.1), ih h.2]

theorem percentDecode_of_notMem {bs : Bytes} (h : byte '%' ∉ bs) : percentDecode bs = bs := by
  fun_induction percentDecode bs with
  | case1 b hi lo rest high low hhigh hlow ih =>
    have hb : b ≠ byte '%' := fun hb => h (hb ▸ List.mem_cons_self)
    simp [hb] at hlow
  | case2 b hi lo rest hnone ih => rw [ih (List.not_mem_of_not_mem_cons h)]
  | case3 b rest hshort ih => rw [ih (List.not_mem_of_not_mem_cons h)]
  | case4 => rfl

end Text

namespace Http

/-- The path of the event with an id. -/
def eventPath (id : Int) : String :=
  "/v1/events/" ++ Numeral.text id

theorem ofPath?_eventPath (id : Int) :
    Route.ofPath? (eventPath id) = some (.event (Numeral.text id)) := by
  have hslash : '/' ∉ Numeral.signed id := by
    intro h
    rcases Numeral.isDigit_or_eq_of_mem_signed h with h | h <;> simp [Numeral.isDigit] at h
  have hpath : (eventPath id).toList = "/v1/events/".toList ++ Numeral.signed id := by
    rw [eventPath, String.toList_append]
    exact congrArg (_ ++ ·) String.toList_ofList
  have hsplit : Text.splitAll '/' ("v1/events/".toList ++ Numeral.signed id) =
      ["v1".toList, "events".toList, Numeral.signed id] := by
    simp [Text.splitAll, Text.splitAll_of_notMem hslash]
  have hroute : Route.ofPath? (eventPath id) =
      Route.ofSegments? ((Text.splitAll '/' ("v1/events/".toList ++ Numeral.signed id)).map
        String.ofList) := by
    rw [Route.ofPath?, hpath]
    rfl
  rw [hroute, hsplit]
  exact if_neg (Numeral.text_ne_empty id)

/-- The path of an event names the event. -/
theorem eventId?_eventPath {r : Request} {id : Int} (hid : Json.inWord id = true)
    (hpath : r.path = eventPath id) : r.eventId? = some id := by
  have hpercent : byte '%' ∉ bytesOf (Numeral.text id) := by
    rw [Numeral.text, Json.bytesOf_ofList, Json.bytesOfChars, List.mem_flatMap]
    rintro ⟨c, hc, hbyte⟩
    have hascii : 45 ≤ c.toNat ∧ c.toNat < 128 := Numeral.toNat_of_mem_signed hc
    rw [Json.utf8EncodeChar_eq_byte hascii.2, List.mem_singleton] at hbyte
    have hcode := congrArg UInt8.toNat hbyte
    rw [Json.toNat_byte hascii.2, Json.toNat_byte (by decide)] at hcode
    have hmark : '%'.toNat = 37 := rfl
    omega
  have htext : Json.textOf? (Text.percentDecode (bytesOf (Numeral.text id))) =
      some (Numeral.text id) := by
    rw [Text.percentDecode_of_notMem hpercent, Numeral.text, Json.bytesOf_ofList,
      Json.textOf?_bytesOfChars]
  have hread : Numeral.readInt Numeral.maxInt64 (Numeral.text id).toList = .ok id := by
    rw [Numeral.text, String.toList_ofList]
    simp only [Json.inWord, Bool.and_eq_true, decide_eq_true_eq] at hid
    exact Numeral.readInt_signed hid.1 hid.2
  have hnumber : readNumber "id" (Numeral.text id) = .ok id := by
    simp only [readNumber, htext, hread]
  rw [Request.eventId?, hpath, ofPath?_eventPath]
  exact congrArg Except.toOption hnumber

/-- A number that a path names has 64 bits. -/
theorem inWord_of_eventId? {r : Request} {id : Int} (h : r.eventId? = some id) :
    Json.inWord id = true := by
  rw [Request.eventId?] at h
  split at h
  · next segment hroute =>
    rw [readNumber] at h
    split at h
    · simp [Except.toOption] at h
    · split at h
      · next n hread =>
        obtain rfl := Option.some.inj h
        have hbounds := Numeral.bounds_of_readInt hread
        simp only [Json.inWord, Bool.and_eq_true, decide_eq_true_eq]
        exact hbounds
      · simp [Except.toOption] at h
  · simp at h

theorem exists_of_eventId? {r : Request} {id : Int} (h : r.eventId? = some id) :
    ∃ segment, Route.ofPath? r.path = some (.event segment) ∧ readNumber "id" segment = .ok id := by
  rw [Request.eventId?] at h
  split at h
  · next segment hroute =>
    refine ⟨segment, hroute, ?_⟩
    cases hread : readNumber "id" segment with
    | error response => simp [hread, Except.toOption] at h
    | ok n =>
      rw [hread] at h
      exact congrArg Except.ok (Option.some.inj h)
  · simp at h

/-- A GET for an event shows the event. -/
theorem respond?_get {cal : Calendar} {r : Request} {id : Int} (hmethod : r.method = .get)
    (hid : r.eventId? = some id) : respond? cal r = some (fetch cal id) := by
  obtain ⟨segment, hroute, hread⟩ := exists_of_eventId? hid
  rw [respond?, hroute]
  simp only [handle?, hmethod, show?, withNumber, hread]

/-- A PUT for an event replaces the event. -/
theorem respond?_put {cal : Calendar} {r : Request} {id : Int} (hmethod : r.method = .put)
    (hid : r.eventId? = some id) : respond? cal r = some (replace cal id r) := by
  obtain ⟨segment, hroute, hread⟩ := exists_of_eventId? hid
  rw [respond?, hroute]
  simp only [handle?, hmethod, withNumber, hread]

end Http

end Datebook
