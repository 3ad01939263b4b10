import Datebook.Event.Wire
import Datebook.Proofs.Json.KnownMembers

/-!
# The known members of an event

An event is what the values of its known members make, each read alone. It is all one whether they
stand in an array, in the order of the members, or in an object, in any order and with any other
members between them: of an object that says whether a reminder was delivered, or holds anything
else that is no member of an event, the event is the same as if it did not.

## Main definitions

* `Datebook.Event.named`: values with the names of the first members.
* `Datebook.Event.ofValues?`: the event of values that are read alone.

## Main results

* `Datebook.Event.decode_depends_on_known_members`
-/

namespace Datebook.Event

open Json

/-- Values with the names of the first members of an event. -/
def named (values : List Bytes) : List (String × Bytes) :=
  (layout.map Prod.fst).zip values

/-- The event that values make, in the order of its members, where each can be read alone. -/
def ofValues? (values : List Bytes) : Option Event :=
  readAlone? layout ofMembers (named values)

theorem nodup_layout : (layout.map Prod.fst).Nodup := by
  decide

theorem map_fst_zip_sublist (names : List String) (values : List Bytes) :
    ((names.zip values).map Prod.fst).Sublist names := by
  induction names generalizing values with
  | nil => exact List.Sublist.refl _
  | cons name names ih =>
    cases values with
    | nil => exact List.nil_sublist _
    | cons v values => exact (ih values).cons_cons name

theorem nodup_named (values : List Bytes) : ((named values).map Prod.fst).Nodup :=
  nodup_layout.sublist (map_fst_zip_sublist _ values)

/-- An event is made from its members by their names. -/
theorem ofMembers_congr {members members' : Members}
    (h : ∀ name, members.lookup name = members'.lookup name) :
    ofMembers members = ofMembers members' := by
  simp only [ofMembers, Members.number?, Members.text?, Members.instant?, h]

/-- **An event depends on its known members only.** For values in the order of the members of an
event, every array that holds exactly them, and every object that holds them under the names of
these members, in any order, with any spelling of the names and with any members of other names
among them, is read as one and the same event, or all of them fail to be read. The reminder of the event
counts as not delivered. -/
theorem decode_depends_on_known_members (values : List Bytes)
    (hfew : values.length ≤ layout.length) :
    (∀ e ∈ ofValues? values, e.notified = false) ∧
      (∀ held text, Holds .array held text → held.map Prod.snd = values →
        (decode text).toOption = ofValues? values) ∧
      ∀ ms held text, Holds .object held text → List.Forall₂ Spelled ms held →
        (ms.filter (isKnown layout)).Perm (named values) →
          (decode text).toOption = ofValues? values := by
  refine ⟨fun e he => ?_, fun held text hholds hvalues => ?_,
    fun ms held text hholds hspelled hperm => ?_⟩
  · rw [ofValues?, readAlone?] at he
    split at he
    · obtain rfl := Option.some.inj he
      rfl
    · simp at he
  · subst hvalues
    rw [List.length_map] at hfew
    exact toOption_decodeRecord_array ofMembers nodup_layout hfew hholds
  · have hnodup : ((ms.filter (isKnown layout)).map Prod.fst).Nodup :=
      (hperm.map Prod.fst).nodup_iff.mpr (nodup_named values)
    exact (toOption_decodeRecord_object ofMembers hspelled hnodup hholds).trans
      (readAlone?_eq_of_perm (fun _ _ => ofMembers_congr) (nodup_named values) hperm)

/-- An array with an id. -/
def listed : Bytes :=
  bytesOf "[7]"

/-- An object with the same id, under a name that is escaped, behind a flag that nobody may set. -/
def smuggled : Bytes :=
  bytesOf "\x7b\"notified\":[true],\"\\u0069d\":7 \x7d"

/-- The flag that was smuggled in makes no difference. -/
theorem smuggled_eq_listed :
    let flag := (bytesOf "notified", bytesOf "[true]")
    let id := (bytesOf "\\u0069d", bytesOf "7")
    Holds .array [([], bytesOf "7")] listed ∧ Holds .object [flag, id] smuggled ∧
      List.Forall₂ Spelled [("notified", bytesOf "[true]"), ("id", bytesOf "7")] [flag, id] ∧
      (decode smuggled).toOption = (decode listed).toOption := by
  intro flag id
  have hspace : IsBlank (bytesOf " ") := List.all_eq_true.mp (by decide)
  have hseven : IsJson .value (bytesOf "7") := by
    have hdigits : IsDigits (bytesOf "7") := ⟨by decide, List.all_eq_true.mp (by decide)⟩
    exact .scalar (.number (.unsigned (.parts hdigits (by decide) .none .none)))
  have htrue : IsJson .value (bytesOf "true") := .scalar (.word (by decide))
  have hflag : IsJson .value (bytesOf "[true]") :=
    .full (.last .array isBlank_nil htrue isBlank_nil)
  have hnotified : Spells (bytesOf "notified") "notified".toList := by
    rw [← String.ofList_toList (s := "notified"), bytesOf_ofList, String.toList_ofList]
    exact spells_bytesOfChars (by simp)
  have hid : Spells (bytesOf "\\u0069d") "id".toList := by
    have hcode : IsCode (bytesOf "0069") 105 := ⟨by decide, by decide⟩
    have hwhole : ¬ IsSurrogate 105 := by simp [IsSurrogate, isLowSurrogate, isHighSurrogate]
    have hlast : Spells (bytesOfChars ['d']) ['d'] := spells_bytesOfChars (by simp)
    exact .code hcode hwhole hlast
  have hlisted : Holds .array [([], bytesOf "7")] listed :=
    ⟨[], bytesOf "7", [], isBlank_nil, isBlank_nil, by decide,
      Or.inr (.last .array isBlank_nil hseven isBlank_nil)⟩
  have hsmuggled : Holds .object [flag, id] smuggled :=
    ⟨[], bytesOf "\"notified\":[true],\"\\u0069d\":7 ", [], isBlank_nil, isBlank_nil, by decide,
      Or.inr (.more (.object isBlank_nil hnotified.isStringBody isBlank_nil) isBlank_nil hflag
        isBlank_nil (.last (.object isBlank_nil hid.isStringBody isBlank_nil) isBlank_nil hseven
          hspace))⟩
  have hspelled : List.Forall₂ Spelled [("notified", bytesOf "[true]"), ("id", bytesOf "7")]
      [flag, id] := .cons ⟨hnotified, rfl⟩ (.cons ⟨hid, rfl⟩ .nil)
  obtain ⟨-, harray, hobject⟩ := decode_depends_on_known_members [bytesOf "7"] (by decide)
  exact ⟨hlisted, hsmuggled, hspelled, (hobject _ _ _ hsmuggled hspelled (.refl _)).trans
    (harray _ _ hlisted rfl).symm⟩

end Datebook.Event
