import SlackCourier.Envelope
import SlackCourier.Proofs.Json.Canonical
import SlackCourier.Proofs.Json.Record

/-!
# What a reply conveys

A reply is read member by member: `ok`, `error` and `warning` are fields that may come
once, and every other member is put among the data, over an earlier one with its key.
So what has been read of an envelope is known field by field
(`Envelope.foldlM_step_eq_some_iff`), and the place of a member among the others does
not matter unless its key comes again.

* `Envelope.parse_of_spells`: however the object is spelled, an envelope is read of it
  exactly if its members convey the envelope (`Envelope.Conveyed`).
* `Envelope.object_of_parse`: what is read as an envelope is an object.
* `Envelope.decodes`: when a reply is read, and what of it.
-/

namespace SlackCourier

namespace Envelope

open Json

variable {members : Members} {octets front rest : Octets} {limit : Nat} {envelope : Envelope}

/-- The keys of the fields. -/
def fieldKeys : List String := ["ok", "error", "warning"]

/-! ## Member by member -/

namespace Gathered

/-- What has been read of an envelope behind one more member, unless it is refused. -/
def step (gathered : Gathered) (member : String × Json) : Option Gathered :=
  if member.1 = "ok" then
    (unlessHeld gathered.ok member.2.bool?).map fun ok => { gathered with ok := some ok }
  else if member.1 = "error" then
    (unlessHeld gathered.error (member.2.orNull text?)).map fun error =>
      { gathered with error := some error }
  else if member.1 = "warning" then
    (unlessHeld gathered.warning (member.2.orNull text?)).map fun warning =>
      { gathered with warning := some warning }
  else some { gathered with data := gathered.data.put member.1 member.2.ordered }

/-- The data behind one more member. -/
def keepData (data : Members) (member : String × Json) : Members :=
  if member.1 ∉ fieldKeys then data.put member.1 member.2.ordered else data

/-- A member changes the field that it is for, and no other. -/
theorem step_eq_some_iff {gathered next : Gathered} {member : String × Json} :
    gathered.step member = some next ↔
      keepOnce bool? "ok" gathered.ok member = some next.ok ∧
      keepOnce (orNull text?) "error" gathered.error member = some next.error ∧
      keepOnce (orNull text?) "warning" gathered.warning member = some next.warning ∧
      keepData gathered.data member = next.data := by
  obtain ⟨key, value⟩ := member
  obtain ⟨ok, error, warning, data⟩ := gathered
  obtain ⟨ok', error', warning', data'⟩ := next
  simp only [step, keepOnce, keepData, fieldKeys]
  by_cases ho : key = "ok"
  · subst ho
    cases unlessHeld ok value.bool? <;> simp
  by_cases he : key = "error"
  · subst he
    cases unlessHeld error (value.orNull text?) <;> simp
  by_cases hw : key = "warning"
  · subst hw
    cases unlessHeld warning (value.orNull text?) <;> simp
  simp [ho, he, hw]

/-- All members together change every field as if it were alone. -/
theorem foldlM_step_eq_some_iff {gathered final : Gathered} :
    members.foldlM step gathered = some final ↔
      members.foldlM (keepOnce bool? "ok") gathered.ok = some final.ok ∧
      members.foldlM (keepOnce (orNull text?) "error") gathered.error = some final.error ∧
      members.foldlM (keepOnce (orNull text?) "warning") gathered.warning = some final.warning ∧
      members.foldl keepData gathered.data = final.data := by
  induction members generalizing gathered with
  | nil =>
    obtain ⟨ok, error, warning, data⟩ := gathered
    obtain ⟨ok', error', warning', data'⟩ := final
    simp
  | cons member members ih =>
    simp only [List.foldlM_cons, List.foldl_cons, Option.bind_eq_bind, Option.bind_eq_some_iff,
      step_eq_some_iff, ih]
    constructor
    · rintro ⟨next, ⟨ho, he, hw, hd⟩, ho', he', hw', hd'⟩
      exact ⟨⟨_, ho, ho'⟩, ⟨_, he, he'⟩, ⟨_, hw, hw'⟩, hd ▸ hd'⟩
    · rintro ⟨⟨ok, ho, ho'⟩, ⟨error, he, he'⟩, ⟨warning, hw, hw'⟩, hd⟩
      exact ⟨⟨ok, error, warning, _⟩, ⟨ho, he, hw, rfl⟩, ho', he', hw', hd⟩

end Gathered

/-! ## Reading -/

/-- Behind its key a member is read as it is taken, if its value is not too deep. -/
theorem answers_readMember {value : Json} (h : Spells value octets)
    (hd : value.depth ≤ greatestDepth - 1) (hl : octets.length ≤ limit) (gathered : Gathered)
    (key : String) :
    Answers (readMember limit gathered key) (':'.toUInt8 :: octets)
      (gathered.step (key, value)) := by
  have hn := answers_readOptional h hl (answers_readString h hl)
  unfold readMember
  rw [Gathered.step]
  by_cases ho : key = "ok"
  · simp only [if_pos ho]
    exact ((answers_readBool h hl).field key gathered.ok).map fun ok =>
      { gathered with ok := some ok }
  by_cases he : key = "error"
  · simp only [if_neg ho, if_pos he]
    exact (hn.field key gathered.error).map fun error => { gathered with error := some error }
  by_cases hw : key = "warning"
  · simp only [if_neg ho, if_neg he, if_pos hw]
    exact (hn.field key gathered.warning).map fun warning =>
      { gathered with warning := some warning }
  simp only [if_neg ho, if_neg he, if_neg hw]
  exact (Reads.of_member (reads_of_spells h hd hl) key gathered.data).answers.map fun data =>
    { gathered with data }

/-- An object is read as an envelope as its members are taken. -/
theorem parse_eq_ok_iff_foldlM (h : Spells (.object members) octets)
    (hd : ∀ member ∈ members, member.2.depth ≤ greatestDepth - 1) :
    parse octets = .ok envelope ↔
      ∃ gathered, members.foldlM Gathered.step {} = some gathered ∧
        gathered.envelope? = some envelope := by
  have hm : ∀ key value part, (key, value) ∈ members → Spells value part →
      part.length ≤ octets.length → ∀ gathered,
      Answers (readMember octets.length gathered key) (':'.toUInt8 :: part)
        (Gathered.step gathered (key, value)) :=
    fun key value part hm hs hl gathered => answers_readMember hs (hd _ hm) hl gathered key
  have hn : skipBlanks octets = skipBlanks (octets ++ []) := by rw [List.append_nil]
  obtain ⟨behind, hf, hy⟩ := readObject_of_spells h (Nat.le_refl _) hm {} hn
  have hr : Yields [] (read octets.length octets)
      (members.foldlM Gathered.step {} >>= Gathered.envelope?) := by
    rw [read, hf, ok_bind]
    refine hy.bind fun gathered after hs => ?_
    dsimp only
    cases gathered.envelope? with
    | some envelope => exact .value hs
    | none => exact .refusal
  rw [parse, hr.readWhole_eq_ok_iff, Option.bind_eq_bind, Option.bind_eq_some_iff]

/-! ## What is conveyed -/

/-- What the values of a key say where a text or null may stand once. -/
inductive Noted : List Json → Option String → Prop
  | absent : Noted [] none
  | null : Noted [.null] none
  | text (note : String) : Noted [.text note] (some note)

theorem noted_iff {values : List Json} {note : Option String} :
    Noted values note ↔ ∃ held, AtMostOnce (orNull text?) values held ∧ held.join = note := by
  constructor
  · intro h
    cases h with
    | absent => exact ⟨none, .absent, rfl⟩
    | null => exact ⟨some none, .once rfl, rfl⟩
    | text note => exact ⟨some (some note), .once rfl, rfl⟩
  · rintro ⟨held, h, rfl⟩
    cases h with
    | absent => exact .absent
    | @once value held hv =>
      cases value with
      | null =>
        cases hv
        exact .null
      | text note =>
        cases hv
        exact .text note
      | _ => cases hv

/-- The envelope is what the members say: each field has the one value of its key, or
    nothing, and the data have the last value of every other key. -/
structure Conveyed (members : Members) (envelope : Envelope) : Prop where
  ok : members.values "ok" = [.bool envelope.ok]
  error : Noted (members.values "error") envelope.error
  warning : Noted (members.values "warning") envelope.warning
  isOrdered : envelope.data.IsOrdered
  data : ∀ key, envelope.data.value? key =
    if key ∈ fieldKeys then none else (members.values key).getLast?.map ordered

theorem Conveyed.congr {members' : Members} (h : ∀ key, members'.values key = members.values key)
    (hc : Conveyed members envelope) : Conveyed members' envelope where
  ok := by rw [h, hc.ok]
  error := by rw [h]; exact hc.error
  warning := by rw [h]; exact hc.warning
  isOrdered := hc.isOrdered
  data key := by rw [h, hc.data]

theorem atMostOnce_bool_iff {values : List Json} {ok : Bool} :
    AtMostOnce bool? values (some ok) ↔ values = [.bool ok] := by
  constructor
  · intro h
    cases h with
    | @once value _ hv =>
      cases value with
      | bool value =>
        cases hv
        rfl
      | _ => cases hv
  · rintro rfl
    exact .once rfl

theorem foldl_keepData (members : Members) :
    members.foldl Gathered.keepData [] = Members.gather
      ((members.filter (·.1 ∉ fieldKeys)).map fun member => (member.1, member.2.ordered)) := by
  rw [Members.gather, List.foldl_map, List.foldl_filter]
  simp only [decide_eq_true_iff]
  rfl

/-- Members in order are the data of an envelope exactly if they have its values. -/
theorem foldl_keepData_eq_iff {data : Members} :
    members.foldl Gathered.keepData [] = data ↔ data.IsOrdered ∧ ∀ key, data.value? key =
      if key ∈ fieldKeys then none else (members.values key).getLast?.map ordered := by
  rw [foldl_keepData]
  constructor
  · rintro rfl
    exact ⟨Members.isOrdered_gather _, Members.value?_gather_filter ordered fieldKeys members⟩
  · rintro ⟨ho, hv⟩
    refine (Members.isOrdered_gather _).ext ho fun key => ?_
    rw [Members.value?_gather_filter, hv]

/-- However the object is spelled, an envelope is read of it exactly if its members convey
    the envelope. -/
theorem parse_of_spells (h : Spells (.object members) octets)
    (hd : ∀ member ∈ members, member.2.depth ≤ greatestDepth - 1) :
    parse octets = .ok envelope ↔ Conveyed members envelope := by
  simp only [parse_eq_ok_iff_foldlM h hd, Gathered.foldlM_step_eq_some_iff,
    foldlM_keepOnce_eq_some_iff, foldl_keepData_eq_iff, Gathered.envelope?,
    Option.map_eq_some_iff]
  constructor
  · rintro ⟨⟨_, error, warning, data⟩, ⟨ho, he, hw, hi, hd⟩, ok, rfl, rfl⟩
    exact ⟨atMostOnce_bool_iff.mp ho, noted_iff.mpr ⟨error, he, rfl⟩,
      noted_iff.mpr ⟨warning, hw, rfl⟩, hi, hd⟩
  · intro hc
    obtain ⟨error, he, hje⟩ := noted_iff.mp hc.error
    obtain ⟨warning, hw, hjw⟩ := noted_iff.mp hc.warning
    refine ⟨⟨some envelope.ok, error, warning, envelope.data⟩,
      ⟨atMostOnce_bool_iff.mpr hc.ok, he, hw, hc.isOrdered, hc.data⟩, envelope.ok, rfl, ?_⟩
    rw [hje, hjw]

/-! ## Replies -/

/-- The members say once whether the call succeeded, and at most once each what went
    wrong and what to beware of, as a text or null. -/
structure IsReply (members : Members) : Prop where
  ok : ∃ value, members.values "ok" = [.bool value]
  once : ∀ key ∈ ["error", "warning"], (members.values key).length ≤ 1
  note : ∀ key ∈ ["error", "warning"], ∀ value ∈ members.values key,
    value = .null ∨ ∃ note, value = .text note

theorem exists_noted_iff {values : List Json} :
    (∃ note, Noted values note) ↔
      values.length ≤ 1 ∧ ∀ value ∈ values, value = .null ∨ ∃ note, value = .text note := by
  have hk (value : Json) : (∃ held, value.orNull text? = some held) ↔
      value = .null ∨ ∃ note, value = .text note := by
    simp only [exists_orNull_eq_some_iff, text?_eq_some_iff]
  simp only [← hk, ← exists_atMostOnce_iff, noted_iff]
  constructor
  · rintro ⟨note, held, h, -⟩
    exact ⟨held, h⟩
  · rintro ⟨held, h⟩
    exact ⟨held.join, held, h, rfl⟩

/-- Members convey an envelope exactly if they are a reply. -/
theorem exists_conveyed_iff : (∃ envelope, Conveyed members envelope) ↔ IsReply members := by
  constructor
  · rintro ⟨envelope, hc⟩
    obtain ⟨hle, hve⟩ := exists_noted_iff.mp ⟨_, hc.error⟩
    obtain ⟨hlw, hvw⟩ := exists_noted_iff.mp ⟨_, hc.warning⟩
    refine ⟨⟨envelope.ok, hc.ok⟩, ?_, ?_⟩
    · exact List.forall_mem_cons.mpr ⟨hle, List.forall_mem_singleton.mpr hlw⟩
    · exact List.forall_mem_cons.mpr ⟨hve, List.forall_mem_singleton.mpr hvw⟩
  · rintro ⟨⟨ok, ho⟩, hl, hv⟩
    obtain ⟨error, he⟩ := exists_noted_iff.mpr ⟨hl "error" (by decide), hv "error" (by decide)⟩
    obtain ⟨warning, hw⟩ :=
      exists_noted_iff.mpr ⟨hl "warning" (by decide), hv "warning" (by decide)⟩
    obtain ⟨hi, hd⟩ := foldl_keepData_eq_iff.mp (Eq.refl (members.foldl Gathered.keepData []))
    exact ⟨⟨ok, error, warning, _⟩, ho, he, hw, hi, hd⟩

/-! ### Data -/

theorem ordered_eq_text_iff {value : Json} {text : String} :
    value.ordered = .text text ↔ value = .text text := by
  cases value with
  | list items => rw [ordered_list]; exact iff_of_false nofun nofun
  | object members => rw [ordered_object]; exact iff_of_false nofun nofun
  | _ => rfl

/-- The link to the file is the last one in the last file. -/
theorem Conveyed.permalink?_eq_some_iff (hc : Conveyed members envelope) {link : String} :
    envelope.permalink? = some link ↔
      ∃ file : Members, (members.values "file").getLast? = some (.object file) ∧
        (file.values "permalink").getLast? = some (.text link) := by
  have hm (file : Json) :
      file.ordered.member? "permalink" = some (.text link) ↔
        ∃ inner : Members, file = .object inner ∧
          (inner.values "permalink").getLast? = some (.text link) := by
    cases file with
    | object inner =>
      rw [ordered_object, member?, Members.value?_gather, Members.value?_reverse,
        Members.values_map, List.getLast?_map]
      simp only [Option.map_eq_some_iff, ordered_eq_text_iff, object.injEq, exists_eq_right,
        exists_eq_left']
    | list items => rw [ordered_list]; simp [member?]
    | _ => simp [ordered, member?]
  have hk : "file" ∉ fieldKeys := by decide
  rw [permalink?, hc.data, if_neg hk]
  simp only [Option.bind_eq_bind, Option.bind_eq_some_iff, Option.map_eq_some_iff,
    text?_eq_some_iff]
  constructor
  · rintro ⟨_, ⟨file, hf, rfl⟩, _, hl, rfl⟩
    obtain ⟨inner, rfl, hi⟩ := (hm file).mp hl
    exact ⟨inner, hf, hi⟩
  · rintro ⟨inner, hf, hi⟩
    exact ⟨_, ⟨_, hf, rfl⟩, _, (hm _).mpr ⟨inner, rfl, hi⟩, rfl⟩

/-- The timestamp is the last one. -/
theorem Conveyed.timestamp?_eq_some_iff (hc : Conveyed members envelope) {time : String} :
    envelope.timestamp? = some time ↔
      (members.values "ts").getLast? = some (.text time) := by
  have hk : "ts" ∉ fieldKeys := by decide
  rw [timestamp?, hc.data, if_neg hk]
  simp only [Option.bind_eq_bind, Option.bind_eq_some_iff, Option.map_eq_some_iff,
    text?_eq_some_iff]
  constructor
  · rintro ⟨_, ⟨value, hv, rfl⟩, ho⟩
    rwa [ordered_eq_text_iff.mp ho] at hv
  · intro hv
    exact ⟨_, ⟨_, hv, rfl⟩, rfl⟩

/-! ### What is no object -/

/-- What a member of an envelope takes behind its key, a member of any object takes. -/
theorem exists_readMember_eq_ok {gathered next : Gathered} {key : String}
    (h : readMember limit gathered key octets = .ok (next, rest)) (members : Members) :
    ∃ next, Json.readMember (readValue limit (greatestDepth - 1)) members key octets =
      .ok (next, rest) := by
  unfold readMember at h
  split at h
  · obtain ⟨⟨value, behind⟩, hr, h⟩ := bind_eq_ok_iff.mp h
    cases h
    exact narrows_readBool.field hr members
  split at h
  · obtain ⟨⟨value, behind⟩, hr, h⟩ := bind_eq_ok_iff.mp h
    cases h
    exact narrows_readString.optional.field hr members
  split at h
  · obtain ⟨⟨value, behind⟩, hr, h⟩ := bind_eq_ok_iff.mp h
    cases h
    exact narrows_readString.optional.field hr members
  · obtain ⟨⟨data, behind⟩, hr, h⟩ := bind_eq_ok_iff.mp h
    cases h
    rw [Json.readMember] at hr
    obtain ⟨⟨⟨⟩, behindColon⟩, hc, hr⟩ := bind_eq_ok_iff.mp hr
    obtain ⟨⟨value, behindValue⟩, hv, hr⟩ := bind_eq_ok_iff.mp hr
    cases hr
    refine ⟨members.put key value, ?_⟩
    rw [Json.readMember, hc, ok_bind]
    dsimp only
    rw [hv, ok_bind]

/-- What is read as an envelope is an object. -/
theorem object_of_parse (h : parse octets = .ok envelope) :
    ∃ members, Json.parse octets = .ok (.object members) := by
  obtain ⟨behind, hr, hs⟩ := readWhole_eq_ok_iff.mp h
  obtain ⟨⟨found, front⟩, hf, hr⟩ := bind_eq_ok_iff.mp hr
  cases found with
  | object =>
    obtain ⟨⟨gathered, after⟩, ho, hr⟩ := bind_eq_ok_iff.mp hr
    have hb : after = behind := by
      dsimp only at hr
      split at hr <;> cases hr
      rfl
    subst hb
    have hm : ∀ gathered (members : Members) key part next rest,
        readMember octets.length gathered key part = .ok (next, rest) →
        ∃ next', Json.readMember (readValue octets.length (greatestDepth - 1)) members key part =
          .ok (next', rest) :=
      fun gathered members key part next rest h => exists_readMember_eq_ok h members
    obtain ⟨members, hm⟩ := exists_readObject_eq_ok hm [] ho
    exact ⟨members, readWhole_eq_ok_iff.mpr ⟨after, readValue_of_object hf hm, hs⟩⟩
  | _ => cases hr

/-! ### Decoding -/

/-- An object with the members is decoded exactly if they are a reply, as what they
    convey. -/
structure Decodes (members : Members) (reply : Octets) : Prop where
  succeeds : (∃ envelope, parse reply = .ok envelope) ↔ IsReply members
  conveyed : ∀ envelope, parse reply = .ok envelope ↔ Conveyed members envelope
  /-- If no key comes twice, the order of the members does not matter. -/
  reordered : ∀ members', members.Perm members' → (members.map Prod.fst).Nodup →
    ∀ envelope, parse (object members').toOctets = .ok envelope ↔ parse reply = .ok envelope
  permalink : ∀ envelope, parse reply = .ok envelope → ∀ link,
    envelope.permalink? = some link ↔
      ∃ file : Members, (members.values "file").getLast? = some (.object file) ∧
        (file.values "permalink").getLast? = some (.text link)
  timestamp : ∀ envelope, parse reply = .ok envelope → ∀ time,
    envelope.timestamp? = some time ↔ (members.values "ts").getLast? = some (.text time)

/-- What is written for an object is decoded by its members, and nothing but an object is
    decoded at all. -/
theorem decodes (h : ∀ member ∈ members, member.2.IsIntegral ∧ member.2.depth ≤ 126) :
    Decodes members (object members).toOctets ∧
      ∀ reply envelope, parse reply = .ok envelope →
        ∃ members, Json.parse reply = .ok (.object members) := by
  have hp {members : Members} (h : ∀ member ∈ members, member.2.IsIntegral ∧ member.2.depth ≤ 126)
      (envelope : Envelope) :
      parse (object members).toOctets = .ok envelope ↔ Conveyed members envelope :=
    parse_of_spells (spells_toOctets (.object fun member hm => (h member hm).1))
      fun member hm => (h member hm).2
  refine ⟨⟨?_, hp h, ?_, ?_, ?_⟩, fun reply envelope => object_of_parse⟩
  · rw [← exists_conveyed_iff]
    exact exists_congr (hp h)
  · intro members' hm hn envelope
    have hv := Members.values_eq_of_perm hm hn
    rw [hp h, hp fun member hm' => h member (hm.mem_iff.mpr hm')]
    exact ⟨.congr fun key => (hv key).symm, .congr hv⟩
  · exact fun envelope he link => ((hp h envelope).mp he).permalink?_eq_some_iff
  · exact fun envelope he time => ((hp h envelope).mp he).timestamp?_eq_some_iff

/-- The keys of the data may come again, in an object among them too, and the last values
    are found. -/
theorem decodes_repeated :
    let reply := (object [("ts", .text "1"), ("error", .null), ("file", .text "F1"),
      ("ok", .bool true), ("ts", .text "2"),
      ("file", .object [("permalink", .null), ("permalink", .text "/")])]).toOctets
    ∃ envelope, parse reply = .ok envelope ∧ envelope.ok = true ∧ envelope.error = none ∧
      envelope.timestamp? = some "2" ∧ envelope.permalink? = some "/" := by
  intro reply
  obtain ⟨succeeds, conveyed, -, permalink, timestamp⟩ : Decodes _ reply := by
    refine (decodes ?_).1
    simp only [List.forall_mem_cons, List.not_mem_nil, false_implies, implies_true, and_true]
    have hf : (object [("permalink", .null), ("permalink", .text "/")]).IsIntegral :=
      .object (List.forall_mem_cons.mpr ⟨.null, List.forall_mem_singleton.mpr (.text _)⟩)
    exact ⟨⟨.text _, by decide⟩, ⟨.null, by decide⟩, ⟨.text _, by decide⟩, ⟨.bool _, by decide⟩,
      ⟨.text _, by decide⟩, ⟨hf, by decide⟩⟩
  obtain ⟨envelope, he⟩ := succeeds.mpr {
    ok := ⟨true, rfl⟩
    once := by decide
    note := List.forall_mem_cons.mpr ⟨List.forall_mem_singleton.mpr (.inl rfl),
      List.forall_mem_singleton.mpr fun _ h => absurd h List.not_mem_nil⟩ }
  obtain ⟨ok, error, -, -, -⟩ := (conveyed envelope).mp he
  refine ⟨envelope, he, ?_, ?_, (timestamp envelope he "2").mpr rfl,
    (permalink envelope he "/").mpr ⟨_, rfl, rfl⟩⟩
  · have hv : [Json.bool true] = [.bool envelope.ok] := ok
    simpa using hv.symm
  · have hn : Noted [.null] envelope.error := error
    generalize envelope.error = note at hn
    cases hn
    rfl

end Envelope

end SlackCourier
