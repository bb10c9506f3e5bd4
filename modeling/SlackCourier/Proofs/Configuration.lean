import SlackCourier.Config
import SlackCourier.Proofs.Json.Record
import SlackCourier.Proofs.Json.Skipping

/-!
# What a configuration file says

A configuration is read from the members of an object or from the items of a list, which
stand for members with the keys of the fields in their order (`Config.members?`). Either
way each of the five fields may come once, and what has been read is known field by field
(`Config.Holds`). Members with other keys are skipped, so they do not matter, and the order
of the members does not matter either.

* `Config.parse_of_spells`: however a value is spelled, a configuration is read of it
  exactly if it stands for members that convey the configuration (`Config.Conveyed`).
* `Config.container_of_parse`: nothing but a list or an object is read as a configuration.
* `Config.parse_toJson`: what is written for a configuration is read back.
-/

namespace SlackCourier

namespace Config

open Json

variable {α : Type} {members : Members} {octets front rest : Octets} {limit : Nat}
  {config : Config}

/-- The keys of the fields, in their order. -/
def fieldKeys : List String :=
  ["api_base_url", "token_env", "message_endpoint", "upload_endpoint", "timeout_secs"]

/-! ## Member by member -/

/-- What has been read of a configuration is what the members say of each field. -/
structure Holds (members : Members) (gathered : Gathered) : Prop where
  baseUrl : AtMostOnce text? (members.values "api_base_url") gathered.baseUrl
  tokenVariable : AtMostOnce text? (members.values "token_env") gathered.tokenVariable
  messageEndpoint : AtMostOnce text? (members.values "message_endpoint") gathered.messageEndpoint
  uploadEndpoint : AtMostOnce text? (members.values "upload_endpoint") gathered.uploadEndpoint
  timeoutSeconds :
    AtMostOnce (orNull natural?) (members.values "timeout_secs") gathered.timeoutSeconds

namespace Gathered

/-- What has been read of a configuration behind one more member, unless it is refused. -/
def step (gathered : Gathered) (member : String × Json) : Option Gathered :=
  if member.1 = "api_base_url" then
    (unlessHeld gathered.baseUrl member.2.text?).map fun baseUrl =>
      { gathered with baseUrl := some baseUrl }
  else if member.1 = "token_env" then
    (unlessHeld gathered.tokenVariable member.2.text?).map fun tokenVariable =>
      { gathered with tokenVariable := some tokenVariable }
  else if member.1 = "message_endpoint" then
    (unlessHeld gathered.messageEndpoint member.2.text?).map fun messageEndpoint =>
      { gathered with messageEndpoint := some messageEndpoint }
  else if member.1 = "upload_endpoint" then
    (unlessHeld gathered.uploadEndpoint member.2.text?).map fun uploadEndpoint =>
      { gathered with uploadEndpoint := some uploadEndpoint }
  else if member.1 = "timeout_secs" then
    (unlessHeld gathered.timeoutSeconds (member.2.orNull natural?)).map fun timeoutSeconds =>
      { gathered with timeoutSeconds := some timeoutSeconds }
  else some gathered

/-- A member changes the field that it is for, and no other. -/
theorem step_eq_some_iff {gathered next : Gathered} {member : String × Json} :
    gathered.step member = some next ↔
      keepOnce text? "api_base_url" gathered.baseUrl member = some next.baseUrl ∧
      keepOnce text? "token_env" gathered.tokenVariable member = some next.tokenVariable ∧
      keepOnce text? "message_endpoint" gathered.messageEndpoint member =
        some next.messageEndpoint ∧
      keepOnce text? "upload_endpoint" gathered.uploadEndpoint member =
        some next.uploadEndpoint ∧
      keepOnce (orNull natural?) "timeout_secs" gathered.timeoutSeconds member =
        some next.timeoutSeconds := by
  obtain ⟨key, value⟩ := member
  obtain ⟨baseUrl, tokenVariable, messageEndpoint, uploadEndpoint, timeoutSeconds⟩ := gathered
  obtain ⟨baseUrl', tokenVariable', messageEndpoint', uploadEndpoint', timeoutSeconds'⟩ := next
  simp only [step, keepOnce]
  by_cases hb : key = "api_base_url"
  · subst hb
    cases unlessHeld baseUrl value.text? <;> simp
  by_cases ht : key = "token_env"
  · subst ht
    cases unlessHeld tokenVariable value.text? <;> simp
  by_cases hm : key = "message_endpoint"
  · subst hm
    cases unlessHeld messageEndpoint value.text? <;> simp
  by_cases hu : key = "upload_endpoint"
  · subst hu
    cases unlessHeld uploadEndpoint value.text? <;> simp
  by_cases hs : key = "timeout_secs"
  · subst hs
    cases unlessHeld timeoutSeconds (value.orNull natural?) <;> simp
  simp [hb, ht, hm, hu, hs]

/-- All members together change every field as if it were alone. -/
theorem foldlM_step_eq_some_iff_keepOnce {gathered final : Gathered} :
    members.foldlM step gathered = some final ↔
      members.foldlM (keepOnce text? "api_base_url") gathered.baseUrl = some final.baseUrl ∧
      members.foldlM (keepOnce text? "token_env") gathered.tokenVariable =
        some final.tokenVariable ∧
      members.foldlM (keepOnce text? "message_endpoint") gathered.messageEndpoint =
        some final.messageEndpoint ∧
      members.foldlM (keepOnce text? "upload_endpoint") gathered.uploadEndpoint =
        some final.uploadEndpoint ∧
      members.foldlM (keepOnce (orNull natural?) "timeout_secs") gathered.timeoutSeconds =
        some final.timeoutSeconds := by
  induction members generalizing gathered with
  | nil =>
    obtain ⟨baseUrl, tokenVariable, messageEndpoint, uploadEndpoint, timeoutSeconds⟩ := gathered
    obtain ⟨baseUrl', tokenVariable', messageEndpoint', uploadEndpoint', timeoutSeconds'⟩ := final
    simp
  | cons member members ih =>
    simp only [List.foldlM_cons, Option.bind_eq_bind, Option.bind_eq_some_iff, step_eq_some_iff,
      ih]
    constructor
    · rintro ⟨next, ⟨hb, ht, hm, hu, hs⟩, hb', ht', hm', hu', hs'⟩
      exact ⟨⟨_, hb, hb'⟩, ⟨_, ht, ht'⟩, ⟨_, hm, hm'⟩, ⟨_, hu, hu'⟩, ⟨_, hs, hs'⟩⟩
    · rintro ⟨⟨baseUrl, hb, hb'⟩, ⟨token, ht, ht'⟩, ⟨message, hm, hm'⟩, ⟨upload, hu, hu'⟩,
        ⟨timeout, hs, hs'⟩⟩
      exact ⟨⟨baseUrl, token, message, upload, timeout⟩, ⟨hb, ht, hm, hu, hs⟩,
        hb', ht', hm', hu', hs'⟩

theorem foldlM_step_eq_some_iff {gathered : Gathered} :
    members.foldlM step {} = some gathered ↔ Holds members gathered := by
  simp only [foldlM_step_eq_some_iff_keepOnce, foldlM_keepOnce_eq_some_iff]
  constructor
  · rintro ⟨hb, ht, hm, hu, hs⟩
    exact ⟨hb, ht, hm, hu, hs⟩
  · rintro ⟨hb, ht, hm, hu, hs⟩
    exact ⟨hb, ht, hm, hu, hs⟩

end Gathered

/-- Behind its key a member is read as it is taken. -/
theorem answers_readMember {value : Json} (h : Spells value octets) (hl : octets.length ≤ limit)
    (gathered : Gathered) (key : String) :
    Answers (readMember limit gathered key) (':'.toUInt8 :: octets)
      (gathered.step (key, value)) := by
  have hx := answers_readString h hl
  unfold readMember
  rw [Gathered.step]
  by_cases hb : key = "api_base_url"
  · simp only [if_pos hb]
    exact (hx.field key gathered.baseUrl).map fun baseUrl =>
      { gathered with baseUrl := some baseUrl }
  by_cases ht : key = "token_env"
  · simp only [if_neg hb, if_pos ht]
    exact (hx.field key gathered.tokenVariable).map fun tokenVariable =>
      { gathered with tokenVariable := some tokenVariable }
  by_cases hm : key = "message_endpoint"
  · simp only [if_neg hb, if_neg ht, if_pos hm]
    exact (hx.field key gathered.messageEndpoint).map fun messageEndpoint =>
      { gathered with messageEndpoint := some messageEndpoint }
  by_cases hu : key = "upload_endpoint"
  · simp only [if_neg hb, if_neg ht, if_neg hm, if_pos hu]
    exact (hx.field key gathered.uploadEndpoint).map fun uploadEndpoint =>
      { gathered with uploadEndpoint := some uploadEndpoint }
  by_cases hs : key = "timeout_secs"
  · simp only [if_neg hb, if_neg ht, if_neg hm, if_neg hu, if_pos hs]
    exact ((answers_readOptional h hl (answers_readNatural64 h hl)).field key
      gathered.timeoutSeconds).map fun timeoutSeconds =>
        { gathered with timeoutSeconds := some timeoutSeconds }
  -- A member with any other key is skipped.
  simp only [if_neg hb, if_neg ht, if_neg hm, if_neg hu, if_neg hs]
  refine ⟨begins_colon octets, fun front rest hf he => ?_⟩
  rw [List.cons_append] at hf
  obtain ⟨after, hr, hn⟩ := (reads_skipValue h hl).reads (octets ++ rest) rest rfl he
  rw [readColon_of_colon hf, ok_bind]
  dsimp only
  rw [hr, ok_bind]
  exact .value hn

/-! ## Item by item -/

/-- What has been read of the items of a list. -/
def ofItems (items : List Json) : Option Gathered := do
  let baseUrl ← first? text? items
  let tokenVariable ← first? text? items.tail
  let messageEndpoint ← first? text? items.tail.tail
  let uploadEndpoint ← first? text? items.tail.tail.tail
  let timeoutSeconds ← first? (orNull natural?) items.tail.tail.tail.tail
  if items.tail.tail.tail.tail.tail = [] then
    some ⟨baseUrl, tokenVariable, messageEndpoint, uploadEndpoint, timeoutSeconds⟩
  else none

/-- The members that the items of a list stand for. -/
def membersOf (items : List Json) : Members :=
  fieldKeys.zip items

/-- What has been read of the items is what their members say. -/
theorem ofItems_eq_some_iff {items : List Json} {gathered : Gathered} :
    ofItems items = some gathered ↔ items.length ≤ 5 ∧ Holds (membersOf items) gathered := by
  have hk : fieldKeys.Nodup := by decide
  have hvb : (membersOf items).values "api_base_url" = items[0]?.toList :=
    Members.values_zip (i := 0) hk items (by decide)
  have hvt : (membersOf items).values "token_env" = items[1]?.toList :=
    Members.values_zip (i := 1) hk items (by decide)
  have hvm : (membersOf items).values "message_endpoint" = items[2]?.toList :=
    Members.values_zip (i := 2) hk items (by decide)
  have hvu : (membersOf items).values "upload_endpoint" = items[3]?.toList :=
    Members.values_zip (i := 3) hk items (by decide)
  have hvs : (membersOf items).values "timeout_secs" = items[4]?.toList :=
    Members.values_zip (i := 4) hk items (by decide)
  have hl : items.tail.tail.tail.tail.tail = [] ↔ items.length ≤ 5 := by
    rw [← List.length_eq_zero_iff]
    simp only [List.length_tail]
    omega
  simp only [ofItems, Option.bind_eq_bind, Option.bind_eq_some_iff, first?_eq_some_iff,
    List.head?_eq_getElem?, List.getElem?_tail, Option.ite_none_right_eq_some, hl]
  constructor
  · rintro ⟨baseUrl, hb, token, ht, message, hm, upload, hu, timeout, hs, hn, ⟨⟩⟩
    exact ⟨hn, hvb ▸ hb, hvt ▸ ht, hvm ▸ hm, hvu ▸ hu, hvs ▸ hs⟩
  · rintro ⟨hn, hb, ht, hm, hu, hs⟩
    exact ⟨_, hvb ▸ hb, _, hvt ▸ ht, _, hvm ▸ hm, _, hvu ▸ hu, _, hvs ▸ hs, hn, rfl⟩

/-- The items of a list are read one after the other, as many as there are fields. -/
theorem yields_readValues {items : List (Json × Octets)}
    (h : ∀ item ∈ items, Spells item.1 item.2 ∧ item.2.length ≤ limit)
    (hf : skipBlanks front =
      skipBlanks (commaSeparated (items.map Prod.snd) ++ ']'.toUInt8 :: rest)) :
    Yields rest (readValues limit front) (ofItems (items.map Prod.fst)) := by
  have hx {part : List (Json × Octets)} (hp : part.Sublist items) :
      ∀ item ∈ part, Answers (readString limit) item.2 item.1.text? :=
    fun item hm => answers_readString (h item (hp.mem hm)).1 (h item (hp.mem hm)).2
  have hn {part : List (Json × Octets)} (hp : part.Sublist items) :
      ∀ item ∈ part, Answers (readOptional (readNatural64 limit)) item.2
        (item.1.orNull natural?) := by
    intro item hm
    obtain ⟨hs, hl⟩ := h item (hp.mem hm)
    exact answers_readOptional hs hl (answers_readNatural64 hs hl)
  have ht := List.tail_sublist items
  have hm := (List.tail_sublist items.tail).trans ht
  have hu := (List.tail_sublist items.tail.tail).trans hm
  have hs := (List.tail_sublist items.tail.tail.tail).trans hu
  simp only [ofItems, ← List.map_tail]
  refine (yields_readNextItem true (hx (List.Sublist.refl _)) hf).bind fun baseUrl _ hf => ?_
  refine (yields_readNextItem false (hx ht) hf).bind fun tokenVariable _ hf => ?_
  refine (yields_readNextItem false (hx hm) hf).bind fun messageEndpoint _ hf => ?_
  refine (yields_readNextItem false (hx hu) hf).bind fun uploadEndpoint _ hf => ?_
  refine (yields_readNextItem false (hn hs) hf).bind fun timeoutSeconds _ hf => ?_
  have he := (yields_readListEnd hf).map fun _ =>
    (⟨baseUrl, tokenVariable, messageEndpoint, uploadEndpoint, timeoutSeconds⟩ : Gathered)
  simp only [List.map_eq_nil_iff] at he ⊢
  split at he
  · next hn => rw [if_pos hn]; exact he
  · next hn => rw [if_neg hn]; exact he

/-! ## What is conveyed -/

/-- A field has the one value of its key, or its default where the key does not come. -/
inductive Filled (kind : Json → Option α) (default : α) : List Json → α → Prop
  | absent : Filled kind default [] default
  | once {value : Json} {held : α} : kind value = some held → Filled kind default [value] held

theorem filled_iff {kind : Json → Option α} {default : α} {values : List Json} {held : α} :
    Filled kind default values held ↔
      ∃ found, AtMostOnce kind values found ∧ found.getD default = held := by
  constructor
  · intro h
    cases h with
    | absent => exact ⟨none, .absent, rfl⟩
    | once hk => exact ⟨some held, .once hk, rfl⟩
  · rintro ⟨found, h, rfl⟩
    cases h with
    | absent => exact .absent
    | once hk => exact .once hk

/-- The configuration is what the members say. -/
structure Conveyed (members : Members) (config : Config) : Prop where
  baseUrl : Filled text? "https://slack.com/api" (members.values "api_base_url") config.baseUrl
  tokenVariable : Filled text? "SLACK_BOT_TOKEN" (members.values "token_env") config.tokenVariable
  messageEndpoint :
    Filled text? "chat.postMessage" (members.values "message_endpoint") config.messageEndpoint
  uploadEndpoint :
    Filled text? "files.upload" (members.values "upload_endpoint") config.uploadEndpoint
  timeoutSeconds :
    Filled (orNull natural?) none (members.values "timeout_secs") config.timeoutSeconds

theorem exists_holds_iff :
    (∃ gathered, Holds members gathered ∧ gathered.config = config) ↔ Conveyed members config := by
  constructor
  · rintro ⟨gathered, ⟨hb, ht, hm, hu, hs⟩, rfl⟩
    exact ⟨filled_iff.mpr ⟨_, hb, rfl⟩, filled_iff.mpr ⟨_, ht, rfl⟩, filled_iff.mpr ⟨_, hm, rfl⟩,
      filled_iff.mpr ⟨_, hu, rfl⟩, filled_iff.mpr ⟨_, hs, rfl⟩⟩
  · rintro ⟨hb, ht, hm, hu, hs⟩
    obtain ⟨base, hb, hb'⟩ := filled_iff.mp hb
    obtain ⟨token, ht, ht'⟩ := filled_iff.mp ht
    obtain ⟨message, hm, hm'⟩ := filled_iff.mp hm
    obtain ⟨upload, hu, hu'⟩ := filled_iff.mp hu
    obtain ⟨timeout, hs, hs'⟩ := filled_iff.mp hs
    refine ⟨⟨base, token, message, upload, timeout⟩, ⟨hb, ht, hm, hu, hs⟩, ?_⟩
    simp only [Gathered.config, hb', ht', hm', hu', hs']

/-- The members that a value stands for, if it is an object, or a list with no more items
    than there are fields. -/
def members? : Json → Option Members
  | object members => some members
  | list items => if items.length ≤ 5 then some (membersOf items) else none
  | _ => none

/-- However a value is spelled, a configuration is read of it exactly if it stands for
    members that convey the configuration. -/
theorem parse_of_spells {value : Json} (h : Spells value octets) :
    parse octets = .ok config ↔
      ∃ members, members? value = some members ∧ Conveyed members config := by
  have hn : skipBlanks octets = skipBlanks (octets ++ []) := by rw [List.append_nil]
  have hl := Nat.le_refl octets.length
  obtain ⟨after, hf, -⟩ := readFound_of_spells h hl hn trivial
  cases value with
  | object members =>
    have hm : ∀ key value part, (key, value) ∈ members → Spells value part →
        part.length ≤ octets.length → ∀ gathered,
        Answers (readMember octets.length gathered key) (':'.toUInt8 :: part)
          (Gathered.step gathered (key, value)) :=
      fun key value part _ hs hl gathered => answers_readMember hs hl gathered key
    obtain ⟨behind, hf, hy⟩ := readObject_of_spells h hl hm {} hn
    have hr : Yields [] (read octets.length octets)
        ((members.foldlM Gathered.step {}).map Gathered.config) := by
      rw [read, hf, ok_bind]
      exact hy.map Gathered.config
    rw [parse, hr.readWhole_eq_ok_iff, Option.map_eq_some_iff]
    simp only [Gathered.foldlM_step_eq_some_iff, exists_holds_iff, members?, Option.some.injEq,
      exists_eq_left']
  | list items =>
    obtain ⟨spelled, rfl, hs, behind, after, hf, hb, ha⟩ := exists_items_of_spells h hl hn
    have hr : Yields [] (read octets.length octets)
        ((ofItems (spelled.map Prod.fst)).map Gathered.config) := by
      rw [read, hf, ok_bind]
      exact ((yields_readValues hs hb).congr ha).map Gathered.config
    rw [parse, hr.readWhole_eq_ok_iff, Option.map_eq_some_iff]
    simp only [ofItems_eq_some_iff, and_assoc, exists_and_left, exists_holds_iff, members?,
      Option.ite_none_right_eq_some, Option.some.injEq]
    simp only [exists_eq_left']
  | _ =>
    refine iff_of_false (fun hp => ?_) (fun ⟨_, hm, _⟩ => nomatch hm)
    obtain ⟨rest, hr, -⟩ := readWhole_eq_ok_iff.mp hp
    rw [read, hf, ok_bind] at hr
    cases hr

/-! ### Order and other members -/

theorem Filled.length_le {kind : Json → Option α} {default held : α} {values : List Json}
    (h : Filled kind default values held) : values.length ≤ 1 := by
  cases h with
  | absent => exact Nat.zero_le 1
  | once _ => exact Nat.le_refl 1

theorem Conveyed.length_le (h : Conveyed members config) :
    ∀ key ∈ fieldKeys, (members.values key).length ≤ 1 := by
  simp only [fieldKeys, List.forall_mem_cons, List.not_mem_nil, false_implies, implies_true,
    and_true]
  exact ⟨h.baseUrl.length_le, h.tokenVariable.length_le, h.messageEndpoint.length_le,
    h.uploadEndpoint.length_le, h.timeoutSeconds.length_le⟩

theorem Conveyed.congr {members' : Members}
    (h : ∀ key ∈ fieldKeys, members'.values key = members.values key)
    (hc : Conveyed members config) : Conveyed members' config where
  baseUrl := by rw [h _ (by decide)]; exact hc.baseUrl
  tokenVariable := by rw [h _ (by decide)]; exact hc.tokenVariable
  messageEndpoint := by rw [h _ (by decide)]; exact hc.messageEndpoint
  uploadEndpoint := by rw [h _ (by decide)]; exact hc.uploadEndpoint
  timeoutSeconds := by rw [h _ (by decide)]; exact hc.timeoutSeconds

/-- Neither the order of the members matters nor those with other keys. -/
theorem Conveyed.perm {members' : Members}
    (h : (members.filter (·.1 ∈ fieldKeys)).Perm (members'.filter (·.1 ∈ fieldKeys)))
    (hc : Conveyed members config) : Conveyed members' config := by
  refine hc.congr fun key hk => ?_
  have hf (members : Members) :
      Members.values key (members.filter (·.1 ∈ fieldKeys)) = members.values key := by
    rw [Members.values_filter (· ∈ fieldKeys), if_pos (decide_eq_true hk)]
  rw [← hf members', ← hf members]
  refine Members.values_eq_of_perm_of_length h ?_
  rw [hf]
  exact hc.length_le key hk

/-! ### What is accepted -/

/-- Each field comes at most once, the texts as texts, and the number of seconds as null or
    an integer of 64 bits that is not negative. -/
structure IsAccepted (members : Members) : Prop where
  once : ∀ key ∈ fieldKeys, (members.values key).length ≤ 1
  text : ∀ key ∈ ["api_base_url", "token_env", "message_endpoint", "upload_endpoint"],
    ∀ value ∈ members.values key, ∃ text, value = .text text
  timeout : ∀ value ∈ members.values "timeout_secs", value = .null ∨
    ∃ seconds : Nat, seconds < 0x10000000000000000 ∧ value = .number (.integer seconds)

theorem exists_filled_iff {kind : Json → Option α} {default : α} {values : List Json} :
    (∃ held, Filled kind default values held) ↔
      values.length ≤ 1 ∧ ∀ value ∈ values, ∃ held, kind value = some held := by
  rw [← exists_atMostOnce_iff]
  constructor
  · rintro ⟨held, h⟩
    obtain ⟨found, h, -⟩ := filled_iff.mp h
    exact ⟨found, h⟩
  · rintro ⟨found, h⟩
    exact ⟨_, filled_iff.mpr ⟨found, h, rfl⟩⟩

/-- Members convey a configuration exactly if they are accepted. -/
theorem exists_conveyed_iff (h : ∀ member ∈ members, member.2.IsIntegral) :
    (∃ config, Conveyed members config) ↔ IsAccepted members := by
  have ht {value : Json} (hv : value ∈ members.values "timeout_secs") :
      (∃ held, value.orNull natural? = some held) ↔ value = .null ∨
        ∃ seconds : Nat, seconds < 0x10000000000000000 ∧ value = .number (.integer seconds) := by
    simp only [exists_orNull_eq_some_iff, natural?_eq_some_iff]
    refine or_congr_right (exists_congr fun seconds => iff_and_self.mpr ?_)
    rintro rfl
    obtain ⟨member, hm, hv⟩ := Members.exists_mem_of_mem_values hv
    have hi := hv ▸ h member hm
    cases hi with
    | number _ hu => omega
  constructor
  · rintro ⟨config, hc⟩
    have hx (key : String) {default held : String}
        (hf : Filled text? default (members.values key) held) :
        ∀ value ∈ members.values key, ∃ text, value = .text text := by
      simpa only [text?_eq_some_iff] using (exists_filled_iff.mp ⟨_, hf⟩).2
    refine ⟨hc.length_le, ?_, ?_⟩
    · simp only [List.forall_mem_cons, List.not_mem_nil, false_implies, implies_true, and_true]
      exact ⟨hx _ hc.baseUrl, hx _ hc.tokenVariable, hx _ hc.messageEndpoint,
        hx _ hc.uploadEndpoint⟩
    · exact fun value hv => (ht hv).mp ((exists_filled_iff.mp ⟨_, hc.timeoutSeconds⟩).2 value hv)
  · rintro ⟨ho, hx, hs⟩
    have hf (key : String) (hk : key ∈ fieldKeys)
        (hk' : key ∈ ["api_base_url", "token_env", "message_endpoint", "upload_endpoint"])
        (default : String) : ∃ held, Filled text? default (members.values key) held := by
      refine exists_filled_iff.mpr ⟨ho key hk, ?_⟩
      simpa only [text?_eq_some_iff] using hx key hk'
    obtain ⟨baseUrl, hb⟩ := hf "api_base_url" (by decide) (by decide) _
    obtain ⟨tokenVariable, ht'⟩ := hf "token_env" (by decide) (by decide) _
    obtain ⟨messageEndpoint, hm⟩ := hf "message_endpoint" (by decide) (by decide) _
    obtain ⟨uploadEndpoint, hu⟩ := hf "upload_endpoint" (by decide) (by decide) _
    obtain ⟨timeoutSeconds, hs'⟩ := exists_filled_iff.mpr
      ⟨ho "timeout_secs" (by decide), fun value hv => (ht hv).mpr (hs value hv)⟩
    exact ⟨⟨baseUrl, tokenVariable, messageEndpoint, uploadEndpoint, timeoutSeconds⟩,
      hb, ht', hm, hu, hs'⟩

/-! ## What is no list and no object -/

/-- A list or an object is found where its bracket stands. -/
theorem opening_of_readFound {found : Found} (h : readFound limit front = .ok (found, rest))
    (hn : found.scalar? = none) :
    ∃ bracket behind, skipBlanks front = Bracket.opening bracket :: behind := by
  rw [readFound] at h
  split at h
  · cases h
  · next octet behind hf =>
    by_cases hl : octet = '['.toUInt8
    · exact ⟨.list, behind, hf.trans (congrArg (· :: behind) hl)⟩
    by_cases ho : octet = '\x7b'.toUInt8
    · exact ⟨.object, behind, hf.trans (congrArg (· :: behind) ho)⟩
    -- Whatever else is found is a scalar.
    rw [if_neg hl, if_neg ho] at h
    repeat' split at h
    all_goals first
      | cases h
      | obtain ⟨_, -, h⟩ := bind_eq_ok_iff.mp h
        cases h
        cases hn

/-- What is read as a configuration is found as a list or as an object. -/
theorem readFound_of_parse (h : parse octets = .ok config) :
    ∃ found behind, readFound octets.length octets = .ok (found, behind) ∧
      found.scalar? = none := by
  obtain ⟨rest, hr, -⟩ := readWhole_eq_ok_iff.mp h
  obtain ⟨⟨found, behind⟩, hf, hr⟩ := bind_eq_ok_iff.mp hr
  refine ⟨found, behind, hf, ?_⟩
  cases found with
  | list => rfl
  | object => rfl
  | _ => cases hr

/-- A configuration is only read of a list or an object. -/
theorem container_of_parse {value : Json} (h : parse octets = .ok config)
    (hv : Json.parse octets = .ok value) :
    (∃ items, value = .list items) ∨ ∃ members, value = .object members := by
  obtain ⟨found, behind, hf, hn⟩ := readFound_of_parse h
  obtain ⟨rest, hr, -⟩ := readWhole_eq_ok_iff.mp hv
  rw [readValue, hf, ok_bind] at hr
  cases found with
  | list =>
    obtain ⟨⟨items, _⟩, -, hr⟩ := bind_eq_ok_iff.mp hr
    cases hr
    exact .inl ⟨items, rfl⟩
  | object =>
    obtain ⟨⟨members, _⟩, -, hr⟩ := bind_eq_ok_iff.mp hr
    cases hr
    exact .inr ⟨members, rfl⟩
  | _ => cases hn

/-! ## What is written -/

/-- What is written for a configuration conveys it. -/
theorem conveyed_toJson (config : Config) :
    ∃ members, members? config.toJson = some members ∧ Conveyed members config := by
  refine ⟨_, rfl, .once rfl, .once rfl, .once rfl, .once rfl, .once ?_⟩
  cases config.timeoutSeconds with
  | none => rfl
  | some seconds => exact congrArg (Option.map some) (natural?_eq_some_iff.mpr rfl)

theorem isIntegral_toJson (h : ∀ seconds, config.timeoutSeconds = some seconds →
    seconds < 0x10000000000000000) : config.toJson.IsIntegral := by
  have ht : (config.timeoutSeconds.elim Json.null fun n => .number (.integer n)).IsIntegral := by
    cases hs : config.timeoutSeconds with
    | none => exact .null
    | some seconds =>
      have hn := h seconds hs
      exact .number (by omega) (by omega)
  refine .object ?_
  simp only [List.forall_mem_cons, List.not_mem_nil, false_implies, implies_true, and_true]
  exact ⟨.text _, .text _, .text _, .text _, ht⟩

/-- What is written for a configuration is read back. -/
theorem parse_toJson (h : ∀ seconds, config.timeoutSeconds = some seconds →
    seconds < 0x10000000000000000) : parse config.toJson.toOctets = .ok config :=
  (parse_of_spells (spells_toOctets (isIntegral_toJson h))).mpr (conveyed_toJson config)

end Config

end SlackCourier
