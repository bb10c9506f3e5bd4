import Mathlib.Data.List.Basic
import SlackCourier.Proofs.Multipart.Cut

/-!
# Forms are read back

Nothing is escaped in the values and the contents of a form, so what a reader
receives depends on where the boundary occurs. The headers are never in doubt:
an escaped name ends neither its quotes nor its line, so the first empty line is
the one behind them.

* `read?_encode_eq_some_iff`: a form is read back, part by part and with nothing
  added, if and only if no value and no content has the boundary on a line of
  its own in it.
-/

namespace SlackCourier.Multipart

/-! ## Header lines -/

/-- A parameter as it is written. -/
def writtenParameter (parameter : String × String) : List Char :=
  [';', ' '] ++ (parameter.1.toList ++ (['=', '"'] ++ (parameter.2.toList ++ ['"'])))

theorem parameters?_writtenParameter_append {parameter : String × String}
    (hn : '=' ∉ parameter.1.toList) (hv : '"' ∉ parameter.2.toList) (limit : Nat)
    (rest : List Char) :
    parameters? (limit + 1) (writtenParameter parameter ++ rest) =
      (parameters? limit rest).map (parameter :: ·) := by
  rw [writtenParameter]
  simp only [List.append_assoc]
  rw [parameters?, List.isPrefixOf?_eq_some_iff_append_eq.2 rfl, Option.bind_eq_bind,
    Option.bind_some, cut?_mark_of_not_mem hn, Option.bind_eq_bind, Option.bind_some]
  · simp only
    rw [cut?_mark_of_not_mem hv, Option.bind_eq_bind, Option.bind_some, Option.map_eq_bind]
    simp only
    rw [String.ofList_toList, String.ofList_toList]
    rfl
  · exact List.cons_ne_nil _ _

/-- Parameters are read back if no name has an equals sign in it and no value a
    quote. -/
theorem parameters?_written {parameters : List (String × String)}
    (h : ∀ parameter ∈ parameters, '=' ∉ parameter.1.toList ∧ '"' ∉ parameter.2.toList)
    {limit : Nat} (hl : parameters.length ≤ limit) :
    parameters? limit (parameters.flatMap writtenParameter) = some parameters := by
  induction parameters generalizing limit with
  | nil => cases limit <;> rfl
  | cons parameter parameters ih =>
    obtain ⟨limit, rfl⟩ := Nat.exists_eq_add_one_of_ne_zero (Nat.ne_of_gt (Nat.zero_lt_of_lt hl))
    obtain ⟨hn, hv⟩ := h parameter List.mem_cons_self
    rw [List.flatMap_cons, parameters?_writtenParameter_append hn hv,
      ih (fun p hp => h p (List.mem_cons_of_mem _ hp)) (Nat.le_of_succ_le_succ hl)]
    rfl

theorem length_le_length_written (parameters : List (String × String)) :
    parameters.length ≤ (parameters.flatMap writtenParameter).length := by
  induction parameters with
  | nil => exact Nat.le_refl 0
  | cons parameter parameters ih =>
    rw [List.flatMap_cons, List.length_append, writtenParameter, List.length_append,
      List.length_cons, List.length_cons]
    omega

/-- A disposition is read back with its parameters. -/
theorem header?_disposition {parameters : List (String × String)}
    (h : ∀ parameter ∈ parameters, '=' ∉ parameter.1.toList ∧ '"' ∉ parameter.2.toList) :
    header? ("Content-Disposition: form-data".toList ++ parameters.flatMap writtenParameter) =
      some (.disposition parameters) := by
  have hf : "Content-Disposition: form-data".toList =
      "Content-Disposition".toList ++ ([':', ' '] ++ "form-data".toList) := by decide
  rw [hf, List.append_assoc, List.append_assoc, header?, cut?_mark_of_not_mem (by decide),
    Option.bind_eq_bind, Option.bind_some]
  simp only
  rw [if_pos (by decide), List.isPrefixOf?_eq_some_iff_append_eq.2 rfl, Option.bind_eq_bind,
    Option.bind_some, parameters?_written h (length_le_length_written parameters)]
  rfl

/-- A content type is read back as it is. -/
theorem header?_contentType (value : String) :
    header? ("Content-Type: " ++ value).toList = some (.contentType value) := by
  have hf : "Content-Type: ".toList = "Content-Type".toList ++ [':', ' '] := by decide
  rw [String.toList_append, hf, List.append_assoc, header?, cut?_mark_of_not_mem (by decide),
    Option.bind_eq_bind, Option.bind_some]
  simp only
  rw [if_neg (by decide), if_pos (by decide), String.ofList_toList]

/-! ## The lines of a header -/

theorem splitLines_ne_nil (text : List Char) : splitLines text ≠ [] := by
  fun_cases splitLines text <;> simp

theorem splitLines_cons {c : Char} (hc : c ≠ '\r') (rest : List Char) :
    splitLines (c :: rest) =
      (c :: (splitLines rest).headD []) :: (splitLines rest).tail := by
  rw [splitLines]
  · cases h : splitLines rest with
    | nil => exact absurd h (splitLines_ne_nil rest)
    | cons first others => rfl
  · exact fun _ h _ => hc h

theorem splitLines_append {line : List Char} (h : '\r' ∉ line) (rest : List Char) :
    splitLines (line ++ rest) =
      (line ++ (splitLines rest).headD []) :: (splitLines rest).tail := by
  induction line with
  | nil =>
    cases h : splitLines rest with
    | nil => exact absurd h (splitLines_ne_nil rest)
    | cons first others => rw [List.nil_append, h]; rfl
  | cons c line ih =>
    rw [List.mem_cons, not_or] at h
    rw [List.cons_append, splitLines_cons (Ne.symm h.1), ih h.2]
    rfl

/-- Lines with a break between any two of them are told apart again. -/
theorem splitLines_intercalate {lines : List String} (hne : lines ≠ [])
    (h : ∀ line ∈ lines, '\r' ∉ line.toList) :
    splitLines ("\r\n".intercalate lines).toList = lines.map String.toList := by
  induction lines with
  | nil => exact absurd rfl hne
  | cons line lines ih =>
    have hl := h line List.mem_cons_self
    cases lines with
    | nil =>
      rw [String.intercalate_singleton]
      have hs := splitLines_append hl []
      simpa [splitLines] using hs
    | cons next lines =>
      have ih := ih (List.cons_ne_nil _ _) fun l hl => h l (List.mem_cons_of_mem _ hl)
      rw [String.intercalate_cons_cons, String.toList_append, String.toList_append,
        List.append_assoc, splitLines_append hl,
        show "\r\n".toList ++ ("\r\n".intercalate (next :: lines)).toList =
          '\r' :: '\n' :: ("\r\n".intercalate (next :: lines)).toList from rfl,
        splitLines, ih]
      simp

theorem cut?_emptyLine_append {front : Octets} (h : 0x0D ∉ front) (rest : Octets) :
    cut? (lineBreak ++ lineBreak) (front ++ rest) =
      (cut? (lineBreak ++ lineBreak) rest).map fun (before, back) => (front ++ before, back) :=
  cut?_append_of_not_mem h rest

/-- The end of a line is no empty line if another line follows. -/
theorem cut?_lineBreak_append {octet : UInt8} (h : 0x0D ≠ octet) (octets : Octets) :
    cut? (lineBreak ++ lineBreak) (lineBreak ++ octet :: octets) =
      (cut? (lineBreak ++ lineBreak) (octet :: octets)).map
        fun (front, back) => (lineBreak ++ front, back) := by
  show cut? (lineBreak ++ lineBreak) (0x0D :: 0x0A :: octet :: octets) = _
  rw [cut?_cons_of_mismatch, cut?_cons_of_mismatch, Option.map_map]
  · rfl
  · exact fun hp => absurd (List.cons_prefix_cons.1 hp).1 (by decide)
  · intro hp
    have hp := (List.cons_prefix_cons.1 (List.cons_prefix_cons.1 hp).2).2
    exact h (List.cons_prefix_cons.1 hp).1

/-- The first empty line is the one behind the header lines. -/
theorem cut?_flatMap_line {lines : List String} (hne : lines ≠ [])
    (h : ∀ line ∈ lines, line ≠ "" ∧ '\r' ∉ line.toList) (rest : Octets) :
    cut? (lineBreak ++ lineBreak) (lines.flatMap line ++ (lineBreak ++ rest)) =
      some (Octets.ofText ("\r\n".intercalate lines), rest) := by
  induction lines with
  | nil => exact absurd rfl hne
  | cons first lines ih =>
    obtain ⟨_, hr⟩ := h first List.mem_cons_self
    have hf : (0x0D : UInt8) ∉ Octets.ofText first := Octets.not_mem_ofText (by decide) hr
    cases lines with
    | nil =>
      rw [List.flatMap_singleton, line, String.intercalate_singleton, List.append_assoc,
        ← List.append_assoc lineBreak]
      exact cut?_mark_of_not_mem hf rest
    | cons next lines =>
      -- The next line is not empty, so the break in front of it ends no header.
      obtain ⟨hn, hr⟩ := h next (List.mem_cons_of_mem _ List.mem_cons_self)
      have ih := ih (List.cons_ne_nil _ _) fun l hl => h l (List.mem_cons_of_mem _ hl)
      obtain ⟨octet, octets, ho⟩ := List.exists_cons_of_ne_nil (Octets.ofText_ne_nil hn)
      have hne : (0x0D : UInt8) ≠ octet := by
        rintro rfl
        exact Octets.not_mem_ofText (by decide) hr (ho ▸ List.mem_cons_self)
      have hs : (next :: lines).flatMap line ++ (lineBreak ++ rest) =
          octet :: (octets ++ lineBreak ++ lines.flatMap line ++ (lineBreak ++ rest)) := by
        rw [List.flatMap_cons, line, ho]
        rfl
      rw [List.flatMap_cons, line, List.append_assoc, List.append_assoc, cut?_emptyLine_append hf,
        hs, cut?_lineBreak_append hne, ← hs, ih, String.intercalate_cons_cons,
        Octets.ofText_append, Octets.ofText_append, List.append_assoc]
      rfl

/-! ## Parts -/

/-- A part as it is sent, and what a reader is meant to receive of it. -/
structure Sent where
  lines : List String
  received : Received

namespace Sent

/-- The header lines are lines, and they are read as the headers. -/
structure IsReadable (sent : Sent) : Prop where
  lines_ne_nil : sent.lines ≠ []
  isLine : ∀ line ∈ sent.lines, line ≠ "" ∧ '\r' ∉ line.toList
  headers : (sent.lines.map String.toList).mapM header? = some sent.received.headers

end Sent

/-- What follows a boundary if some parts are sent: each with a boundary behind
    it, and the end. -/
def following (boundary : String) : List Sent → Octets
  | [] => Octets.ofText "--" ++ lineBreak
  | sent :: rest =>
    lineBreak ++ (sent.lines.flatMap line ++ (lineBreak ++ (sent.received.content ++
      (delimiter boundary ++ following boundary rest))))

theorem flatMap_part_append_closing (boundary : String) (sent : List Sent) :
    sent.flatMap (fun s => part boundary s.lines s.received.content) ++ closing boundary =
      Octets.ofText ("--" ++ boundary) ++ following boundary sent := by
  induction sent with
  | nil =>
    rw [List.flatMap_nil, List.nil_append, closing, line, Octets.ofText_append, following,
      List.append_assoc]
  | cons s sent ih =>
    rw [List.flatMap_cons, List.append_assoc, ih, following, part, heading, line, delimiter]
    simp only [List.append_assoc]

theorem length_lt_length_following (boundary : String) (sent : List Sent) :
    sent.length < (following boundary sent).length := by
  induction sent with
  | nil => exact Nat.zero_lt_succ _
  | cons s sent ih =>
    rw [following]
    simp only [List.length_append, List.length_cons, lineBreak]
    omega

variable {boundary : String}

/-- A part is received with its headers, and with a content that ends at the
    first boundary. -/
theorem parts?_following_cons {s : Sent} (h : s.IsReadable) (limit : Nat) (sent : List Sent) :
    parts? boundary (limit + 1) (following boundary (s :: sent)) =
      (do
        let (content, rest) ← cut? (delimiter boundary)
          (s.received.content ++ (delimiter boundary ++ following boundary sent))
        let others ← parts? boundary limit rest
        some (⟨s.received.headers, content⟩ :: others)) := by
  have hd : ∀ octets, (Octets.ofText "--").isPrefixOf? (lineBreak ++ octets) = none :=
    fun _ => rfl
  have hc : ∀ line ∈ s.lines, '\r' ∉ line.toList := fun line hl => (h.isLine line hl).2
  rw [following, parts?, hd]
  simp only
  rw [List.isPrefixOf?_eq_some_iff_append_eq.2 rfl, Option.bind_eq_bind, Option.bind_some,
    cut?_flatMap_line h.lines_ne_nil h.isLine, Option.bind_eq_bind, Option.bind_some]
  simp only
  rw [Octets.text?_ofText, Option.bind_eq_bind, Option.bind_some,
    splitLines_intercalate h.lines_ne_nil hc, h.headers, Option.bind_eq_bind, Option.bind_some]

/-- Behind its carriage return a delimiter has no other. -/
theorem not_mem_tail_delimiter (hb : '\r' ∉ boundary.toList) :
    (0x0D : UInt8) ∉ 0x0A :: Octets.ofText ("--" ++ boundary) := by
  rw [List.mem_cons, not_or]
  refine ⟨by decide, Octets.not_mem_ofText (by decide) ?_⟩
  rw [String.toList_append, List.mem_append, not_or]
  exact ⟨by decide, hb⟩

/-- Parts are received as they were sent if and only if the boundary is on a
    line of its own in none of their contents. -/
theorem parts?_following_eq_some_iff (hb : '\r' ∉ boundary.toList) {sent : List Sent}
    (h : ∀ s ∈ sent, s.IsReadable) {limit : Nat} (hl : sent.length < limit) :
    parts? boundary limit (following boundary sent) = some (sent.map Sent.received) ↔
      ∀ s ∈ sent, ¬ delimiter boundary <:+: s.received.content := by
  induction sent generalizing limit with
  | nil =>
    obtain ⟨limit, rfl⟩ := Nat.exists_eq_add_one_of_ne_zero (Nat.ne_of_gt (Nat.zero_lt_of_lt hl))
    exact iff_of_true rfl fun _ hs => absurd hs List.not_mem_nil
  | cons s sent ih =>
    obtain ⟨limit, rfl⟩ := Nat.exists_eq_add_one_of_ne_zero (Nat.ne_of_gt (Nat.zero_lt_of_lt hl))
    have ih := ih (fun s hs => h s (List.mem_cons_of_mem _ hs)) (Nat.lt_of_succ_lt_succ hl)
    rw [parts?_following_cons (h s List.mem_cons_self), List.forall_mem_cons, List.map_cons]
    by_cases hi : delimiter boundary <:+: s.received.content
    · -- The content ends too early, whatever is received after it.
      obtain ⟨before, after, hc, hlt⟩ : ∃ before after, cut? (delimiter boundary)
          (s.received.content ++ (delimiter boundary ++ following boundary sent)) =
            some (before, after) ∧ before.length < s.received.content.length :=
        exists_cut?_of_infix hi _
      refine iff_of_false (fun hp => ?_) fun hn => hn.1 hi
      rw [hc, Option.bind_eq_bind, Option.bind_some] at hp
      obtain ⟨others, _, ho⟩ := Option.bind_eq_some_iff.1 hp
      have hr := (List.cons.inj (Option.some.inj ho)).1
      rw [← hr] at hlt
      exact Nat.lt_irrefl _ hlt
    · -- The content ends where it was sent to end: by induction on the parts behind it.
      have hc : cut? (delimiter boundary)
          (s.received.content ++ (delimiter boundary ++ following boundary sent)) =
            some (s.received.content, following boundary sent) :=
        cut?_append_mark (not_mem_tail_delimiter hb) hi _
      rw [hc, Option.bind_eq_bind, Option.bind_some]
      constructor
      · intro hp
        obtain ⟨others, hf, ho⟩ := Option.bind_eq_some_iff.1 hp
        rw [(List.cons.inj (Option.some.inj ho)).2] at hf
        exact ⟨hi, ih.1 hf⟩
      · rintro ⟨_, hn⟩
        exact Option.bind_eq_some_iff.2 ⟨_, ih.2 hn, rfl⟩

/-- A form is received as it was sent if and only if the boundary is on a line of
    its own in none of its contents. -/
theorem read?_following_eq_some_iff (hb : '\r' ∉ boundary.toList) {sent : List Sent}
    (h : ∀ s ∈ sent, s.IsReadable) :
    read? boundary (Octets.ofText ("--" ++ boundary) ++ following boundary sent) =
        some (sent.map Sent.received) ↔
      ∀ s ∈ sent, ¬ delimiter boundary <:+: s.received.content := by
  have hl : sent.length < (Octets.ofText ("--" ++ boundary) ++ following boundary sent).length := by
    rw [List.length_append]
    exact Nat.lt_add_left _ (length_lt_length_following boundary sent)
  rw [read?, List.isPrefixOf?_eq_some_iff_append_eq.2 rfl, Option.bind_eq_bind, Option.bind_some]
  exact parts?_following_eq_some_iff hb h hl

/-! ## Forms -/

/-- What is meant to be received of a field. -/
def Received.ofField (field : String × String) : Received :=
  ⟨[.disposition [("name", escape field.1)]], Octets.ofText field.2⟩

/-- What is meant to be received of a file. -/
def Received.ofFile (file : FilePart) : Received :=
  ⟨[.disposition [("name", escape file.fieldName), ("filename", escape file.fileName)],
    .contentType file.contentType], file.content⟩

namespace Sent

/-- A field as it is sent. -/
def ofField (field : String × String) : Sent :=
  ⟨["Content-Disposition: form-data; name=\"" ++ escape field.1 ++ "\""], .ofField field⟩

/-- A file as it is sent. -/
def ofFile (file : FilePart) : Sent :=
  ⟨["Content-Disposition: form-data; name=\"" ++ escape file.fieldName ++ "\"; filename=\""
      ++ escape file.fileName ++ "\"",
    "Content-Type: " ++ file.contentType], .ofFile file⟩

theorem isLine_append {front text : String} (hf : front ≠ "" ∧ '\r' ∉ front.toList)
    (ht : '\r' ∉ text.toList) : front ++ text ≠ "" ∧ '\r' ∉ (front ++ text).toList := by
  rw [Ne, ← String.toList_eq_nil_iff, String.toList_append, List.append_eq_nil_iff,
    List.mem_append, not_or, String.toList_eq_nil_iff]
  exact ⟨fun h => hf.1 h.1, hf.2, ht⟩

theorem header?_ofField (name : String) :
    header? ("Content-Disposition: form-data; name=\"" ++ escape name ++ "\"").toList =
      some (.disposition [("name", escape name)]) := by
  have hf : "Content-Disposition: form-data; name=\"".toList =
      "Content-Disposition: form-data".toList ++ ([';', ' '] ++ ("name".toList ++ ['=', '"'])) :=
    by decide
  have hb : "\"".toList = ['"'] := by decide
  have hw : ("Content-Disposition: form-data; name=\"" ++ escape name ++ "\"").toList =
      "Content-Disposition: form-data".toList ++ [("name", escape name)].flatMap
        writtenParameter := by
    rw [String.toList_append, String.toList_append, hf, hb, List.flatMap_singleton,
      writtenParameter]
    simp only [List.append_assoc]
  rw [hw]
  have hq := not_mem_escape (c := '"') (.inl rfl) name
  exact header?_disposition (List.forall_mem_singleton.2
    ⟨(by decide : '=' ∉ "name".toList), hq⟩)

theorem header?_ofFile (name fileName : String) :
    header? ("Content-Disposition: form-data; name=\"" ++ escape name ++ "\"; filename=\""
        ++ escape fileName ++ "\"").toList =
      some (.disposition [("name", escape name), ("filename", escape fileName)]) := by
  have hf : "Content-Disposition: form-data; name=\"".toList =
      "Content-Disposition: form-data".toList ++ ([';', ' '] ++ ("name".toList ++ ['=', '"'])) :=
    by decide
  have hm : "\"; filename=\"".toList =
      ['"'] ++ ([';', ' '] ++ ("filename".toList ++ ['=', '"'])) := by decide
  have hb : "\"".toList = ['"'] := by decide
  -- The quotes that end one parameter stand right in front of the next.
  have hw : ("Content-Disposition: form-data; name=\"" ++ escape name ++ "\"; filename=\""
      ++ escape fileName ++ "\"").toList =
      "Content-Disposition: form-data".toList ++
        [("name", escape name), ("filename", escape fileName)].flatMap writtenParameter := by
    rw [String.toList_append, String.toList_append, String.toList_append, String.toList_append,
      hf, hm, hb, List.flatMap_cons, List.flatMap_singleton, writtenParameter, writtenParameter]
    simp only [List.append_assoc]
  rw [hw]
  have hq := not_mem_escape (c := '"') (.inl rfl)
  exact header?_disposition (List.forall_mem_cons.2 ⟨⟨(by decide : '=' ∉ "name".toList), hq name⟩,
    List.forall_mem_singleton.2 ⟨(by decide : '=' ∉ "filename".toList), hq fileName⟩⟩)

theorem isReadable_ofField (field : String × String) : (ofField field).IsReadable where
  lines_ne_nil := List.cons_ne_nil _ _
  isLine line hl := by
    obtain rfl := List.mem_singleton.1 hl
    exact isLine_append (isLine_append (by decide) (not_mem_escape (.inr (.inl rfl)) _))
      (by decide)
  headers := by
    rw [ofField, List.map_singleton, List.mapM_cons, header?_ofField, List.mapM_nil]
    rfl

theorem isReadable_ofFile {file : FilePart} (h : '\r' ∉ file.contentType.toList) :
    (ofFile file).IsReadable where
  lines_ne_nil := List.cons_ne_nil _ _
  isLine line hl := by
    rcases List.mem_cons.1 hl with rfl | hl
    · have hr := not_mem_escape (c := '\r') (.inr (.inl rfl))
      exact isLine_append (isLine_append (isLine_append (isLine_append (by decide) (hr _))
        (by decide)) (hr _)) (by decide)
    · obtain rfl := List.mem_singleton.1 hl
      exact isLine_append (by decide) h
  headers := by
    rw [ofFile, List.map_cons, List.map_singleton, List.mapM_cons, header?_ofFile, List.mapM_cons,
      header?_contentType, List.mapM_nil]
    rfl

theorem isReadable_of_mem (fields : List (String × String)) {file : Option FilePart}
    (h : ∀ part, file = some part → '\r' ∉ part.contentType.toList) :
    ∀ s ∈ fields.map ofField ++ file.toList.map ofFile, s.IsReadable := by
  intro s hs
  rcases List.mem_append.1 hs with hs | hs
  · obtain ⟨field, _, rfl⟩ := List.mem_map.1 hs
    exact isReadable_ofField field
  · obtain ⟨part, hm, rfl⟩ := List.mem_map.1 hs
    exact isReadable_ofFile (h part (Option.mem_toList.1 hm))

end Sent

theorem encode_eq_following (boundary : String) (fields : List (String × String))
    (file : Option FilePart) :
    encode boundary fields file = Octets.ofText ("--" ++ boundary) ++
      following boundary (fields.map Sent.ofField ++ file.toList.map Sent.ofFile) := by
  rw [← flatMap_part_append_closing, List.flatMap_append, List.flatMap_map, List.flatMap_map,
    encode]
  cases file with
  | none => rfl
  | some file =>
    rw [Option.toList_some, List.flatMap_singleton]
    rfl

/-- A form is read back, part by part and with nothing added, if and only if no
    value of a field and not the content of the file has the boundary on a line
    of its own in it. -/
theorem read?_encode_eq_some_iff {boundary : String} (hb : '\r' ∉ boundary.toList)
    (fields : List (String × String)) (file : Option FilePart)
    (hf : ∀ f, file = some f → '\r' ∉ f.contentType.toList) :
    read? boundary (encode boundary fields file) =
        some (fields.map Received.ofField ++ file.toList.map Received.ofFile) ↔
      (∀ field ∈ fields, ¬ delimiter boundary <:+: Octets.ofText field.2) ∧
        ∀ f, file = some f → ¬ delimiter boundary <:+: f.content := by
  have hm := read?_following_eq_some_iff hb (Sent.isReadable_of_mem fields hf)
  rw [← encode_eq_following, List.map_append, List.map_map, List.map_map, List.forall_mem_append,
    List.forall_mem_map, List.forall_mem_map] at hm
  refine hm.trans (and_congr_right fun _ => ?_)
  exact forall_congr' fun f => imp_congr_left Option.mem_toList

/-- A value may come as close to the boundary as it likes, but not hold it. -/
theorem read?_encode_near_boundary :
    read? "B" (encode "B" [("a\"b", "\r\n--"), ("", "")]
        (some ⟨"file", "r\r\n.txt", "text/plain", [0x0D, 0x0A, 0x2D, 0x2D, 0x43, 0x0D]⟩)) =
      some [Received.ofField ("a\"b", "\r\n--"), Received.ofField ("", ""),
        Received.ofFile
          ⟨"file", "r\r\n.txt", "text/plain", [0x0D, 0x0A, 0x2D, 0x2D, 0x43, 0x0D]⟩] ∧
    read? "B" (encode "B" [("a", "x\r\n--By")] none) ≠
      some [Received.ofField ("a", "x\r\n--By")] := by
  constructor
  · refine (read?_encode_eq_some_iff (by decide) [("a\"b", "\r\n--"), ("", "")] (some _) ?_).2
      ⟨by decide +kernel, ?_⟩
    · rintro f ⟨⟩
      decide
    · rintro f ⟨⟩
      decide +kernel
  · intro h
    have hn := (read?_encode_eq_some_iff (by decide) [("a", "x\r\n--By")] none
      fun _ hf => nomatch hf).1 h
    exact hn.1 _ List.mem_cons_self (by decide +kernel)

end SlackCourier.Multipart
