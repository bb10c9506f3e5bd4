import Mathlib.Logic.Relation
import SlackCourier.Proofs.Multipart.Cut

/-!
# Names that are confused

A percent sign in a name is not escaped, so a name with a quote is written like the name with
the code of a quote in its place, and nobody who reads the header can tell the two apart.
There is no other way to confuse names. A code begins with a percent sign and has no second
one, so where a code is put into a name no further code comes about, neither with the text in
front of it nor with the text behind it (`isPrefix_of_isPrefix_escapeChars`). It is therefore
the same whether codes are read in a name or in the escaped name
(`unescapeChars_escapeChars`), and whether a name is escaped or what was read in it
(`escapeChars_unescapeChars`).

* `escape_eq_escape_iff`: names are written alike if and only if the same is read in them.
* `eqvGen_writesCode_iff`: they are then the same name but for characters that are written as
  their codes.
* `tellsApart_names`: what is escaped in a name, and from which names it is told apart in the
  parts of a form.
-/

namespace SlackCourier.Multipart

open Relation

variable {c : Char} {code word text other rest : List Char}

/-! ## Codes -/

/-- The code that is written for a character in a name, if there is one. -/
def code? : Char → Option (List Char)
  | '"' => some ['%', '2', '2']
  | '\r' => some ['%', '0', 'D']
  | '\n' => some ['%', '0', 'A']
  | _ => none

theorem code?_eq_some_iff :
    code? c = some code ↔ c = '"' ∧ code = ['%', '2', '2'] ∨ c = '\r' ∧ code = ['%', '0', 'D'] ∨
      c = '\n' ∧ code = ['%', '0', 'A'] := by
  unfold code?
  split <;> simp_all [eq_comm]

theorem code?_eq_none_iff : code? c = none ↔ c ≠ '"' ∧ c ≠ '\r' ∧ c ≠ '\n' := by
  unfold code?
  split <;> simp_all

/-- A code has one percent sign, in front. -/
theorem exists_eq_cons_of_code? (h : code? c = some code) :
    ∃ digits, code = '%' :: digits ∧ '%' ∉ digits := by
  rcases code?_eq_some_iff.1 h with ⟨-, rfl⟩ | ⟨-, rfl⟩ | ⟨-, rfl⟩ <;> exact ⟨_, rfl, by decide⟩

/-! ## Escaping character by character -/

/-- A character as it stands in an escaped name. -/
def escapeChar (c : Char) : List Char :=
  (code? c).getD [c]

/-- Characters as they stand in an escaped name. -/
def escapeChars (text : List Char) : List Char :=
  text.flatMap escapeChar

theorem escapeChars_cons (c : Char) (rest : List Char) :
    escapeChars (c :: rest) = escapeChar c ++ escapeChars rest :=
  List.flatMap_cons

theorem escapeChars_append (text rest : List Char) :
    escapeChars (text ++ rest) = escapeChars text ++ escapeChars rest :=
  List.flatMap_append

theorem escapeChars_cons_of_code? (h : code? c = some code) (rest : List Char) :
    escapeChars (c :: rest) = code ++ escapeChars rest := by
  simp [escapeChars_cons, escapeChar, h]

theorem escapeChars_cons_of_plain (h : code? c = none) (rest : List Char) :
    escapeChars (c :: rest) = c :: escapeChars rest := by
  simp [escapeChars_cons, escapeChar, h]

theorem escapeChars_code (h : code? c = some code) : escapeChars code = code := by
  rcases code?_eq_some_iff.1 h with ⟨-, rfl⟩ | ⟨-, rfl⟩ | ⟨-, rfl⟩ <;> decide

/-- Nothing changes in a text without characters to be escaped. -/
theorem escapeChars_of_plain (h : ∀ c ∈ text, code? c = none) : escapeChars text = text := by
  induction text with
  | nil => rfl
  | cons c text ih =>
    obtain ⟨hc, ht⟩ := List.forall_mem_cons.1 h
    rw [escapeChars_cons_of_plain hc, ih ht]

/-- None of the three substitutions finds anything in what was put there before it, so they
    are made as if all at once. -/
theorem toList_escape (name : String) : (escape name).toList = escapeChars name.toList := by
  rw [escape, String.toList_ofList, escapeChars]
  simp only [substitute, List.flatMap_assoc]
  congr 1
  funext c
  rcases h : code? c with _ | code
  · obtain ⟨hq, hr, hn⟩ := code?_eq_none_iff.1 h
    simp [escapeChar, h, hq, hr, hn]
  · rcases code?_eq_some_iff.1 h with ⟨rfl, rfl⟩ | ⟨rfl, rfl⟩ | ⟨rfl, rfl⟩ <;> decide

/-- An escaped name has nothing more to be escaped in it. -/
theorem escape_escape (name : String) : escape (escape name) = escape name := by
  have hp : ∀ c ∈ (escape name).toList, code? c = none := by
    intro c hc
    refine code?_eq_none_iff.2 ⟨?_, ?_, ?_⟩ <;> rintro rfl
    · exact not_mem_escape (.inl rfl) name hc
    · exact not_mem_escape (.inr (.inl rfl)) name hc
    · exact not_mem_escape (.inr (.inr rfl)) name hc
  rw [← String.toList_inj, toList_escape, escapeChars_of_plain hp]

/-- What has no percent sign in it was not put there: if an escaped text begins with it, so
    does the text. -/
theorem isPrefix_of_isPrefix_escapeChars (hw : '%' ∉ word) (h : word <+: escapeChars text) :
    word <+: text := by
  induction word generalizing text with
  | nil => exact List.nil_prefix
  | cons d word ih =>
    rw [List.mem_cons, not_or] at hw
    rcases text with _ | ⟨c, text⟩
    · exact h
    · rcases hc : code? c with _ | code
      · rw [escapeChars_cons_of_plain hc, List.cons_prefix_cons] at h
        exact List.cons_prefix_cons.2 ⟨h.1, ih hw.2 h.2⟩
      · -- Here the escaped text begins with a percent sign.
        obtain ⟨digits, rfl, -⟩ := exists_eq_cons_of_code? hc
        rw [escapeChars_cons_of_code? hc, List.cons_append, List.cons_prefix_cons] at h
        exact absurd h.1.symm hw.1

/-! ## Reading codes -/

/-- No code stands at the front of the text. -/
def BeginsPlain (text : List Char) : Prop :=
  ∀ c code, code? c = some code → ¬ code <+: text

/-- A text is read from left to right, a code at its front in one piece, and else one
    character. -/
@[elab_as_elim]
theorem reading_induction {motive : List Char → Prop} (nil : motive [])
    (code : ∀ c code rest, code? c = some code → motive rest → motive (code ++ rest))
    (plain : ∀ c rest, BeginsPlain (c :: rest) → motive rest → motive (c :: rest))
    (text : List Char) : motive text := by
  fun_induction unescapeChars text with
  | case1 rest ih => exact code '"' _ rest rfl ih
  | case2 rest ih => exact code '\r' _ rest rfl ih
  | case3 rest ih => exact code '\n' _ rest rfl ih
  | case4 c rest hq hr hn ih =>
    refine plain c rest ?_ ih
    rintro d word hd ⟨back, hb⟩
    rcases code?_eq_some_iff.1 hd with ⟨-, rfl⟩ | ⟨-, rfl⟩ | ⟨-, rfl⟩ <;> cases hb
    · exact hq _ rfl rfl
    · exact hr _ rfl rfl
    · exact hn _ rfl rfl
  | case5 => exact nil

theorem unescapeChars_code_append (h : code? c = some code) (rest : List Char) :
    unescapeChars (code ++ rest) = c :: unescapeChars rest := by
  rcases code?_eq_some_iff.1 h with ⟨rfl, rfl⟩ | ⟨rfl, rfl⟩ | ⟨rfl, rfl⟩ <;> rfl

theorem unescapeChars_cons_of_plain (h : BeginsPlain (c :: rest)) :
    unescapeChars (c :: rest) = c :: unescapeChars rest := by
  rw [unescapeChars] <;> rintro rest rfl rfl
  · exact h '"' _ rfl (List.prefix_append ['%', '2', '2'] rest)
  · exact h '\r' _ rfl (List.prefix_append ['%', '0', 'D'] rest)
  · exact h '\n' _ rfl (List.prefix_append ['%', '0', 'A'] rest)

/-- Behind a character that begins no code, escaping does not complete one. -/
theorem BeginsPlain.escapeChars (h : BeginsPlain (c :: rest)) :
    BeginsPlain (c :: escapeChars rest) := by
  intro d code hd hp
  obtain ⟨digits, rfl, hn⟩ := exists_eq_cons_of_code? hd
  rw [List.cons_prefix_cons] at hp
  exact h d _ hd (List.cons_prefix_cons.2 ⟨hp.1, isPrefix_of_isPrefix_escapeChars hn hp.2⟩)

/-- In an escaped text the same is read as in the text. -/
theorem unescapeChars_escapeChars (text : List Char) :
    unescapeChars (escapeChars text) = unescapeChars text := by
  induction text using reading_induction with
  | nil => rfl
  | code c code rest hc ih =>
    rw [escapeChars_append, escapeChars_code hc, unescapeChars_code_append hc, ih,
      unescapeChars_code_append hc]
  | plain c rest hp ih =>
    rw [unescapeChars_cons_of_plain hp]
    rcases hc : code? c with _ | code
    · rw [escapeChars_cons_of_plain hc, unescapeChars_cons_of_plain hp.escapeChars, ih]
    · rw [escapeChars_cons_of_code? hc, unescapeChars_code_append hc, ih]

/-- The quote does not complete the code that the text in front of it begins. -/
example : unescapeChars (escapeChars ['%', '2', '"', '2']) = ['%', '2', '"', '2'] := by decide

/-- What is read in a text is escaped as the text is. -/
theorem escapeChars_unescapeChars (text : List Char) :
    escapeChars (unescapeChars text) = escapeChars text := by
  induction text using reading_induction with
  | nil => rfl
  | code c code rest hc ih =>
    rw [unescapeChars_code_append hc, escapeChars_cons_of_code? hc, ih, escapeChars_append,
      escapeChars_code hc]
  | plain c rest hp ih =>
    rw [unescapeChars_cons_of_plain hp, escapeChars_cons, ih, escapeChars_cons]

/-- Names are written alike if and only if the same is read in them. -/
theorem escape_eq_escape_iff {name other : String} :
    escape name = escape other ↔ unescape name = unescape other := by
  rw [← String.toList_inj, toList_escape, toList_escape, unescape, unescape, String.ofList_inj]
  constructor
  · intro h
    rw [← unescapeChars_escapeChars, h, unescapeChars_escapeChars]
  · intro h
    rw [← escapeChars_unescapeChars, h, escapeChars_unescapeChars]

/-! ## Names that differ in codes -/

/-- The second text is the first one with a character written as its code. -/
inductive WritesCode : List Char → List Char → Prop
  | intro (front back : List Char) {c : Char} {code : List Char} (h : code? c = some code) :
      WritesCode (front ++ c :: back) (front ++ (code ++ back))

theorem WritesCode.append_left (h : WritesCode text other) (before : List Char) :
    WritesCode (before ++ text) (before ++ other) := by
  obtain ⟨front, back, hc⟩ := h
  simpa using WritesCode.intro (before ++ front) back hc

theorem WritesCode.escapeChars_eq (h : WritesCode text other) :
    escapeChars text = escapeChars other := by
  obtain ⟨front, back, hc⟩ := h
  rw [escapeChars_append, escapeChars_append, escapeChars_cons_of_code? hc, escapeChars_append,
    escapeChars_code hc]

/-- A text is escaped by writing one character after the other as its code. -/
theorem reflTransGen_writesCode_escapeChars (text : List Char) :
    ReflTransGen WritesCode text (escapeChars text) := by
  induction text with
  | nil => exact .refl
  | cons c text ih =>
    rcases hc : code? c with _ | code
    · rw [escapeChars_cons_of_plain hc]
      exact ih.lift (c :: ·) fun _ _ h => h.append_left [c]
    · rw [escapeChars_cons_of_code? hc]
      exact .head (.intro [] text hc) (ih.lift (code ++ ·) fun _ _ h => h.append_left code)

/-- Texts are escaped alike if and only if one comes from the other by writing characters as
    their codes, and codes as their characters. -/
theorem eqvGen_writesCode_iff :
    EqvGen WritesCode text other ↔ escapeChars text = escapeChars other := by
  constructor
  · intro h
    induction h with
    | rel _ _ h => exact h.escapeChars_eq
    | refl _ => rfl
    | symm _ _ _ ih => exact ih.symm
    | trans _ _ _ _ _ ih ih' => exact ih.trans ih'
  · intro h
    have escaped : ∀ t, EqvGen WritesCode t (escapeChars t) := fun t =>
      EqvGen.reflTransGen_le_eqvGen _ _ _ (reflTransGen_writesCode_escapeChars t)
    exact .trans _ _ _ (escaped text) (h ▸ .symm _ _ (escaped other))

/-! ## Names in headers -/

/-- An escaped name ends at the first quote behind it. -/
theorem ofText_escape_append_inj {name other : String} {after after' : Octets} :
    Octets.ofText (escape name) ++ ([0x22] ++ after) =
        Octets.ofText (escape other) ++ ([0x22] ++ after') ↔
      unescape name = unescape other ∧ after = after' := by
  have hq : ∀ n, (0x22 : UInt8) ∉ Octets.ofText (escape n) := fun n =>
    Octets.not_mem_ofText (by decide) (not_mem_escape (.inl rfl) n)
  rw [← escape_eq_escape_iff, ← Octets.ofText_inj]
  refine ⟨fun h => ?_, fun ⟨hn, ha⟩ => by rw [hn, ha]⟩
  have hc := congrArg (cut? [0x22]) h
  rw [cut?_mark_of_not_mem (hq name), cut?_mark_of_not_mem (hq other)] at hc
  simpa using hc

/-- What stands in front of the first name in a part. -/
def leading (boundary : String) : Octets :=
  line ("--" ++ boundary) ++ Octets.ofText "Content-Disposition: form-data; name=\""

theorem fieldPart_eq (boundary name value : String) :
    fieldPart boundary (name, value) = leading boundary ++ (Octets.ofText (escape name) ++
      ([0x22] ++ (lineBreak ++ lineBreak ++ (Octets.ofText value ++ lineBreak)))) := by
  have hq : Octets.ofText "\"" = [0x22] := by decide
  simp [fieldPart, part, heading, leading, line, Octets.ofText_append, hq]

theorem filePart_eq (boundary fieldName fileName contentType : String) (content : Octets) :
    filePart boundary ⟨fieldName, fileName, contentType, content⟩ =
      leading boundary ++ (Octets.ofText (escape fieldName) ++ ([0x22] ++
        (Octets.ofText "; filename=\"" ++ (Octets.ofText (escape fileName) ++ ([0x22] ++
          (lineBreak ++ line ("Content-Type: " ++ contentType) ++ lineBreak ++ content
            ++ lineBreak)))))) := by
  have hq : Octets.ofText "\"" = [0x22] := by decide
  have hf : Octets.ofText "\"; filename=\"" = [0x22] ++ Octets.ofText "; filename=\"" := by decide
  simp [filePart, part, heading, leading, line, Octets.ofText_append, hq, hf]

/-- What is escaped in a name, and when the name is told apart from another one. -/
structure TellsApart (name other : String) : Prop where
  /-- Each character is escaped on its own, whatever stands around it. -/
  single : escape name = String.ofList (name.toList.flatMap escapeChar)
  /-- Nothing is left that ends the quotes or the line. -/
  clean : '"' ∉ (escape name).toList ∧ '\r' ∉ (escape name).toList ∧ '\n' ∉ (escape name).toList
  settled : escape (escape name) = escape name
  /-- The names are written alike just when the same is read in them. -/
  alike : escape name = escape other ↔ unescape name = unescape other
  /-- They are then the same but for characters that are written as their codes. -/
  respelled : escape name = escape other ↔ EqvGen WritesCode name.toList other.toList
  /-- A part shows of a name what is read in it, no less and no more. -/
  field : ∀ boundary value value',
    fieldPart boundary (name, value) = fieldPart boundary (other, value') ↔
      unescape name = unescape other ∧ value = value'
  file : ∀ boundary fieldName fieldName' contentType content,
    filePart boundary ⟨fieldName, name, contentType, content⟩ =
        filePart boundary ⟨fieldName', other, contentType, content⟩ ↔
      unescape fieldName = unescape fieldName' ∧ unescape name = unescape other

/-- Names are told apart unless they differ in nothing but characters that one of them has as
    they are and the other has as their codes. -/
theorem tellsApart_names (name other : String) : TellsApart name other where
  single := by rw [← String.toList_inj, toList_escape, String.toList_ofList, escapeChars]
  clean := ⟨not_mem_escape (.inl rfl) name, not_mem_escape (.inr (.inl rfl)) name,
    not_mem_escape (.inr (.inr rfl)) name⟩
  settled := escape_escape name
  alike := escape_eq_escape_iff
  respelled := by
    rw [eqvGen_writesCode_iff, ← toList_escape, ← toList_escape, String.toList_inj]
  field boundary value value' := by
    rw [fieldPart_eq, fieldPart_eq, List.append_right_inj, ofText_escape_append_inj,
      List.append_right_inj, List.append_left_inj, Octets.ofText_inj]
  file boundary fieldName fieldName' contentType content := by
    rw [filePart_eq, filePart_eq, List.append_right_inj, ofText_escape_append_inj,
      List.append_right_inj, ofText_escape_append_inj, and_iff_left rfl]

end SlackCourier.Multipart
