import SlackCourier.Body
import SlackCourier.Proofs.Multipart.RoundTrip

/-!
# Histories of forms

A form is built step by step. Every step adds to the fields what it adds and puts its
file, if it has one, in the place of the one before (`FormStep.apply_eq`). So of a whole
history the fields count as they come, and of the files only the last one
(`FormStep.foldl_apply`), and a file may change places with the fields around it.

* `Form.build_eq`: the form of a history has these fields and this file.
* `Form.build_congr`: histories with the same fields and the same last file build the
  same form.
* `Form.gathers_build`: what the body of a form is made of, for every history.
-/

namespace SlackCourier

namespace FormStep

variable {steps steps' : List FormStep}

/-! ## What steps do -/

/-- Whether the step puts a file into the form. -/
def isFile (step : FormStep) : Bool :=
  step.file?.isSome

theorem apply_eq (form : Form) (step : FormStep) :
    apply form step =
      { form with
        fields := form.fields ++ step.field?.toList
        file := step.file?.or form.file } := by
  cases step with
  | field name value => rfl
  | optionalField name value =>
    cases value with
    | none => exact congrArg (Form.mk form.boundary · form.file) (List.append_nil form.fields).symm
    | some value => rfl
  | file part =>
    exact congrArg (Form.mk form.boundary · (some part)) (List.append_nil form.fields).symm

/-- All steps together add their fields in order, and the last of their files stays. -/
theorem foldl_apply (form : Form) (steps : List FormStep) :
    steps.foldl apply form =
      { form with
        fields := form.fields ++ steps.filterMap field?
        file := (steps.filterMap file?).getLast?.or form.file } := by
  induction steps generalizing form with
  | nil => simp
  | cons step steps ih =>
    rw [List.foldl_cons, apply_eq, ih]
    congr 1
    · cases h : step.field? <;> simp [h]
    · cases h : step.file? <;> simp [h, List.getLast?_cons]

/-! ## Files among fields -/

/-- The steps are the same but for their places: the files come in their order and so do all
    other steps, wherever among these the files are. -/
structure SameButForPlaces (steps steps' : List FormStep) : Prop where
  files : steps'.filter isFile = steps.filter isFile
  others : steps'.filter (!isFile ·) = steps.filter (!isFile ·)

theorem filterMap_file?_filter (steps : List FormStep) :
    (steps.filter isFile).filterMap file? = steps.filterMap file? := by
  rw [List.filterMap_filter]
  congr 1
  funext step
  cases h : step.file? <;> simp [isFile, h]

theorem filterMap_field?_filter (steps : List FormStep) :
    (steps.filter (!isFile ·)).filterMap field? = steps.filterMap field? := by
  rw [List.filterMap_filter]
  congr 1
  funext step
  cases step <;> rfl

/-- The steps without the files that are replaced by another one later. -/
def withoutReplaced : List FormStep → List FormStep
  | [] => []
  | step :: steps =>
    if step.isFile && steps.any isFile then withoutReplaced steps
    else step :: withoutReplaced steps

theorem field?_of_isFile {step : FormStep} (h : step.isFile = true) : step.field? = none := by
  cases step with
  | file part => rfl
  | field name value => cases h
  | optionalField name value => cases h

theorem filterMap_file?_eq_nil_iff : steps.filterMap file? = [] ↔ steps.any isFile = false := by
  simp [isFile]

/-- No field is lost with the files. -/
theorem filterMap_field?_withoutReplaced (steps : List FormStep) :
    (withoutReplaced steps).filterMap field? = steps.filterMap field? := by
  induction steps with
  | nil => rfl
  | cons step steps ih =>
    rw [withoutReplaced]
    split
    · next h =>
      rw [ih, List.filterMap_cons_none (field?_of_isFile (Bool.and_eq_true_iff.mp h).1)]
    · rw [List.filterMap_cons, List.filterMap_cons, ih]

/-- Of the files, the last one is left and no other. -/
theorem filterMap_file?_withoutReplaced (steps : List FormStep) :
    (withoutReplaced steps).filterMap file? = (steps.filterMap file?).getLast?.toList := by
  induction steps with
  | nil => rfl
  | cons step steps ih =>
    rw [withoutReplaced]
    cases hf : step.file? with
    | none =>
      have hn : step.isFile = false := by rw [isFile, hf]; rfl
      rw [hn, Bool.false_and, if_neg Bool.false_ne_true, List.filterMap_cons_none hf,
        List.filterMap_cons_none hf, ih]
    | some part =>
      have hi : step.isFile = true := by rw [isFile, hf]; rfl
      rw [hi, Bool.true_and, List.filterMap_cons_some hf]
      split
      · next ha =>
        -- A later file is the last one, with this file in front of it or not.
        have hne : steps.filterMap file? ≠ [] := fun hn =>
          Bool.false_ne_true ((filterMap_file?_eq_nil_iff.mp hn).symm.trans ha)
        rw [ih, List.getLast?_cons_of_ne_nil hne]
      · next ha =>
        have hn := filterMap_file?_eq_nil_iff.mpr (Bool.eq_false_iff.mpr ha)
        rw [List.filterMap_cons_some hf, ih, hn]
        rfl

end FormStep

/-! ## Bodies -/

/-- A form has the fields of its history in order, and the last of the files. -/
theorem Form.build_eq (boundary : String) (steps : List FormStep) :
    build boundary steps =
      ⟨boundary, steps.filterMap FormStep.field?, (steps.filterMap FormStep.file?).getLast?⟩ := by
  rw [build, FormStep.foldl_apply, List.nil_append, Option.or_none]

/-- Histories with the same fields and the same last file build the same form. -/
theorem Form.build_congr {steps steps' : List FormStep} (boundary : String)
    (hf : steps'.filterMap FormStep.field? = steps.filterMap FormStep.field?)
    (hl : (steps'.filterMap FormStep.file?).getLast? = (steps.filterMap FormStep.file?).getLast?) :
    build boundary steps' = build boundary steps := by
  rw [build_eq, build_eq, hf, hl]

/-- What the body of a form is made of that was built in some steps. -/
structure Form.Gathers (boundary : String) (steps : List FormStep) (body : Body) : Prop where
  /-- The form itself has the fields of all steps, in the order of the steps, and the last
      file. -/
  form : build boundary steps =
    ⟨boundary, steps.filterMap FormStep.field?, (steps.filterMap FormStep.file?).getLast?⟩
  /-- The fields of all steps are in it, in the order of the steps, and the last file. -/
  octets : body.octets =
    Multipart.encode boundary (steps.filterMap FormStep.field?)
      (steps.filterMap FormStep.file?).getLast?
  /-- The boundary is announced with which the parts are divided. -/
  announced : body.contentType = "multipart/form-data; boundary=" ++ boundary
  read : ';' ∉ boundary.toList → Multipart.boundaryOf? body.contentType = some boundary
  /-- Wherever the file was put into the form, it is the last part. -/
  last : ∀ part, (steps.filterMap FormStep.file?).getLast? = some part →
    body.octets = (steps.filterMap FormStep.field?).flatMap (Multipart.fieldPart boundary)
      ++ Multipart.filePart boundary part ++ Multipart.closing boundary
  /-- A reader finds just these fields and this file, unless the boundary is on a line of its
      own in one of them. -/
  received : '\r' ∉ boundary.toList →
    (∀ part, (steps.filterMap FormStep.file?).getLast? = some part →
      '\r' ∉ part.contentType.toList ∧ ¬ Multipart.delimiter boundary <:+: part.content) →
    (∀ field ∈ steps.filterMap FormStep.field?,
      ¬ Multipart.delimiter boundary <:+: Octets.ofText field.2) →
    Multipart.read? boundary body.octets =
      some ((steps.filterMap FormStep.field?).map Multipart.Received.ofField
        ++ (steps.filterMap FormStep.file?).getLast?.toList.map Multipart.Received.ofFile)
  /-- In other places the files make the same body. -/
  moved : ∀ steps', FormStep.SameButForPlaces steps steps' →
    Body.multipart (build boundary steps') = body
  /-- So they do without those that are replaced. -/
  unreplaced : Body.multipart (build boundary (FormStep.withoutReplaced steps)) = body

/-- The parts of a form are read back if the boundary is on a line of its own in none of
    them. -/
theorem Multipart.read?_encode_of_forall {boundary : String} (hb : '\r' ∉ boundary.toList)
    {fields : List (String × String)} {file : Option FilePart}
    (hp : ∀ part, file = some part →
      '\r' ∉ part.contentType.toList ∧ ¬ delimiter boundary <:+: part.content)
    (hf : ∀ field ∈ fields, ¬ delimiter boundary <:+: Octets.ofText field.2) :
    read? boundary (encode boundary fields file) =
      some (fields.map Received.ofField ++ file.toList.map Received.ofFile) := by
  have hs := (read?_following_eq_some_iff hb
    (Sent.isReadable_of_mem fields fun part h => (hp part h).1)).mpr
  rw [← encode_eq_following, List.map_append, List.map_map, List.map_map, List.forall_mem_append,
    List.forall_mem_map, List.forall_mem_map] at hs
  exact hs ⟨hf, fun part hm => (hp part (Option.mem_toList.mp hm)).2⟩

/-- For every history, the body of the form gathers what the steps have put into it. -/
theorem Form.gathers_build (boundary : String) (steps : List FormStep) :
    Gathers boundary steps (Body.multipart (build boundary steps)) := by
  have ho : (Body.multipart (build boundary steps)).octets =
      Multipart.encode boundary (steps.filterMap FormStep.field?)
        (steps.filterMap FormStep.file?).getLast? := by
    rw [build_eq]
    rfl
  have ha : (Body.multipart (build boundary steps)).contentType =
      "multipart/form-data; boundary=" ++ boundary := by
    rw [build_eq]
    rfl
  constructor
  case form => exact build_eq boundary steps
  case octets => exact ho
  case announced => exact ha
  case read =>
    intro h
    rw [ha, Multipart.boundaryOf?_contentType h]
  case last =>
    intro part hp
    rw [ho, hp]
    rfl
  case received =>
    intro hb hp hf
    rw [ho, Multipart.read?_encode_of_forall hb hp hf]
  case moved =>
    intro steps' h
    refine congrArg Body.multipart (build_congr boundary ?_ ?_)
    · rw [← FormStep.filterMap_field?_filter, h.others, FormStep.filterMap_field?_filter]
    · rw [← FormStep.filterMap_file?_filter, h.files, FormStep.filterMap_file?_filter]
  case unreplaced =>
    refine congrArg Body.multipart
      (build_congr boundary (FormStep.filterMap_field?_withoutReplaced steps) ?_)
    rw [FormStep.filterMap_file?_withoutReplaced]
    cases (steps.filterMap FormStep.file?).getLast? <;> rfl

end SlackCourier
