import SlackCourier.MediaType.Known
import SlackCourier.Proofs.Multipart.RoundTrip
import SlackCourier.Proofs.Outcome

/-!
# Files are shared as they are

What is told to the program about a file goes through three hands: empty options
are left out, what is left is put into a form in a fixed order, and the form is
sent under a type that announces its boundary. Read with the boundary that was
announced, it has to be what was told.

* `World.call_upload`: an upload whose file is loaded is one call, with the form
  of the file as its body.
* `Upload.read?_encode_form_eq_some_iff`: the form of an upload is read back, part
  by part, if and only if the boundary is on a line of its own in none of its
  contents.
* `World.received_of_upload`: so what is received of the one body that an upload
  sends is what was told, whatever the table of media types is.
-/

namespace SlackCourier

/-! ## Media types -/

namespace MediaType

/-- Whether every type in a table is on one line. -/
def Table.IsUnbroken (types : Table) : Prop :=
  ∀ extension type, types extension = some type → '\r' ∉ type.toList

/-- As characters, a text is known without decoding it. -/
theorem not_mem_toList_ofList {c : Char} {chars : List Char} (h : c ∉ chars) :
    c ∉ (String.ofList chars).toList := by
  rwa [String.toList_ofList]

theorem not_mem_unknown : '\r' ∉ unknown.toList :=
  not_mem_toList_ofList (by decide)

theorem not_mem_ofExtension {types : Table} (h : types.IsUnbroken) (extension : String) :
    '\r' ∉ (ofExtension types extension).toList := by
  rw [ofExtension]
  cases ht : types (fold extension) with
  | none => exact not_mem_unknown
  | some type => exact h _ _ ht

theorem not_mem_of_mem_knownTypes : ∀ entry ∈ knownTypes, '\r' ∉ entry.2.toList := by
  unfold knownTypes
  repeat refine List.forall_mem_cons.2 ⟨not_mem_toList_ofList (by decide), ?_⟩
  exact fun _ h => absurd h List.not_mem_nil

/-- The table that the executable has is such a table. -/
theorem isUnbroken_known : known.IsUnbroken := by
  intro extension type h
  obtain ⟨front, back, hl, -⟩ := List.lookup_eq_some_iff.mp h
  refine not_mem_of_mem_knownTypes (extension, type) ?_
  rw [hl]
  exact List.mem_append_right front List.mem_cons_self

end MediaType

/-- The media type of a file is on one line. -/
theorem LocalFile.not_mem_mediaType {types : MediaType.Table} (h : types.IsUnbroken)
    (path : String) (content : Octets) : '\r' ∉ (ofPath types path content).mediaType.toList := by
  rw [ofPath]
  cases FilePath.fileName? path with
  | none => exact MediaType.not_mem_unknown
  | some name =>
    dsimp only
    rw [MediaType.ofFileName]
    cases FilePath.extension? name with
    | none => exact MediaType.not_mem_unknown
    | some extension => exact MediaType.not_mem_ofExtension h extension

/-! ## Forms -/

namespace Multipart

/-- The part of a field whose name has nothing to escape. -/
def Received.ofText (name text : String) : Received :=
  ⟨[.disposition [("name", name)]], Octets.ofText text⟩

/-- The parts that are to be received of an upload: the channel, the thread and
    the comment, as far as they are given and not empty, and the file. -/
def Received.ofUpload (channel : String) (thread comment : Option String)
    (fileName mediaType : String) (content : Octets) : List Received :=
  .ofText "channels" channel ::
    (Text.given thread).toList.map (.ofText "thread_ts")
      ++ (Text.given comment).toList.map (.ofText "initial_comment")
      ++ [⟨[.disposition [("name", "file"), ("filename", escape fileName)],
          .contentType mediaType], content⟩]

/-- The boundary of a form, on a line of its own. -/
theorem ofText_eq_delimiter :
    Octets.ofText "\r\n------SlackCLIFormBoundary" = delimiter "----SlackCLIFormBoundary" := by
  rw [delimiter, ← (by decide : Octets.ofText "\r\n" = lineBreak), ← Octets.ofText_append]
  exact congrArg Octets.ofText (by decide)

end Multipart

namespace Upload

open Multipart

variable {file : LocalFile}

/-- The parts of an upload as they are sent. -/
def sent (upload : Upload) (file : LocalFile) : List Sent :=
  .ofField ("channels", upload.channel) ::
    upload.thread.toList.map (fun text => .ofField ("thread_ts", text))
      ++ upload.comment.toList.map (fun text => .ofField ("initial_comment", text))
      ++ [.ofFile (FilePart.ofLocalFile "file" file)]

theorem boundary_form (upload : Upload) (file : LocalFile) :
    (upload.form file).boundary = "----SlackCLIFormBoundary" := by
  cases upload with
  | mk channel path comment thread => cases thread <;> cases comment <;> rfl

theorem contentType_multipart (upload : Upload) (file : LocalFile) :
    (Body.multipart (upload.form file)).contentType =
      "multipart/form-data; boundary=" ++ "----SlackCLIFormBoundary" :=
  congrArg ("multipart/form-data; boundary=" ++ ·) (upload.boundary_form file)

theorem boundaryOf?_multipart (upload : Upload) (file : LocalFile) :
    boundaryOf? (Body.multipart (upload.form file)).contentType =
      some "----SlackCLIFormBoundary" :=
  (congrArg boundaryOf? (upload.contentType_multipart file)).trans
    (boundaryOf?_contentType (by decide))

theorem encode_form (upload : Upload) (file : LocalFile) :
    (upload.form file).encode = Octets.ofText ("--" ++ "----SlackCLIFormBoundary") ++
      following "----SlackCLIFormBoundary" (upload.sent file) := by
  rw [Form.encode, encode_eq_following, sent]
  cases upload with
  | mk channel path comment thread => cases thread <;> cases comment <;> rfl

theorem received_ofField {name : String} (h : escape name = name) (text : String) :
    (Sent.ofField (name, text)).received = .ofText name text := by
  rw [Sent.ofField, Received.ofField, h, Received.ofText]

theorem received_sent (channel path : String) (comment thread : Option String) (file : LocalFile) :
    ((of channel path comment thread).sent file).map Sent.received =
      Received.ofUpload channel thread comment file.name file.mediaType file.content := by
  have hc := received_ofField (by decide : escape "channels" = "channels")
  have ht := received_ofField (by decide : escape "thread_ts" = "thread_ts")
  have hi := received_ofField (by decide : escape "initial_comment" = "initial_comment")
  have hf : (Sent.ofFile (FilePart.ofLocalFile "file" file)).received =
      ⟨[.disposition [("name", "file"), ("filename", escape file.name)],
        .contentType file.mediaType], file.content⟩ := by
    rw [Sent.ofFile, Received.ofFile, FilePart.ofLocalFile,
      (by decide : escape "file" = "file")]
  simp only [sent, of, Received.ofUpload, List.map_append, List.map_cons, List.map_nil,
    List.map_map, Function.comp_def, hc, ht, hi, hf]

theorem isReadable_of_mem_sent {upload : Upload} (h : '\r' ∉ file.mediaType.toList) :
    ∀ s ∈ upload.sent file, s.IsReadable := by
  intro s hs
  simp only [sent, List.mem_append, List.mem_cons, List.mem_map, List.not_mem_nil, or_false] at hs
  obtain ((rfl | ⟨text, _, rfl⟩) | ⟨text, _, rfl⟩) | rfl := hs
  · exact Sent.isReadable_ofField _
  · exact Sent.isReadable_ofField _
  · exact Sent.isReadable_ofField _
  · exact Sent.isReadable_ofFile h

/-- The form of an upload is read back if and only if the boundary is on a line of
    its own in none of its contents. -/
theorem read?_encode_form_eq_some_iff (h : '\r' ∉ file.mediaType.toList) (channel path : String)
    (comment thread : Option String) :
    read? "----SlackCLIFormBoundary" ((of channel path comment thread).form file).encode =
        some (Received.ofUpload channel thread comment file.name file.mediaType file.content) ↔
      (∀ text, text = channel ∨ Text.given thread = some text ∨ Text.given comment = some text →
        ¬ delimiter "----SlackCLIFormBoundary" <:+: Octets.ofText text) ∧
        ¬ delimiter "----SlackCLIFormBoundary" <:+: file.content := by
  rw [encode_form, ← received_sent channel path,
    read?_following_eq_some_iff (by decide) (isReadable_of_mem_sent h)]
  simp only [sent, of, List.mem_append, List.mem_cons, List.mem_map, List.not_mem_nil, or_false,
    Option.mem_toList, or_imp, forall_and, forall_eq, forall_exists_index, and_imp,
    forall_apply_eq_imp_iff₂, and_assoc]
  rfl

end Upload

/-! ## Uploads -/

namespace World

variable {world : World} {credential : Credential} {path : String} {content : Octets}

/-- An upload whose file is loaded is one call, with the form of the file. -/
theorem call_upload (hc : world.credential = .ok credential) {file : LocalFile}
    (hf : (world.files path).result = .ok file) (channel : String)
    (comment thread : Option String) :
    world.call (.upload channel path comment thread) =
      .ok ⟨world.endpoints.upload, credential,
        Body.multipart ((Upload.of channel path comment thread).form file)⟩ := by
  rw [call, hc, body, hf]
  rfl

/-- What is received of the one body that an upload sends, with the boundary that
    it announces, is what was told, if and only if the boundary is on a line of its
    own neither in the texts that are sent nor in the file. -/
theorem received_of_upload {types : MediaType.Table} (ht : types.IsUnbroken)
    (hc : world.credential = .ok credential)
    (hf : (world.files path).result = .ok (LocalFile.ofPath types path content))
    (channel : String) (comment thread : Option String) :
    ∃ call boundary,
      (world.execute (.upload channel path comment thread)).events.calls = [call] ∧
      Multipart.boundaryOf? call.body.contentType = some boundary ∧
      (Multipart.read? boundary call.body.octets =
          some (Multipart.Received.ofUpload channel thread comment
            (LocalFile.ofPath types path content).name
            (LocalFile.ofPath types path content).mediaType content) ↔
        (∀ text, text = channel ∨ Text.given thread = some text ∨ Text.given comment = some text →
          ¬ Octets.ofText "\r\n------SlackCLIFormBoundary" <:+: Octets.ofText text) ∧
        ¬ Octets.ofText "\r\n------SlackCLIFormBoundary" <:+: content) := by
  have hr := Upload.read?_encode_form_eq_some_iff (LocalFile.not_mem_mediaType ht path content)
    channel path comment thread
  rw [LocalFile.content_ofPath, ← Multipart.ofText_eq_delimiter] at hr
  -- The one call has the form as its body, and the form has the boundary it announces.
  refine ⟨⟨world.endpoints.upload, credential, Body.multipart
    ((Upload.of channel path comment thread).form (LocalFile.ofPath types path content))⟩,
    "----SlackCLIFormBoundary", ?_, ?_, hr⟩
  · rw [execute_eq_staged, calls_staged, call_upload hc hf]
    rfl
  · exact Upload.boundaryOf?_multipart _ _

/-- A file is shared with a content that comes close to the boundary. -/
theorem received_of_upload_near_boundary :
    let content : Octets := [0x0D, 0x0A, 0x2D, 0x2D, 0x2D, 0x2D, 0x2D, 0x2D, 0x53, 0x00, 0xFF]
    let world : World :=
      { endpoints := ⟨"chat.postMessage", "files.upload"⟩
        credential := .ok ⟨"xoxb-1"⟩
        input := .terminal
        files := fun path => { result := .ok (LocalFile.ofPath MediaType.known path content) }
        service := fun _ => { result := .error .missingContent }
        output := .working }
    ∃ call boundary,
      (world.execute (.upload "C1" "out/a\"b.PNG" (some "") (some "1.2"))).events.calls = [call] ∧
      Multipart.boundaryOf? call.body.contentType = some boundary ∧
      Multipart.read? boundary call.body.octets =
        some [.ofText "channels" "C1", .ofText "thread_ts" "1.2",
          ⟨[.disposition [("name", "file"), ("filename", "a%22b.PNG")], .contentType "image/png"],
            content⟩] := by
  intro content world
  have hc : world.credential = .ok ⟨"xoxb-1"⟩ := rfl
  have hf : (world.files "out/a\"b.PNG").result =
      .ok (LocalFile.ofPath MediaType.known "out/a\"b.PNG" content) := rfl
  obtain ⟨call, boundary, hc, hb, hr⟩ :=
    received_of_upload MediaType.isUnbroken_known hc hf "C1" (some "") (some "1.2")
  refine ⟨call, boundary, hc, hb, (hr.mpr ⟨?_, ?_⟩).trans ?_⟩
  · rintro text (rfl | h | h)
    · decide +kernel
    · cases h
      decide +kernel
    · cases h
  · decide +kernel
  · decide +kernel

end World

end SlackCourier
