import SlackCourier.LocalFile
import SlackCourier.Proofs.FilePath

/-!
# What is told of a file

Of the path of a file nothing is told but the name that it leads to, and of the name
nothing counts for the media type but its extension. The type is looked up by the folded
extension, and a capital letter folds like the small one (`MediaType.foldChar_toLower`),
so it makes no difference in which of them an extension is written.

* `LocalFile.mediaType_ofPath_of_extension`: the type of a file with an extension.
* `LocalFile.identifies_ofPath`: for every path, what is told of a file found under it.
-/

namespace SlackCourier

/-! ## Capital letters -/

namespace Text

theorem toList_toLower (text : String) : text.toLower.toList = text.toList.map Char.toLower :=
  String.toList_map

/-- Nothing but a character itself becomes one that stands in front of the small letters. -/
theorem eq_of_toLower_eq {c d : Char} (hd : d.toNat < 'a'.toNat) (h : c.toLower = d) : c = d := by
  unfold Char.toLower at h
  split at h
  · next hc =>
    -- A capital letter becomes a small one.
    have ha : 65 ≤ c.val.toNat := UInt32.le_iff_toNat_le.mp hc.1
    have hz : c.val.toNat ≤ 90 := UInt32.le_iff_toNat_le.mp hc.2
    have hv : (c.val.toNat + 32) % 2 ^ 32 = d.val.toNat := congrArg (UInt32.toNat ∘ Char.val) h
    have hd : d.val.toNat < 97 := hd
    omega
  · exact h

/-- Such a character is in both or in neither of two texts that are the same but for
    capital letters. -/
theorem not_mem_of_toLower_eq {c : Char} (hl : c.toLower = c) (hc : c.toNat < 'a'.toNat)
    {text text' : String} (h : text'.toLower = text.toLower) (hn : c ∉ text.toList) :
    c ∉ text'.toList := by
  intro hm
  have hm : c ∈ text.toLower.toList := by
    rw [← h, toList_toLower, ← hl]
    exact List.mem_map_of_mem hm
  rw [toList_toLower] at hm
  obtain ⟨d, hd, he⟩ := List.mem_map.mp hm
  exact hn (eq_of_toLower_eq hc he ▸ hd)

end Text

/-! ## Media types -/

namespace MediaType

/-- A capital letter folds like the small one. -/
theorem foldChar_toLower (c : Char) : foldChar c.toLower = foldChar c := by
  by_cases h : c.toNat < 0x80
  · have ha : ∀ n < 0x80, foldChar (Char.ofNat n).toLower = foldChar (Char.ofNat n) := by decide
    have hc := ha c.toNat h
    rwa [Char.ofNat_toNat] at hc
  · unfold Char.toLower
    rw [dif_neg]
    rintro ⟨-, hz⟩
    exact h (Nat.lt_of_le_of_lt (UInt32.le_iff_toNat_le.mp hz) (by decide))

theorem fold_congr {extension extension' : String}
    (h : extension'.toLower = extension.toLower) : fold extension' = fold extension := by
  have hf (text : String) : text.toList.flatMap foldChar =
      text.toLower.toList.flatMap foldChar := by
    rw [Text.toList_toLower, List.flatMap_map]
    exact congrArg text.toList.flatMap (funext fun c => (foldChar_toLower c).symm)
  rw [fold, fold, hf, h, ← hf]

/-- The type that goes with an extension does not depend on capital letters. -/
theorem ofExtension_congr (types : Table) {extension extension' : String}
    (h : extension'.toLower = extension.toLower) :
    ofExtension types extension' = ofExtension types extension := by
  rw [ofExtension, ofExtension, fold_congr h]

end MediaType

/-! ## Files -/

namespace LocalFile

open FilePath

variable {types : MediaType.Table} {path name : String} {content : Octets}

theorem ofPath_of_hasName (h : HasName path name) (content : Octets) :
    ofPath types path content = ⟨name, MediaType.ofFileName types name, content⟩ := by
  rw [ofPath, fileName?_eq_some_iff.mpr h]

theorem ofPath_of_not_hasName (h : ¬ ∃ name, HasName path name) (content : Octets) :
    ofPath types path content = ⟨path, MediaType.unknown, content⟩ := by
  have hn : fileName? path = none := Option.eq_none_iff_forall_ne_some.mpr fun name hs =>
    h ⟨name, fileName?_eq_some_iff.mp hs⟩
  rw [ofPath, hn]

/-- A name with an extension leads to itself. -/
theorem hasName_dotted {extension : String} (h : '/' ∉ extension.toList) :
    HasName ("x." ++ extension) ("x" ++ "." ++ extension) := by
  have hx (text : String) (ht : text.toList.head? ≠ some 'x') : "x" ++ "." ++ extension ≠ text := by
    rintro rfl
    exact ht (by simp)
  refine ⟨hx ".." (by decide), "", "", ?_⟩
  constructor
  case path_eq => simp
  case directory => exact .inl rfl
  case ne_empty => exact hx "" (by decide)
  case ne_dot => exact hx "." (by decide)
  case not_mem => simp [h]
  case trail => exact .nil

/-- A file whose name has an extension is of the type that goes with it. -/
theorem mediaType_ofPath_of_extension {stem extension : String}
    (h : HasName path (stem ++ "." ++ extension)) (hs : stem ≠ "") (he : '.' ∉ extension.toList)
    (content : Octets) :
    (ofPath types path content).mediaType = MediaType.ofExtension types extension := by
  rw [ofPath_of_hasName h, MediaType.ofFileName, extension?_append hs he]
  rfl

/-- Nothing is guessed from a name without an extension. -/
theorem mediaType_ofPath_of_plain (h : HasName path name)
    (he : '.' ∉ name.toList ∨ ∃ rest, name = "." ++ rest ∧ '.' ∉ rest.toList)
    (content : Octets) : (ofPath types path content).mediaType = MediaType.unknown := by
  have hn : extension? name = none := by
    rcases he with hn | ⟨rest, rfl, hr⟩
    · exact extension?_of_not_mem hn
    · exact extension?_of_hidden hr
  rw [ofPath_of_hasName h, MediaType.ofFileName, hn]
  rfl

/-- What is told of a file that is found under a path, by a table of types. -/
structure Identifies (types : MediaType.Table) (path : String) (content : Octets)
    (file : LocalFile) : Prop where
  content : file.content = content
  /-- Of a path with a name, the name is told and nothing of the directory. -/
  name : ∀ directory name trail, LeadsTo path directory name trail → name ≠ ".." →
    file.name = name
  /-- Of the name, the type depends on nothing but the extension, and not on its case. -/
  extension : ∀ directory stem extension trail,
    LeadsTo path directory (stem ++ "." ++ extension) trail →
    stem ++ "." ++ extension ≠ ".." → stem ≠ "" → '.' ∉ extension.toList →
    ∀ extension' content', extension'.toLower = extension.toLower →
      file.mediaType = (ofPath types ("x." ++ extension') content').mediaType
  /-- Without a dot, or with none but a leading one, there is no extension. -/
  plain : ∀ directory name trail, LeadsTo path directory name trail → name ≠ ".." →
    ('.' ∉ name.toList ∨ ∃ rest, name = "." ++ rest ∧ '.' ∉ rest.toList) →
    file.mediaType = "application/octet-stream"
  /-- A path without a name stands for the name. -/
  nameless : (¬ ∃ directory name trail, LeadsTo path directory name trail ∧ name ≠ "..") →
    file.name = path ∧ file.mediaType = "application/octet-stream"
  /-- Such a path is idle, or it leads upwards in the end. -/
  nameless_iff : (¬ ∃ directory name trail, LeadsTo path directory name trail ∧ name ≠ "..") ↔
    IsIdle path ∨ ∃ directory trail, LeadsTo path directory ".." trail

/-- For every path, what is told of a file found under it is its name and its type, as the
    path leads to them. -/
theorem identifies_ofPath (types : MediaType.Table) (path : String) (content : Octets) :
    Identifies types path content (ofPath types path content) := by
  have hn : (∃ directory name trail, LeadsTo path directory name trail ∧ name ≠ "..") ↔
      ∃ name, HasName path name := by
    constructor
    · rintro ⟨directory, name, trail, hl, hu⟩
      exact ⟨name, hu, directory, trail, hl⟩
    · rintro ⟨name, hu, directory, trail, hl⟩
      exact ⟨directory, name, trail, hl, hu⟩
  constructor
  case content => exact content_ofPath types path content
  case name =>
    intro directory name trail hl hu
    rw [ofPath_of_hasName ⟨hu, directory, trail, hl⟩]
  case extension =>
    intro directory stem extension trail hl hu hs he extension' content' hc
    have hx : HasName ("x." ++ extension') ("x" ++ "." ++ extension') :=
      hasName_dotted (Text.not_mem_of_toLower_eq (by decide) (by decide) hc
        fun hm => hl.not_mem (by simp [hm]))
    rw [mediaType_ofPath_of_extension ⟨hu, directory, trail, hl⟩ hs he,
      mediaType_ofPath_of_extension hx (by decide)
        (Text.not_mem_of_toLower_eq (by decide) (by decide) hc he),
      MediaType.ofExtension_congr types hc]
  case plain =>
    intro directory name trail hl hu he
    exact mediaType_ofPath_of_plain ⟨hu, directory, trail, hl⟩ he content
  case nameless =>
    intro h
    rw [ofPath_of_not_hasName (mt hn.mpr h)]
    exact ⟨rfl, rfl⟩
  case nameless_iff =>
    rw [hn, ← fileName?_eq_none_iff, Option.eq_none_iff_forall_ne_some]
    simp only [ne_eq, fileName?_eq_some_iff, not_exists]

end LocalFile

end SlackCourier
