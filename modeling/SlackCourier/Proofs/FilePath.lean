import Mathlib.Data.String.Basic
import SlackCourier.FilePath

/-!
# Where paths lead

A path leads through a directory to a component, and behind that component there
may be a trail that leads nowhere: slashes, each with nothing or with a single dot
behind it (`LeadsNowhere`). The component is the last of the steps of the path
(`getLast?_steps_eq_some_iff`), and it is a name unless it leads upwards. A path
without steps is a trail itself, but for a slash in front.

* `fileName?_eq_some_iff`: a path has the name that it leads to.
* `fileName?_eq_none_iff`: it has none if it has no steps or leads upwards.
* `extension?_append`: what follows the last dot of a name is its extension, if there
  is something in front of that dot.
-/

namespace SlackCourier.FilePath

variable {path directory component trail name : String}

/-- Slashes, each with nothing or with a single dot behind it. -/
inductive LeadsNowhere : List Char → Prop
  | nil : LeadsNowhere []
  | slash {rest : List Char} : LeadsNowhere rest → LeadsNowhere ('/' :: rest)
  | dot {rest : List Char} : LeadsNowhere rest → LeadsNowhere ('/' :: '.' :: rest)

/-- The path leads through the directory to the component, and no further. -/
structure LeadsTo (path directory component trail : String) : Prop where
  path_eq : path = directory ++ component ++ trail
  directory : directory = "" ∨ ∃ front, directory = front ++ "/"
  ne_empty : component ≠ ""
  ne_dot : component ≠ "."
  not_mem : '/' ∉ component.toList
  trail : LeadsNowhere trail.toList

/-- The path leads to the name, which does not lead upwards. -/
def HasName (path name : String) : Prop :=
  name ≠ ".." ∧ ∃ directory trail, LeadsTo path directory name trail

/-- The path has no component but empty ones and single dots, so that behind a slash it
    leads nowhere. -/
def IsIdle (path : String) : Prop :=
  LeadsNowhere ('/' :: path.toList)

/-! ## Steps -/

theorem isStep_eq_false_iff {piece : List Char} :
    isStep piece = false ↔ piece = [] ∨ piece = ['.'] := by
  simp [isStep, Classical.or_iff_not_imp_left]

theorem isStep_eq_true_iff {piece : List Char} :
    isStep piece = true ↔ piece ≠ [] ∧ piece ≠ ['.'] := by
  simp [isStep]

/-- A trail has no steps, so with a piece in front that is the only one, if it is one. -/
theorem LeadsNowhere.filter_split {rest : List Char} (h : LeadsNowhere rest) (piece : List Char)
    (hp : '/' ∉ piece) :
    (Text.split '/' (piece ++ rest)).filter isStep = [piece].filter isStep := by
  induction h generalizing piece with
  | nil => rw [List.append_nil, Text.split_of_not_mem hp]
  | @slash rest _ ih =>
    have hi : (Text.split '/' rest).filter isStep = [] := ih [] List.not_mem_nil
    rw [Text.split_append_cons, Text.split_of_not_mem hp, List.filter_append, hi, List.append_nil]
  | @dot rest _ ih =>
    have hi : (Text.split '/' ('.' :: rest)).filter isStep = [] := ih ['.'] (by decide)
    rw [Text.split_append_cons, Text.split_of_not_mem hp, List.filter_append, hi, List.append_nil]

/-- Pieces that are no steps make a trail. -/
theorem leadsNowhere_flatMap {pieces : List (List Char)}
    (h : ∀ piece ∈ pieces, isStep piece = false) : LeadsNowhere (pieces.flatMap ('/' :: ·)) := by
  induction pieces with
  | nil => exact .nil
  | cons piece pieces ih =>
    obtain ⟨hp, hr⟩ := List.forall_mem_cons.mp h
    rw [List.flatMap_cons]
    rcases isStep_eq_false_iff.mp hp with rfl | rfl
    · exact .slash (ih hr)
    · exact .dot (ih hr)

/-- A path that leads to a component has it as its last step. -/
theorem LeadsTo.exists_steps_eq (h : LeadsTo path directory component trail) :
    ∃ before, steps path = before ++ [component.toList] := by
  have hs : [component.toList].filter isStep = [component.toList] := by
    refine List.filter_eq_self.mpr (List.forall_mem_singleton.mpr (isStep_eq_true_iff.mpr ⟨?_, ?_⟩))
    · exact fun hn => h.ne_empty (String.toList_eq_nil_iff.mp hn)
    · exact fun hd => h.ne_dot (String.toList_inj.mp hd)
  have hc := (h.trail.filter_split _ h.not_mem).trans hs
  rw [steps, h.path_eq, String.toList_append, String.toList_append]
  rcases h.directory with rfl | ⟨front, rfl⟩
  · exact ⟨[], hc⟩
  · -- The slash at the end of the directory parts its steps from the component.
    rw [String.toList_append, List.append_assoc, List.append_assoc]
    change ∃ before, (Text.split '/' (front.toList ++ '/' ::
      (component.toList ++ trail.toList))).filter isStep = before ++ [component.toList]
    rw [Text.split_append_cons, List.filter_append, hc]
    exact ⟨_, rfl⟩

/-- A path with a last step leads to it: what stands in front of the step is the directory,
    and the pieces behind it are the trail. -/
theorem exists_leadsTo_of_steps {before : List (List Char)} {last : List Char}
    (h : steps path = before ++ [last]) :
    ∃ directory trail, LeadsTo path directory (String.ofList last) trail := by
  obtain ⟨front, back, hs, -, hb⟩ := List.filter_eq_append_iff.mp h
  obtain ⟨idle, after, rfl, -, hl, ha⟩ := List.filter_eq_cons_iff.mp hb
  rw [← List.append_assoc] at hs
  obtain ⟨hne, hnd⟩ := isStep_eq_true_iff.mp hl
  refine ⟨String.ofList ((front ++ idle).flatMap (· ++ ['/'])),
    String.ofList (after.flatMap ('/' :: ·)), ?_⟩
  constructor
  case path_eq =>
    rw [← String.toList_inj, String.toList_append, String.toList_append, String.toList_ofList,
      String.toList_ofList, String.toList_ofList, List.append_assoc, ← Text.join_append_cons, ← hs,
      Text.join_split]
  case directory =>
    obtain hn | ⟨others, piece, hd⟩ := List.eq_nil_or_concat (front ++ idle)
    · exact .inl (by rw [hn]; rfl)
    · refine .inr ⟨String.ofList (others.flatMap (· ++ ['/']) ++ piece), ?_⟩
      rw [← String.toList_inj, hd, String.toList_append, String.toList_ofList,
        String.toList_ofList, List.concat_eq_append, List.flatMap_append, List.flatMap_singleton,
        List.append_assoc]
      rfl
  case ne_empty => exact fun he => hne (String.ofList_eq.mp he)
  case ne_dot => exact fun hd => hnd (String.ofList_eq.mp hd)
  case not_mem =>
    have hm : last ∈ Text.split '/' path.toList := by
      rw [hs]
      exact List.mem_append_right _ List.mem_cons_self
    rw [String.toList_ofList]
    exact Text.not_mem_of_mem_split hm
  case trail =>
    rw [String.toList_ofList]
    refine leadsNowhere_flatMap fun piece hp => Bool.eq_false_iff.mpr ?_
    exact List.filter_eq_nil_iff.mp ha piece hp

/-- The last step of a path is the component that it leads to. -/
theorem getLast?_steps_eq_some_iff :
    (steps path).getLast? = some component.toList ↔
      ∃ directory trail, LeadsTo path directory component trail := by
  rw [List.getLast?_eq_some_iff]
  constructor
  · rintro ⟨before, h⟩
    have hl := exists_leadsTo_of_steps h
    rwa [String.ofList_toList] at hl
  · rintro ⟨directory, trail, h⟩
    exact h.exists_steps_eq

/-- A path without steps is idle. -/
theorem steps_eq_nil_iff : steps path = [] ↔ IsIdle path := by
  rw [steps, IsIdle]
  constructor
  · intro h
    have hi : ∀ piece ∈ Text.split '/' path.toList, isStep piece = false := fun piece hp =>
      Bool.eq_false_iff.mpr (List.filter_eq_nil_iff.mp h piece hp)
    have hp : '/' :: path.toList = (Text.split '/' path.toList).flatMap ('/' :: ·) := by
      rw [congrArg ('/' :: ·) (Text.join_split '/' path.toList).symm]
      cases hs : Text.split '/' path.toList with
      | nil => exact absurd hs (Text.split_ne_nil '/' path.toList)
      | cons piece after => exact congrArg ('/' :: ·) (Text.join_append_cons '/' [] piece after)
    rw [hp]
    exact leadsNowhere_flatMap hi
  · intro h
    generalize path.toList = chars at h ⊢
    cases h with
    | slash h => exact h.filter_split [] List.not_mem_nil
    | dot h => exact h.filter_split ['.'] (by decide)

/-! ## Names -/

/-- A path has the name that it leads to. -/
theorem fileName?_eq_some_iff : fileName? path = some name ↔ HasName path name := by
  rw [HasName, ← getLast?_steps_eq_some_iff, fileName?]
  cases h : (steps path).getLast? with
  | none => simp
  | some last =>
    dsimp only
    split
    · next hl =>
      -- The last step is the one that leads upwards.
      refine iff_of_false nofun ?_
      rintro ⟨hn, he⟩
      exact hn (String.toList_inj.mp ((Option.some.inj he).symm.trans hl))
    · next hl =>
      rw [Option.some.injEq, Option.some.injEq, String.ofList_eq]
      refine ⟨fun h => ⟨?_, h⟩, And.right⟩
      rintro rfl
      exact hl h

example : fileName? "../reports//2024.tar.gz/.//" = some "2024.tar.gz" := by decide

/-- A path has no name if it has no steps or leads upwards in the end. -/
theorem fileName?_eq_none_iff :
    fileName? path = none ↔ IsIdle path ∨ ∃ directory trail, LeadsTo path directory ".." trail := by
  rw [← steps_eq_nil_iff, ← getLast?_steps_eq_some_iff, fileName?]
  cases h : (steps path).getLast? with
  | none => simpa using List.getLast?_eq_none_iff.mp h
  | some last =>
    have hn : steps path ≠ [] := by
      intro hn
      rw [hn] at h
      cases h
    simp [hn]

/-! ## Extensions -/

/-- Read from behind, characters other than dots are passed. -/
theorem ne_dot_of_mem_reverse {chars : List Char} (h : '.' ∉ chars) :
    ∀ c ∈ chars.reverse, decide (c ≠ '.') = true := by
  intro c hc
  refine decide_eq_true ?_
  rintro rfl
  exact h (List.mem_reverse.mp hc)

/-- What follows the last dot of a name is its extension, if there is something in front of
    that dot. -/
theorem extension?_append {stem extension : String} (hs : stem ≠ "")
    (he : '.' ∉ extension.toList) : extension? (stem ++ "." ++ extension) = some extension := by
  have hr := ne_dot_of_mem_reverse he
  have hc : (stem ++ "." ++ extension).toList.reverse =
      extension.toList.reverse ++ '.' :: stem.toList.reverse := by
    simp
  have hd : ('.' :: stem.toList.reverse).dropWhile (· ≠ '.') = '.' :: stem.toList.reverse := rfl
  have ht : ('.' :: stem.toList.reverse).takeWhile (· ≠ '.') = [] := rfl
  rw [extension?, hc, List.dropWhile_append_of_pos hr, List.takeWhile_append_of_pos hr, hd, ht,
    List.append_nil, List.reverse_reverse, String.ofList_toList]
  -- In front of the dot there is a character.
  cases hf : stem.toList.reverse with
  | nil => exact absurd (String.toList_eq_nil_iff.mp (List.reverse_eq_nil_iff.mp hf)) hs
  | cons => rfl

/-- A name without a dot has no extension. -/
theorem extension?_of_not_mem (h : '.' ∉ name.toList) : extension? name = none := by
  have hd : name.toList.reverse.dropWhile (· ≠ '.') = [] := by
    rw [← List.append_nil name.toList.reverse,
      List.dropWhile_append_of_pos (ne_dot_of_mem_reverse h), List.dropWhile_nil]
  rw [extension?, hd]

/-- Neither has one whose only dot is at its front. -/
theorem extension?_of_hidden {rest : String} (h : '.' ∉ rest.toList) :
    extension? ("." ++ rest) = none := by
  have hc : ("." ++ rest).toList.reverse = rest.toList.reverse ++ ['.'] := by
    simp
  rw [extension?, hc, List.dropWhile_append_of_pos (ne_dot_of_mem_reverse h)]
  rfl

end SlackCourier.FilePath
