import SlackCourier.CommandLine.Invocation

/-!
# The grammar of command lines

A command line is the name of the program, at most one configuration, the name of
a command, items, and perhaps two dashes (`Grammar`). An item is a setting with its
value, in one of the forms in which it can be written (`Item`).

An item begins with an argument that names its setting. Such an argument brings
the value with it or leaves it to the argument behind it, and what it is can be
told from it alone, as a token can be written again as it was.

* `Token.text_ofText`: an argument is its token, written again.
* `option?_eq_some_some_iff`, `option?_eq_some_none_iff`: the arguments that begin a
  setting are the first ones of items.
-/

namespace SlackCourier.CommandLine

/-! ## The grammar -/

/-- Whether an argument can be a value by itself: it does not begin with a dash,
    or it is nothing else. -/
def IsWord (text : String) : Prop :=
  text = "-" ∨ text.toList.head? ≠ some '-'

/-- The ways in which a setting is written with its value. -/
inductive Item : Setting → String → List String → Prop
  | joined (setting : Setting) (value : String) :
    Item setting value ["--" ++ setting.name ++ "=" ++ value]
  | apart (setting : Setting) {value : String} (h : IsWord value) :
    Item setting value ["--" ++ setting.name, value]
  | letter {value : String} (h : IsWord value) : Item .config value ["-c", value]
  | letterJoined {value : String} (h : value ≠ "") (he : value.toList.head? ≠ some '=') :
    Item .config value ["-c" ++ value]
  | letterEquals (value : String) : Item .config value ["-c=" ++ value]

/-- Items in a row, of the settings that are allowed there. -/
inductive Items (allowed : List Setting) : List (Setting × String) → List String → Prop
  | nil : Items allowed [] []
  | cons {setting : Setting} {value : String} {front rest : List String}
    {given : List (Setting × String)} (ha : setting ∈ allowed) (hi : Item setting value front)
    (hr : Items allowed given rest) : Items allowed ((setting, value) :: given) (front ++ rest)

/-- What may stand in front of a command: at most one configuration. -/
inductive Ahead : Option String → List String → Prop
  | nothing : Ahead none []
  | config {value : String} {arguments : List String} (h : Item .config value arguments) :
    Ahead (some value) arguments

/-- The command that settings make up. -/
inductive Makes (given : List (Setting × String)) : CommandName → Command → Prop
  | send {channel : String} (hc : given.lookup .channel = some channel) :
    Makes given .send (.send {
      channel
      text := given.lookup .text
      blocks := given.lookup .blocks
      thread := given.lookup .thread })
  | upload {channel path : String} (hc : given.lookup .channel = some channel)
    (hf : given.lookup .file = some path) :
    Makes given .upload
      (.upload channel path (given.lookup .comment) (given.lookup .thread))

/-- The command lines with what they invoke. -/
inductive Grammar : List String → Invocation → Prop
  | intro {program : String} {outer : Option String} {ahead items ending : List String}
    {name : CommandName} {given : List (Setting × String)} {command : Command}
    (ho : Ahead outer ahead) (hi : Items (Scope.command name).settings given items)
    (hn : (given.map Prod.fst).Nodup) (hm : Makes given name command)
    (he : ending = [] ∨ ending = ["--"]) :
    Grammar (program :: ahead ++ name.text :: items ++ ending)
      ⟨(given.lookup .config).or outer, command⟩

/-! ## How arguments are told apart -/

namespace Token

/-- The argument that a token was. -/
def text : Token → String
  | escape => "--"
  | long name none => "--" ++ name
  | long name (some value) => "--" ++ name ++ "=" ++ value
  | short letter rest => String.ofList ('-' :: letter :: rest)
  | word text => text

theorem text_ofLong (chars : List Char) : (ofLong chars).text = "--" ++ String.ofList chars := by
  have hc := List.takeWhile_append_dropWhile (p := (· ≠ '=')) (l := chars)
  rw [ofLong]
  cases h : chars.dropWhile (· ≠ '=') with
  | nil =>
    rw [h, List.append_nil] at hc
    dsimp only [text]
    rw [hc]
  | cons equals value =>
    -- What ends the name can only be the equals sign.
    have he := List.head?_dropWhile_not (fun char : Char => decide (char ≠ '=')) chars
    rw [h] at he
    obtain rfl : equals = '=' := by simpa using he
    rw [h] at hc
    rw [← String.toList_inj]
    simpa [text] using hc

/-- A token is written as the argument that it was. -/
theorem text_ofText (argument : String) : (ofText argument).text = argument := by
  rw [← String.toList_inj]
  unfold ofText
  split
  next h => rw [h]; rfl
  next chars _ h => simp [text_ofLong, h]
  next letter rest _ _ h => rw [h, text, String.toList_ofList]
  next => rfl

theorem ofText_of_isWord {value : String} (h : IsWord value) : ofText value = .word value := by
  unfold ofText
  rcases h with rfl | h
  · rfl
  · split
    next hl => simp [hl] at h
    next hl => simp [hl] at h
    next hl => simp [hl] at h
    next => rfl

theorem isWord_of_ofText {argument value : String} (h : ofText argument = .word value) :
    IsWord argument := by
  unfold ofText at h
  split at h
  next => cases h
  next chars _ _ =>
    rw [ofLong] at h
    split at h <;> cases h
  next => cases h
  next hd hl hs =>
    -- Nothing stands behind a dash at the front, or it would be an option.
    cases hc : argument.toList with
    | nil => exact .inr (by simp [hc])
    | cons first rest =>
      by_cases hf : first = '-'
      · cases rest with
        | nil => exact .inl (String.toList_inj.mp (by rw [hc, hf]; rfl))
        | cons letter rest => exact absurd (by rw [hc, hf]) (hs letter rest)
      · exact .inr (by simpa [hc] using hf)

theorem ofText_dashes {chars : List Char} (h : chars ≠ []) :
    ofText (String.ofList ('-' :: '-' :: chars)) = ofLong chars := by
  rw [ofText, String.toList_ofList]
  cases chars with
  | nil => exact absurd rfl h
  | cons char rest => rfl

/-- What is written with a name behind two dashes is a token with that name. -/
theorem ofText_text_long {name : String} (hn : name ≠ "") (he : '=' ∉ name.toList)
    (value : Option String) : ofText (long name value).text = .long name value := by
  have hl : name.toList ≠ [] := fun h => hn (String.toList_eq_nil_iff.mp h)
  have hp : ∀ char ∈ name.toList, decide (char ≠ '=') = true := by
    intro char hm
    exact decide_eq_true fun h => he (h ▸ hm)
  cases value with
  | none =>
    have ht : (long name none).text = String.ofList ('-' :: '-' :: name.toList) := by
      simp [← String.toList_inj, text]
    rw [ht, ofText_dashes hl, ← List.append_nil name.toList, ofLong,
      List.dropWhile_append_of_pos hp, List.takeWhile_append_of_pos hp]
    simp
  | some value =>
    have ht : (long name (some value)).text =
        String.ofList ('-' :: '-' :: (name.toList ++ '=' :: value.toList)) := by
      simp [← String.toList_inj, text]
    rw [ht, ofText_dashes (by simp), ofLong, List.dropWhile_append_of_pos hp,
      List.takeWhile_append_of_pos hp]
    simp

theorem ofText_text_short {letter : Char} (h : letter ≠ '-') (rest : List Char) :
    ofText (short letter rest).text = .short letter rest := by
  rw [text, ofText, String.toList_ofList]
  split
  next he => simp_all
  next he => simp_all
  next he => simp_all
  next he => simp_all

/-- The setting that a token begins in a scope, and the value that it brings. -/
def option? (scope : Scope) : Token → Option (Setting × Option String)
  | long name value => (scope.settings.find? (·.name = name)).map (·, value)
  | short letter rest =>
    (scope.settings.find? (·.letter? = some letter)).map (·, Scan.attached rest)
  | _ => none

end Token

namespace Setting

theorem name_injective {setting setting' : Setting} (h : setting.name = setting'.name) :
    setting = setting' := by
  cases setting <;> cases setting' <;> first | rfl | exact absurd h (by decide)

theorem find?_name_eq_some_iff {settings : List Setting} {setting : Setting} {name : String} :
    settings.find? (·.name = name) = some setting ↔ setting ∈ settings ∧ setting.name = name := by
  constructor
  · intro h
    exact ⟨List.mem_of_find?_eq_some h, by simpa using List.find?_some h⟩
  · rintro ⟨hm, rfl⟩
    cases h : settings.find? (·.name = setting.name) with
    | none => exact absurd (List.find?_eq_none.mp h setting hm) (by simp)
    | some found =>
      obtain rfl : found = setting := name_injective (by simpa using List.find?_some h)
      rfl

theorem letter?_eq_some_iff {setting : Setting} {letter : Char} :
    setting.letter? = some letter ↔ setting = .config ∧ letter = 'c' := by
  cases setting <;> simp [letter?, eq_comm]

theorem find?_letter_eq_some_iff {settings : List Setting} {setting : Setting} {letter : Char} :
    settings.find? (·.letter? = some letter) = some setting ↔
      setting ∈ settings ∧ setting = .config ∧ letter = 'c' := by
  constructor
  · intro h
    have hl : setting.letter? = some letter := by simpa using List.find?_some h
    exact ⟨List.mem_of_find?_eq_some h, letter?_eq_some_iff.mp hl⟩
  · rintro ⟨hm, rfl, rfl⟩
    cases h : settings.find? (·.letter? = some 'c') with
    | none => exact absurd (List.find?_eq_none.mp h _ hm) (by decide)
    | some found =>
      have hl : found.letter? = some 'c' := by simpa using List.find?_some h
      rw [(letter?_eq_some_iff.mp hl).1]

theorem name_ne_empty (setting : Setting) : setting.name ≠ "" := by
  cases setting <;> decide

theorem not_mem_name (setting : Setting) : '=' ∉ setting.name.toList := by
  cases setting <;> decide

end Setting

/-! ## Items and tokens -/

/-- The arguments that begin a setting, with the value that they bring. -/
theorem option?_eq_some_iff {scope : Scope} {argument : String} {setting : Setting}
    {value : Option String} :
    (Token.ofText argument).option? scope = some (setting, value) ↔
      setting ∈ scope.settings ∧
        (argument = (Token.long setting.name value).text ∨
          setting = .config ∧
            ∃ rest, Scan.attached rest = value ∧ argument = (Token.short 'c' rest).text) := by
  constructor
  · intro h
    -- The argument is its token written again, so only the name is to be found.
    have ha := Token.text_ofText argument
    cases ht : Token.ofText argument with
    | long name value' =>
      rw [ht, Token.option?, Option.map_eq_some_iff] at h
      obtain ⟨found, hf, he⟩ := h
      obtain ⟨rfl, rfl⟩ := Prod.mk.inj he
      obtain ⟨hm, rfl⟩ := Setting.find?_name_eq_some_iff.mp hf
      exact ⟨hm, .inl (by rw [← ha, ht])⟩
    | short letter rest =>
      rw [ht, Token.option?, Option.map_eq_some_iff] at h
      obtain ⟨found, hf, he⟩ := h
      obtain ⟨rfl, rfl⟩ := Prod.mk.inj he
      obtain ⟨hm, hc, rfl⟩ := Setting.find?_letter_eq_some_iff.mp hf
      exact ⟨hm, .inr ⟨hc, rest, rfl, by rw [← ha, ht]⟩⟩
    | escape =>
      rw [ht] at h
      cases h
    | word text =>
      rw [ht] at h
      cases h
  · rintro ⟨hm, rfl | ⟨rfl, rest, rfl, rfl⟩⟩
    · rw [Token.ofText_text_long setting.name_ne_empty setting.not_mem_name, Token.option?,
        Setting.find?_name_eq_some_iff.mpr ⟨hm, rfl⟩]
      rfl
    · rw [Token.ofText_text_short (by decide), Token.option?,
        Setting.find?_letter_eq_some_iff.mpr ⟨hm, rfl, rfl⟩]
      rfl

theorem attached_eq_none_iff {rest : List Char} : Scan.attached rest = none ↔ rest = [] := by
  unfold Scan.attached
  split <;> simp_all

theorem attached_eq_some_iff {rest : List Char} {value : String} :
    Scan.attached rest = some value ↔
      rest = '=' :: value.toList ∨
        rest = value.toList ∧ value ≠ "" ∧ value.toList.head? ≠ some '=' := by
  unfold Scan.attached
  split
  next =>
    refine ⟨nofun, ?_⟩
    rintro (h | ⟨h, hv, -⟩)
    · cases h
    · exact absurd (String.toList_eq_nil_iff.mp h.symm) hv
  next rest =>
    rw [Option.some_inj]
    constructor
    · rintro rfl
      exact .inl (by rw [String.toList_ofList])
    · rintro (h | ⟨h, -, he⟩)
      · rw [(List.cons.inj h).2, String.ofList_toList]
      · exact absurd (by rw [← h]; rfl) he
  next hn he =>
    rw [Option.some_inj]
    constructor
    · rintro rfl
      refine .inr ⟨by rw [String.toList_ofList], ?_, ?_⟩
      · rw [Ne, String.ofList_eq_empty_iff]
        exact hn
      · rw [String.toList_ofList]
        intro hh
        obtain ⟨tail, ht⟩ := List.head?_eq_some_iff.mp hh
        exact he tail ht
    · rintro (h | ⟨h, -, -⟩)
      · exact absurd h (he _)
      · rw [h, String.ofList_toList]

/-- An argument that begins a setting and brings its value is an item. -/
theorem option?_eq_some_some_iff {scope : Scope} {argument : String} {setting : Setting}
    {value : String} :
    (Token.ofText argument).option? scope = some (setting, some value) ↔
      setting ∈ scope.settings ∧ Item setting value [argument] := by
  have hj : ∀ rest : List Char, (Token.short 'c' rest).text = "-c" ++ String.ofList rest := by
    intro rest
    simp [← String.toList_inj, Token.text]
  have he : ∀ value : String,
      (Token.short 'c' ('=' :: value.toList)).text = "-c=" ++ value := by
    intro value
    simp [← String.toList_inj, Token.text]
  rw [option?_eq_some_iff]
  refine and_congr_right fun _ => ⟨?_, fun h => ?_⟩
  · rintro (rfl | ⟨rfl, rest, hr, rfl⟩)
    · exact .joined setting value
    · obtain rfl | ⟨rfl, hv, hh⟩ := attached_eq_some_iff.mp hr
      · rw [he]
        exact .letterEquals value
      · rw [hj, String.ofList_toList]
        exact .letterJoined hv hh
  · cases h with
    | joined => exact .inl rfl
    | letterJoined hv hh =>
      refine .inr ⟨rfl, value.toList, attached_eq_some_iff.mpr (.inr ⟨rfl, hv, hh⟩), ?_⟩
      rw [hj, String.ofList_toList]
    | letterEquals =>
      exact .inr ⟨rfl, _, attached_eq_some_iff.mpr (.inl rfl), (he value).symm⟩

/-- An argument that begins a setting and brings no value. -/
theorem option?_eq_some_none_iff {scope : Scope} {argument : String} {setting : Setting} :
    (Token.ofText argument).option? scope = some (setting, none) ↔
      setting ∈ scope.settings ∧
        (argument = "--" ++ setting.name ∨ setting = .config ∧ argument = "-c") := by
  rw [option?_eq_some_iff]
  refine and_congr_right fun _ => or_congr_right (and_congr_right fun _ => ?_)
  simp only [attached_eq_none_iff, exists_eq_left]
  exact Iff.rfl

/-- An item is one argument, or one with the value behind it. -/
theorem Item.shape {setting : Setting} {value : String} {arguments : List String}
    (h : Item setting value arguments) :
    (∃ argument, arguments = [argument]) ∨ ∃ argument, arguments = [argument, value] := by
  cases h with
  | joined | letterJoined | letterEquals => exact .inl ⟨_, rfl⟩
  | apart | letter => exact .inr ⟨_, rfl⟩

theorem Item.length_pos {setting : Setting} {value : String} {arguments : List String}
    (h : Item setting value arguments) : 0 < arguments.length := by
  obtain ⟨argument, rfl⟩ | ⟨argument, rfl⟩ := h.shape <;> exact Nat.succ_pos _

theorem lookup_eq_none_iff {given : List (Setting × String)} {setting : Setting} :
    given.lookup setting = none ↔ setting ∉ given.map Prod.fst := by
  rw [List.lookup_eq_none_iff]
  constructor
  · intro h hm
    obtain ⟨item, hi, rfl⟩ := List.mem_map.mp hm
    simpa using h item hi
  · intro h item hi
    exact bne_iff_ne.mpr fun he => h (he ▸ List.mem_map_of_mem hi)

/-- Settings that were given once each, and another one that was not given. -/
theorem nodup_append_singleton {given : List (Setting × String)} {setting : Setting}
    {value : String} (hg : (given.map Prod.fst).Nodup) (hl : given.lookup setting = none) :
    ((given ++ [(setting, value)]).map Prod.fst).Nodup := by
  rw [List.map_append, List.nodup_append]
  refine ⟨hg, List.nodup_cons.mpr ⟨List.not_mem_nil, List.nodup_nil⟩, ?_⟩
  rintro other ho _ hs rfl
  obtain rfl := List.mem_singleton.mp hs
  exact lookup_eq_none_iff.mp hl ho

/-- It is an item together with a word behind it. -/
theorem item_pair_iff {argument : String} {setting : Setting} {value : String} :
    Item setting value [argument, value] ↔
      IsWord value ∧
        (argument = "--" ++ setting.name ∨ setting = .config ∧ argument = "-c") := by
  constructor
  · intro h
    cases h with
    | apart _ hw => exact ⟨hw, .inl rfl⟩
    | letter hw => exact ⟨hw, .inr ⟨rfl, rfl⟩⟩
  · rintro ⟨hw, rfl | ⟨rfl, rfl⟩⟩
    · exact .apart setting hw
    · exact .letter hw

end SlackCourier.CommandLine
