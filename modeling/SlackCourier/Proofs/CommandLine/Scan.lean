import SlackCourier.Proofs.CommandLine.Grammar
import SlackCourier.Proofs.Steps

/-!
# Scanning items

Options are scanned with one of them pending, so what may follow depends on the
state of the scan. After an option without a value it is a word
(`reads_waiting_iff`); after one with a value that no option before it gave it is
whatever may follow when nothing is pending (`reads_filled_iff`); and when nothing
is pending it is an item, or the scan stops (`reads_settled_iff`). An item leads
from a state in which nothing is pending to the next one.

* `reads_iff`: by induction, what is read when nothing is pending is items, each
  setting once.
-/

namespace SlackCourier.CommandLine

/-! ## The states of a scan -/

/-- An argument that ends the options or is a word, so that they may stop there. -/
def Stops (argument : String) : Prop :=
  argument = "--" ∨ IsWord argument

namespace Scan

/-- An answer is no settings. -/
theorem ask_ne_ok (scan next : Scan) (page : Page) (question : Question) :
    scan.ask page question ≠ .ok next := by
  unfold ask
  cases scan.settle with
  | error usage => nofun
  | ok scan => cases question <;> nofun

variable {scope : Scope} {page : Page} {scan : Scan}

theorem long_of_option {name : String} {value value' : Option String} {setting : Setting}
    (h : (Token.long name value).option? scope = some (setting, value')) :
    scan.long scope page name value = scan.start setting value' := by
  rw [Token.option?, Option.map_eq_some_iff] at h
  obtain ⟨found, hf, he⟩ := h
  cases he
  simp only [long, hf]

theorem short_of_option {letter : Char} {letters : List Char} {value : Option String}
    {setting : Setting} (h : (Token.short letter letters).option? scope = some (setting, value)) :
    scan.short scope page letter letters = scan.start setting value := by
  rw [Token.option?, Option.map_eq_some_iff] at h
  obtain ⟨found, hf, he⟩ := h
  cases he
  simp only [short, hf]

theorem long_ne_ok {name : String} {value : Option String}
    (h : (Token.long name value).option? scope = none) (next : Scan) :
    scan.long scope page name value ≠ .ok next := by
  rw [Token.option?, Option.map_eq_none_iff] at h
  intro hn
  unfold long at hn
  rw [h] at hn
  cases hq : scope.questions.find? (·.name = name) with
  | none =>
    rw [hq] at hn
    cases hn
  | some question =>
    rw [hq] at hn
    cases value with
    | none => exact scan.ask_ne_ok next page question hn
    | some value => cases hn

theorem short_ne_ok {letter : Char} {letters : List Char}
    (h : (Token.short letter letters).option? scope = none) (next : Scan) :
    scan.short scope page letter letters ≠ .ok next := by
  rw [Token.option?, Option.map_eq_none_iff] at h
  intro hn
  unfold short at hn
  rw [h] at hn
  cases hq : scope.questions.find? (·.letter = letter) with
  | none =>
    rw [hq] at hn
    cases hn
  | some question =>
    rw [hq] at hn
    exact scan.ask_ne_ok next page question hn

end Scan

/-- An argument that no scan goes on from, whatever is behind it. -/
def Refused (scope : Scope) (argument : String) : Prop :=
  ∀ page scan rest result, scanOptions scope page scan (argument :: rest) ≠ .ok result

/-- An argument begins a setting, ends the options, is a word, or is refused. -/
theorem argument_cases (scope : Scope) (argument : String) :
    (∃ setting value, (Token.ofText argument).option? scope = some (setting, value)) ∨
      Token.ofText argument = .escape ∧ argument = "--" ∨
      Token.ofText argument = .word argument ∧ IsWord argument ∨ Refused scope argument := by
  have ha := Token.text_ofText argument
  cases ht : Token.ofText argument with
  | escape =>
    rw [ht] at ha
    exact .inr (.inl ⟨rfl, ha.symm⟩)
  | word text =>
    rw [ht] at ha
    obtain rfl : text = argument := ha
    exact .inr (.inr (.inl ⟨rfl, Token.isWord_of_ofText ht⟩))
  | long name value =>
    cases ho : (Token.long name value).option? scope with
    | some option => exact .inl ⟨option.1, option.2, rfl⟩
    | none =>
      refine .inr (.inr (.inr fun page scan rest result h => ?_))
      rw [scanOptions, ht] at h
      obtain ⟨next, hn, -⟩ := bind_eq_ok_iff.mp h
      exact Scan.long_ne_ok ho next hn
  | short letter letters =>
    cases ho : (Token.short letter letters).option? scope with
    | some option => exact .inl ⟨option.1, option.2, rfl⟩
    | none =>
      refine .inr (.inr (.inr fun page scan rest result h => ?_))
      rw [scanOptions, ht] at h
      obtain ⟨next, hn, -⟩ := bind_eq_ok_iff.mp h
      exact Scan.short_ne_ok ho next hn

/-- The settings that are given when a scan stops in front of what is left, and
    all of it is in order. -/
def Reads (scope : Scope) (page : Page) (scan : Scan) (arguments : List String)
    (given : List (Setting × String)) (rest : List String) : Prop :=
  ∃ last : Scan, scanOptions scope page scan arguments = .ok (last, rest) ∧
    last.settle = .ok { given }

section

variable {scope : Scope} {page : Page} {scan : Scan} {argument : String}
  {arguments rest : List String} {given : List (Setting × String)}

theorem reads_nil_iff :
    Reads scope page scan [] given rest ↔ scan.settle = .ok { given } ∧ rest = [] := by
  constructor
  · rintro ⟨last, hl, hs⟩
    cases hl
    exact ⟨hs, rfl⟩
  · rintro ⟨hs, rfl⟩
    exact ⟨scan, rfl, hs⟩

theorem Refused.not_reads (h : Refused scope argument) :
    ¬ Reads scope page scan (argument :: arguments) given rest :=
  fun ⟨_, hl, _⟩ => h _ _ _ _ hl

/-- An argument that begins a setting is scanned by what it begins, however it is
    written. -/
theorem scanOptions_cons_of_option {setting : Setting} {value : Option String}
    (h : (Token.ofText argument).option? scope = some (setting, value)) :
    scanOptions scope page scan (argument :: arguments) =
      scan.start setting value >>= fun next => scanOptions scope page next arguments := by
  rw [scanOptions]
  cases ht : Token.ofText argument with
  | long name value' =>
    rw [ht] at h
    dsimp only
    rw [Scan.long_of_option h]
  | short letter letters =>
    rw [ht] at h
    dsimp only
    rw [Scan.short_of_option h]
  | escape =>
    rw [ht] at h
    cases h
  | word text =>
    rw [ht] at h
    cases h

theorem reads_cons_of_option {setting : Setting} {value : Option String}
    (h : (Token.ofText argument).option? scope = some (setting, value)) :
    Reads scope page scan (argument :: arguments) given rest ↔
      ∃ next, scan.start setting value = .ok next ∧
        Reads scope page next arguments given rest := by
  simp only [Reads, scanOptions_cons_of_option h, bind_eq_ok_iff]
  constructor
  · rintro ⟨last, ⟨next, hn, hl⟩, hg⟩
    exact ⟨next, hn, last, hl, hg⟩
  · rintro ⟨next, hn, last, hl, hg⟩
    exact ⟨last, ⟨next, hn, hl⟩, hg⟩

theorem reads_cons_of_stop
    (h : Token.ofText argument = .escape ∨
      Token.ofText argument = .word argument ∧ scan.waiting? = none) :
    Reads scope page scan (argument :: arguments) given rest ↔
      scan.settle = .ok { given } ∧ rest = argument :: arguments := by
  have hs : scanOptions scope page scan (argument :: arguments) =
      .ok (scan, argument :: arguments) := by
    rw [scanOptions]
    rcases h with ht | ⟨ht, hw⟩
    · rw [ht]
    · rw [ht]
      dsimp only
      rw [hw]
  constructor
  · rintro ⟨last, hl, hg⟩
    rw [hs] at hl
    cases hl
    exact ⟨hg, rfl⟩
  · rintro ⟨hg, rfl⟩
    exact ⟨scan, hs, hg⟩

theorem reads_cons_of_word {setting : Setting} (ht : Token.ofText argument = .word argument)
    (hw : scan.waiting? = some setting) :
    Reads scope page scan (argument :: arguments) given rest ↔
      Reads scope page { scan with pending := some (setting, some argument) } arguments given
        rest := by
  rw [Reads, scanOptions, ht]
  dsimp only
  rw [hw]
  rfl

end

namespace Scan

theorem settle_filled_iff {given : List (Setting × String)} {setting : Setting} {value : String}
    {next : Scan} :
    settle ⟨given, some (setting, some value)⟩ = .ok next ↔
      given.lookup setting = none ∧ next = { given := given ++ [(setting, value)] } := by
  cases hl : given.lookup setting with
  | none => simp [settle, value?, hl, eq_comm]
  | some held => simp [settle, value?, hl]

theorem start_some_iff {given : List (Setting × String)} {setting : Setting} {value : String}
    {next : Scan} :
    start { given } setting (some value) = .ok next ↔
      given.lookup setting = none ∧ next = { given := given ++ [(setting, value)] } :=
  settle_filled_iff

/-- When a scan is settled nothing is pending. -/
theorem exists_given_of_settle {scan settled : Scan} (h : scan.settle = .ok settled) :
    ∃ given, settled = { given } := by
  unfold settle at h
  split at h
  next hp =>
    cases h
    exact ⟨scan.given, by rw [← hp]⟩
  next => cases h
  next =>
    split at h
    · cases h
    · cases h
      exact ⟨_, rfl⟩

/-- A scan that is settled stays as it is when it is settled again. -/
theorem settle_of_settle {scan settled : Scan} (h : scan.settle = .ok settled) :
    settled.settle = .ok settled := by
  obtain ⟨given, rfl⟩ := exists_given_of_settle h
  rfl

theorem start_of_settle {scan settled : Scan} (h : scan.settle = .ok settled) (setting : Setting)
    (value : Option String) : scan.start setting value = settled.start setting value := by
  rw [start, start, h, settle_of_settle h]

theorem waiting?_of_settle {scan settled : Scan} (h : scan.settle = .ok settled) :
    scan.waiting? = none := by
  unfold settle at h
  unfold waiting?
  split at h
  next hp => rw [hp]
  next => cases h
  next hp => rw [hp]

end Scan

section

variable {scope : Scope} {page : Page} {scan : Scan} {arguments rest : List String}
  {given : List (Setting × String)}

/-- A scan goes on as it does when it is settled, if it can be. -/
theorem reads_iff_of_settle {settled : Scan} (h : scan.settle = .ok settled) :
    Reads scope page scan arguments given rest ↔ Reads scope page settled arguments given rest := by
  have hs := Scan.settle_of_settle h
  have hw := Scan.waiting?_of_settle h
  have hw' := Scan.waiting?_of_settle hs
  cases arguments with
  | nil => rw [reads_nil_iff, reads_nil_iff, h, hs]
  | cons argument arguments =>
    obtain ⟨setting, value, ho⟩ | ⟨ht, -⟩ | ⟨ht, -⟩ | hr := argument_cases scope argument
    · rw [reads_cons_of_option ho, reads_cons_of_option ho, Scan.start_of_settle h]
    · rw [reads_cons_of_stop (.inl ht), reads_cons_of_stop (.inl ht), h, hs]
    · rw [reads_cons_of_stop (.inr ⟨ht, hw⟩), reads_cons_of_stop (.inr ⟨ht, hw'⟩), h, hs]
    · exact iff_of_false hr.not_reads hr.not_reads

/-- What reads on can be settled, unless it waits for a value. -/
theorem settle_of_reads (h : Reads scope page scan arguments given rest)
    (hw : scan.waiting? = none) : ∃ settled, scan.settle = .ok settled := by
  cases hs : scan.settle with
  | ok settled => exact ⟨settled, rfl⟩
  | error usage =>
    exfalso
    -- Every argument but a word that is waited for settles the scan.
    cases arguments with
    | nil =>
      rw [reads_nil_iff, hs] at h
      cases h.1
    | cons argument arguments =>
      obtain ⟨setting, value, ho⟩ | ⟨ht, -⟩ | ⟨ht, -⟩ | hr := argument_cases scope argument
      · obtain ⟨next, hn, -⟩ := (reads_cons_of_option ho).mp h
        rw [Scan.start, hs] at hn
        cases hn
      · rw [reads_cons_of_stop (.inl ht), hs] at h
        cases h.1
      · rw [reads_cons_of_stop (.inr ⟨ht, hw⟩), hs] at h
        cases h.1
      · exact hr.not_reads h

/-- Behind a setting with its value whatever follows is read with that value
    given, if it was not given before. -/
theorem reads_filled_iff {g : List (Setting × String)} {setting : Setting} {value : String} :
    Reads scope page ⟨g, some (setting, some value)⟩ arguments given rest ↔
      g.lookup setting = none ∧
        Reads scope page { given := g ++ [(setting, value)] } arguments given rest := by
  constructor
  · intro h
    obtain ⟨settled, hs⟩ := settle_of_reads h rfl
    obtain ⟨hl, rfl⟩ := Scan.settle_filled_iff.mp hs
    exact ⟨hl, (reads_iff_of_settle hs).mp h⟩
  · rintro ⟨hl, h⟩
    exact (reads_iff_of_settle (Scan.settle_filled_iff.mpr ⟨hl, rfl⟩)).mpr h

/-- Behind a setting without its value comes a word, which is the value. -/
theorem reads_waiting_iff {g : List (Setting × String)} {setting : Setting} :
    Reads scope page ⟨g, some (setting, none)⟩ arguments given rest ↔
      ∃ value behind, arguments = value :: behind ∧ IsWord value ∧
        Reads scope page ⟨g, some (setting, some value)⟩ behind given rest := by
  constructor
  · intro h
    cases arguments with
    | nil =>
      rw [reads_nil_iff] at h
      cases h.1
    | cons argument arguments =>
      obtain ⟨setting', value, ho⟩ | ⟨ht, -⟩ | ⟨ht, hw⟩ | hr := argument_cases scope argument
      · obtain ⟨next, hn, -⟩ := (reads_cons_of_option ho).mp h
        cases hn
      · rw [reads_cons_of_stop (.inl ht)] at h
        cases h.1
      · exact ⟨argument, arguments, rfl, hw, (reads_cons_of_word ht rfl).mp h⟩
      · exact absurd h hr.not_reads
  · rintro ⟨value, behind, rfl, hw, h⟩
    exact (reads_cons_of_word (Token.ofText_of_isWord hw) rfl).mpr h

/-- When nothing is pending the scan stops, or an item follows, of a setting that
    was not given. -/
theorem reads_settled_iff {g : List (Setting × String)} :
    Reads scope page { given := g } arguments given rest ↔
      (given = g ∧ rest = arguments ∧ ∀ argument ∈ arguments.head?, Stops argument) ∨
        ∃ setting value front behind, arguments = front ++ behind ∧
          setting ∈ scope.settings ∧ Item setting value front ∧ g.lookup setting = none ∧
          Reads scope page { given := g ++ [(setting, value)] } behind given rest := by
  constructor
  · intro h
    cases arguments with
    | nil =>
      obtain ⟨hs, rfl⟩ := reads_nil_iff.mp h
      cases hs
      exact .inl ⟨rfl, rfl, by simp⟩
    | cons argument arguments =>
      obtain ⟨setting, value, ho⟩ | ⟨ht, rfl⟩ | ⟨ht, hw⟩ | hr := argument_cases scope argument
      · obtain ⟨next, hn, hb⟩ := (reads_cons_of_option ho).mp h
        right
        cases value with
        | some value =>
          -- The argument is an item by itself.
          obtain ⟨hl, rfl⟩ := Scan.start_some_iff.mp hn
          obtain ⟨hm, hi⟩ := option?_eq_some_some_iff.mp ho
          exact ⟨setting, value, [argument], arguments, rfl, hm, hi, hl, hb⟩
        | none =>
          -- The argument is an item together with the word that the scan now waits for.
          cases hn
          obtain ⟨value, behind, rfl, hw, hb⟩ := reads_waiting_iff.mp hb
          obtain ⟨hl, hb⟩ := reads_filled_iff.mp hb
          obtain ⟨hm, ha⟩ := option?_eq_some_none_iff.mp ho
          exact ⟨setting, value, [argument, value], behind, rfl, hm, item_pair_iff.mpr ⟨hw, ha⟩,
            hl, hb⟩
      · obtain ⟨hs, rfl⟩ := (reads_cons_of_stop (.inl ht)).mp h
        cases hs
        exact .inl ⟨rfl, rfl, by simp [Stops]⟩
      · obtain ⟨hs, rfl⟩ := (reads_cons_of_stop (.inr ⟨ht, rfl⟩)).mp h
        cases hs
        exact .inl ⟨rfl, rfl, by simp [Stops, hw]⟩
      · exact absurd h hr.not_reads
  · rintro (⟨rfl, rfl, hs⟩ | ⟨setting, value, front, behind, rfl, hm, hi, hl, hb⟩)
    · cases rest with
      | nil => exact reads_nil_iff.mpr ⟨rfl, rfl⟩
      | cons argument rest =>
        refine (reads_cons_of_stop ?_).mpr ⟨rfl, rfl⟩
        obtain rfl | hw := hs argument rfl
        · exact .inl rfl
        · exact .inr ⟨Token.ofText_of_isWord hw, rfl⟩
    · obtain ⟨argument, rfl⟩ | ⟨argument, rfl⟩ := hi.shape
      · have ho := option?_eq_some_some_iff.mpr ⟨hm, hi⟩
        exact (reads_cons_of_option ho).mpr ⟨_, Scan.start_some_iff.mpr ⟨hl, rfl⟩, hb⟩
      · obtain ⟨hw, ha⟩ := item_pair_iff.mp hi
        have ho := option?_eq_some_none_iff.mpr ⟨hm, ha⟩
        refine (reads_cons_of_option ho).mpr ⟨_, rfl, ?_⟩
        exact reads_waiting_iff.mpr ⟨value, behind, rfl, hw, reads_filled_iff.mpr ⟨hl, hb⟩⟩

/-- When nothing is pending the scan reads items, each setting once, up to an
    argument at which it stops. -/
theorem reads_iff {g : List (Setting × String)} (hg : (g.map Prod.fst).Nodup) :
    Reads scope page { given := g } arguments given rest ↔
      ∃ more items, arguments = items ++ rest ∧ given = g ++ more ∧
        Items scope.settings more items ∧ (given.map Prod.fst).Nodup ∧
        ∀ argument ∈ rest.head?, Stops argument := by
  constructor
  · intro h
    -- An item may be two arguments, so the induction is on the number of all of them.
    induction hn : arguments.length using Nat.strongRecOn generalizing arguments g with
    | ind n ih =>
      obtain ⟨rfl, rfl, hs⟩ | ⟨setting, value, front, behind, rfl, hm, hi, hl, hb⟩ :=
        reads_settled_iff.mp h
      · exact ⟨[], [], rfl, by rw [List.append_nil], .nil, hg, hs⟩
      · have hlt : behind.length < n := by
          have hf := hi.length_pos
          rw [← hn, List.length_append]
          omega
        obtain ⟨more, items, rfl, rfl, hr, hnd, hs⟩ :=
          ih _ hlt (nodup_append_singleton hg hl) hb rfl
        refine ⟨(setting, value) :: more, front ++ items, ?_, ?_, .cons hm hi hr, hnd, hs⟩
        · rw [List.append_assoc]
        · rw [List.append_assoc]
          rfl
  · rintro ⟨more, items, rfl, rfl, hi, hnd, hs⟩
    induction hi generalizing g with
    | nil => exact reads_settled_iff.mpr (.inl ⟨List.append_nil g, rfl, hs⟩)
    | @cons setting value front after more hm hi hr ih =>
      have hl : g.lookup setting = none := by
        rw [List.map_append, List.nodup_append] at hnd
        exact lookup_eq_none_iff.mpr fun hm' => hnd.2.2 _ hm' _ (List.mem_cons_self ..) rfl
      refine reads_settled_iff.mpr (.inr ⟨setting, value, front, after ++ rest, ?_, hm, hi, hl, ?_⟩)
      · rw [List.append_assoc]
      · have hb := ih (nodup_append_singleton hg hl) (by rwa [← List.append_cons])
        rwa [← List.append_cons] at hb

/-- From the start the scan reads all the settings that are given. -/
theorem reads_start_iff :
    Reads scope page {} arguments given rest ↔
      ∃ items, arguments = items ++ rest ∧ Items scope.settings given items ∧
        (given.map Prod.fst).Nodup ∧ ∀ argument ∈ rest.head?, Stops argument := by
  rw [reads_iff (show (List.map Prod.fst ([] : List (Setting × String))).Nodup from List.nodup_nil)]
  constructor
  · rintro ⟨more, items, rfl, rfl, h⟩
    exact ⟨items, rfl, h⟩
  · rintro ⟨items, rfl, h⟩
    exact ⟨given, items, rfl, rfl, h⟩

end

end SlackCourier.CommandLine
