import SlackCourier.Proofs.CommandLine.Scan

/-!
# Parsing command lines

In front of the command and behind it the same scan reads items. What it stops at
is the command in the one place and the end, or two dashes, in the other.

* `parse_eq_ok_iff`: what is invoked is exactly what the grammar says, and every
  value is what was written.
-/

namespace SlackCourier.CommandLine

/-! ## The two scans -/

/-- What a scan gives from the start was written in items. -/
theorem exists_items {scope : Scope} {page : Page} {last settled : Scan}
    {arguments rest : List String} (ho : scanOptions scope page {} arguments = .ok (last, rest))
    (hs : last.settle = .ok settled) :
    ∃ given items, arguments = items ++ rest ∧ settled = { given } ∧
      Items scope.settings given items ∧ (given.map Prod.fst).Nodup := by
  obtain ⟨given, rfl⟩ := Scan.exists_given_of_settle hs
  obtain ⟨items, ha, hi, hn, -⟩ := reads_start_iff.mp ⟨last, ho, hs⟩
  exact ⟨given, items, ha, rfl, hi, hn⟩

/-- Behind a command there are items, and perhaps two dashes. -/
theorem scanCommand_eq_ok_iff {name : CommandName} {page : Page} {arguments : List String}
    {scan : Scan} :
    scanCommand name page arguments = .ok scan ↔
      ∃ given items ending, arguments = items ++ ending ∧ scan = { given } ∧
        Items (Scope.command name).settings given items ∧ (given.map Prod.fst).Nodup ∧
        (ending = [] ∨ ending = ["--"]) := by
  rw [scanCommand]
  constructor
  · intro h
    obtain ⟨⟨last, rest⟩, ho, h⟩ := bind_eq_ok_iff.mp h
    dsimp only at h
    split at h
    next =>
      obtain ⟨given, items, ha, rfl, hi, hn⟩ := exists_items ho h
      exact ⟨given, items, [], ha, rfl, hi, hn, .inl rfl⟩
    next =>
      obtain ⟨given, items, ha, rfl, hi, hn⟩ := exists_items ho h
      exact ⟨given, items, ["--"], ha, rfl, hi, hn, .inr rfl⟩
    next => cases h
    next => cases h
  · rintro ⟨given, items, ending, rfl, rfl, hi, hn, he⟩
    have hs : ∀ argument ∈ ending.head?, Stops argument := by
      rcases he with rfl | rfl <;> simp [Stops]
    obtain ⟨last, ho, hl⟩ := reads_start_iff.mpr ⟨items, rfl, hi, hn, hs⟩
    rw [ho]
    rcases he with rfl | rfl
    · exact hl
    · exact hl

theorem ofText?_eq_some_iff {word : String} {name : CommandName} :
    CommandName.ofText? word = some name ↔ word = name.text := by
  constructor
  · intro h
    simpa [eq_comm] using List.find?_some h
  · rintro rfl
    cases name <;> decide

/-- In front of a command there are options, and nothing is left but the command. -/
theorem scanProgram_eq_ok_iff {calledAs : Option String} {arguments behind : List String}
    {scan : Scan} {name : CommandName} :
    scanProgram calledAs arguments = .ok (scan, some (name, behind)) ↔
      scanOptions .program (programPage calledAs) {} arguments =
        .ok (scan, name.text :: behind) := by
  rw [scanProgram]
  constructor
  · intro h
    obtain ⟨⟨last, rest⟩, ho, h⟩ := bind_eq_ok_iff.mp h
    dsimp only at h
    rw [ho]
    split at h
    next => cases h
    next => cases h
    next => split at h <;> cases h
    next =>
      split at h
      next => cases h
      next =>
        -- A word at which the scan stops, and which is the name of a command.
        split at h
        next found hf =>
          cases h
          rw [ofText?_eq_some_iff.mp hf]
        next => cases h
  · intro h
    rw [h]
    cases name <;> rfl

/-! ## The command and the whole -/

theorem command_eq_ok_iff {name : CommandName} {given : List (Setting × String)}
    {asked : Command} : command name { given } = .ok asked ↔ Makes given name asked := by
  constructor
  · intro h
    unfold command at h
    split at h
    next hc =>
      cases h
      exact .send hc
    next hc hf =>
      cases h
      exact .upload hc hf
    next => cases h
  · intro h
    cases h with
    | send hc => simp [command, Scan.value?, hc]
    | upload hc hf => simp [command, Scan.value?, hc, hf]

/-- Of the configuration alone there is at most one item, if no setting is given
    twice. -/
theorem ahead_iff {outer : Option String} {arguments : List String} :
    Ahead outer arguments ↔
      ∃ given, Items [.config] given arguments ∧ (given.map Prod.fst).Nodup ∧
        given.lookup .config = outer := by
  constructor
  · intro h
    cases h with
    | nothing => exact ⟨[], .nil, List.nodup_nil, rfl⟩
    | @config value _ hi =>
      refine ⟨[(.config, value)], ?_, List.nodup_cons.mpr ⟨List.not_mem_nil, List.nodup_nil⟩, rfl⟩
      have hm : Setting.config ∈ [Setting.config] := List.mem_cons_self ..
      have hs := Items.cons hm hi .nil
      rwa [List.append_nil] at hs
  · rintro ⟨given, hi, hn, rfl⟩
    cases hi with
    | nil => exact .nothing
    | @cons setting value front rest given hm hi hr =>
      obtain rfl := List.mem_singleton.mp hm
      cases hr with
      | nil =>
        rw [List.append_nil]
        exact .config hi
      | @cons setting' value' front' rest' given' hm' hi' hr' =>
        obtain rfl := List.mem_singleton.mp hm'
        exact absurd (List.mem_cons_self ..) (List.nodup_cons.mp hn).1

/-- In front of a command there is at most one configuration. -/
theorem scanProgram_settle_iff {calledAs : Option String} {arguments behind : List String}
    {name : CommandName} {outer : Option String} :
    (∃ last settled, scanProgram calledAs arguments = .ok (last, some (name, behind)) ∧
        last.settle = .ok settled ∧ settled.value? .config = outer) ↔
      ∃ ahead, arguments = ahead ++ name.text :: behind ∧ Ahead outer ahead := by
  constructor
  · rintro ⟨last, settled, hp, hs, rfl⟩
    rw [scanProgram_eq_ok_iff] at hp
    obtain ⟨before, ahead, ha, rfl, hi, hn⟩ := exists_items hp hs
    exact ⟨ahead, ha, ahead_iff.mpr ⟨before, hi, hn, rfl⟩⟩
  · rintro ⟨ahead, rfl, ho⟩
    obtain ⟨before, hi, hn, rfl⟩ := ahead_iff.mp ho
    -- The scan stops at the command, since its name is a word.
    have hw : ∀ argument ∈ (name.text :: behind).head?, Stops argument := by
      intro argument h
      cases h
      exact .inr (.inr (by cases name <;> decide))
    have hr : Reads .program (programPage calledAs) {} (ahead ++ name.text :: behind) before
        (name.text :: behind) :=
      reads_start_iff.mpr ⟨ahead, rfl, hi, hn, hw⟩
    obtain ⟨last, hl, hs⟩ := hr
    exact ⟨last, { given := before }, scanProgram_eq_ok_iff.mpr hl, hs, rfl⟩

/-- A command is invoked if both parts of the command line are in order. -/
theorem parse_eq_ok_iff_parts {arguments : List String} {invocation : Invocation} :
    parse arguments = .ok invocation ↔
      ∃ outer name behind inner asked settled,
        scanProgram (calledAs? arguments) arguments.tail = .ok (outer, some (name, behind)) ∧
        scanCommand name (commandPage (calledAs? arguments) name) behind = .ok inner ∧
        command name inner = .ok asked ∧ outer.settle = .ok settled ∧
        invocation = ⟨(inner.value? .config).or (settled.value? .config), asked⟩ := by
  rw [parse]
  constructor
  · intro h
    obtain ⟨⟨outer, found⟩, hp, h⟩ := bind_eq_ok_iff.mp h
    cases found with
    | none =>
      obtain ⟨settled, -, h⟩ := bind_eq_ok_iff.mp h
      split at h <;> cases h
    | some found =>
      obtain ⟨inner, hc, h⟩ := bind_eq_ok_iff.mp h
      obtain ⟨asked, hm, h⟩ := bind_eq_ok_iff.mp h
      obtain ⟨settled, hs, h⟩ := bind_eq_ok_iff.mp h
      cases h
      exact ⟨outer, found.1, found.2, inner, asked, settled, hp, hc, hm, hs, rfl⟩
  · rintro ⟨outer, name, behind, inner, asked, settled, hp, hc, hm, hs, rfl⟩
    simp only [hp, hc, hm, hs, bind, Except.bind]

/-- A command line invokes a command exactly if it is one of the grammar, and then
    that command with the values that are written in it. -/
theorem parse_eq_ok_iff (arguments : List String) (invocation : Invocation) :
    parse arguments = .ok invocation ↔ Grammar arguments invocation := by
  rw [parse_eq_ok_iff_parts]
  constructor
  · rintro ⟨outer, name, behind, inner, asked, settled, hp, hc, hm, hs, rfl⟩
    cases arguments with
    | nil => cases hp
    | cons program tail =>
      obtain ⟨ahead, ht, ho⟩ := scanProgram_settle_iff.mp ⟨outer, settled, hp, hs, rfl⟩
      obtain ⟨given, items, ending, rfl, rfl, hi, hn, he⟩ := scanCommand_eq_ok_iff.mp hc
      obtain rfl : tail = ahead ++ name.text :: (items ++ ending) := ht
      have hg : Grammar (program :: ahead ++ name.text :: items ++ ending) _ :=
        .intro ho hi hn (command_eq_ok_iff.mp hm) he
      rwa [List.append_assoc] at hg
  · intro h
    cases h with
    | @intro program outer ahead items ending name given asked ho hi hn hm he =>
      obtain ⟨last, settled, hp, hs, rfl⟩ :=
        scanProgram_settle_iff.mpr ⟨ahead, rfl, ho⟩
      refine ⟨last, name, items ++ ending, { given }, asked, settled, ?_, ?_,
        command_eq_ok_iff.mpr hm, hs, rfl⟩
      · rw [List.append_assoc]
        exact hp
      · exact scanCommand_eq_ok_iff.mpr ⟨given, items, ending, rfl, rfl, hi, hn, he⟩

-- Words that look like commands or options are values where values are due.
example : parse ["slack-cli", "-c=", "send", "--text", "send", "--channel=--text", "-cv", "--"] =
    .ok ⟨some "v", .send { channel := "--text", text := some "send" }⟩ := by
  rfl

end SlackCourier.CommandLine
