import SlackCourier.Proofs.Configuration

/-!
# Which configuration the program takes

A configuration is loaded from a file and then the environment has its say, about the base
of the addresses and nothing else (`Config.Overridden`). That cannot fail, so there is a
configuration exactly if one is loaded.

* `Config.result_resolve_eq_ok_iff`: the configuration that is taken is the one that was
  loaded, overridden.
* `Config.resolves`: when a configuration is taken, and which.
-/

namespace SlackCourier

namespace Config

open Json

variable {files : FileSystem} {home path : String} {environment : Environment}
  {loaded config : Config}

/-! ## The environment -/

/-- The configuration is the loaded one, but for the base of the addresses: that is the
    value of the variable if it is set to anything but white space. -/
structure Overridden (environment : Environment) (loaded config : Config) : Prop where
  others : config = { loaded with baseUrl := config.baseUrl }
  replaced : ∀ url, environment.value? "SLACK_API_BASE_URL" = some url →
    (∃ c ∈ url.toList, Text.isWhiteSpace c = false) → config.baseUrl = url
  kept : (∀ url, environment.value? "SLACK_API_BASE_URL" = some url →
    ∀ c ∈ url.toList, Text.isWhiteSpace c = true) → config.baseUrl = loaded.baseUrl

theorem isBlank_eq_false_iff {text : String} :
    Text.isBlank text = false ↔ ∃ c ∈ text.toList, Text.isWhiteSpace c = false := by
  simp [Text.isBlank]

theorem result_overridden_eq_ok_iff :
    (loaded.overridden environment.value?).result = .ok config ↔
      Overridden environment loaded config := by
  rw [overridden]
  split
  · next url hu =>
    obtain ⟨hu, hb⟩ := Option.filter_eq_some_iff.mp hu
    rw [Bool.not_eq_true', isBlank_eq_false_iff] at hb
    constructor
    · rintro ⟨⟩
      refine ⟨rfl, fun url' hu' _ => Option.some.inj (hu.symm.trans hu'), fun hw => ?_⟩
      obtain ⟨c, hc, hn⟩ := hb
      rw [hw url hu c hc] at hn
      cases hn
    · intro ho
      rw [ho.others, ho.replaced url hu hb]
      rfl
  · next hn =>
    have hw : ∀ url, environment.value? "SLACK_API_BASE_URL" = some url →
        ¬ ∃ c ∈ url.toList, Text.isWhiteSpace c = false := by
      intro url hu
      rw [← isBlank_eq_false_iff, Bool.not_eq_false]
      have hf := Option.filter_eq_none_iff.mp hn url hu
      simpa using hf
    constructor
    · rintro ⟨⟩
      exact ⟨rfl, fun url hu hb => absurd hb (hw url hu), fun _ => rfl⟩
    · intro ho
      rw [ho.others, ho.kept fun url hu c hc => ?_]
      · rfl
      · rw [← Bool.not_eq_false]
        exact fun hf => hw url hu ⟨c, hc, hf⟩

/-- The environment cannot make a configuration fail. -/
theorem exists_overridden (environment : Environment) (loaded : Config) :
    ∃ config, Overridden environment loaded config := by
  simp only [← result_overridden_eq_ok_iff]
  rw [overridden]
  split <;> exact ⟨_, rfl⟩

/-! ## Files -/

theorem readText_eq_ok_iff {text : String} :
    files.readText path = .ok text ↔
      ∃ content, files path = .ok content ∧ content.text? = some text := by
  rw [FileSystem.readText, bind_eq_ok_iff]
  refine exists_congr fun content => and_congr_right fun _ => ?_
  cases content.text? with
  | none => exact iff_of_false nofun nofun
  | some held => rw [Except.ok.injEq, Option.some.injEq]

/-- A configuration is loaded from a file that can be read and holds the text of one. -/
theorem result_load_eq_ok_iff :
    (load files home path).result = .ok loaded ↔
      ∃ content, files (expandHome home path) = .ok content ∧ content.text?.isSome ∧
        parse content = .ok loaded := by
  have hl : (load files home path).result = .ok loaded ↔
      ∃ text, files.readText (expandHome home path) = .ok text ∧
        parse (Octets.ofText text) = .ok loaded := by
    have hw (level : Level) (text : String) :
        (Run.log level text : Run Trouble Unit).result = .ok () := rfl
    have hp (config : Config) : (pure config : Run Trouble Config).result = .ok config := rfl
    simp only [load, Run.result_bind, Run.did, ok_bind, Run.ofExcept, bind_eq_ok_iff,
      mapError_eq_ok_iff, hw, hp, Except.ok.injEq, exists_eq_right]
  rw [hl]
  simp only [readText_eq_ok_iff, Option.isSome_iff_exists]
  constructor
  · rintro ⟨text, ⟨content, hf, ht⟩, hp⟩
    rw [Octets.ofText_of_text? ht] at hp
    exact ⟨content, hf, ⟨text, ht⟩, hp⟩
  · rintro ⟨content, hf, ⟨text, ht⟩, hp⟩
    rw [← Octets.ofText_of_text? ht] at hp
    exact ⟨text, ⟨content, hf, ht⟩, hp⟩

theorem result_resolve_eq_ok_iff :
    (resolve files home environment (some path)).result = .ok config ↔
      ∃ loaded, (load files home path).result = .ok loaded ∧
        Overridden environment loaded config := by
  rw [resolve, Run.result_bind, bind_eq_ok_iff]
  exact exists_congr fun loaded => and_congr_right fun _ => result_overridden_eq_ok_iff

/-- What is written for a value resolves to what its members convey, overridden. -/
theorem result_resolve_of_written {value : Json} (hi : value.IsIntegral)
    (hf : files (expandHome home path) = .ok value.toOctets) :
    (resolve files home environment (some path)).result = .ok config ↔
      ∃ members, members? value = some members ∧
        ∃ loaded, Conveyed members loaded ∧ Overridden environment loaded config := by
  have hl (loaded : Config) : (load files home path).result = .ok loaded ↔
      ∃ members, members? value = some members ∧ Conveyed members loaded := by
    rw [result_load_eq_ok_iff, ← parse_of_spells (spells_toOctets hi)]
    constructor
    · rintro ⟨content, hc, -, hp⟩
      cases hf.symm.trans hc
      exact hp
    · exact fun hp => ⟨_, hf, by rw [toOctets, Octets.text?_ofText]; rfl, hp⟩
  simp only [result_resolve_eq_ok_iff, hl]
  constructor
  · rintro ⟨loaded, ⟨members, hm, hc⟩, ho⟩
    exact ⟨members, hm, loaded, hc, ho⟩
  · rintro ⟨members, hm, loaded, hc, ho⟩
    exact ⟨loaded, ⟨members, hm, hc⟩, ho⟩

/-! ## Resolving -/

/-- The members are accepted exactly if a configuration comes of them, and it is what they
    convey, overridden. -/
structure Follows (environment : Environment) (members : Members)
    (resolved : Except Trouble Config) : Prop where
  succeeds : (∃ config, resolved = .ok config) ↔ IsAccepted members
  config : ∀ config, resolved = .ok config ↔
    ∃ loaded, Conveyed members loaded ∧ Overridden environment loaded config

theorem follows {value : Json} {members : Members} (hi : value.IsIntegral)
    (hf : files (expandHome home path) = .ok value.toOctets) (hm : members? value = some members)
    (hv : ∀ member ∈ members, member.2.IsIntegral) :
    Follows environment members (resolve files home environment (some path)).result := by
  have hc (config : Config) : (resolve files home environment (some path)).result = .ok config ↔
      ∃ loaded, Conveyed members loaded ∧ Overridden environment loaded config := by
    rw [result_resolve_of_written hi hf, hm]
    simp only [Option.some.injEq, exists_eq_left']
  refine ⟨?_, hc⟩
  rw [← exists_conveyed_iff hv]
  constructor
  · rintro ⟨config, hr⟩
    obtain ⟨loaded, hl, -⟩ := (hc config).mp hr
    exact ⟨loaded, hl⟩
  · rintro ⟨loaded, hl⟩
    obtain ⟨config, ho⟩ := exists_overridden environment loaded
    exact ⟨config, (hc config).mpr ⟨loaded, hl, ho⟩⟩

/-- What comes of the configuration file at a path, whatever the environment holds. -/
structure Resolves (files : FileSystem) (home : String) (environment : Environment)
    (path : String) : Prop where
  object : ∀ members : Members, (∀ member ∈ members, member.2.IsIntegral) →
    files (expandHome home path) = .ok (Json.object members).toOctets →
    Follows environment members (resolve files home environment (some path)).result
  /-- Neither the order of the members matters nor those with keys of no field. -/
  reordered : ∀ members members' : Members, (∀ member ∈ members, member.2.IsIntegral) →
    (∀ member ∈ members', member.2.IsIntegral) →
    (members.filter (·.1 ∈ fieldKeys)).Perm (members'.filter (·.1 ∈ fieldKeys)) →
    files (expandHome home path) = .ok (Json.object members).toOctets →
    ∀ files' : FileSystem, files' (expandHome home path) = .ok (Json.object members').toOctets →
    ∀ config, (resolve files' home environment (some path)).result = .ok config ↔
      (resolve files home environment (some path)).result = .ok config
  list : ∀ items : List Json, (∀ item ∈ items, item.IsIntegral) →
    files (expandHome home path) = .ok (Json.list items).toOctets →
    (items.length ≤ 5 → Follows environment (fieldKeys.zip items)
      (resolve files home environment (some path)).result) ∧
    (5 < items.length →
      ∃ trouble, (resolve files home environment (some path)).result = .error trouble)
  other : ∀ content value, files (expandHome home path) = .ok content →
    Json.parse content = .ok value → (∀ items, value ≠ .list items) →
    (∀ members, value ≠ .object members) →
    ∃ trouble, (resolve files home environment (some path)).result = .error trouble
  /-- Whatever else the file may hold, it is refused if no bracket opens there. -/
  opened : ∀ content config, files (expandHome home path) = .ok content →
    (resolve files home environment (some path)).result = .ok config →
    ∃ bracket behind, skipBlanks content = Bracket.opening bracket :: behind
  unloaded : ∀ trouble, (load files home path).result = .error trouble →
    (resolve files home environment (some path)).result = .error trouble
  readable : ∀ config, (resolve files home environment (some path)).result = .ok config →
    ∃ content, files (expandHome home path) = .ok content ∧ content.text?.isSome
  /-- What is written for a configuration is loaded again, and then overridden. -/
  written : ∀ config, (∀ seconds, config.timeoutSeconds = some seconds →
      seconds < 0x10000000000000000) →
    files (expandHome home path) = .ok config.toJson.toOctets →
    (load files home path).result = .ok config ∧
    ∀ taken, (resolve files home environment (some path)).result = .ok taken ↔
      Overridden environment config taken

/-- A configuration comes of a file exactly if its members, or the items in their places,
    are accepted, and then it is what they convey, overridden. -/
theorem resolves (files : FileSystem) (home : String) (environment : Environment)
    (path : String) : Resolves files home environment path := by
  have he (h : ∀ config, (resolve files home environment (some path)).result ≠ .ok config) :
      ∃ trouble, (resolve files home environment (some path)).result = .error trouble :=
    (Run.result_cases _).resolve_left fun ⟨config, hr⟩ => h config hr
  have hp {content : Octets} {config : Config} (hf : files (expandHome home path) = .ok content)
      (hr : (resolve files home environment (some path)).result = .ok config) :
      ∃ loaded, parse content = .ok loaded := by
    obtain ⟨loaded, hl, -⟩ := result_resolve_eq_ok_iff.mp hr
    obtain ⟨content', hc, -, hp⟩ := result_load_eq_ok_iff.mp hl
    cases hf.symm.trans hc
    exact ⟨loaded, hp⟩
  constructor
  case object => exact fun members hm hf => follows (.object hm) hf rfl hm
  case reordered =>
    intro members members' hm hm' hk hf files' hf' config
    rw [(follows (.object hm) hf rfl hm).config, (follows (.object hm') hf' rfl hm').config]
    refine exists_congr fun loaded => and_congr_left fun _ => ?_
    exact ⟨.perm hk.symm, .perm hk⟩
  case list =>
    intro items hi hf
    refine ⟨fun hl => follows (.list hi) hf (if_pos hl) fun member hm => ?_, fun hl => he ?_⟩
    · exact hi member.2 (List.of_mem_zip hm).2
    · intro config hr
      obtain ⟨members, hm, -⟩ := (result_resolve_of_written (.list hi) hf).mp hr
      rw [members?, if_neg (by omega)] at hm
      cases hm
  case other =>
    intro content value hf hv hl ho
    refine he fun config hr => ?_
    obtain ⟨loaded, hp⟩ := hp hf hr
    obtain ⟨items, rfl⟩ | ⟨members, rfl⟩ := container_of_parse hp hv
    · exact hl items rfl
    · exact ho members rfl
  case opened =>
    intro content config hf hr
    obtain ⟨loaded, hp⟩ := hp hf hr
    obtain ⟨found, behind, hf, hn⟩ := readFound_of_parse hp
    exact opening_of_readFound hf hn
  case unloaded =>
    intro trouble hl
    rw [resolve, Run.result_bind]
    show (load files home path).result >>= _ = _
    rw [hl]
    rfl
  case readable =>
    intro config hr
    obtain ⟨loaded, hl, -⟩ := result_resolve_eq_ok_iff.mp hr
    obtain ⟨content, hf, ht, -⟩ := result_load_eq_ok_iff.mp hl
    exact ⟨content, hf, ht⟩
  case written =>
    intro config ht hf
    have hl : (load files home path).result = .ok config := by
      refine result_load_eq_ok_iff.mpr ⟨_, hf, ?_, parse_toJson ht⟩
      rw [toOctets, Octets.text?_ofText]
      rfl
    refine ⟨hl, fun taken => ?_⟩
    simp only [result_resolve_eq_ok_iff, hl, Except.ok.injEq, exists_eq_left']

/-- The greatest number of seconds is taken, members with other keys are not, and the base
    of the addresses is replaced with all the white space that is set. -/
theorem resolves_greatest_timeout :
    let members : Members := [("x", .list []), ("api_base_url", .text ""), ("x", .null),
      ("timeout_secs", .number (.integer 18446744073709551615))]
    let files : FileSystem := fun _ => .ok (Json.object members).toOctets
    let environment := Environment.ofList [("SLACK_API_BASE_URL", " / ")]
    (resolve files "" environment (some "~/slack.json")).result =
      .ok { baseUrl := " / ", timeoutSeconds := some 18446744073709551615 } := by
  intro members files environment
  have hm : ∀ member ∈ members, member.2.IsIntegral := by
    simp only [members, List.forall_mem_cons, List.not_mem_nil, false_implies, implies_true,
      and_true]
    exact ⟨.list fun _ h => absurd h List.not_mem_nil, .text _, .null,
      .number (by decide) (by decide)⟩
  have hc : Conveyed members { baseUrl := "", timeoutSeconds := some 18446744073709551615 } :=
    ⟨.once rfl, .absent, .absent, .absent, .once rfl⟩
  have hu : environment.value? "SLACK_API_BASE_URL" = some " / " := by decide
  refine (((resolves files "" environment "~/slack.json").object members hm rfl).config _).mpr
    ⟨_, hc, rfl, fun url hv _ => Option.some.inj (hu.symm.trans hv), fun hw => ?_⟩
  exact absurd (hw " / " hu '/' (by decide)) (by decide)

end Config

end SlackCourier
