import WikiGraph.Config.AppConfig
import WikiGraph.Proofs.Config.VariableText
/-!
# Variables over files

The variable for a setting puts its value at the setting's place in the tree of settings, whatever
was there before. Variables that come later leave it there unless they lead to the group of the
setting, to an item of it or to the setting itself (`TextSetting.replacedBy`), or put something below
it, and then no text can be read there. So either the configuration cannot be read, or the setting is
the text that is made of the variable's own (`TextSetting.override_literal_unless_respelled`).
-/
namespace WikiGraph.Config

open WikiGraph.Text

/-! ## Entries -/

theorem settingAt?_nil (key : String) : settingAt? key [] = none := rfl

theorem settingAt?_cons (key k : String) (value : Setting) (rest : Entries) :
    settingAt? key ((k, value) :: rest) = if k = key then some value else settingAt? key rest := by
  by_cases h : k = key <;> simp [settingAt?, h]

theorem settingAt?_putEntry (key key' : String) (value : Setting) (entries : Entries) :
    settingAt? key' (putEntry key value entries) =
      if key = key' then some value else settingAt? key' entries := by
  induction entries with
  | nil => rw [putEntry, settingAt?_cons]
  | cons entry rest ih =>
    obtain ⟨k, v⟩ := entry
    unfold putEntry
    by_cases hk : k = key
    · subst hk
      rw [if_pos rfl, settingAt?_cons, settingAt?_cons]
      split <;> rfl
    · rw [if_neg hk, settingAt?_cons, settingAt?_cons, ih]
      by_cases h : k = key'
      · rw [if_pos h, if_pos h, if_neg (h ▸ Ne.symm hk)]
      · rw [if_neg h, if_neg h]

/-- What stands under a key of a setting, an empty table if nothing does. -/
def Setting.inner (s : Setting) (key : String) : Setting :=
  (settingAt? key s.entries).getD (.table [])

theorem put_key (s existing : Setting) (name : String) (path : List Step) :
    put s (.key name :: path) existing =
      .table (putEntry (keyOf name) (put s path (existing.inner (keyOf name))) existing.entries) :=
  rfl

theorem settingAt?_putAt (s : Setting) (name key : String) (path : List Step) (entries : Entries) :
    settingAt? key (putAt (.key name :: path) s entries) =
      if keyOf name = key then some (put s path (Setting.inner (.table entries) (keyOf name)))
      else settingAt? key entries := by
  rw [putAt, put_key, Setting.entries, settingAt?_putEntry]
  rfl

/-- What a path with two keys makes of the first of them. -/
theorem settingAt?_putAt_two (s : Setting) (name field : String) (path : List Step)
    (entries : Entries) {inner : Setting} (h : Setting.inner (.table entries) (keyOf name) = inner) :
    settingAt? (keyOf name) (putAt (.key name :: .key field :: path) s entries) =
      some (.table (putEntry (keyOf field) (put s path (inner.inner (keyOf field)))
        inner.entries)) := by
  rw [settingAt?_putAt, if_pos rfl, h, put_key]

/-- A table or a list, of which no text can be read. -/
def Setting.isNested : Setting → Bool
  | .table _ => true
  | .list _ => true
  | _ => false

theorem isNested_put {path : List Step} (h : path ≠ []) (s existing : Setting) :
    (put s path existing).isNested := by
  cases path with
  | nil => exact absurd rfl h
  | cons step path => cases step <;> rfl

theorem merge_of_not_nested {s : Setting} (h : ¬ s.isNested) (existing : Setting) :
    merge s existing = s := by
  cases s with
  | table entries => exact absurd rfl h
  | _ => rfl

/-! ## Settings that are texts -/

/-- The settings that are texts. -/
inductive TextSetting where
  | uri | user | password | readUser | readPassword | schemasPath
deriving DecidableEq, Repr

namespace TextSetting

def group : TextSetting → String
  | schemasPath => "schemas"
  | _ => "neo4j"

/-- The name of a setting in its group. -/
def field : TextSetting → String
  | uri => "uri"
  | user => "user"
  | password => "password"
  | readUser => "read_user"
  | readPassword => "read_password"
  | schemasPath => "path"

/-- The name of the variable for a setting, in upper case. -/
def variableName : TextSetting → String
  | uri => "PAGEGRAPH__NEO4J__URI"
  | user => "PAGEGRAPH__NEO4J__USER"
  | password => "PAGEGRAPH__NEO4J__PASSWORD"
  | readUser => "PAGEGRAPH__NEO4J__READ_USER"
  | readPassword => "PAGEGRAPH__NEO4J__READ_PASSWORD"
  | schemasPath => "PAGEGRAPH__SCHEMAS__PATH"

/-- The setting in a configuration. -/
def of (c : AppConfig) : TextSetting → Option String
  | uri => some c.server.uri
  | user => some c.server.user
  | password => some c.server.password
  | readUser => some c.server.readUser
  | readPassword => some c.server.readPassword
  | schemasPath => c.schemasPath

variable (s : TextSetting)

/-- Whether what is put at the end of a path takes the place of a setting: it is put in the place of
the group, makes the group a list, or is put in the place of the setting itself. -/
def replacedAt : List Step → Bool
  | [.key group] => keyOf group = s.group
  | .key group :: .item _ :: _ => keyOf group = s.group
  | [.key group, .key field] => keyOf group = s.group ∧ keyOf field = s.field
  | _ => false

/-- Whether a variable takes the place of a setting. -/
def replacedBy (name : String) : Bool := (pathOfVariable? name).any s.replacedAt

/-- Whether the group of a setting is a table that holds a value for it, or something nested. -/
def Holds (x : Setting) (entries : Entries) : Prop :=
  ∃ members y, settingAt? s.group entries = some (.table members) ∧
    settingAt? s.field members = some y ∧ (y = x ∨ y.isNested)

variable {s}

theorem keyOf_group : keyOf s.group = s.group := by
  cases s <;> decide

theorem keyOf_field : keyOf s.field = s.field := by
  cases s <;> decide

theorem pathOfVariable?_variableName :
    pathOfVariable? s.variableName = some [.key s.group, .key s.field] := by
  cases s <;> decide

/-- The case of the name of a variable does not matter. -/
theorem pathOfVariable?_eq {v : String} (hv : lowerCase v.toList = lowerCase s.variableName.toList) :
    pathOfVariable? v = some [.key s.group, .key s.field] := by
  rw [← pathOfVariable?_variableName]
  unfold pathOfVariable?
  rw [hv]

/-- The variable for a setting takes the place of no other one. -/
theorem replacedBy_variableName_iff (s s' : TextSetting) :
    s.replacedBy s'.variableName ↔ s' = s := by
  rw [replacedBy, pathOfVariable?_variableName, Option.any_some, replacedAt, decide_eq_true_iff,
    keyOf_group, keyOf_field]
  cases s <;> cases s' <;> decide

/-- The path of a variable begins with a key. -/
theorem exists_path_eq {w : String} {path : List Step} (h : pathOfVariable? w = some path) :
    ∃ name rest, path = .key name :: rest := by
  have hpath : ∀ text, ∃ name rest, pathOf text = .key name :: rest := by
    intro text
    unfold pathOf
    simp only
    split
    · exact ⟨_, _, rfl⟩
    · exact ⟨_, _, rfl⟩
  unfold pathOfVariable? at h
  simp only at h
  split at h
  · rw [← Option.some.inj h]
    exact hpath _
  · cases h

/-! ## What the variables after one keep of it -/

theorem toText?_eq_none_of_isNested {y : Setting} (h : y.isNested) : y.toText? = none := by
  cases y <;> first | rfl | cases h

/-- A text can be made of every variable. -/
theorem toText?_settingOfVariable_ne_none (t : String) : (settingOfVariable t).toText? ≠ none := by
  obtain ⟨u, hu⟩ := exists_takenAs t
  rw [hu.toText?]
  exact Option.some_ne_none u

theorem not_isNested_settingOfVariable (t : String) : ¬ (settingOfVariable t).isNested := fun h =>
  toText?_settingOfVariable_ne_none t (toText?_eq_none_of_isNested h)

theorem settingOfVariable_ne_absent (t : String) : settingOfVariable t ≠ .absent := fun h =>
  toText?_settingOfVariable_ne_none t (congrArg Setting.toText? h)

/-- The variable for a setting puts its value in its place. -/
theorem holds_applyVariable {v t : String}
    (hv : lowerCase v.toList = lowerCase s.variableName.toList) (entries : Entries) :
    Holds s (settingOfVariable t) (applyVariable entries v t) := by
  have happly : applyVariable entries v t =
      putAt [.key s.group, .key s.field] (settingOfVariable t) entries := by
    rw [applyVariable, pathOfVariable?_eq hv]
  have hgroup := settingAt?_putAt_two (settingOfVariable t) s.group s.field [] entries rfl
  rw [keyOf_group, keyOf_field, put, merge_of_not_nested (not_isNested_settingOfVariable t)] at hgroup
  refine ⟨_, settingOfVariable t, happly ▸ hgroup, ?_, .inl rfl⟩
  rw [settingAt?_putEntry, if_pos rfl]

/-- A path that does not replace a setting leaves what it holds, or puts something nested there. -/
theorem Holds.putAt {x : Setting} {entries : Entries} (h : Holds s x entries) {name : String}
    {path : List Step} (hp : ¬ s.replacedAt (.key name :: path)) (value : Setting) :
    Holds s x (putAt (.key name :: path) value entries) := by
  obtain ⟨members, y, hgroup, hfield, hy⟩ := h
  by_cases hname : keyOf name = s.group
  · have hinner : Setting.inner (.table entries) s.group = .table members := by
      rw [Setting.inner, Setting.entries, hgroup, Option.getD_some]
    match path with
    | [] => exact absurd (by simpa [replacedAt] using hname) hp
    | .item index :: path => exact absurd (by simpa [replacedAt] using hname) hp
    | .key field :: path =>
      have htable := settingAt?_putAt_two value name field path entries (hname ▸ hinner)
      rw [hname] at htable
      by_cases hf : keyOf field = s.field
      · -- The path goes on below the setting, since it does not end there.
        have hpath : path ≠ [] := by
          rintro rfl
          exact hp (by simp [replacedAt, hname, hf])
        have hnested := isNested_put hpath value (Setting.inner (.table members) (keyOf field))
        refine ⟨_, _, htable, ?_, .inr hnested⟩
        rw [settingAt?_putEntry, if_pos hf]
      · refine ⟨_, y, htable, ?_, hy⟩
        rw [settingAt?_putEntry, if_neg hf, Setting.entries, hfield]
  · exact ⟨members, y, by rw [settingAt?_putAt, if_neg hname, hgroup], hfield, hy⟩

theorem Holds.applyVariable {x : Setting} {entries : Entries} (h : Holds s x entries)
    {w : String} (hw : ¬ s.replacedBy w) (value : String) :
    Holds s x (applyVariable entries w value) := by
  unfold Config.applyVariable
  split
  · rename_i path hpath
    obtain ⟨name, rest, rfl⟩ := exists_path_eq hpath
    refine h.putAt (fun hp => hw ?_) _
    rw [replacedBy, hpath]
    exact hp
  · exact h

/-- **What a variable has put in its place stays there** as long as no variable takes the place. -/
theorem Holds.applyEnvironment {x : Setting} {entries : Entries} (h : Holds s x entries)
    {after : List (String × String)} (ha : ∀ w ∈ after, ¬ s.replacedBy w.1) :
    Holds s x (applyEnvironment entries after) := by
  induction after generalizing entries with
  | nil => exact h
  | cons w rest ih =>
    have hstep := h.applyVariable (ha w List.mem_cons_self) w.2
    exact ih hstep fun v hv => ha v (List.mem_cons_of_mem w hv)

/-! ## Reading the configuration -/

theorem optionalText?_eq {y : Setting} (h : y ≠ .absent) :
    optionalText? y = y.toText?.map some := by
  unfold optionalText?
  split
  · exact absurd rfl h
  · rfl

/-- A text among the connection settings was read from their group. -/
theorem of_serverSettings? {members : Entries} {y : Setting} {c : AppConfig}
    (hc : serverSettings? (.table members) = some c.server) (hs : s ≠ schemasPath)
    (hf : settingAt? s.field members = some y) : ∃ u, y.toText? = some u ∧ s.of c = some u := by
  have hread : ∀ {usual u : String},
      orElse? Setting.toText? usual (settingAt? s.field members) = some u → y.toText? = some u := by
    intro usual u h
    rwa [hf] at h
  unfold serverSettings? group? at hc
  simp only [List.map_cons, List.map_nil, Option.bind_eq_bind, Option.pure_def,
    Option.bind_eq_some_iff, Option.some.injEq] at hc
  obtain ⟨uri, huri, user, huser, password, hpassword, readUser, hreadUser, readPassword,
    hreadPassword, maxConnections, -, fetchSize, -, hc⟩ := hc
  cases s with
  | uri => exact ⟨uri, hread huri, by rw [of, ← hc]⟩
  | user => exact ⟨user, hread huser, by rw [of, ← hc]⟩
  | password => exact ⟨password, hread hpassword, by rw [of, ← hc]⟩
  | readUser => exact ⟨readUser, hread hreadUser, by rw [of, ← hc]⟩
  | readPassword => exact ⟨readPassword, hread hreadPassword, by rw [of, ← hc]⟩
  | schemasPath => exact absurd rfl hs

theorem of_schemasPath? {members : Entries} {y : Setting} {c : AppConfig}
    (hc : schemasPath? (.table members) = some c.schemasPath)
    (hf : settingAt? "path" members = some y) (hy : y ≠ .absent) :
    ∃ u, y.toText? = some u ∧ c.schemasPath = some u := by
  have hread : optionalText? y = some c.schemasPath := by
    unfold schemasPath? group? at hc
    simpa [hf, orElse?] using hc
  rw [optionalText?_eq hy, Option.map_eq_some_iff] at hread
  obtain ⟨u, hu, hpath⟩ := hread
  exact ⟨u, hu, hpath.symm⟩

/-- A configuration has the text that its group holds for a setting. -/
theorem of_ofEntries? {entries members : Entries} {y : Setting} {c : AppConfig}
    (hc : ofEntries? entries = some c) (hg : settingAt? s.group entries = some (.table members))
    (hf : settingAt? s.field members = some y) (hy : y ≠ .absent) :
    ∃ u, y.toText? = some u ∧ s.of c = some u := by
  unfold ofEntries? at hc
  simp only [Option.bind_eq_bind, Option.pure_def, Option.bind_eq_some_iff,
    Option.some.injEq] at hc
  obtain ⟨server, hserver, tries, -, path, hpath, rfl⟩ := hc
  by_cases hs : s = schemasPath
  · subst hs
    have hgroup : settingAt? "schemas" entries = some (.table members) := hg
    rw [hgroup] at hpath
    exact of_schemasPath? hpath hf hy
  · have hgroup : settingAt? "neo4j" entries = some (.table members) := by
      cases s <;> first | exact hg | exact absurd rfl hs
    rw [hgroup] at hserver
    exact of_serverSettings? hserver hs hf

/-- A configuration read where the value of a variable is held has the text made of it. -/
theorem Holds.of_ofEntries? {t u : String} {entries : Entries} {c : AppConfig}
    (h : Holds s (settingOfVariable t) entries) (hu : TakenAs t u)
    (hc : ofEntries? entries = some c) : s.of c = some u := by
  obtain ⟨members, y, hgroup, hfield, hy⟩ := h
  have hne : y ≠ .absent := by
    rintro rfl
    rcases hy with heq | hnested
    · exact settingOfVariable_ne_absent t heq.symm
    · cases hnested
  obtain ⟨u', hu', hof⟩ := TextSetting.of_ofEntries? hc hgroup hfield hne
  rcases hy with rfl | hnested
  · rw [hu.toText?] at hu'
    rw [hof, hu']
  · rw [toText?_eq_none_of_isNested hnested] at hu'
    cases hu'

theorem readFile?_nil (name : String) : readFile? (Files.ofList []) name = some [] := by
  have hnone : (candidates name).find? (fun c => ((Files.ofList []).text? c).isSome) = none :=
    List.find?_eq_none.2 fun _ _ => Bool.false_ne_true
  rw [readFile?, hnone]

theorem load?_alone {v t : String} (hv : lowerCase v.toList = lowerCase s.variableName.toList)
    (name : String) : load? (Files.ofList []) name [(v, t)] =
      ofEntries? [(s.group, .table [(s.field, settingOfVariable t)])] := by
  have happly : applyVariable [] v t = [(s.group, .table [(s.field, settingOfVariable t)])] := by
    rw [applyVariable, pathOfVariable?_eq hv]
    show (put _ _ _).entries = _
    rw [put_key, put_key, put, merge_of_not_nested (not_isNested_settingOfVariable t), keyOf_group,
      keyOf_field]
    rfl
  rw [load?, readFile?_nil, ← happly]
  rfl

/-- A variable for a setting alone is enough for a configuration. -/
theorem exists_load?_alone {v t : String} (hv : lowerCase v.toList = lowerCase s.variableName.toList)
    (name : String) : ∃ c, load? (Files.ofList []) name [(v, t)] = some c := by
  obtain ⟨u, hu⟩ := exists_takenAs t
  have htext := hu.toText?
  have hoptional := optionalText?_eq (settingOfVariable_ne_absent t)
  rw [load?_alone hv]
  cases s <;> simp [ofEntries?, serverSettings?, schemasPath?, group?, settingAt?_cons,
    settingAt?_nil, group, field, htext, hoptional, orElse?]

variable {files : Files} {name : String} {before after : List (String × String)} {v t u : String}

/-- Whatever is in the files and in the variables before, a configuration has the text made of the
last variable that takes the place of a setting. -/
theorem of_load? (hv : lowerCase v.toList = lowerCase s.variableName.toList)
    (ha : ∀ w ∈ after, ¬ s.replacedBy w.1) (hu : TakenAs t u) {c : AppConfig}
    (hc : load? files name (before ++ (v, t) :: after) = some c) : s.of c = some u := by
  obtain ⟨entries, -, hc⟩ := Option.bind_eq_some_iff.1 hc
  have hsplit : applyEnvironment entries (before ++ (v, t) :: after) =
      applyEnvironment (applyVariable (applyEnvironment entries before) v t) after := by
    simp only [applyEnvironment, List.foldl_append, List.foldl_cons]
  rw [hsplit] at hc
  exact ((holds_applyVariable hv _).applyEnvironment ha).of_ofEntries? hu hc

/-- **A variable is taken literally unless its text is respelled.** Where no later variable takes the
place of a setting, either the configuration cannot be read or the setting is the text that is made
of the variable, and that is the variable's own exactly if it is one of those kept. The condition
cannot be spared: the variable alone is enough for a configuration, with that text in it. -/
theorem override_literal_unless_respelled (s : TextSetting) (files : Files) (name : String)
    (before : List (String × String)) {after : List (String × String)} {v t : String}
    (hv : lowerCase v.toList = lowerCase s.variableName.toList)
    (ha : ∀ w ∈ after, ¬ s.replacedBy w.1) :
    ∃ u, TakenAs t u ∧ (u = t ↔ Kept t) ∧
      (load? files name (before ++ (v, t) :: after) = none ∨
        ∃ c, load? files name (before ++ (v, t) :: after) = some c ∧ s.of c = some u) ∧
      ∃ c, load? (Files.ofList []) name [(v, t)] = some c ∧ s.of c = some u := by
  obtain ⟨u, hu⟩ := exists_takenAs t
  refine ⟨u, hu, hu.eq_iff_kept, ?_, ?_⟩
  · cases hload : load? files name (before ++ (v, t) :: after) with
    | none => exact .inl rfl
    | some c => exact .inr ⟨c, rfl, of_load? hv ha hu hload⟩
  · obtain ⟨c, hc⟩ := exists_load?_alone (t := t) hv name
    have hload : load? (Files.ofList []) name ([] ++ (v, t) :: []) = some c := hc
    exact ⟨c, hc, of_load? hv (by simp) hu hload⟩

/-- A later variable for an item of the group makes a list of it. -/
example : load? (Files.ofList []) "pagegraph"
    [("PAGEGRAPH__NEO4J__URI", "bolt://a"), ("PAGEGRAPH__NEO4J[0]", "bolt://b")] =
      some { server := { uri := "bolt://b" } } := by decide +kernel

/-- A password in letters and digits is kept, also where a variable for another setting comes later,
and one in digits that begin with a zero is not. -/
theorem secret_kept_numericPassword_not :
    (∀ w ∈ [("PAGEGRAPH__NEO4J__USER", "wiki")], ¬ password.replacedBy w.1) ∧
      (load? (Files.ofList []) "pagegraph"
          [("pagegraph__neo4j__password", "s3cret"), ("PAGEGRAPH__NEO4J__USER", "wiki")] = none ∨
        ∃ c, load? (Files.ofList []) "pagegraph"
            [("pagegraph__neo4j__password", "s3cret"), ("PAGEGRAPH__NEO4J__USER", "wiki")] = some c ∧
          password.of c = some "s3cret") ∧
      ∃ c u, load? (Files.ofList []) "pagegraph" [("pagegraph__neo4j__password", "007")] = some c ∧
        password.of c = some u ∧ u ≠ "007" := by
  have hv : lowerCase "pagegraph__neo4j__password".toList =
      lowerCase password.variableName.toList := by decide
  have ha : ∀ w ∈ [("PAGEGRAPH__NEO4J__USER", "wiki")], ¬ password.replacedBy w.1 := by decide
  obtain ⟨u, -, hu, hload, -⟩ := override_literal_unless_respelled password (Files.ofList [])
    "pagegraph" [] (t := "s3cret") hv ha
  obtain ⟨u', -, hu', -, c, hc, hof⟩ := override_literal_unless_respelled password
    (Files.ofList []) "pagegraph" [] (t := "007") hv ha
  have hkept : Kept "s3cret" := by decide
  have hnot : ¬ Kept "007" := by decide
  rw [hu.2 hkept, List.nil_append] at hload
  exact ⟨ha, hload, c, u', hc, hof, fun h => hnot (hu'.1 h)⟩

/-- A password of digits that begins with zeros is not taken literally. -/
theorem numericPassword_respelled :
    load? (Files.ofList []) "pagegraph" [("PAGEGRAPH__NEO4J__PASSWORD", "007")] =
        some { server := { password := "7" } } ∧
      ¬ (load? (Files.ofList []) "pagegraph" [("PAGEGRAPH__NEO4J__PASSWORD", "007")] = none ∨
        ∃ c, load? (Files.ofList []) "pagegraph" [("PAGEGRAPH__NEO4J__PASSWORD", "007")] = some c ∧
          password.of c = some "007") := by
  have hload : load? (Files.ofList []) "pagegraph" [("PAGEGRAPH__NEO4J__PASSWORD", "007")] =
      some { server := { password := "7" } } := by decide +kernel
  refine ⟨hload, ?_⟩
  rintro (hnone | ⟨c, hc, hof⟩)
  · rw [hload] at hnone
    exact Option.some_ne_none _ hnone
  · rw [hload] at hc
    rw [← Option.some.inj hc] at hof
    exact absurd hof (by decide)

end TextSetting
end WikiGraph.Config
